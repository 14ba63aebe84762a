import BpkMessenger.Client.Reading
import BpkMessenger.Client.Entrance
import BpkMessenger.Server.Links

namespace BpkMessenger.Client

open Text Server Interaction

/-! The chats that a user creates, and who is a member of them. -/

variable {pg : Postgres} {ι : Type}

/-- The name fits its column, and neither the lookup of the new chat nor the link to it
is answered FAIL, unless the user is in the chat already. -/
def chatKept : Requirement ι := fun _ window event _ exchange =>
  match window, event.action with
  | .main main, .addChat chatName =>
      match exchange.request with
      | .addChat _ => exchange.reply = .success → characterLength chatName ≤ 50
      | .getChatId _ | .linkUserToChat _ _ => exchange.reply = .fail →
          ∀ chat ∈ exchange.before.chats, chat.chatName = chatName →
            exchange.before.Linked main.user.userId.toNat chat.chatId
      | _ => True
  | _, _ => True

/-- The user is in every chat that the exchanges have brought about. -/
def Joins (userId : Nat) (trace : Trace) : Prop :=
  ∀ exchange ∈ trace, ∀ chat ∈ exchange.after.chats, chat ∉ exchange.before.chats →
    ∃ later ∈ trace, later.after.Linked userId chat.chatId

/-- What holds when a handler has ended. -/
def Complete (window : Window) (event : Event) (trace : Trace) : Prop :=
  match window, event.action with
  | .main main, .addChat _ => Joins main.user.userId.toNat trace
  | _, _ => True

theorem Answered.newChat {exchange : Exchange Store ClientRequest Reply} {chat : ChatRow}
    (answered : Answered exchange) (added : chat ∈ exchange.after.chats)
    (new : chat ∉ exchange.before.chats) :
    exchange.reply = .success ∧ ∃ chatName, exchange.request = .addChat chatName := by
  obtain ⟨call, encodes, served⟩ := answered
  obtain ⟨success, chatName, rfl⟩ := served.newChat added new
  generalize exchange.request = request at encodes
  cases encodes
  exact ⟨success, chatName, rfl⟩

/-- A link between ids that were written in decimal is there unless it failed. -/
theorem answers_linkUserToChat {userId chatId : Nat} {store after : Store} {reply : Reply}
    (userFits : userId < 2 ^ 64) (chatFits : chatId < 2 ^ 64)
    (answers : Answers store (.linkUserToChat (decimal userId) (decimal chatId)) reply after)
    (given : reply ≠ .fail) : after.Linked userId chatId := by
  obtain ⟨call, encodes, served⟩ := answers
  cases encodes with
  | @linkUserToChat _ _ user chat reads =>
      obtain ⟨sameUser, sameChat⟩ :=
        encodes_link_decimal userFits chatFits (.linkUserToChat reads)
      have success : reply = .success := by
        cases served with
        | failed => contradiction
        | _ => rfl
      rw [success] at served
      rw [← sameUser, ← sameChat]
      exact served.linked_of_success

theorem Answered.linked {link : Exchange Store ClientRequest Reply} {userId : Nat}
    {chat : ChatRow} (answered : Answered link) (userFits : userId < 2 ^ 64)
    (stored : chat ∈ link.before.chats)
    (links : link.request = .linkUserToChat (decimal userId) (decimal chat.chatId))
    (given : link.reply ≠ .fail) : link.after.Linked userId chat.chatId := by
  rw [Answered, links] at answered
  have bound := (link.before.consistent.chatRange chat stored).2
  exact answers_linkUserToChat userFits (by omega) answered given

theorem Joins.of_linked {userId : Nat} {creation : Exchange Store ClientRequest Reply}
    {rest : Trace} {chat : ChatRow}
    (only : ∀ other ∈ creation.after.chats, other ∉ creation.before.chats → other = chat)
    (quiet : ∀ exchange ∈ rest, Answered exchange ∧
      ∀ chatName, exchange.request ≠ .addChat chatName)
    (linked : ∃ later ∈ creation :: rest, later.after.Linked userId chat.chatId) :
    Joins userId (creation :: rest) := by
  intro exchange member other added new
  rcases List.mem_cons.mp member with rfl | member
  · rw [only other added new]
    exact linked
  · obtain ⟨answered, silent⟩ := quiet exchange member
    obtain ⟨-, chatName, asks⟩ := answered.newChat added new
    exact absurd asks (silent chatName)

section Requests

variable {request : ClientRequest}

theorem not_requests_warn {reply : Reply} : ¬ (warn reply).Requests request := by
  intro requests
  cases reply with
  | fail =>
      cases requests with
      | tell later => cases later
  | _ => cases requests

theorem fetchChatName_requests {chatNames x : Json Key}
    (requests : (fetchChatName chatNames x).Requests request) :
    ∃ chatId, request = .getChatName chatId := by
  unfold fetchChatName at requests
  rcases requests.of_bind with none | ⟨chatId, requests⟩
  · exact none.of_lift.elim
  rcases requests.of_bind with sent | ⟨reply, requests⟩
  · exact ⟨chatId, sent.of_send⟩
  rcases requests.of_bind with none | ⟨_, requests⟩
  · exact absurd none not_requests_warn
  rcases requests.of_bind with none | ⟨name, none⟩
  · exact none.of_lift.elim
  · exact none.of_lift.elim

theorem updateChats_requests {window : MainWindow}
    (requests : (updateChats window).Requests request) (chatName : Bytes) :
    request ≠ .addChat chatName := by
  unfold updateChats at requests
  rcases requests.of_bind with sent | ⟨reply, requests⟩
  · rw [sent.of_send]
    simp
  rcases requests.of_bind with none | ⟨_, requests⟩
  · exact absurd none not_requests_warn
  rcases requests.of_bind with none | ⟨chatIds, requests⟩
  · exact none.of_lift.elim
  rcases requests.of_bind with fetched | ⟨chatNames, none⟩
  · obtain ⟨value, element, requests⟩ := fetched.of_foldlM
    obtain ⟨chatId, rfl⟩ := fetchChatName_requests requests
    simp
  · cases none

end Requests

section Handler

variable {client : ι} {main : MainWindow} {event : Event} {trace : Trace}

abbrev Kept (client : ι) (main : MainWindow) (event : Event) : Trace → Prop :=
  Admitted Answered Store.Grows chatKept client (.main main) event

theorem Kept.last {chatName : Bytes} {exchange : Exchange Store ClientRequest Reply}
    (action : event.action = .addChat chatName)
    (kept : Kept client main event (trace ++ [exchange])) :
    Answered exchange ∧ match exchange.request with
      | .addChat _ => exchange.reply = .success → characterLength chatName ≤ 50
      | .getChatId _ | .linkUserToChat _ _ => exchange.reply = .fail →
          ∀ chat ∈ exchange.before.chats, chat.chatName = chatName →
            exchange.before.Linked main.user.userId.toNat chat.chatId
      | _ => True := by
  obtain ⟨answered, met⟩ := Admitted.last kept
  simp only [chatKept, action] at met
  exact ⟨answered, met⟩

/-- The chat that a successful creation has brought about. -/
theorem Kept.created {chatName : Bytes} {creation : Exchange Store ClientRequest Reply}
    (action : event.action = .addChat chatName) (creates : creation.request = .addChat chatName)
    (success : creation.reply = .success) (kept : Kept client main event ([] ++ [creation])) :
    ∃ chatId, ⟨chatId, chatName⟩ ∈ creation.after.chats ∧
      ∀ other ∈ creation.after.chats, other ∉ creation.before.chats →
        other = ⟨chatId, chatName⟩ := by
  obtain ⟨answered, met⟩ := kept.last action
  rw [creates] at met
  rw [Answered, creates, success] at answered
  obtain ⟨chatId, stored, fits, added⟩ := answers_addChat answered
  have chats : creation.after.chats = creation.before.chats ++ [⟨chatId, stored⟩] := by
    rw [added]
    rfl
  rw [varchar_of_length_le (met success) fits] at chats
  refine ⟨chatId, by simp [chats], fun other member new => ?_⟩
  rw [chats] at member
  rcases List.mem_append.mp member with earlier | here
  · exact absurd earlier new
  · exact List.mem_singleton.mp here

/-- The link request leaves the user in the chat: it is served, or the user is in it. -/
theorem Kept.linked {chatName : Bytes} {chatId : Nat}
    {link : Exchange Store ClientRequest Reply} (action : event.action = .addChat chatName)
    (kept : Kept client main event (trace ++ [link]))
    (links : link.request =
      .linkUserToChat (decimal main.user.userId.toNat) (decimal chatId))
    (stored : ⟨chatId, chatName⟩ ∈ link.before.chats) :
    link.after.Linked main.user.userId.toNat chatId := by
  obtain ⟨answered, met⟩ := kept.last action
  rw [links] at met
  by_cases refused : link.reply = .fail
  · exact answered.grows.linked (met refused _ stored rfl)
  · exact answered.linked main.user.userId.toNat_lt stored links refused

/-- What is left of creating a chat once its user is in it. -/
theorem updateChats_ends {creation : Exchange Store ClientRequest Reply} {chat : ChatRow}
    {rest : Trace} {window : MainWindow}
    (kept : Kept client main event (creation :: rest))
    (only : ∀ other ∈ creation.after.chats, other ∉ creation.before.chats → other = chat)
    (quiet : ∀ exchange ∈ rest, ∀ chatName, exchange.request ≠ .addChat chatName)
    (linked : ∃ later ∈ creation :: rest,
      later.after.Linked main.user.userId.toNat chat.chatId) :
    Ends (Kept client main event) (Joins main.user.userId.toNat)
      (fun _ => Joins main.user.userId.toNat) (updateChats window) (creation :: rest) := by
  have joins : ∀ final, (Kept client main event final ∧ ∃ more,
      final = creation :: rest ++ more ∧
        ∀ exchange ∈ more, (updateChats window).Requests exchange.request) →
          Joins main.user.userId.toNat final := by
    intro final listed
    obtain ⟨keptFinal, more, rfl, requested⟩ := listed
    rw [List.cons_append] at keptFinal ⊢
    apply Joins.of_linked only
    · intro exchange member
      refine ⟨keptFinal.chained.answered exchange (List.mem_cons_of_mem _ member), ?_⟩
      rcases List.mem_append.mp member with earlier | later
      · exact quiet exchange earlier
      · exact updateChats_requests (requested exchange later)
    · obtain ⟨later, member, holds⟩ := linked
      exact ⟨later, List.mem_append_left more member, holds⟩
  exact Ends.mono (Ends.extends_trace _ kept) joins fun _ => joins

theorem addChat_ends {chatName : Bytes} (action : event.action = .addChat chatName) :
    Ends (Kept client main event) (Joins main.user.userId.toNat)
      (fun _ => Joins main.user.userId.toNat) (main.addChat chatName) [] := by
  unfold MainWindow.addChat
  apply Ends.bind_send
  intro creation creates kept
  cases created : creation.reply with
  | success =>
      obtain ⟨chatId, stored, only⟩ := kept.created action creates created
      apply Ends.bind_send
      intro lookup looks keptLookup
      obtain ⟨answered, met⟩ := keptLookup.last action
      have inside : ⟨chatId, chatName⟩ ∈ lookup.before.chats :=
        (Chained.past keptLookup.chained (by simp)).chats stored
      have grown := answered.grows
      rw [looks] at met
      by_cases failed : lookup.reply = .fail
      · have linked := grown.linked (met failed _ inside rfl)
        rw [failed]
        apply Ends.bind_warn
        apply Ends.throws
        apply Joins.of_linked only
        · intro exchange member
          rw [List.mem_singleton.mp member, looks]
          exact ⟨answered, by simp⟩
        · exact ⟨lookup, by simp, linked⟩
      · rw [Answered, looks] at answered
        obtain ⟨written, replied⟩ :=
          answered.document rfl failed (answered.known rfl)
        rw [replied] at answered
        obtain ⟨missing, -⟩ | ⟨chat, member, named, value⟩ := answers_getChatId answered
        · exact absurd rfl (missing _ inside)
        cases Store.chat_of_name member inside named
        rw [replied]
        apply Ends.bind_warn
        apply Ends.bind_lift (fun exception failure => by cases failure)
        rintro _ ⟨⟩
        apply Ends.bind_lift
        · intro exception failure
          rw [value] at failure
          cases failure
        intro text dumped
        rw [value] at dumped
        cases dumped
        apply Ends.bind_send
        intro link links keptLink
        apply Ends.bind_warn
        apply updateChats_ends keptLink only
        · intro exchange member
          rcases List.mem_cons.mp member with rfl | member
          · rw [looks]
            simp
          · rw [List.mem_singleton.mp member, links]
            simp
        · have past := Chained.past keptLink.chained (List.mem_append_right [creation]
            (List.mem_singleton_self lookup))
          have here : ⟨chatId, chatName⟩ ∈ link.before.chats :=
            past.chats (grown.chats inside)
          exact ⟨link, by simp, keptLink.linked action links here⟩
  | _ =>
      apply Ends.bind_report
      apply Ends.done
      intro exchange member chat added new
      rw [List.mem_singleton.mp member] at added new
      have success := ((Chained.last kept.chained).newChat added new).1
      rw [created] at success
      contradiction

end Handler

theorem Complete.of_other {window : Window} {event : Event}
    (other : ∀ main chatName, window = .main main → event.action ≠ .addChat chatName)
    (trace : Trace) : Complete window event trace := by
  unfold Complete
  split
  · next action => exact absurd action (other _ _ rfl)
  · exact trivial

theorem messenger_creates :
    Certified Answered Store.Grows (chatKept (ι := ι)) Complete
      (fun window event _ => Complete window event) (fun _ => True) (messenger pg) where
  ends := by
    intro client window event program handled _
    have kept : Admitted Answered Store.Grows chatKept client window event [] :=
      Admitted.nil
    by_cases creates : ∃ main chatName, window = .main main ∧ event.action = .addChat chatName
    · obtain ⟨main, chatName, rfl, action⟩ := creates
      have same : program = main.addChat chatName >>= fun window => .done (.main window) := by
        change (main.handler event).map _ = some program at handled
        simp only [MainWindow.handler, action, Option.map_some, Option.some.injEq] at handled
        exact handled.symm
      have complete : ∀ final, Joins main.user.userId.toNat final →
          Complete (.main main) event final := by
        intro final joins
        simpa only [Complete, action] using joins
      rw [same]
      apply Ends.bind (Ends.mono (addChat_ends action) complete fun _ => complete) kept
      intro result final longer keptFinal holds
      exact Ends.done holds
    · have other : ∀ main chatName, window = .main main → event.action ≠ .addChat chatName :=
        fun main chatName same action => creates ⟨main, chatName, same, action⟩
      exact Ends.mono (Ends.unasked _ kept) (fun final _ => Complete.of_other other final)
        fun _ final _ => Complete.of_other other final
  kept := fun _ => trivial

/-- Once a chat is created its user is in it, in every run in which names fit their
column and neither the lookup nor the link of a new chat fails. -/
theorem created_linked [DecidableEq ι] {start state : System ι} (starts : start.Starts)
    (reached : Reaches (messenger pg) chatKept start state)
    {move : Move ι Event (List pg.Chance)} (meets : Meets (messenger pg) chatKept state move)
    {client : ι} {main : MainWindow} {event : Event} {chatName : Bytes}
    (action : event.action = .addChat chatName) {program : Act Window} {trace : Trace}
    {store : Store}
    (advances : Advances (messenger pg) state move client (.main main) event program trace
      store)
    {result : Option Window} (ended : program.outcome = some result) :
    ∀ exchange ∈ trace, ∀ chat ∈ exchange.after.chats, chat ∉ exchange.before.chats →
      store.Linked main.user.userId.toNat chat.chatId := by
  have ending := ending_of_reaches messenger_creates trivial starts reached meets advances
  have complete : Complete (.main main) event trace := by
    have outcome := ending.ends.outcome ended
    cases result with
    | none => exact outcome
    | some window => exact outcome
  simp only [Complete, action] at complete
  intro exchange member chat added new
  obtain ⟨later, laterMember, linked⟩ := complete exchange member chat added new
  exact (ending.past later laterMember).linked linked

/-! Ann creates a chat. -/

private def allAnswered : Test Unit Store Window Event ClientRequest Reply :=
  fun _ _ event _ exchange =>
    (match event.action with
      | .addChat chatName => decide (characterLength chatName ≤ 50)
      | _ => true) && !isFail exchange.reply

private theorem chatKept_of_allAnswered (client : Unit) (window : Window) (event : Event)
    (before : Trace) (exchange : Exchange Store ClientRequest Reply)
    (passes : allAnswered client window event before exchange = true) :
    chatKept client window event before exchange := by
  unfold chatKept
  split
  · next action =>
      simp only [allAnswered, action, Bool.and_eq_true, decide_eq_true_eq] at passes
      obtain ⟨short, given⟩ := passes
      split
      · exact fun _ => short
      · intro failed
        simp [failed, isFail] at given
      · intro failed
        simp [failed, isFail] at given
      · exact trivial
  · exact trivial

/-- A creation that has ended, the new chats of its run, and all the links. -/
private structure Creation where
  userId : SizeT
  chatName : Bytes
  chats : List ChatRow
  links : List LinkRow
  deriving DecidableEq

private def creation (state after : System Unit) : Option Creation :=
  match (state.clients ()).activity, (after.clients ()).activity with
  | .running (.main main) event _, .idle _ =>
      match event.action with
      | .addChat chatName => some ⟨main.user.userId, chatName,
          (after.clients ()).trace.flatMap fun exchange =>
            exchange.after.chats.filter fun chat => chat ∉ exchange.before.chats,
          after.store.userIdChatId⟩
      | _ => none
  | _, _ => none

private theorem creation_eq_some {state after : System Unit} {value : Creation}
    (found : creation state after = some value) :
    ∃ main event program result, (state.clients ()).activity =
        .running (.main main) event program ∧ (after.clients ()).activity = .idle result ∧
      main.user.userId = value.userId ∧ event.action = .addChat value.chatName ∧
      (∀ chat ∈ value.chats, ∃ exchange ∈ (after.clients ()).trace,
        chat ∈ exchange.after.chats ∧ chat ∉ exchange.before.chats) ∧
      after.store.userIdChatId = value.links := by
  unfold creation at found
  split at found
  · next main event program result running idle =>
      split at found
      · next chatName action =>
          cases found
          refine ⟨main, event, program, result, running, idle, rfl, action, ?_, rfl⟩
          intro chat member
          obtain ⟨exchange, listed, new⟩ := List.mem_flatMap.mp member
          exact ⟨exchange, listed, by simpa using new⟩
      · contradiction
  · contradiction

private def lastMove : Move Unit Event (List Reference.Draw) :=
  .exchange () (List.replicate 4 ⟨true, 2⟩)

private def creationRun (test : Test Unit Store Window Event ClientRequest Reply)
    (link : List Reference.Draw) (rest : Nat) : Option Creation :=
  lastSeen annAlone test
    (handlerRun () (.authButton (ascii "ann")) 0 4 ++
      handlerRun () (.addChat (ascii "x")) 2 2 ++
        .exchange () link :: List.replicate rest lastMove) lastMove creation

private theorem creationRuns :
    creationRun allAnswered (List.replicate 4 ⟨true, 2⟩) 2 =
        some ⟨1, ascii "x", [⟨2, ascii "x"⟩], [⟨1, 1⟩, ⟨1, 2⟩]⟩ ∧
      creationRun (fun _ _ _ _ _ => true) [] 1 =
        some ⟨1, ascii "x", [⟨2, ascii "x"⟩], [⟨1, 1⟩]⟩ := by
  decide +kernel

private theorem creationRun_ends {test : Test Unit Store Window Event ClientRequest Reply}
    {condition : Requirement Unit}
    (implies : ∀ client window event trace exchange,
      test client window event trace exchange = true →
        condition client window event trace exchange)
    {link : List Reference.Draw} {rest : Nat} {value : Creation}
    (ran : creationRun test link rest = some value) :
    ∃ (state : System Unit) (main : MainWindow) (event : Event) (program : Act Window)
      (trace : Trace) (store : Store) (result : Window),
      Reaches (messenger Reference.postgres) condition (loggedOut annAlone) state ∧
      Meets (messenger Reference.postgres) condition state lastMove ∧
      Advances (messenger Reference.postgres) state lastMove () (.main main) event program
        trace store ∧
      program.outcome = some (some result) ∧ main.user.userId = value.userId ∧
      event.action = .addChat value.chatName ∧
      (∀ chat ∈ value.chats, ∃ exchange ∈ trace,
        chat ∈ exchange.after.chats ∧ chat ∉ exchange.before.chats) ∧
      store.userIdChatId = value.links := by
  obtain ⟨state, after, reached, meets, stepped, seen⟩ := lastSeen_eq_some implies ran
  obtain ⟨main, event, program, result, running, idle, user, action, new, links⟩ :=
    creation_eq_some seen
  obtain ⟨ended, advances, outcome⟩ := Advances.of_step running stepped idle
  exact ⟨state, main, event, ended, _, after.store, result, reached, meets, advances, outcome,
    user, action, new, links⟩

theorem created_linked_annAlone :
    ∃ (store : Store) (exchange : Exchange Store ClientRequest Reply),
      ⟨2, ascii "x"⟩ ∈ exchange.after.chats ∧ ⟨2, ascii "x"⟩ ∉ exchange.before.chats ∧
        store.Linked 1 2 := by
  obtain ⟨state, main, event, program, trace, store, result, reached, meets, advances, ended,
    user, action, new, -⟩ := creationRun_ends chatKept_of_allAnswered creationRuns.1
  obtain ⟨exchange, member, added, fresh⟩ := new ⟨2, ascii "x"⟩ (List.mem_singleton_self _)
  have linked := created_linked (loggedOut_starts annAlone) reached meets action advances
    ended exchange member ⟨2, ascii "x"⟩ added fresh
  rw [user] at linked
  exact ⟨store, exchange, added, fresh, linked⟩

/-- The link fails, and the handler goes on to its end. -/
theorem created_memberless :
    ∃ (state : System Unit) (main : MainWindow) (event : Event) (program : Act Window)
      (trace : Trace) (store : Store) (result : Window)
      (exchange : Exchange Store ClientRequest Reply)
      (move : Move Unit Event (List Reference.Draw)),
      Reaches (messenger Reference.postgres) unrestricted (loggedOut annAlone) state ∧
      Advances (messenger Reference.postgres) state move () (.main main) event program trace
        store ∧
      program.outcome = some (some result) ∧ event.action = .addChat (ascii "x") ∧
      exchange ∈ trace ∧ ⟨2, ascii "x"⟩ ∈ exchange.after.chats ∧
      ⟨2, ascii "x"⟩ ∉ exchange.before.chats ∧ ∀ userId, ¬ store.Linked userId 2 := by
  obtain ⟨state, main, event, program, trace, store, result, reached, meets, advances, ended,
    user, action, new, links⟩ :=
      @creationRun_ends _ unrestricted (fun _ _ _ _ _ _ => trivial) _ _ _ creationRuns.2
  obtain ⟨exchange, member, added, fresh⟩ := new ⟨2, ascii "x"⟩ (List.mem_singleton_self _)
  refine ⟨state, main, event, program, trace, store, result, exchange, lastMove, reached,
    advances, ended, action, member, added, fresh, fun userId linked => ?_⟩
  rw [Tables.Linked, links] at linked
  simp at linked

end BpkMessenger.Client
