import BpkMessenger.Client.Creation

namespace BpkMessenger.Client

open Text Server Interaction

/-! What a user has who gets past the login. -/

variable {pg : Postgres} {ι : Type}

/-- Who is found at once is in a chat.  The chat of a new user is there when it is looked
up, and the link to it is not answered FAIL, unless the user is in it already. -/
def housed : Requirement ι := fun _ window event before exchange =>
  match window, event.action with
  | .auth, .authButton username =>
      match exchange.request with
      | .findUser _ => before = [] → exchange.reply ≠ .fail →
          ∀ user ∈ exchange.before.users, user.userName = username →
            ∃ chatId, exchange.before.Linked user.userId chatId
      | .getChatId _ => exchange.reply ≠ .fail →
          ∃ chat ∈ exchange.before.chats, chat.chatName = notes username
      | .linkUserToChat _ _ => exchange.reply = .fail →
          ∃ user ∈ exchange.before.users, user.userName = username ∧
            ∃ chat ∈ exchange.before.chats, chat.chatName = notes username ∧
              exchange.before.Linked user.userId chat.chatId
      | _ => True
  | _, _ => True

/-- What the next window is handed over: a stored user, in a chat. -/
def HandedOver (username : Bytes) (store : Store) : Window → Prop
  | .auth => False
  | .trelloAuth user => user.username = username ∧
      ⟨user.userId.toNat, username⟩ ∈ store.users ∧
        ∃ chat ∈ store.chats, chat.chatName = notes username ∧
          store.Linked user.userId.toNat chat.chatId
  | .main main => main.user.username = username ∧
      ⟨main.user.userId.toNat, username⟩ ∈ store.users ∧
        ∃ chatId, store.Linked main.user.userId.toNat chatId

theorem HandedOver.grows {username : Bytes} {store after : Store} {window : Window}
    (grown : store.Grows after) (handedOver : HandedOver username store window) :
    HandedOver username after window := by
  cases window with
  | auth => exact handedOver
  | trelloAuth user =>
      obtain ⟨same, stored, chat, member, named, linked⟩ := handedOver
      exact ⟨same, grown.users stored, chat, grown.chats member, named, grown.linked linked⟩
  | main main =>
      obtain ⟨same, stored, chatId, linked⟩ := handedOver
      exact ⟨same, grown.users stored, chatId, grown.linked linked⟩

/-- What holds of the window that a handler ends in. -/
def Arrives (window : Window) (event : Event) (result : Window) (trace : Trace) : Prop :=
  match window, event.action with
  | .auth, .authButton username =>
      ∃ exchange ∈ trace, HandedOver username exchange.after result
  | _, _ => True

theorem Created.user {fresh : Allocator} {user : User} {result : MainWindow} {trace : Trace}
    (created : Created fresh user result trace) : result.user = user := by
  obtain ⟨fetched, rebuilt, redrawn, ⟨chats, chatNames, rfl, elements, -⟩, rebuilds,
    ⟨listWidget, size, rfl⟩, rfl⟩ := created
  obtain ⟨⟨iconToName, same⟩, -⟩ := updateChatsUi_rebuilds elements rebuilds
  change rebuilt.user = user
  rw [same]
  rfl

section Handler

variable {client : ι} {event : Event} {trace : Trace}

abbrev Housed (client : ι) (event : Event) : Trace → Prop :=
  Admitted Answered Store.Grows housed client .auth event

theorem Housed.last {username : Bytes} {exchange : Exchange Store ClientRequest Reply}
    (action : event.action = .authButton username)
    (admitted : Housed client event (trace ++ [exchange])) :
    Answered exchange ∧ match exchange.request with
      | .findUser _ => trace = [] → exchange.reply ≠ .fail →
          ∀ user ∈ exchange.before.users, user.userName = username →
            ∃ chatId, exchange.before.Linked user.userId chatId
      | .getChatId _ => exchange.reply ≠ .fail →
          ∃ chat ∈ exchange.before.chats, chat.chatName = notes username
      | .linkUserToChat _ _ => exchange.reply = .fail →
          ∃ user ∈ exchange.before.users, user.userName = username ∧
            ∃ chat ∈ exchange.before.chats, chat.chatName = notes username ∧
              exchange.before.Linked user.userId chat.chatId
      | _ => True := by
  obtain ⟨answered, met⟩ := Admitted.last admitted
  simp only [housed, action] at met
  exact ⟨answered, met⟩

/-- The link request of a first login leaves the user in the chat of its name. -/
theorem Housed.linked {username : Bytes} {userId : SizeT} {chat : ChatRow}
    {link : Exchange Store ClientRequest Reply} (action : event.action = .authButton username)
    (admitted : Housed client event (trace ++ [link]))
    (links : link.request = .linkUserToChat (decimal userId.toNat) (decimal chat.chatId))
    (registered : ⟨userId.toNat, username⟩ ∈ link.before.users)
    (stored : chat ∈ link.before.chats) (named : chat.chatName = notes username) :
    ∃ room ∈ link.after.chats, room.chatName = notes username ∧
      link.after.Linked userId.toNat room.chatId := by
  obtain ⟨answered, kept⟩ := admitted.last action
  have grown := answered.grows
  by_cases refused : link.reply = .fail
  · rw [links] at kept
    obtain ⟨user, member, same, room, roomMember, roomName, linked⟩ := kept refused
    cases Store.user_of_name member registered same
    exact ⟨room, grown.chats roomMember, roomName, grown.linked linked⟩
  · exact ⟨chat, grown.chats stored, named,
      answered.linked userId.toNat_lt stored links refused⟩

theorem authButton_ends {username : Bytes} {fresh : Allocator}
    (action : event.action = .authButton username) :
    Ends (Housed client event) (fun _ => True)
      (fun result final => ∃ exchange ∈ final, HandedOver username exchange.after result)
      (authButton fresh username) [] := by
  unfold authButton
  apply Ends.bind_send
  intro search searches admitted
  apply Ends.bind_warn
  cases answer : search.reply with
  | userNotFound =>
      apply Ends.bind_sendUntil
      intro tries registration longer registers accepted admittedRegistration
      apply Ends.bind_send
      intro found finds admittedFound
      apply Ends.bind_lift (fun _ _ => trivial)
      intro j parsed
      obtain ⟨written, replied, rfl⟩ := parse_eq_ok parsed
      apply Ends.bind_lift (fun _ _ => trivial)
      intro userId sized
      have answeredFound := Chained.last admittedFound.chained
      have registered := found_user answeredFound finds replied sized
      apply Ends.bind_send
      intro creation creates admittedCreation
      apply Ends.bind_warn
      apply Ends.bind_send
      intro lookup looks admittedLookup
      apply Ends.bind_warn
      apply Ends.bind_lift (fun _ _ => trivial)
      intro j parsed
      obtain ⟨chatWritten, chatReplied, rfl⟩ := parse_eq_ok parsed
      obtain ⟨answeredLookup, stored⟩ := admittedLookup.last action
      have grownLookup := answeredLookup.grows
      rw [looks, chatReplied] at stored
      rw [Answered, looks, chatReplied] at answeredLookup
      obtain ⟨chat, member, named⟩ := stored (by simp)
      rcases answers_getChatId answeredLookup with ⟨missing, -⟩ | ⟨other, otherMember, same, value⟩
      · exact absurd named (missing chat member)
      cases Store.chat_of_name otherMember member (same.trans named.symm)
      apply Ends.bind_lift (fun _ _ => trivial)
      intro chatId dumped
      rw [value] at dumped
      cases dumped
      apply Ends.bind_send
      intro link links admittedLink
      apply Ends.bind_warn
      apply Ends.done
      have here : ⟨userId.toNat, username⟩ ∈ link.before.users :=
        (answeredFound.grows.trans (Chained.past admittedLink.chained (by simp))).users registered
      have inside : chat ∈ link.before.chats :=
        (grownLookup.trans (Chained.past admittedLink.chained (by simp))).chats member
      have grown := (Chained.last admittedLink.chained).grows
      exact ⟨link, by simp, rfl, grown.users here,
        admittedLink.linked action links here inside named⟩
  | _ =>
      apply Ends.bind_lift (fun _ _ => trivial)
      intro j parsed
      rw [← answer] at parsed
      obtain ⟨written, replied, rfl⟩ := parse_eq_ok parsed
      apply Ends.bind_lift (fun _ _ => trivial)
      intro userId sized
      obtain ⟨answered, inside⟩ := admitted.last action
      have stored := found_user answered searches replied sized
      rw [searches, replied] at inside
      obtain ⟨chatId, linked⟩ := inside rfl (by simp) _ stored rfl
      apply Ends.bind (Ends.of_safe (fun _ valid => valid.chained)
        (@create_safe _ (fun _ _ => True) (fun _ _ _ => trivial) fresh _ admitted.chained))
          admitted
      intro main final longer admittedFinal built
      apply Ends.done
      have grown := answered.grows
      refine ⟨search, longer.subset (by simp), ?_⟩
      rw [HandedOver, built.created.user]
      exact ⟨rfl, grown.users stored, chatId, grown.linked linked⟩

end Handler

theorem messenger_arrives :
    Certified Answered Store.Grows (housed (ι := ι)) (fun _ _ _ => True) Arrives
      (fun _ => True) (messenger pg) where
  ends := by
    intro client window event program handled _
    have admitted : Admitted Answered Store.Grows housed client window event [] :=
      Admitted.nil
    cases offers_of_handler handled with
    | auth action =>
        apply Ends.mono (authButton_ends action) (fun _ _ => trivial)
        intro result final handedOver
        simpa only [Arrives, action] using handedOver
    | _ => exact Ends.unasked _ admitted
  kept := fun _ => trivial

/-- Whoever gets past the login is stored under its name and in a chat, a new user in
that of its own name, in every run in which who is found is in a chat already, and in
which the chat of a new user is there and can be linked. -/
theorem login_hands_over [DecidableEq ι] {start state : System ι} (starts : start.Starts)
    (reached : Reaches (messenger pg) housed start state)
    {move : Move ι Event (List pg.Chance)} (meets : Meets (messenger pg) housed state move)
    {client : ι} {event : Event} {username : Bytes} (action : event.action = .authButton username)
    {program : Act Window} {trace : Trace} {store : Store}
    (advances : Advances (messenger pg) state move client .auth event program trace store)
    {result : Window} (ended : program.outcome = some (some result)) :
    HandedOver username store result := by
  have ending := ending_of_reaches messenger_arrives trivial starts reached meets advances
  have arrives : Arrives .auth event result trace := ending.ends.outcome ended
  simp only [Arrives, action] at arrives
  obtain ⟨exchange, member, handedOver⟩ := arrives
  exact handedOver.grows (ending.past exchange member)

/-! First logins on empty tables, of Ann and of a user whose name has 45 letters. -/

private def roomFound : Test Unit Store Window Event ClientRequest Reply :=
  fun _ _ event before exchange =>
    match event.action, exchange.request with
    | .authButton _, .findUser _ => !before.isEmpty || exchange.before.users.isEmpty
    | .authButton username, .getChatId _ =>
        exchange.before.chats.any fun chat => chat.chatName = notes username
    | .authButton _, .linkUserToChat _ _ => !isFail exchange.reply
    | _, _ => true

private theorem housed_of_roomFound (client : Unit) (window : Window) (event : Event)
    (before : Trace) (exchange : Exchange Store ClientRequest Reply)
    (passes : roomFound client window event before exchange = true) :
    housed client window event before exchange := by
  unfold housed
  split
  · next username action =>
      simp only [roomFound, action] at passes
      split
      · next asks =>
          simp only [asks, Bool.or_eq_true, Bool.not_eq_true', List.isEmpty_eq_false_iff,
            List.isEmpty_iff] at passes
          intro first _ user member
          rcases passes with later | none
          · exact absurd first later
          · rw [none] at member
            exact absurd member List.not_mem_nil
      · next asks =>
          simp only [asks, List.any_eq_true, decide_eq_true_eq] at passes
          exact fun _ => passes
      · next asks =>
          simp only [asks] at passes
          intro failed
          simp [failed, isFail] at passes
      · exact trivial
  · exact trivial

/-- A first login that has ended, and all the links. -/
private structure FirstLogin where
  username : Bytes
  userId : SizeT
  links : List LinkRow
  deriving DecidableEq

private def firstLogin (state after : System Unit) : Option FirstLogin :=
  match (state.clients ()).activity, (after.clients ()).activity with
  | .running .auth event _, .idle (.trelloAuth user) =>
      match event.action with
      | .authButton username => some ⟨username, user.userId, after.store.userIdChatId⟩
      | _ => none
  | _, _ => none

private theorem firstLogin_eq_some {state after : System Unit} {value : FirstLogin}
    (found : firstLogin state after = some value) :
    ∃ event program user, (state.clients ()).activity = .running .auth event program ∧
      (after.clients ()).activity = .idle (.trelloAuth user) ∧
      event.action = .authButton value.username ∧ user.userId = value.userId ∧
      after.store.userIdChatId = value.links := by
  unfold firstLogin at found
  split at found
  · next event program user running idle =>
      split at found
      · next username action =>
          cases found
          exact ⟨event, program, user, running, idle, action, rfl, rfl⟩
      · contradiction
  · contradiction

private def linkMove : Move Unit Event (List Reference.Draw) :=
  .exchange () (List.replicate 4 ⟨true, 1⟩)

private def loginRun (test : Test Unit Store Window Event ClientRequest Reply)
    (username : Bytes) : Option FirstLogin :=
  lastSeen .empty test (handlerRun () (.authButton username) 1 5) linkMove firstLogin

private theorem loginRuns :
    loginRun roomFound (ascii "ann") = some ⟨ascii "ann", 1, [⟨1, 1⟩]⟩ ∧
      loginRun (fun _ _ _ _ _ => true) (List.replicate 45 97) =
        some ⟨List.replicate 45 97, 1, []⟩ := by
  decide +kernel

private theorem loginRun_ends {test : Test Unit Store Window Event ClientRequest Reply}
    {condition : Requirement Unit}
    (implies : ∀ client window event trace exchange,
      test client window event trace exchange = true →
        condition client window event trace exchange)
    {username : Bytes} {value : FirstLogin} (ran : loginRun test username = some value) :
    ∃ (state : System Unit) (event : Event) (program : Act Window) (trace : Trace)
      (store : Store) (user : User),
      Reaches (messenger Reference.postgres) condition (loggedOut .empty) state ∧
      Meets (messenger Reference.postgres) condition state linkMove ∧
      Advances (messenger Reference.postgres) state linkMove () .auth event program trace
        store ∧
      program.outcome = some (some (.trelloAuth user)) ∧
      event.action = .authButton value.username ∧ user.userId = value.userId ∧
      store.userIdChatId = value.links := by
  obtain ⟨state, after, reached, meets, stepped, seen⟩ := lastSeen_eq_some implies ran
  obtain ⟨event, program, user, running, idle, action, same, links⟩ := firstLogin_eq_some seen
  obtain ⟨ended, advances, outcome⟩ := Advances.of_step running stepped idle
  exact ⟨state, event, ended, _, after.store, user, reached, meets, advances, outcome, action,
    same, links⟩

theorem login_hands_over_ann :
    ∃ (store : Store) (user : User), user.userId = 1 ∧
      HandedOver (ascii "ann") store (.trelloAuth user) := by
  obtain ⟨state, event, program, trace, store, user, reached, meets, advances, ended, action,
    same, -⟩ := loginRun_ends housed_of_roomFound loginRuns.1
  exact ⟨store, user, same,
    login_hands_over (loggedOut_starts .empty) reached meets action advances ended⟩

/-- The name of the chat would have 51 characters, so there is none. -/
theorem handed_over_chatless :
    ∃ (state : System Unit) (move : Move Unit Event (List Reference.Draw)) (event : Event)
      (program : Act Window) (trace : Trace) (store : Store) (user : User),
      Reaches (messenger Reference.postgres) unrestricted (loggedOut .empty) state ∧
      Advances (messenger Reference.postgres) state move () .auth event program trace store ∧
      program.outcome = some (some (.trelloAuth user)) ∧
      event.action = .authButton (List.replicate 45 97) ∧ user.userId = 1 ∧
      ∀ chatId, ¬ store.Linked user.userId.toNat chatId := by
  obtain ⟨state, event, program, trace, store, user, reached, -, advances, ended, action,
    same, links⟩ := @loginRun_ends _ unrestricted (fun _ _ _ _ _ _ => trivial) _ _ loginRuns.2
  refine ⟨state, linkMove, event, program, trace, store, user, reached, advances, ended,
    action, same, fun chatId linked => ?_⟩
  rw [Tables.Linked, links] at linked
  exact absurd linked List.not_mem_nil

end BpkMessenger.Client
