import BpkMessenger.Client.Shown
import BpkMessenger.Interaction.Telling

namespace BpkMessenger.Client

open Text Server Interaction

/-! What the clients tell the outside: the popups after a FAIL, and the invitations to the
boards. -/

variable {pg : Postgres} {ι : Type}

/-- The invitation that a click on a board of an open window sends: a member that Trello names
for the user's own token, by the token of the chatter. -/
inductive Invites (event : Event) (trace : Trace) : Window → Bytes → Prop
  | click {main : MainWindow} {opened : ViewBoards} {boardName boardId token memberId : Bytes}
      {exchange : Exchange Store ClientRequest Reply} {written : Document}
      {member : Json TrelloKey} (shown : opened ∈ main.viewBoards)
      (listed : (boardName, boardId) ∈ opened.boards) (seen : exchange ∈ trace)
      (asked : exchange.request = .getTrelloToken main.user.userId)
      (replied : exchange.reply = .document written)
      (read : stringAt .trelloToken written.value = .ok token)
      (named : event.trello.get (event.trello.memberUrl token) = .ok member)
      (identified : trelloText .id member = .ok memberId) :
      Invites event trace (.main main)
        (event.trello.inviteUrl boardId memberId opened.chatterToken)

/-- The requests after whose FAIL the source tests nothing, or another reply. -/
def ClientRequest.unnoticed (trace : Trace) : Window → ClientRequest → Bool
  | .auth, .findUser _ => !trace.isEmpty
  | .auth, .addUser _ => true
  | .auth, .linkUserToChat _ _ => true
  | .trelloAuth _, .setTrelloToken _ _ => true
  | .main _, .findUser _ => true
  | _, _ => false

/-- What may be told at the last reply of a trace. -/
structure Announces (window : Window) (event : Event) (trace : Trace) (outputs : List Output) :
    Prop where
  put : ∀ url, .put url ∈ outputs → Invites event trace window url
  fail : ∀ earlier exchange, trace = earlier ++ [exchange] → exchange.reply = .fail →
    ((∃ text, .popUp text ∈ outputs) ↔ exchange.request.unnoticed earlier window = false)

/-! A reply, and what is told about it. -/

theorem mem_told_bind_warn {β : Type} {reply : Reply} {next : Unit → Act β} {url : Bytes}
    (member : .put url ∈ (warn reply >>= next).told) : .put url ∈ (next ()).told := by
  cases reply with
  | fail =>
      change .put url ∈ .popUp oops :: (next ()).told at member
      simpa using member
  | _ => exact member

theorem popUp_told_fail {β : Type} {reply : Reply} {next : Unit → Act β}
    (failed : reply = .fail) : .popUp oops ∈ (warn reply >>= next).told := by
  subst failed
  exact List.mem_cons_self

section Replies

variable {window : Window} {event : Event} {trace : Trace}
  {exchange : Exchange Store ClientRequest Reply} {β : Type}

theorem Announces.last {outputs : List Output}
    (put : ∀ url, .put url ∈ outputs → Invites event (trace ++ [exchange]) window url)
    (fail : exchange.reply = .fail → ((∃ text, .popUp text ∈ outputs) ↔
      exchange.request.unnoticed trace window = false)) :
    Announces window event (trace ++ [exchange]) outputs := by
  refine ⟨put, ?_⟩
  intro earlier last split failed
  obtain ⟨rfl, same⟩ := List.append_inj' split rfl
  cases same
  exact fail failed

/-- After a test of the reply. -/
theorem Announces.warned {next : Unit → Act β}
    (noticed : exchange.request.unnoticed trace window = false)
    (put : ∀ url, .put url ∈ (next ()).told → Invites event (trace ++ [exchange]) window url) :
    Announces window event (trace ++ [exchange]) (warn exchange.reply >>= next).told :=
  .last (fun url member => put url (mem_told_bind_warn member))
    fun failed => ⟨fun _ => noticed, fun _ => ⟨oops, popUp_told_fail failed⟩⟩

/-- Without a test. -/
theorem Announces.silent
    (missed : exchange.reply = .fail → exchange.request.unnoticed trace window = true) :
    Announces window event (trace ++ [exchange]) [] := by
  refine .last (fun url member => absurd member List.not_mem_nil) fun failed => ?_
  rw [missed failed]
  simp

theorem reacts_warn {reply : Reply} {next : Unit → Act β}
    (continues : Reacts Valid (Announces window event) (next ()) trace) :
    Reacts Valid (Announces window event) (warn reply >>= next) trace := by
  cases reply with
  | fail => exact .tell continues
  | _ => exact continues

/-- A request whose reply is tested, with nothing told after that. -/
theorem bind_ask {request : ClientRequest} {next : Reply → Act β}
    (noticed : request.unnoticed trace window = false)
    (silent : ∀ reply, (next reply).told = [])
    (continues : ∀ exchange : Exchange Store ClientRequest Reply,
      exchange.request = request → Valid (trace ++ [exchange]) →
        Reacts Valid (Announces window event) (next exchange.reply) (trace ++ [exchange])) :
    Reacts Valid (Announces window event)
      (sendBlocking request >>= fun response => warn response >>= fun _ => next response)
      trace := by
  apply Reacts.bind_send
  intro exchange same valid
  refine ⟨?_, ?_⟩
  · refine Announces.warned (by rw [same]; exact noticed) fun url member => ?_
    rw [silent] at member
    exact absurd member List.not_mem_nil
  · exact reacts_warn (continues exchange same valid)

theorem unnoticed_of_reads {request : ClientRequest} (reads : request.reads = true) :
    request.unnoticed trace window = false := by
  cases request with
  | findUser | addUser | addChat | getChatId | addMessage | linkUserToChat | setTrelloToken =>
      contradiction
  | _ => cases window <;> rfl

end Replies

/-! The programs. -/

section Programs

variable {window : Window} {event : Event} {trace : Trace}

theorem fetchChatName_told (chatNames x : Json Key) : (fetchChatName chatNames x).told = [] :=
  Program.told_bind_lift fun _ _ => rfl

theorem updateChats_reacts (main : MainWindow) :
    Reacts Valid (Announces window event) (updateChats main) trace := by
  unfold updateChats
  apply bind_ask (unnoticed_of_reads rfl)
  · intro reply
    refine Program.told_bind_lift fun chatIds _ => ?_
    rw [Program.told_bind fun _ => rfl]
    exact Program.told_foldlM fetchChatName_told _
  · intro exchange same valid
    apply Reacts.bind_lift
    intro chatIds parsed
    refine Reacts.bind (Reacts.foldlM valid fetchChatName_told ?_) valid (fun _ => rfl)
      fun _ _ _ _ => .done
    intro chatNames x current longer keptCurrent
    unfold fetchChatName
    apply Reacts.bind_lift
    intro chatId dumped
    apply bind_ask (unnoticed_of_reads rfl)
    · exact fun reply => Program.told_bind_lift fun chatName _ => by
        cases chatNames.pushBack chatName <;> rfl
    · intro found _ _
      apply Reacts.bind_lift
      exact fun chatName _ => Reacts.lift

theorem addMessageRow_told (user : User) (listWidget : List MessageView) (mess : Json Key) :
    (addMessageRow user listWidget mess).told = [] := by
  refine Program.told_bind_lift fun senderId _ => ?_
  by_cases own : senderId = user.userId
  · rw [if_pos own]
    exact Program.told_bind_lift fun text _ => rfl
  · rw [if_neg own]
    rfl

theorem addMessageRow_reacts (user : User) (listWidget : List MessageView) (mess : Json Key) :
    Reacts Valid (Announces window event) (addMessageRow user listWidget mess) trace := by
  unfold addMessageRow
  apply Reacts.bind_lift
  intro senderId read
  by_cases own : senderId = user.userId
  · rw [if_pos own]
    apply Reacts.bind_lift
    exact fun text _ => .done
  · rw [if_neg own]
    apply bind_ask (unnoticed_of_reads rfl)
    · exact fun reply => Program.told_bind_lift fun userInfo _ =>
        Program.told_bind_lift fun userName _ => Program.told_bind_lift fun text _ => rfl
    · intro exchange same valid
      apply Reacts.bind_lift
      intro userInfo _
      apply Reacts.bind_lift
      intro userName _
      apply Reacts.bind_lift
      exact fun text _ => .done

theorem updateMessages_reacts (chatId : SizeT) (main : MainWindow) :
    Reacts Valid (Announces window event) (updateMessages chatId main) trace := by
  unfold updateMessages
  apply bind_ask (unnoticed_of_reads rfl)
  · intro reply
    refine Program.told_bind_lift fun messages _ => ?_
    by_cases differs : main.currentChatMessagesSize ≠ messages.size
    · rw [if_pos differs, Program.told_bind fun _ => rfl]
      exact Program.told_foldlM (addMessageRow_told main.user) _
    · rw [if_neg differs]
      rfl
  · intro exchange same valid
    apply Reacts.bind_lift
    intro messages _
    by_cases differs : main.currentChatMessagesSize ≠ messages.size
    · rw [if_pos differs]
      refine Reacts.bind (Reacts.foldlM valid (addMessageRow_told main.user) ?_) valid
        (fun _ => rfl) fun _ _ _ _ => .done
      exact fun _ _ _ _ _ => addMessageRow_reacts _ _ _
    · rw [if_neg differs]
      exact .done

theorem create_reacts (fresh : Allocator) (user : User) (kept : Valid trace) :
    Reacts Valid (Announces window event) (MainWindow.create fresh user) trace := by
  unfold MainWindow.create
  refine (updateChats_reacts _).bind kept (fun _ => Program.told_bind_lift fun _ _ => rfl) ?_
  intro fetched middle longer valid
  apply Reacts.bind_lift
  intro rebuilt _
  exact (updateMessages_reacts _ _).bind valid (fun _ => rfl) fun _ _ _ _ => .done

theorem createViewBoards_reacts (trello : Trello) (chatter : SizeT) :
    Reacts Valid (Announces window event) (MainWindow.createViewBoards trello chatter) trace := by
  unfold MainWindow.createViewBoards
  apply bind_ask (unnoticed_of_reads rfl)
  · exact fun reply => Program.told_bind_lift fun j _ => Program.told_bind_lift fun token _ =>
      Program.told_bind_lift fun member _ => Program.told_bind_lift fun chatterId _ =>
        Program.told_bind_lift fun boards _ => Program.told_bind_lift fun rows _ => rfl
  · intro exchange same valid
    apply Reacts.bind_lift
    intro j _
    apply Reacts.bind_lift
    intro token _
    apply Reacts.bind_lift
    intro member _
    apply Reacts.bind_lift
    intro chatterId _
    apply Reacts.bind_lift
    intro boards _
    apply Reacts.bind_lift
    exact fun rows _ => .done

end Programs

/-! The handlers. -/

section Handlers

variable {main : MainWindow} {event : Event}

theorem sendButton_reacts (text : Bytes) :
    Reacts Valid (Announces (.main main) event) (main.sendButton text) [] := by
  unfold MainWindow.sendButton
  by_cases empty : text = []
  · rw [if_pos empty]
    exact .done
  · rw [if_neg empty]
    exact bind_ask rfl (fun _ => rfl) fun _ _ _ => .done

theorem itemClicked_reacts (row : Nat) :
    Reacts Valid (Announces (.main main) event) (main.itemClicked row) [] := by
  unfold MainWindow.itemClicked
  exact (updateMessages_reacts _ _).bind Chained.nil (fun _ => rfl) fun _ _ _ _ => .done

theorem timerChat_reacts :
    Reacts Valid (Announces (.main main) event) (main.timerChat event.fresh) [] := by
  unfold MainWindow.timerChat
  refine (updateChats_reacts main).bind Chained.nil (fun fetched => ?_)
    fun fetched final _ _ => ?_
  · by_cases differs : fetched.numOfChats ≠ fetched.sizeOfAnswer
    · rw [if_pos differs]
      exact Program.told_bind_lift fun _ _ => rfl
    · rw [if_neg differs]
      rfl
  · by_cases differs : fetched.numOfChats ≠ fetched.sizeOfAnswer
    · rw [if_pos differs]
      apply Reacts.bind_lift
      exact fun _ _ => .done
    · rw [if_neg differs]
      exact .done

theorem viewBoardsButton_reacts :
    Reacts Valid (Announces (.main main) event) (main.viewBoardsButton event.trello) [] := by
  unfold MainWindow.viewBoardsButton
  apply Reacts.bind_send
  intro exchange same valid
  refine ⟨?_, ?_⟩
  · refine Announces.warned (by rw [same]; rfl) fun url member => ?_
    obtain ⟨j, -, member⟩ := Program.mem_told_bind_lift.mp member
    by_cases pair : j.size = 2
    · rw [if_pos pair] at member
      obtain ⟨other, -, member⟩ := Program.mem_told_bind_lift.mp member
      exact absurd member List.not_mem_nil
    · rw [if_neg pair] at member
      simp at member
  · apply reacts_warn
    apply Reacts.bind_lift
    intro j _
    by_cases pair : j.size = 2
    · rw [if_pos pair]
      apply Reacts.bind_lift
      intro other _
      exact (createViewBoards_reacts _ _).bind valid (fun _ => rfl) fun _ _ _ _ => .done
    · rw [if_neg pair]
      exact .tell .done

theorem boardClicked_reacts {opened : ViewBoards} {board : Bytes × Bytes}
    (shown : opened ∈ main.viewBoards) (listed : board ∈ opened.boards) :
    Reacts Valid (Announces (.main main) event)
      (main.boardClicked event.trello opened board.2) [] := by
  unfold MainWindow.boardClicked
  apply Reacts.bind_send
  intro exchange same valid
  refine ⟨?_, ?_⟩
  · refine Announces.warned (by rw [same]; rfl) fun url member => ?_
    obtain ⟨j, parsed, member⟩ := Program.mem_told_bind_lift.mp member
    obtain ⟨written, replied, rfl⟩ := parse_eq_ok parsed
    obtain ⟨token, read, member⟩ := Program.mem_told_bind_lift.mp member
    obtain ⟨named, got, member⟩ := Program.mem_told_bind_lift.mp member
    obtain ⟨memberId, identified, member⟩ := Program.mem_told_bind_lift.mp member
    rcases List.mem_cons.mp member with put | later
    · cases put
      exact .click shown listed (List.mem_append_right [] (List.mem_singleton_self exchange))
        same replied read got identified
    · obtain ⟨page, -, later⟩ := Program.mem_told_bind_lift.mp later
      obtain ⟨boardUrl, -, later⟩ := Program.mem_told_bind_lift.mp later
      simp at later
  · apply reacts_warn
    apply Reacts.bind_lift
    intro j _
    apply Reacts.bind_lift
    intro token _
    apply Reacts.bind_lift
    intro member _
    apply Reacts.bind_lift
    intro memberId _
    apply Reacts.bind_report
    apply Reacts.bind_lift
    intro page _
    apply Reacts.bind_lift
    exact fun boardUrl _ => .tell .done

theorem addChat_reacts (chatName : Bytes) :
    Reacts Valid (Announces (.main main) event) (main.addChat chatName) [] := by
  unfold MainWindow.addChat
  apply Reacts.bind_send
  intro creation creates valid
  refine ⟨?_, ?_⟩
  · refine Announces.last (fun url member => ?_) fun failed => ?_
    · cases answer : creation.reply with
      | success =>
          rw [answer] at member
          exact absurd member List.not_mem_nil
      | _ =>
          rw [answer] at member
          cases List.mem_singleton.mp member
    · rw [failed, creates]
      exact ⟨fun _ => rfl, fun _ => ⟨_, List.mem_cons_self⟩⟩
  · cases answer : creation.reply with
    | success =>
        apply bind_ask rfl
        · exact fun reply => Program.told_bind_lift fun j _ => Program.told_bind_lift fun chatId _ => rfl
        · intro lookup _ validLookup
          apply Reacts.bind_lift
          intro j _
          apply Reacts.bind_lift
          intro chatId _
          apply bind_ask rfl (fun _ => rfl)
          exact fun _ _ _ => updateChats_reacts _
    | _ => exact .tell .done

theorem addMember_reacts (userName : Bytes) :
    Reacts Valid (Announces (.main main) event) (main.addMember userName) [] := by
  unfold MainWindow.addMember
  apply Reacts.bind_send
  intro found finds valid
  refine ⟨?_, ?_⟩
  · refine Announces.last (fun url member => ?_) fun failed => ?_
    · cases answer : found.reply with
      | userNotFound =>
          rw [answer] at member
          cases List.mem_singleton.mp member
      | _ =>
          rw [answer] at member
          obtain ⟨j, -, member⟩ := Program.mem_told_bind_lift.mp member
          obtain ⟨userId, -, member⟩ := Program.mem_told_bind_lift.mp member
          exact absurd member List.not_mem_nil
    · -- a FAIL is parsed like the reply of a user who was found
      rw [failed, finds]
      exact ⟨fun told => absurd told.choose_spec List.not_mem_nil,
        fun noticed => absurd noticed.symm Bool.false_ne_true⟩
  · cases answer : found.reply with
    | userNotFound => exact .tell .done
    | _ =>
        apply Reacts.bind_lift
        intro j _
        apply Reacts.bind_lift
        intro userId _
        exact bind_ask rfl (fun _ => rfl) fun _ _ _ => .done

theorem tokenButton_reacts (text : Bytes) (user : User) :
    Reacts Valid (Announces (.trelloAuth user) event)
      (tokenButton event.fresh event.trello text user) [] := by
  unfold tokenButton
  by_cases empty : text = []
  · rw [if_pos empty]
    exact .tell .done
  · rw [if_neg empty]
    apply Reacts.bind_send
    intro exchange same valid
    refine ⟨?_, ?_⟩
    · rw [Program.told_bind_lift fun _ _ => Program.told_bind_lift fun _ _ => rfl]
      exact Announces.silent fun _ => by rw [same]; rfl
    · apply Reacts.bind_lift
      intro member _
      apply Reacts.bind_lift
      intro trelloUserId _
      exact (create_reacts _ _ valid).bind valid (fun _ => rfl) fun _ _ _ _ => .done

theorem authButton_reacts (username : Bytes) :
    Reacts Valid (Announces .auth event) (authButton event.fresh username) [] := by
  unfold authButton
  apply Reacts.bind_send
  intro search searches valid
  refine ⟨?_, ?_⟩
  · refine Announces.warned (by rw [searches]; rfl) fun url member => ?_
    cases answer : search.reply with
    | userNotFound =>
        rw [answer] at member
        exact absurd member List.not_mem_nil
    | _ =>
        rw [answer] at member
        obtain ⟨j, -, member⟩ := Program.mem_told_bind_lift.mp member
        obtain ⟨userId, -, member⟩ := Program.mem_told_bind_lift.mp member
        exact absurd member List.not_mem_nil
  · apply reacts_warn
    cases answer : search.reply with
    | userNotFound =>
        apply Reacts.bind_sendUntil
        · intro longer tried _ registers _
          exact Announces.silent fun _ => by rw [registers]; rfl
        · intro tries registration longer registers accepted validRegistration
          refine ⟨Announces.silent fun _ => by rw [registers]; rfl, ?_⟩
          apply Reacts.bind_send
          intro found finds validFound
          refine ⟨?_, ?_⟩
          · rw [Program.told_bind_lift fun _ _ => Program.told_bind_lift fun _ _ => rfl]
            refine Announces.silent fun _ => ?_
            rw [finds]
            simp [ClientRequest.unnoticed]
          · apply Reacts.bind_lift
            intro j _
            apply Reacts.bind_lift
            intro userId _
            apply bind_ask rfl (fun _ => rfl)
            intro creation creates validCreation
            apply Reacts.bind_send
            intro lookup looks validLookup
            refine ⟨?_, ?_⟩
            · refine Announces.warned (by rw [looks]; rfl) fun url member => ?_
              obtain ⟨chat, -, member⟩ := Program.mem_told_bind_lift.mp member
              obtain ⟨chatId, -, member⟩ := Program.mem_told_bind_lift.mp member
              exact absurd member List.not_mem_nil
            · apply reacts_warn
              apply Reacts.bind_lift
              intro chat parsed
              obtain ⟨written, replied, rfl⟩ := parse_eq_ok parsed
              apply Reacts.bind_lift
              intro chatId _
              apply Reacts.bind_send
              intro link links validLink
              refine ⟨?_, ?_⟩
              · -- the reply that is tested is the one to `get_chat_id`
                rw [replied]
                exact Announces.silent fun _ => by rw [links]; rfl
              · exact reacts_warn .done
    | _ =>
        apply Reacts.bind_lift
        intro j _
        apply Reacts.bind_lift
        intro userId _
        exact (create_reacts _ _ valid).bind valid (fun _ => rfl) fun _ _ _ _ => .done

theorem mainHandler_reacts {program : Act MainWindow}
    (handled : main.handler event = some program) :
    Reacts Valid (Announces (.main main) event) program [] := by
  cases action : event.action with
  | boardClicked opened board =>
      simp only [MainWindow.handler, action, Option.bind_eq_bind,
        Option.bind_eq_some_iff] at handled
      obtain ⟨openedWindow, shown, row, listed, same⟩ := handled
      cases same
      exact boardClicked_reacts (List.mem_of_getElem? shown) (List.mem_of_getElem? listed)
  | sendButton text =>
      simp only [MainWindow.handler, action, Option.some.injEq] at handled
      subst handled
      exact sendButton_reacts text
  | itemClicked row =>
      simp only [MainWindow.handler, action, Option.ite_none_right_eq_some,
        Option.some.injEq] at handled
      obtain ⟨-, rfl⟩ := handled
      exact itemClicked_reacts row
  | timerChat =>
      simp only [MainWindow.handler, action, Option.some.injEq] at handled
      subst handled
      exact timerChat_reacts
  | timerMessage =>
      simp only [MainWindow.handler, action, Option.some.injEq] at handled
      subst handled
      exact updateMessages_reacts _ _
  | addChat chatName =>
      simp only [MainWindow.handler, action, Option.some.injEq] at handled
      subst handled
      exact addChat_reacts chatName
  | addMember userName =>
      simp only [MainWindow.handler, action, Option.some.injEq] at handled
      subst handled
      exact addMember_reacts userName
  | viewBoardsButton =>
      simp only [MainWindow.handler, action, Option.some.injEq] at handled
      subst handled
      exact viewBoardsButton_reacts
  | _ => simp [MainWindow.handler, action] at handled

theorem handler_reacts {window : Window} {program : Act Window}
    (handled : handler window event = some program) :
    Reacts Valid (Announces window event) program [] := by
  cases window with
  | main main =>
      change (main.handler event).map _ = some program at handled
      obtain ⟨shared, offered, rfl⟩ := Option.map_eq_some_iff.mp handled
      exact (mainHandler_reacts offered).bind Chained.nil (fun _ => rfl) fun _ _ _ _ => .done
  | auth =>
      cases offers_of_handler handled with
      | auth action => exact authButton_reacts _
  | trelloAuth user =>
      cases offers_of_handler handled with
      | trelloAuth text => exact tokenButton_reacts _ _

end Handlers

/-! Runs. -/

theorem System.Starts.reacting {state : System ι} (starts : state.Starts) (client : ι) :
    Reacting Answered Store.Grows Announces (state.clients client) := by
  rw [Reacting, starts client]
  exact trivial

section Runs

variable [DecidableEq ι] {start state : System ι}

theorem announced (starts : start.Starts)
    (reached : Reaches (messenger pg) unrestricted start state) {client : ι}
    {chances : List pg.Chance} {window : Window} {event : Event} {request : ClientRequest}
    {again : Reply → Bool} {next : Reply → Act Window} {reply : Reply} {after : Store}
    (waits : (state.clients client).activity =
      .running window event (.ask request again next))
    (served : (messenger pg).serve chances state.store request = (some reply, after)) :
    Announces window event
      ((state.clients client).trace ++ [⟨state.store, request, reply, after⟩])
      (state.told (messenger pg) (.exchange client chances)) :=
  Reaches.told (messenger_lawful pg) (messenger_discreet unrestricted) handler_reacts
    (starts.discreet unrestricted) starts.reacting reached waits served

/-- In every run a FAIL is followed by a popup, except after the requests that the source
does not test. -/
theorem fails_told_iff (starts : start.Starts)
    (reached : Reaches (messenger pg) unrestricted start state) {client : ι}
    {chances : List pg.Chance} {window : Window} {event : Event} {request : ClientRequest}
    {again : Reply → Bool} {next : Reply → Act Window} {after : Store}
    (waits : (state.clients client).activity =
      .running window event (.ask request again next))
    (served : (messenger pg).serve chances state.store request = (some .fail, after)) :
    (∃ text, .popUp text ∈ state.told (messenger pg) (.exchange client chances)) ↔
      request.unnoticed (state.clients client).trace window = false :=
  (announced starts reached waits served).fail _ _ rfl rfl

/-- The user is invited to a board that is shown to him, as the member whom Trello names for a
token of his own, by a token of someone he shares a chat with. -/
def Invited (main : MainWindow) (event : Event) (store : Store) (url : Bytes) : Prop :=
  ∃ opened ∈ main.viewBoards, ∃ board ∈ opened.boards, ∃ token member memberId,
    ⟨main.user.userId.toNat, token⟩ ∈ store.userIdTrelloToken ∧
      event.trello.get (event.trello.memberUrl token) = .ok member ∧
      trelloText .id member = .ok memberId ∧
      (∃ row ∈ store.userIdTrelloToken, row.trelloToken = opened.chatterToken ∧
        Acquainted store main.user.userId.toNat row.userId) ∧
      url = event.trello.inviteUrl board.2 memberId opened.chatterToken

theorem Invites.invited {main : MainWindow} {event : Event} {trace : Trace} {url : Bytes}
    {store : Store} (invites : Invites event trace (.main main) url)
    (confides : Confides main store)
    (past : ∀ exchange ∈ trace, Answered exchange ∧ exchange.after.Grows store) :
    Invited main event store url := by
  cases invites with
  | @click _ opened boardName boardId token memberId exchange written member shown listed seen
      asked replied read named identified =>
      obtain ⟨answered, grown⟩ := past exchange seen
      have later := answered.grows.trans grown
      rw [Answered, asked, replied] at answered
      have own := later.tokens (stored_of_getTrelloToken answered read)
      exact ⟨opened, shown, _, listed, token, member, memberId, own, named, identified,
        confides.viewBoards opened shown, rfl⟩

theorem put_notMem_start {window : Window} {event : Event} {program : Act Window} {url : Bytes}
    (handled : handler window event = some program) : .put url ∉ program.told := by
  cases offers_of_handler handled with
  | auth action => exact List.not_mem_nil
  | @trelloAuth _ user text =>
      unfold tokenButton
      by_cases empty : text = []
      · rw [if_pos empty]
        simp
      · rw [if_neg empty]
        exact List.not_mem_nil
  | main offers =>
      rw [Program.told_bind fun _ => rfl]
      cases offers with
      | @sendButton text action =>
          unfold MainWindow.sendButton
          by_cases empty : text = []
          · rw [if_pos empty]
            exact List.not_mem_nil
          · rw [if_neg empty]
            exact List.not_mem_nil
      | _ => exact List.not_mem_nil

/-- Whoever is invited in a run is the acting user. -/
theorem invitations_confined (starts : start.Starts)
    (reached : Reaches (messenger pg) unrestricted start state)
    {move : Move ι Event (List pg.Chance)} {after : System ι}
    (stepped : state.step (messenger pg) move = some after) {url : Bytes}
    (told : .put url ∈ state.told (messenger pg) move) :
    ∃ client main event program,
      (state.clients client).activity = .running (.main main) event program ∧
        Invited main event after.store url := by
  cases State.stepped stepped with
  | @start client event window program idle handled =>
      have handled : handler window event = some program := handled
      simp only [State.told, idle, messenger, handled, Option.map_some, Option.getD_some] at told
      exact absurd told (put_notMem_start handled)
  | @unanswered client chances event window request again next store waits served =>
      simp [State.told, waits, served] at told
  | @answered client chances event window request again next reply store waits served =>
      have invites := (announced starts reached waits served).put url told
      have underway := Reaches.underway (messenger_lawful pg) (messenger_discreet unrestricted)
        (starts.discreet unrestricted) reached waits
      have lawful := messenger_lawful pg
      have grown := lawful.grown served
      have chained := underway.chained.append (lawful.answered served) underway.past
      cases window with
      | main main =>
          refine ⟨client, main, event, _, waits,
            invites.invited (underway.held.confides.grows grown) fun exchange member => ?_⟩
          refine ⟨chained.answered exchange member, ?_⟩
          rcases List.mem_append.mp member with earlier | last
          · exact (underway.past exchange earlier).trans grown
          · rw [List.mem_singleton.mp last]
            exact Store.Grows.refl store
      | _ => cases invites

end Runs

/-! Ann's message is refused, and Ann opens a board of Bob. -/

/-- The FAIL that a client gets, and the text of the popup. -/
private def failing (state : System Unit) (chances : List Reference.Draw) :
    Option (ClientRequest × List Output) :=
  match (state.clients ()).activity with
  | .running _ _ (.ask request _ _) =>
      match (messenger Reference.postgres).serve chances state.store request with
      | (some .fail, _) =>
          some (request, state.told (messenger Reference.postgres) (.exchange () chances))
      | _ => none
  | _ => none

private theorem failing_eq_some {state : System Unit} {chances : List Reference.Draw}
    {request : ClientRequest} {outputs : List Output}
    (found : failing state chances = some (request, outputs)) :
    ∃ (window : Window) (event : Event) (again : Reply → Bool) (next : Reply → Act Window)
      (after : Store), (state.clients ()).activity =
        .running window event (.ask request again next) ∧
      (messenger Reference.postgres).serve chances state.store request = (some .fail, after) ∧
      state.told (messenger Reference.postgres) (.exchange () chances) = outputs := by
  unfold failing at found
  split at found
  · next window event asked again rest running =>
      split at found
      · next after served =>
          cases found
          exact ⟨window, event, again, rest, after, running, served, rfl⟩
      · contradiction
  · contradiction

private theorem annFails :
    ((loggedOut annAlone).run (messenger Reference.postgres) (fun _ _ _ _ _ => true)
      (handlerRun () (.authButton (ascii "ann")) 0 4 ++
        [.start () (event (.sendButton (ascii "hi")))])).bind
          (fun state => failing state (draws false 0)) =
      some (.addMessage 1 1 (ascii "hi"), [.popUp oops]) := by
  decide +kernel

theorem fails_told_ann :
    ∃ (state : System Unit) (window : Window),
      state.told (messenger Reference.postgres) (.exchange () (draws false 0)) =
          [.popUp oops] ∧
        ((∃ text, .popUp text ∈
            state.told (messenger Reference.postgres) (.exchange () (draws false 0))) ↔
          (ClientRequest.addMessage 1 1 (ascii "hi")).unnoticed (state.clients ()).trace window =
            false) := by
  obtain ⟨state, ran, seen⟩ := Option.bind_eq_some_iff.mp annFails
  obtain ⟨window, event, again, next, after, waits, served, told⟩ := failing_eq_some seen
  exact ⟨state, window, told, fails_told_iff (loggedOut_starts annAlone)
    (Reaches.of_run (fun _ _ _ _ _ _ => trivial) .start ran) waits served⟩

def annAndBobTokens : Store where
  users := [⟨1, ascii "ann"⟩, ⟨2, ascii "bob"⟩]
  chats := [⟨1, ascii "ann and bob"⟩]
  userIdChatId := [⟨1, 1⟩, ⟨2, 1⟩]
  messages := []
  userIdTrelloToken := [⟨1, ascii "a"⟩, ⟨2, ascii "b"⟩]
  consistent := by decide

/-- Trello, with one member and one board. -/
def oneBoard : Trello where
  apiKey := ascii "k"
  get url :=
    if (api ++ ascii "members/").isPrefixOf url then
      .ok (.array [.object [(.id, .string (ascii "todo")), (.name, .string (ascii "To do"))]])
    else .ok (.object [(.id, .string (ascii "m")), (.url, .string (ascii "u"))])

def boardRun : List (Move Unit Event (List Reference.Draw)) :=
  handlerRun () (.authButton (ascii "ann")) 0 4 ++
    [.start () ⟨.viewBoardsButton, ⟨id, Function.injective_id⟩, oneBoard⟩,
      .exchange () (draws true 0), .exchange () (draws true 0),
      .start () ⟨.boardClicked 0 0, ⟨id, Function.injective_id⟩, oneBoard⟩]

private theorem boardRun_told :
    lastSeen annAndBobTokens (fun _ _ _ _ _ => true) boardRun (.exchange () (draws true 0))
      (fun state _ => some (state.told (messenger Reference.postgres)
        (.exchange () (draws true 0)))) =
      some [.put (oneBoard.inviteUrl (ascii "todo") (ascii "m") (ascii "b")),
        .openUrl (ascii "u")] := by
  decide +kernel

theorem invitations_confined_ann :
    ∃ (state after : System Unit) (client : Unit) (main : MainWindow) (event : Event)
      (program : Act Window),
      (state.clients client).activity = .running (.main main) event program ∧
        Invited main event after.store
          (oneBoard.inviteUrl (ascii "todo") (ascii "m") (ascii "b")) := by
  obtain ⟨state, after, reached, -, stepped, seen⟩ :=
    @lastSeen_eq_some _ _ _ unrestricted (fun _ _ _ _ _ _ => trivial) _ _ _ _ boardRun_told
  have told := Option.some.inj seen
  have put : .put (oneBoard.inviteUrl (ascii "todo") (ascii "m") (ascii "b")) ∈
      state.told (messenger Reference.postgres) (.exchange () (draws true 0)) := by
    rw [told]
    exact List.mem_cons_self
  obtain ⟨client, main, event, program, running, invited⟩ :=
    invitations_confined (loggedOut_starts annAndBobTokens) reached stepped put
  exact ⟨state, after, client, main, event, program, running, invited⟩

end BpkMessenger.Client
