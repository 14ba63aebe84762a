import BpkMessenger.Client.MessageRows
import BpkMessenger.Client.Sharing
import BpkMessenger.Server.Part

namespace BpkMessenger.Client

open Text Server Interaction

/-! What the clients ask the server for.  The server does not check who asks; the shipped
clients ask about their own users, and about the chats their users are in. -/

variable {pg : Postgres} {ι : Type}

/-- The requests by which logging in, creating a chat and inviting go on: a name is given, or
what it was found for is linked. -/
def ClientRequest.byName : ClientRequest → Bool
  | .findUser _ | .addUser _ | .addChat _ | .getChatId _ | .linkUserToChat _ _ => true
  | _ => false

/-- What concerns a user: himself, the chats he is in, and who is or speaks in them. -/
inductive Concerns (userId : SizeT) (store : Store) : ClientRequest → Prop
  | getChatList : Concerns userId store (.getChatList userId)
  | getChatName {chatId : Nat} (linked : store.Linked userId.toNat chatId) :
      Concerns userId store (.getChatName (decimal chatId))
  | getChatHistory {chatId : SizeT} (own : OwnChat userId store chatId) :
      Concerns userId store (.getChatHistory chatId)
  | getChatMembers {chatId : SizeT} (own : OwnChat userId store chatId) :
      Concerns userId store (.getChatMembers chatId)
  | getUserName {other : SizeT} (knows : Knows store userId.toNat other.toNat) :
      Concerns userId store (.getUserName other)
  | getTrelloToken {other : SizeT}
      (met : other = 0 ∨ other = userId ∨ Acquainted store userId.toNat other.toNat) :
      Concerns userId store (.getTrelloToken other)
  | setTrelloToken {trelloToken : Bytes} :
      Concerns userId store (.setTrelloToken userId trelloToken)
  | addMessage {chatId : SizeT} {text : Bytes} (own : OwnChat userId store chatId) :
      Concerns userId store (.addMessage chatId userId text)

/-- Whom a handler run acts for: the user of its window, or who has just logged in. -/
inductive Acts (trace : Trace) : Window → Event → SizeT → Prop
  | main {main : MainWindow} {event : Event} : Acts trace (.main main) event main.user.userId
  | trelloAuth {user : User} {event : Event} :
      Acts trace (.trelloAuth user) event user.userId
  | auth {event : Event} {username : Bytes} {userId : SizeT}
      (action : event.action = .authButton username)
      (loggedIn : LoggedIn username userId trace) : Acts trace .auth event userId

theorem Acts.mono {trace final : Trace} {window : Window} {event : Event} {userId : SizeT}
    (longer : trace <+: final) (acts : Acts trace window event userId) :
    Acts final window event userId := by
  cases acts with
  | main => exact .main
  | trelloAuth => exact .trelloAuth
  | auth action loggedIn => exact .auth action (loggedIn.mono longer)

/-- The Trello tokens that a window has looked up are of users in chats of its user. -/
structure Confides (window : MainWindow) (store : Store) : Prop where
  chatter : window.chatter = 0 ∨
    Acquainted store window.user.userId.toNat window.chatter.toNat
  viewBoards : ∀ opened ∈ window.viewBoards, ∃ row ∈ store.userIdTrelloToken,
    row.trelloToken = opened.chatterToken ∧
      Acquainted store window.user.userId.toNat row.userId

structure Discreet (window : MainWindow) (store : Store) : Prop where
  member : Membership window store
  confides : Confides window store

def Window.Discreet : Window → Store → Prop
  | .main window, store => Client.Discreet window store
  | _, _ => True

/-- The stores in which an invariant of the window holds, after these exchanges. -/
def Later (window : Window) (trace : Trace) (store : Store) : Prop :=
  window.Discreet store ∧ ∀ exchange ∈ trace, exchange.after.Grows store

def Minds (window : Window) (event : Event) (trace : Trace) (request : ClientRequest) : Prop :=
  request.byName = true ∨ ∃ userId, Acts trace window event userId ∧
    ∀ store, Later window trace store → Concerns userId store request

theorem Later.shorter {window : Window} {trace final : Trace} {store : Store}
    (longer : trace <+: final) (later : Later window final store) :
    Later window trace store :=
  ⟨later.1, fun exchange member => later.2 exchange (longer.subset member)⟩

theorem Confides.grows {window : MainWindow} {store after : Store}
    (grown : store.Grows after) (confides : Confides window store) :
    Confides window after := by
  obtain ⟨chatter, viewBoards⟩ := confides
  refine ⟨chatter.imp_right (Acquainted.grows grown), fun opened member => ?_⟩
  obtain ⟨row, stored, same, met⟩ := viewBoards opened member
  exact ⟨row, grown.tokens stored, same, met.grows grown⟩

/-! What the programs of the handlers ask. -/

section Programs

variable {window : Window} {event : Event} {trace : Trace}

theorem Acts.minds {userId : SizeT} {request : ClientRequest}
    (acts : Acts trace window event userId)
    (concerns : ∀ store, Later window trace store → Concerns userId store request) :
    Minds window event trace request :=
  .inr ⟨userId, acts, concerns⟩

theorem updateChats_minds {main : MainWindow}
    (acts : Acts trace window event main.user.userId) :
    Safe Valid (Minds window event) (fun _ _ => True) (updateChats main) trace := by
  unfold updateChats
  apply Safe.bind_send (acts.minds fun _ _ => .getChatList)
  intro exchange same valid
  apply bind_warn
  apply Safe.bind_lift
  intro value parsed
  obtain ⟨document, replied, rfl⟩ := parse_eq_ok parsed
  have answered := Chained.last valid
  have grown := Answered.grows answered
  rw [Answered, same, replied] at answered
  obtain ⟨rows, matching, listed⟩ := answers_getChatList answered
  rw [listed, elements_listDocument]
  apply Safe.bind (Safe.foldlM (fun _ _ _ => True) valid trivial ?_) valid
    fun _ _ _ _ _ => Safe.done trivial
  intro before element rest split chatNames current longer kept _
  have member : element ∈ rows.map fun row => .object [(Key.chatId, .number row.chatId)] := by
    rw [split]
    exact List.mem_append_right before List.mem_cons_self
  obtain ⟨row, rowMember, rfl⟩ := List.mem_map.mp member
  obtain ⟨stored, user⟩ := List.mem_filter.mp (matching.subset rowMember)
  have linked : exchange.after.Linked main.user.userId.toNat row.chatId := by
    apply grown.linked
    rw [← of_decide_eq_true user]
    exact stored
  unfold fetchChatName
  apply Safe.bind_lift
  intro text dumped
  have written : text = decimal row.chatId := (Except.ok.inj dumped).symm
  subst written
  have start : trace <+: current := (List.prefix_append _ _).trans longer
  apply Safe.bind_send
  · refine (acts.mono start).minds fun store later => .getChatName ?_
    have seen := longer.subset (List.mem_append_right trace (List.mem_singleton_self exchange))
    exact (later.2 exchange seen).linked linked
  · intro found _ _
    apply bind_warn
    apply Safe.bind_lift
    intro chatName _
    exact Safe.lift fun _ _ => trivial

theorem updateMessages_minds {main : MainWindow} {chatId : SizeT}
    (acts : Acts trace window event main.user.userId)
    (own : ∀ store, Later window trace store → OwnChat main.user.userId store chatId) :
    Safe Valid (Minds window event) (fun _ _ => True) (updateMessages chatId main)
      trace := by
  unfold updateMessages
  apply Safe.bind_send (acts.minds fun store later => .getChatHistory (own store later))
  intro exchange same valid
  apply bind_warn
  apply Safe.bind_lift
  intro messages parsed
  obtain ⟨written, replied, rfl⟩ := parse_eq_ok parsed
  have answered := Chained.last valid
  have grown := Answered.grows answered
  rw [Answered, same, replied] at answered
  obtain ⟨rows, matching, listed⟩ := answers_getChatHistory answered
  by_cases differs : main.currentChatMessagesSize ≠ written.value.size
  · rw [if_pos differs, listed, elements_listDocument]
    apply Safe.bind (Safe.foldlM (fun _ _ _ => True) valid trivial ?_) valid
      fun _ _ _ _ _ => Safe.done trivial
    intro before element rest split listWidget current longer kept _
    have member : element ∈ rows.map fun row =>
        messageDocument row.chatId row.senderId row.messageText := by
      rw [split]
      exact List.mem_append_right before List.mem_cons_self
    obtain ⟨row, rowMember, rfl⟩ := List.mem_map.mp member
    obtain ⟨stored, chat⟩ := List.mem_filter.mp (matching.subset rowMember)
    have start : trace <+: current := (List.prefix_append _ _).trans longer
    unfold addMessageRow
    apply Safe.bind_lift
    intro senderId read
    cases read
    by_cases mine : UInt64.ofNat row.senderId = main.user.userId
    · rw [if_pos mine]
      apply Safe.bind_lift
      intro text _
      exact Safe.done trivial
    · rw [if_neg mine]
      apply Safe.bind_send
      · refine (acts.mono start).minds fun store later => ?_
        have seen := longer.subset
          (List.mem_append_right trace (List.mem_singleton_self exchange))
        have still := (later.2 exchange seen).messages (grown.messages stored)
        refine .getUserName (.inr (.inr ⟨row, still, (toNat_senderId still).symm, ?_⟩))
        rcases own store (later.shorter start) with zero | linked
        · -- no message is in the chat 0
          have positive := (Store.hasChat_pos (store.consistent.messageChat row still)).1
          rw [of_decide_eq_true chat, zero, UInt64.toNat_zero] at positive
          contradiction
        · rw [of_decide_eq_true chat]
          exact linked
      · intro found _ _
        apply bind_warn
        apply Safe.bind_lift
        intro userInfo _
        apply Safe.bind_lift
        intro userName _
        apply Safe.bind_lift
        intro text _
        exact Safe.done trivial
  · rw [if_neg differs]
    exact Safe.done trivial

/-- The chats of a list that has just been fetched and filled. -/
theorem Gathered.ownChat {fresh : Allocator} {main fetched rebuilt : MainWindow}
    (gathered : Gathered main fetched trace) (cleared : main.chatNames.clear.elements = [])
    (made : ∀ item, main.iconToChatId item = 0) {count : Nat}
    (rebuilds : updateChatsUi fresh { fetched with numOfChats := count } = .ok rebuilt)
    {store : Store} (valid : Valid trace)
    (past : ∀ exchange ∈ trace, exchange.after.Grows store) (item : ItemPtr) :
    OwnChat main.user.userId store (rebuilt.iconToChatId item) := by
  obtain ⟨chats, chatNames, rfl, elements, -, fetches, -⟩ := gathered
  rw [cleared, List.nil_append] at elements
  obtain ⟨-, -, -, -, entries⟩ := updateChatsUi_rebuilds elements rebuilds
  rcases entries item with kept | listed
  · exact .inl (kept.trans (made item))
  · obtain ⟨chat, member, same⟩ := List.mem_map.mp listed
    have linked := fetches.linked valid past chat member
    right
    rw [← same, toNat_chatId linked]
    exact linked

theorem create_minds {fresh : Allocator} {user : User} (kept : Valid trace)
    (acts : Acts trace window event user.userId) :
    Safe Valid (Minds window event) (fun _ _ => True) (MainWindow.create fresh user)
      trace := by
  unfold MainWindow.create
  have asks := @updateChats_minds window event trace { user := user } acts
  have fetches := @updateChats_safe (fun _ _ => True) trace (fun _ _ _ => trivial)
    { user := user }
  apply Safe.bind (asks.and fetches) kept
  intro fetched middle longer valid gathered
  apply Safe.bind_lift
  intro rebuilt rebuilds
  have same : rebuilt.user = user := by
    obtain ⟨-, chats, chatNames, rfl, -⟩ := gathered
    obtain ⟨listWidget2, iconToChatId, iconToName, rfl⟩ := updateChatsUi_withList rebuilds
    rfl
  apply Safe.bind (updateMessages_minds ?_ ?_) valid fun _ _ _ _ _ => Safe.done trivial
  · rw [same]
    exact acts.mono longer
  · intro store later
    rw [same]
    exact gathered.2.ownChat rfl (fun _ => rfl) rebuilds valid later.2 _

end Programs

/-! The boards of a chatter. -/

theorem stored_of_getTrelloToken {store after : Store} {userId : SizeT} {written : Document}
    {trelloToken : Bytes} (answers : Answers store (.getTrelloToken userId) (.document written) after)
    (read : stringAt .trelloToken written.value = .ok trelloToken) :
    ⟨userId.toNat, trelloToken⟩ ∈ store.userIdTrelloToken := by
  obtain ⟨call, encodes, served⟩ := answers
  cases encodes
  cases served with
  | noToken missing value =>
      rw [value] at read
      contradiction
  | @token row _ _ member same value =>
      rw [value] at read
      cases read
      rw [← same]
      exact member

/-- Whoever is found is a member. -/
theorem otherMember_mem {userId : SizeT} {members : List Nat} {other : Option SizeT}
    (found : MainWindow.otherMember userId (members.map fun id =>
      .object [(.userId, .number id)]) = .ok other) :
    other = none ∨ ∃ id ∈ members, other = some (UInt64.ofNat id) := by
  induction members with
  | nil =>
      cases found
      exact .inl rfl
  | cons first rest induction =>
      change (if first = userId.toNat then
        MainWindow.otherMember userId (rest.map fun id => .object [(.userId, .number id)])
          else .ok (some (UInt64.ofNat first))) = .ok other at found
      by_cases own : first = userId.toNat
      · rw [if_pos own] at found
        rcases induction found with none | ⟨id, member, same⟩
        · exact .inl none
        · exact .inr ⟨id, List.mem_cons_of_mem first member, same⟩
      · rw [if_neg own] at found
        cases found
        exact .inr ⟨first, List.mem_cons_self, rfl⟩

theorem linked_of_getChatMembers {store after : Store} {chatId : SizeT} {written : Document}
    (answers : Answers store (.getChatMembers chatId) (.document written) after) :
    ∃ members : List Nat, written.value.elements =
        members.map (fun id => .object [(.userId, .number id)]) ∧
      ∀ userId ∈ members, store.Linked userId chatId.toNat := by
  obtain ⟨call, encodes, served⟩ := answers
  cases encodes
  cases served with
  | @members _ rows _ matching value =>
      refine ⟨rows.map LinkRow.userId, ?_, ?_⟩
      · rw [value, elements_listDocument, List.map_map]
        rfl
      · intro userId member
        obtain ⟨row, listed, rfl⟩ := List.mem_map.mp member
        obtain ⟨stored, chat⟩ := List.mem_filter.mp (matching.subset listed)
        rw [← of_decide_eq_true chat]
        exact stored

/-- The chatter that is looked up, from what the reply with the members says. -/
theorem Discreet.met {main : MainWindow} {exchange : Exchange Store ClientRequest Reply}
    {written : Document} {store : Store} {other : Option SizeT} (discreet : Discreet main store)
    (answered : Answers exchange.before (.getChatMembers main.currentChatId) (.document written)
      exchange.after)
    (past : exchange.before.Grows store)
    (found : MainWindow.otherMember main.user.userId written.value.elements = .ok other) :
    other.getD main.chatter = 0 ∨
      Acquainted store main.user.userId.toNat (other.getD main.chatter).toNat := by
  obtain ⟨members, elements, linked⟩ := linked_of_getChatMembers answered
  rw [elements] at found
  rcases otherMember_mem found with rfl | ⟨id, member, rfl⟩
  · exact discreet.confides.chatter
  · have other := past.linked (linked id member)
    right
    obtain ⟨user, stored, same⟩ := store.consistent.linkUser _ other
    have bound := (store.consistent.userRange user stored).2
    have value : (UInt64.ofNat id).toNat = id := by
      have equal : user.userId = id := same
      rw [UInt64.toNat_ofNat']
      omega
    rw [Option.getD_some, value]
    refine ⟨main.currentChatId.toNat, ?_, other⟩
    rcases discreet.member.current with zero | own
    · have positive := (Store.hasChat_pos (Store.linked_chat other)).1
      rw [zero, UInt64.toNat_zero] at positive
      contradiction
    · exact own

section Boards

variable {trace : Trace}

theorem createViewBoards_token {sends : Trace → ClientRequest → Prop} (trello : Trello)
    (chatter : SizeT) (allowed : sends trace (.getTrelloToken chatter)) :
    Safe Valid sends
      (fun opened final => ∃ exchange ∈ final,
        ⟨chatter.toNat, opened.chatterToken⟩ ∈ exchange.after.userIdTrelloToken)
      (MainWindow.createViewBoards trello chatter) trace := by
  unfold MainWindow.createViewBoards
  apply Safe.bind_send allowed
  intro exchange same valid
  apply bind_warn
  apply Safe.bind_lift
  intro j parsed
  obtain ⟨written, replied, rfl⟩ := parse_eq_ok parsed
  have answered := Chained.last valid
  have grown := Answered.grows answered
  rw [Answered, same, replied] at answered
  apply Safe.bind_lift
  intro chatterToken read
  have stored := grown.tokens (stored_of_getTrelloToken answered read)
  apply Safe.bind_lift
  intro member _
  apply Safe.bind_lift
  intro chatterId _
  apply Safe.bind_lift
  intro boards _
  apply Safe.bind_lift
  intro rows _
  exact Safe.done ⟨exchange, List.mem_append_right trace (List.mem_singleton_self exchange),
    stored⟩

theorem viewBoardsButton_confides {main : MainWindow} {event : Event} :
    Safe Valid (Minds (.main main) event)
      (fun result final => ∀ store, Later (.main main) final store → Confides result store)
      (main.viewBoardsButton event.trello) trace := by
  unfold MainWindow.viewBoardsButton
  apply Safe.bind_send
  · exact Acts.main.minds fun store later => .getChatMembers later.1.member.current
  · intro exchange same valid
    apply bind_warn
    apply Safe.bind_lift
    intro j parsed
    obtain ⟨written, replied, rfl⟩ := parse_eq_ok parsed
    have answered := Chained.last valid
    have grown := Answered.grows answered
    rw [Answered, same, replied] at answered
    have seen : exchange ∈ trace ++ [exchange] :=
      List.mem_append_right trace (List.mem_singleton_self exchange)
    by_cases pair : written.value.size = 2
    · rw [if_pos pair]
      apply Safe.bind_lift
      intro other found
      have met : ∀ store, Later (.main main) (trace ++ [exchange]) store →
          other.getD main.chatter = 0 ∨
            Acquainted store main.user.userId.toNat (other.getD main.chatter).toNat :=
        fun store later =>
          Discreet.met later.1 answered (grown.trans (later.2 exchange seen)) found
      apply Safe.bind (createViewBoards_token _ _ (Acts.main.minds fun store later =>
        .getTrelloToken ((met store later).imp_right .inr))) valid
      intro opened final longer keptFinal token
      obtain ⟨reading, member, stored⟩ := token
      apply Safe.done
      intro store later
      have chatter := met store (later.shorter longer)
      have kept := (later.2 reading member).tokens stored
      refine ⟨chatter, fun shown shownMember => ?_⟩
      rcases List.mem_append.mp shownMember with earlier | new
      · exact later.1.confides.viewBoards shown earlier
      · rw [List.mem_singleton.mp new]
        refine ⟨_, kept, rfl, ?_⟩
        rcases chatter with zero | acquainted
        · -- no user has the id 0
          obtain ⟨user, userStored, sameUser⟩ := store.consistent.tokenUser _ kept
          have positive := (store.consistent.userRange user userStored).1
          have equal : user.userId = (other.getD main.chatter).toNat := sameUser
          rw [equal, zero, UInt64.toNat_zero] at positive
          contradiction
        · exact acquainted
    · rw [if_neg pair]
      apply Safe.bind_report
      exact Safe.done fun store later => later.1.confides

end Boards

/-! The handlers. -/

section Handlers

variable {main : MainWindow} {event : Event}

theorem Later.ownChat {trace : Trace} {store : Store} (later : Later (.main main) trace store)
    (item : ItemPtr) : OwnChat main.user.userId store (main.iconToChatId item) :=
  later.1.member.entries item

theorem sendButton_minds {text : Bytes} :
    Safe Valid (Minds (.main main) event) (fun _ _ => True) (main.sendButton text) [] := by
  unfold MainWindow.sendButton
  by_cases empty : text = []
  · rw [if_pos empty]
    exact Safe.done trivial
  · rw [if_neg empty]
    apply Safe.bind_send (Acts.main.minds fun store later => .addMessage (later.ownChat _))
    intro exchange same valid
    apply bind_warn
    exact Safe.done trivial

theorem itemClicked_minds {row : Nat} :
    Safe Valid (Minds (.main main) event) (fun _ _ => True) (main.itemClicked row) [] := by
  unfold MainWindow.itemClicked
  apply Safe.bind (updateMessages_minds ?_ ?_) Chained.nil
  · exact fun _ _ _ _ _ => Safe.done trivial
  · exact @Acts.main [] main event
  · exact fun store later => later.ownChat _

theorem timerChat_minds :
    Safe Valid (Minds (.main main) event) (fun _ _ => True) (main.timerChat event.fresh)
      [] := by
  unfold MainWindow.timerChat
  apply Safe.bind (updateChats_minds .main) Chained.nil
  intro fetched final _ _ _
  by_cases differs : fetched.numOfChats ≠ fetched.sizeOfAnswer
  · rw [if_pos differs]
    apply Safe.bind_lift
    intro rebuilt _
    exact Safe.done trivial
  · rw [if_neg differs]
    exact Safe.done trivial

theorem addChat_minds {chatName : Bytes} :
    Safe Valid (Minds (.main main) event) (fun _ _ => True) (main.addChat chatName) [] := by
  unfold MainWindow.addChat
  apply Safe.bind_send (.inl rfl)
  intro creation creates valid
  cases answer : creation.reply with
  | success =>
      apply Safe.bind_send (.inl rfl)
      intro lookup looks validLookup
      apply bind_warn
      apply Safe.bind_lift
      intro j _
      apply Safe.bind_lift
      intro chatId _
      apply Safe.bind_send (.inl rfl)
      intro link links validLink
      apply bind_warn
      exact updateChats_minds .main
  | _ =>
      apply Safe.bind_report
      exact Safe.done trivial

theorem addMember_minds {userName : Bytes} :
    Safe Valid (Minds (.main main) event) (fun _ _ => True) (main.addMember userName)
      [] := by
  unfold MainWindow.addMember
  apply Safe.bind_send (.inl rfl)
  intro found finds valid
  cases answer : found.reply with
  | userNotFound =>
      apply Safe.bind_report
      exact Safe.done trivial
  | _ =>
      apply Safe.bind_lift
      intro j _
      apply Safe.bind_lift
      intro userId _
      apply Safe.bind_send (.inl rfl)
      intro link links validLink
      apply bind_warn
      exact Safe.done trivial

theorem boardClicked_minds (opened : ViewBoards) (boardId : Bytes) :
    Safe Valid (Minds (.main main) event) (fun _ _ => True)
      (main.boardClicked event.trello opened boardId) [] := by
  unfold MainWindow.boardClicked
  apply Safe.bind_send (Acts.main.minds fun _ _ => .getTrelloToken (.inr (.inl rfl)))
  intro exchange same valid
  apply bind_warn
  apply Safe.bind_lift
  intro j _
  apply Safe.bind_lift
  intro token _
  apply Safe.bind_lift
  intro member _
  apply Safe.bind_lift
  intro trelloUserId _
  apply Safe.bind_report
  apply Safe.bind_lift
  intro board _
  apply Safe.bind_lift
  intro boardUrl _
  apply Safe.bind_report
  exact Safe.done trivial

theorem MainWindow.Offers.minds {program : Act MainWindow} (offers : main.Offers event program) :
    Safe Valid (Minds (.main main) event) (fun _ _ => True) program [] := by
  cases offers with
  | sendButton action => exact sendButton_minds
  | itemClicked action inside => exact itemClicked_minds
  | timerChat action => exact timerChat_minds
  | timerMessage action =>
      exact updateMessages_minds .main fun store later => later.1.member.current
  | addChat action => exact addChat_minds
  | addMember action => exact addMember_minds
  | viewBoardsButton action => exact viewBoardsButton_confides.weaken fun _ _ _ => trivial
  | boardClicked opened boardId => exact boardClicked_minds opened boardId

theorem tokenButton_minds {text : Bytes} {user : User} :
    Safe Valid (Minds (.trelloAuth user) event) (fun _ _ => True)
      (tokenButton event.fresh event.trello text user) [] := by
  unfold tokenButton
  by_cases empty : text = []
  · rw [if_pos empty]
    apply Safe.bind_report
    exact Safe.done trivial
  · rw [if_neg empty]
    apply Safe.bind_send (Acts.trelloAuth.minds fun _ _ => .setTrelloToken)
    intro exchange same valid
    apply Safe.bind_lift
    intro member _
    apply Safe.bind_lift
    intro trelloUserId _
    apply Safe.bind (create_minds valid ?_) valid
    · exact fun _ _ _ _ _ => Safe.done trivial
    · exact @Acts.trelloAuth _ user event

theorem authButton_minds {username : Bytes} (action : event.action = .authButton username) :
    Safe Valid (Minds .auth event) (fun _ _ => True) (authButton event.fresh username)
      [] := by
  unfold authButton
  apply Safe.bind_send (.inl rfl)
  intro search searches valid
  apply bind_warn
  cases answer : search.reply with
  | userNotFound =>
      apply Safe.bind_sendUntil fun _ _ => .inl rfl
      intro tries registration longer registers accepted validRegistration
      apply Safe.bind_send (.inl rfl)
      intro found finds validFound
      apply Safe.bind_lift
      intro j _
      apply Safe.bind_lift
      intro userId _
      apply Safe.bind_send (.inl rfl)
      intro creation creates validCreation
      apply bind_warn
      apply Safe.bind_send (.inl rfl)
      intro lookup looks validLookup
      apply bind_warn
      apply Safe.bind_lift
      intro chat _
      apply Safe.bind_lift
      intro chatId _
      apply Safe.bind_send (.inl rfl)
      intro link links validLink
      apply bind_warn
      exact Safe.done trivial
  | _ =>
      apply Safe.bind_lift
      intro j parsed
      rw [← answer] at parsed
      obtain ⟨written, replied, rfl⟩ := parse_eq_ok parsed
      apply Safe.bind_lift
      intro userId sized
      have loggedIn : LoggedIn username userId ([] ++ [search]) :=
        ⟨search, by simp, searches, written, replied, sized⟩
      apply Safe.bind (create_minds valid (.auth action loggedIn)) valid
      exact fun _ _ _ _ _ => Safe.done trivial

/-- What a handler asks, and what it leaves. -/
theorem handler_minds {window : Window} {program : Act Window}
    (handled : handler window event = some program) :
    Safe Valid (Minds window event) (fun _ _ => True) program [] := by
  cases offers_of_handler handled with
  | auth action => exact authButton_minds action
  | trelloAuth text => exact tokenButton_minds
  | main offers =>
      apply Safe.bind offers.minds Chained.nil
      exact fun _ _ _ _ _ => Safe.done trivial

end Handlers

/-! The windows. -/

/-- Only the boards' button looks a chatter up. -/
theorem Leaves.apart {main result : MainWindow} {event : Event} {trace : Trace}
    (leaves : Leaves main event result trace) (other : event.action ≠ .viewBoardsButton) :
    result.user = main.user ∧ result.chatter = main.chatter ∧
      result.viewBoards = main.viewBoards := by
  cases leaves with
  | clicked action inside drawn =>
      obtain ⟨listWidget, size, rfl⟩ := drawn.redrawn
      exact ⟨rfl, rfl, rfl⟩
  | polled action drawn =>
      obtain ⟨listWidget, size, rfl⟩ := drawn.redrawn
      exact ⟨rfl, rfl, rfl⟩
  | fetched action gathered same =>
      obtain ⟨chats, chatNames, rfl, -⟩ := gathered
      exact ⟨rfl, rfl, rfl⟩
  | rebuilt action gathered differs rebuilds =>
      obtain ⟨chats, chatNames, rfl, -⟩ := gathered
      obtain ⟨listWidget2, iconToChatId, iconToName, rfl⟩ := updateChatsUi_withList rebuilds
      exact ⟨rfl, rfl, rfl⟩
  | added action gathered =>
      obtain ⟨chats, chatNames, rfl, -⟩ := gathered
      exact ⟨rfl, rfl, rfl⟩
  | viewed action => exact absurd action other
  | unchanged quiet => exact ⟨rfl, rfl, rfl⟩
  | sent action => exact ⟨rfl, rfl, rfl⟩

theorem Built.apart {fresh : Allocator} {user : User} {main : MainWindow} {trace : Trace}
    (built : Built fresh user main trace) : main.chatter = 0 ∧ main.viewBoards = [] := by
  obtain ⟨fetched, rebuilt, redrawn, gathered, rebuilds, drawn, rfl⟩ := built
  obtain ⟨chats, chatNames, rfl, -⟩ := gathered
  obtain ⟨listWidget2, iconToChatId, iconToName, rfl⟩ := updateChatsUi_withList rebuilds
  obtain ⟨listWidget, size, rfl⟩ := drawn.redrawn
  exact ⟨rfl, rfl⟩

def Window.Confides : Window → Store → Prop
  | .main window, store => Client.Confides window store
  | _, _ => True

theorem Follows.confides {window result : Window} {event : Event} {trace : Trace} {store : Store}
    (follows : Follows window event result trace) (other : event.action ≠ .viewBoardsButton)
    (discreet : window.Discreet store) : result.Confides store := by
  have built : ∀ {fresh user main}, Built fresh user main trace → Client.Confides main store := by
    intro fresh user main built
    obtain ⟨chatter, viewBoards⟩ := built.apart
    refine ⟨.inl chatter, fun opened member => ?_⟩
    rw [viewBoards] at member
    exact absurd member List.not_mem_nil
  cases follows with
  | known loggedIn creates => exact built creates
  | authorised creates => exact built creates
  | main leaves =>
      obtain ⟨user, chatter, viewBoards⟩ := leaves.apart other
      obtain ⟨met, shown⟩ := Discreet.confides discreet
      refine ⟨?_, ?_⟩
      · rw [user, chatter]
        exact met
      · rw [user, viewBoards]
        exact shown
  | registered loggedIn => exact trivial
  | refused => exact trivial

/-- What a handler leaves, with what it has found out for the boards. -/
def Trusts (window : Window) (event : Event) (result : Window) (trace : Trace) : Prop :=
  Follows window event result trace ∧ (event.action = .viewBoardsButton →
    ∀ store, Later window trace store → result.Confides store)

theorem handler_views {window : Window} {event : Event} {program : Act Window}
    (handled : handler window event = some program) :
    Safe Valid (Minds window event)
      (fun result trace => event.action = .viewBoardsButton →
        ∀ store, Later window trace store → result.Confides store) program [] := by
  by_cases action : event.action = .viewBoardsButton
  · cases window with
    | main main =>
        simp only [handler, MainWindow.handler, action, Option.map_some,
          Option.some.injEq] at handled
        subst handled
        apply Safe.bind viewBoardsButton_confides Chained.nil
        exact fun _ _ _ _ confides => Safe.done fun _ => confides
    | _ => simp [handler, action] at handled
  · exact (handler_minds handled).weaken fun _ _ _ pressed => absurd pressed action

theorem messenger_discreet (condition : Requirement ι) :
    Verified (messenger pg) Answered Store.Grows condition Minds Trusts
      fun _ => Window.Discreet where
  safe := by
    intro window event program handled
    refine ((handler_views handled).and (handler_follows handled)).weaken ?_
    exact fun _ _ both => ⟨both.2, both.1⟩
  stable := by
    intro client window store after grown discreet
    cases window with
    | main main => exact ⟨discreet.member.grows grown, discreet.confides.grows grown⟩
    | _ => exact trivial
  preserved := by
    intro client window event store result trace discreet valid meeting past trusts
    obtain ⟨follows, views⟩ := trusts
    have member : window.Member store := by
      cases window with
      | main main => exact Discreet.member discreet
      | _ => exact trivial
    have kept := (@messenger_member pg ι condition).preserved member valid meeting past
      follows.next
    cases result with
    | main main =>
        refine ⟨kept, ?_⟩
        by_cases action : event.action = .viewBoardsButton
        · exact views action store ⟨discreet, past⟩
        · exact follows.confides action discreet
    | _ => exact trivial

theorem System.Starts.discreet {state : System ι} (starts : state.Starts)
    (condition : Requirement ι) (client : ι) :
    Holds Answered Store.Grows condition Minds Trusts (fun _ => Window.Discreet) state.store
      client (state.clients client) := by
  simp only [Holds, starts client]
  exact trivial

/-- In every state the request that a client waits with is one where a name is given, or
it asks about what concerns the user for whom the client acts. -/
theorem requests_confined [DecidableEq ι] {start state : System ι} (starts : start.Starts)
    (reached : Reaches (messenger pg) unrestricted start state) {client : ι} {window : Window}
    {event : Event} {request : ClientRequest} {again : Reply → Bool}
    {next : Reply → Act Window}
    (waits : (state.clients client).activity =
      .running window event (.ask request again next)) :
    request.byName = true ∨ ∃ userId, Acts (state.clients client).trace window event userId ∧
      Concerns userId state.store request := by
  have underway := Reaches.underway (messenger_lawful pg) (messenger_discreet unrestricted)
    (starts.discreet unrestricted) reached waits
  rcases underway.sending with named | ⟨userId, acts, concerns⟩
  · exact .inl named
  · exact .inr ⟨userId, acts, concerns state.store ⟨underway.held, underway.past⟩⟩

/-! What the server answers them. -/

/-- The requests that leave the tables as they are, and give no name. -/
def ClientRequest.reads : ClientRequest → Bool
  | .getChatList _ | .getChatName _ | .getChatHistory _ | .getChatMembers _ | .getUserName _
  | .getTrelloToken _ => true
  | _ => false

theorem Concerns.about {userId : SizeT} {store : Store} {request : ClientRequest} {call : Call}
    (concerns : Concerns userId store request) (reads : request.reads = true)
    (encodes : Encodes request call) : call.About userId store := by
  cases concerns with
  | getChatList =>
      cases encodes
      exact .getChatList
  | @getChatName chatId linked =>
      cases encodes with
      | getChatName spelled =>
          have same : ReadsInteger (decimal chatId) chatId [] := by
            simpa using @readsInteger_decimal chatId [] (by simp)
          obtain ⟨rfl, -⟩ := spelled.unique same
          have bound := (Store.hasChat_pos (Store.linked_chat linked)).2
          refine .getChatName ?_
          rw [toNat_ofInt_natCast bound]
          exact linked
  | getChatHistory own =>
      cases encodes
      exact .getChatHistory own
  | getChatMembers own =>
      cases encodes
      exact .getChatMembers own
  | getUserName knows =>
      cases encodes
      exact .getUserName knows
  | getTrelloToken met =>
      cases encodes
      exact .getTrelloToken met
  | setTrelloToken => contradiction
  | addMessage own => contradiction

theorem Concerns.answers_iff {userId : SizeT} {store : Store} {request : ClientRequest}
    (concerns : Concerns userId store request) (reads : request.reads = true) (reply : Reply) :
    Answers store request reply store ↔
      Answers (store.part userId.toNat) request reply (store.part userId.toNat) := by
  constructor
  · intro answers
    obtain ⟨call, encodes, served⟩ := answers
    exact ⟨call, encodes, ((concerns.about reads encodes).served_iff reply).mp served⟩
  · intro answers
    obtain ⟨call, encodes, served⟩ := answers
    exact ⟨call, encodes, ((concerns.about reads encodes).served_iff reply).mpr served⟩

theorem Concerns.unchanged {userId : SizeT} {store after : Store} {request : ClientRequest}
    {reply : Reply} (concerns : Concerns userId store request) (reads : request.reads = true)
    (answers : Answers store request reply after) : after = store := by
  obtain ⟨call, encodes, served⟩ := answers
  have about := concerns.about reads encodes
  exact served.appends.2.1 (by cases about <;> rfl)

/-- Clients learn nothing else: whatever the server answers to a request of theirs that
gives no name, a server could answer whose tables hold no more than what concerns their
user, and conversely. -/
theorem replies_confined [DecidableEq ι] {start state : System ι} (starts : start.Starts)
    (reached : Reaches (messenger pg) unrestricted start state) {client : ι} {window : Window}
    {event : Event} {request : ClientRequest} {again : Reply → Bool}
    {next : Reply → Act Window} (reads : request.reads = true)
    (waits : (state.clients client).activity =
      .running window event (.ask request again next)) :
    ∃ userId, Acts (state.clients client).trace window event userId ∧
      (∀ chances reply after,
        (messenger pg).serve chances state.store request = (some reply, after) →
          after = state.store ∧
            Answers (state.store.part userId.toNat) request reply
              (state.store.part userId.toNat)) ∧
      ∀ reply, Answers state.store request reply state.store ↔
        Answers (state.store.part userId.toNat) request reply
          (state.store.part userId.toNat) := by
  rcases requests_confined starts reached waits with named | ⟨userId, acts, concerns⟩
  · cases request <;> contradiction
  · refine ⟨userId, acts, fun chances reply after served => ?_,
      concerns.answers_iff reads⟩
    rcases serve_cases served with ⟨none, -⟩ | ⟨answer, same, answers⟩
    · contradiction
    · cases same
      have kept := concerns.unchanged reads answers
      rw [kept] at answers
      exact ⟨kept, (concerns.answers_iff reads reply).mp answers⟩

/-! Ann, who is about to open the boards of Bob. -/

/-- The request that a client waits with. -/
private def awaited (state : System Unit) : Option ClientRequest :=
  match (state.clients ()).activity with
  | .running _ _ (.ask request _ _) => some request
  | _ => none

private theorem awaited_eq_some {state : System Unit} {request : ClientRequest}
    (found : awaited state = some request) :
    ∃ (window : Window) (event : Event) (again : Reply → Bool) (next : Reply → Act Window),
      (state.clients ()).activity = .running window event (.ask request again next) := by
  unfold awaited at found
  split at found
  · next window event asked again rest running =>
      cases found
      exact ⟨window, event, again, rest, running⟩
  · contradiction

private theorem annAwaits :
    ((loggedOut annAndBob).run (messenger Reference.postgres) (fun _ _ _ _ _ => true)
      (handlerRun () (.authButton (ascii "ann")) 0 4 ++ handlerRun () .viewBoardsButton 0 1)).bind
        awaited = some (.getTrelloToken 2) := by
  decide +kernel

private theorem annAwaits_reached :
    ∃ (state : System Unit) (window : Window) (event : Event) (again : Reply → Bool)
      (next : Reply → Act Window),
      Reaches (messenger Reference.postgres) unrestricted (loggedOut annAndBob) state ∧
      (state.clients ()).activity =
        .running window event (.ask (.getTrelloToken 2) again next) := by
  obtain ⟨state, ran, seen⟩ := Option.bind_eq_some_iff.mp annAwaits
  obtain ⟨window, event, again, next, waits⟩ := awaited_eq_some seen
  exact ⟨state, window, event, again, next,
    Reaches.of_run (fun _ _ _ _ _ _ => trivial) .start ran, waits⟩

theorem requests_confined_ann :
    ∃ (state : System Unit) (window : Window) (event : Event),
      (ClientRequest.getTrelloToken 2).byName = true ∨
        ∃ userId, Acts (state.clients ()).trace window event userId ∧
          Concerns userId state.store (.getTrelloToken 2) := by
  obtain ⟨state, window, event, again, next, reached, waits⟩ := annAwaits_reached
  exact ⟨state, window, event,
    requests_confined (loggedOut_starts annAndBob) reached waits⟩

theorem replies_confined_ann :
    ∃ (state : System Unit) (window : Window) (event : Event) (userId : SizeT),
      Acts (state.clients ()).trace window event userId ∧
      (∀ chances reply after,
        (messenger Reference.postgres).serve chances state.store (.getTrelloToken 2) =
            (some reply, after) →
          after = state.store ∧
            Answers (state.store.part userId.toNat) (.getTrelloToken 2) reply
              (state.store.part userId.toNat)) ∧
      ∀ reply, Answers state.store (.getTrelloToken 2) reply state.store ↔
        Answers (state.store.part userId.toNat) (.getTrelloToken 2) reply
          (state.store.part userId.toNat) := by
  obtain ⟨state, window, event, again, next, reached, waits⟩ := annAwaits_reached
  have confined := replies_confined (loggedOut_starts annAndBob) reached rfl waits
  obtain ⟨userId, acts, answers⟩ := confined
  exact ⟨state, window, event, userId, acts, answers⟩

end BpkMessenger.Client
