import BpkMessenger.Client.Conduct

namespace BpkMessenger.Client

open Text Server Interaction

/-! For every handler, the requests it makes in its user's name, and the change it
makes to the windows. -/

/-- A `find_user` reply of the trace gave this id for the user name. -/
def LoggedIn (username : Bytes) (userId : SizeT) (trace : Trace) : Prop :=
  ∃ exchange ∈ trace, exchange.request = .findUser username ∧
    ∃ written : Document, exchange.reply = .document written ∧
      sizeAt .userId written.value = .ok userId

def Creates (chatName : Bytes) (trace : Trace) : Prop :=
  ∃ creation ∈ trace, creation.request = .addChat chatName ∧ creation.reply = .success

/-- After these exchanges the name was looked up, which gave this id. -/
def LooksUp (chatName chatId : Bytes) (before trace : Trace) : Prop :=
  ∃ lookup rest, ∃ written : Document,
    trace = before ++ lookup :: rest ∧ lookup.request = .getChatId chatName ∧
      lookup.reply = .document written ∧ dumpAt .chatId written.value = .ok chatId

inductive Links : Window → Event → Trace → Bytes → Bytes → Prop
  | invited {window : MainWindow} {event : Event} {trace : Trace}
      {userName userId : Bytes} {found : Exchange Store ClientRequest Reply}
      {written : Document} (action : event.action = .addMember userName)
      (member : found ∈ trace) (finds : found.request = .findUser userName)
      (replied : found.reply = .document written)
      (dumped : dumpAt .userId written.value = .ok userId) :
      Links (.main window) event trace userId (stdToString window.currentChatId)
  | created {window : MainWindow} {event : Event} {before trace : Trace}
      {chatName chatId : Bytes} (action : event.action = .addChat chatName)
      (creates : Creates chatName before) (looksUp : LooksUp chatName chatId before trace) :
      Links (.main window) event trace (stdToString window.user.userId) chatId
  | first {event : Event} {before trace : Trace} {username chatId : Bytes} {userId : SizeT}
      (action : event.action = .authButton username)
      (loggedIn : LoggedIn username userId before)
      (looksUp : LooksUp (username ++ ascii " notes") chatId before trace) :
      Links .auth event trace (stdToString userId) chatId

/-- The requests a handler run may make after its trace. -/
def Sends (window : Window) (event : Event) (trace : Trace) : ClientRequest → Prop
  | .addMessage chatId senderId text =>
      ∃ main, window = .main main ∧ event.action = .sendButton text ∧
        chatId = main.iconToChatId (main.item main.currentChat) ∧
          senderId = main.user.userId
  | .linkUserToChat userId chatId => Links window event trace userId chatId
  | _ => True

def Created (fresh : Allocator) (user : User) (result : MainWindow)
    (trace : Trace) : Prop :=
  ∃ fetched rebuilt redrawn,
    Fetched { user := user } fetched trace ∧
      updateChatsUi fresh { fetched with numOfChats := 0 } = .ok rebuilt ∧
        Redrawn rebuilt redrawn ∧
          result = { redrawn with
            currentChatId := rebuilt.iconToChatId (rebuilt.item 0)
            label := rebuilt.iconToName (rebuilt.item rebuilt.currentChat) }

/-- The same user and chats, the same one chosen. -/
structure SameChats (window result : MainWindow) : Prop where
  user : result.user = window.user
  listWidget2 : result.listWidget2 = window.listWidget2
  iconToChatId : result.iconToChatId = window.iconToChatId
  iconToName : result.iconToName = window.iconToName
  numOfChats : result.numOfChats = window.numOfChats
  sizeOfAnswer : result.sizeOfAnswer = window.sizeOfAnswer
  chatNames : result.chatNames = window.chatNames
  currentChat : result.currentChat = window.currentChat
  currentChatId : result.currentChatId = window.currentChatId

inductive Changes (window : MainWindow) (event : Event) : MainWindow → Trace → Prop
  | kept {result : MainWindow} {trace : Trace} (same : SameChats window result) :
      Changes window event result trace
  | clicked {row : Nat} {result : MainWindow} {trace : Trace}
      (action : event.action = .itemClicked row)
      (inside : row < window.listWidget2.length)
      (same : SameChats
        { window with
          currentChat := row
          currentChatId := window.iconToChatId (window.item row) } result) :
      Changes window event result trace
  | fetched {result : MainWindow} {trace : Trace} (action : event.action = .timerChat)
      (fetched : Fetched window result trace)
      (same : result.numOfChats = result.sizeOfAnswer) :
      Changes window event result trace
  | rebuilt {fetched rebuilt : MainWindow} {trace : Trace}
      (action : event.action = .timerChat)
      (fetches : Fetched window fetched trace)
      (differs : fetched.numOfChats ≠ fetched.sizeOfAnswer)
      (rebuilds : updateChatsUi event.fresh fetched = .ok rebuilt) :
      Changes window event { rebuilt with numOfChats := rebuilt.listWidget2.length }
        trace
  | added {chatName : Bytes} {result : MainWindow} {trace : Trace}
      (action : event.action = .addChat chatName)
      (fetches : Fetched { window with listWidget2 := [] } result trace) :
      Changes window event result trace

inductive Next : Window → Event → Window → Trace → Prop
  | registered {event : Event} {username : Bytes} {userId : SizeT} {trace : Trace}
      (loggedIn : LoggedIn username userId trace) :
      Next .auth event (.trelloAuth ⟨username, userId, [], []⟩) trace
  | known {event : Event} {username : Bytes} {userId : SizeT} {main : MainWindow}
      {trace : Trace} (loggedIn : LoggedIn username userId trace)
      (created : Created event.fresh ⟨username, userId, [], []⟩ main trace) :
      Next .auth event (.main main) trace
  | refused {event : Event} {user : User} {trace : Trace} :
      Next (.trelloAuth user) event (.trelloAuth user) trace
  | authorised {event : Event} {user : User} {main : MainWindow}
      {trelloToken trelloUserId : Bytes} {trace : Trace}
      (created : Created event.fresh
        ⟨user.username, user.userId, trelloToken, trelloUserId⟩ main trace) :
      Next (.trelloAuth user) event (.main main) trace
  | main {window result : MainWindow} {event : Event} {trace : Trace}
      (changes : Changes window event result trace) :
      Next (.main window) event (.main result) trace

/-! The same without a field left out; what is said above follows from it. -/

def Built (fresh : Allocator) (user : User) (result : MainWindow) (trace : Trace) : Prop :=
  ∃ fetched rebuilt redrawn,
    Gathered { user := user } fetched trace ∧
      updateChatsUi fresh { fetched with numOfChats := 0 } = .ok rebuilt ∧
        Drawn (rebuilt.iconToChatId (rebuilt.item 0)) rebuilt redrawn trace ∧
          result = { redrawn with
            currentChatId := rebuilt.iconToChatId (rebuilt.item 0)
            label := rebuilt.iconToName (rebuilt.item rebuilt.currentChat) }

/-- The actions of the two timers. -/
def Action.ticks : Action → Bool
  | .timerChat | .timerMessage => true
  | _ => false

inductive Leaves (window : MainWindow) (event : Event) : MainWindow → Trace → Prop
  | unchanged {trace : Trace} (quiet : event.action.ticks = false) :
      Leaves window event window trace
  | sent {text : Bytes} {trace : Trace} (action : event.action = .sendButton text) :
      Leaves window event { window with
        listWidget := window.listWidget ++ [.outgoing text]
        currentChatMessagesSize := window.currentChatMessagesSize + 1 } trace
  | clicked {row : Nat} {redrawn : MainWindow} {trace : Trace}
      (action : event.action = .itemClicked row)
      (inside : row < window.listWidget2.length)
      (drawn : Drawn (window.iconToChatId (window.item row))
        { window with currentChatMessagesSize := 0, listWidget := [], currentChat := row }
        redrawn trace) :
      Leaves window event { redrawn with
        currentChatId := window.iconToChatId (window.item row)
        label := redrawn.iconToName (redrawn.item redrawn.currentChat) } trace
  | polled {result : MainWindow} {trace : Trace} (action : event.action = .timerMessage)
      (drawn : Drawn window.currentChatId window result trace) :
      Leaves window event result trace
  | fetched {result : MainWindow} {trace : Trace} (action : event.action = .timerChat)
      (gathered : Gathered window result trace)
      (same : result.numOfChats = result.sizeOfAnswer) :
      Leaves window event result trace
  | rebuilt {fetched rebuilt : MainWindow} {trace : Trace}
      (action : event.action = .timerChat)
      (gathered : Gathered window fetched trace)
      (differs : fetched.numOfChats ≠ fetched.sizeOfAnswer)
      (rebuilds : updateChatsUi event.fresh fetched = .ok rebuilt) :
      Leaves window event { rebuilt with numOfChats := rebuilt.listWidget2.length } trace
  | added {chatName : Bytes} {result : MainWindow} {trace : Trace}
      (action : event.action = .addChat chatName)
      (gathered : Gathered { window with listWidget2 := [] } result trace) :
      Leaves window event result trace
  | viewed {chatter : SizeT} {viewBoards : List ViewBoards} {trace : Trace}
      (action : event.action = .viewBoardsButton) :
      Leaves window event { window with chatter := chatter, viewBoards := viewBoards } trace

inductive Follows : Window → Event → Window → Trace → Prop
  | registered {event : Event} {username : Bytes} {userId : SizeT} {trace : Trace}
      (loggedIn : LoggedIn username userId trace) :
      Follows .auth event (.trelloAuth ⟨username, userId, [], []⟩) trace
  | known {event : Event} {username : Bytes} {userId : SizeT} {main : MainWindow}
      {trace : Trace} (loggedIn : LoggedIn username userId trace)
      (built : Built event.fresh ⟨username, userId, [], []⟩ main trace) :
      Follows .auth event (.main main) trace
  | refused {event : Event} {user : User} {trace : Trace} :
      Follows (.trelloAuth user) event (.trelloAuth user) trace
  | authorised {event : Event} {user : User} {main : MainWindow}
      {trelloToken trelloUserId : Bytes} {trace : Trace}
      (built : Built event.fresh
        ⟨user.username, user.userId, trelloToken, trelloUserId⟩ main trace) :
      Follows (.trelloAuth user) event (.main main) trace
  | main {window result : MainWindow} {event : Event} {trace : Trace}
      (leaves : Leaves window event result trace) :
      Follows (.main window) event (.main result) trace

theorem SameChats.refl (window : MainWindow) : SameChats window window :=
  ⟨rfl, rfl, rfl, rfl, rfl, rfl, rfl, rfl, rfl⟩

theorem Redrawn.sameChats {window result : MainWindow}
    (redrawn : Redrawn window result) : SameChats window result := by
  obtain ⟨listWidget, size, rfl⟩ := redrawn
  exact ⟨rfl, rfl, rfl, rfl, rfl, rfl, rfl, rfl, rfl⟩

theorem Built.created {fresh : Allocator} {user : User} {result : MainWindow}
    {trace : Trace} (built : Built fresh user result trace) :
    Created fresh user result trace := by
  obtain ⟨fetched, rebuilt, redrawn, gathered, rebuilds, drawn, same⟩ := built
  exact ⟨fetched, rebuilt, redrawn, gathered.fetched, rebuilds, drawn.redrawn, same⟩

theorem Leaves.changes {window result : MainWindow} {event : Event} {trace : Trace}
    (leaves : Leaves window event result trace) : Changes window event result trace := by
  cases leaves with
  | unchanged quiet => exact .kept (SameChats.refl window)
  | sent action => exact .kept ⟨rfl, rfl, rfl, rfl, rfl, rfl, rfl, rfl, rfl⟩
  | clicked action inside drawn =>
      obtain ⟨listWidget, size, rfl⟩ := drawn.redrawn
      exact .clicked action inside ⟨rfl, rfl, rfl, rfl, rfl, rfl, rfl, rfl, rfl⟩
  | polled action drawn => exact .kept drawn.redrawn.sameChats
  | fetched action gathered same => exact .fetched action gathered.fetched same
  | rebuilt action gathered differs rebuilds =>
      exact .rebuilt action gathered.fetched differs rebuilds
  | added action gathered => exact .added action gathered.fetched
  | viewed action => exact .kept ⟨rfl, rfl, rfl, rfl, rfl, rfl, rfl, rfl, rfl⟩

theorem Follows.next {window result : Window} {event : Event} {trace : Trace}
    (follows : Follows window event result trace) : Next window event result trace := by
  cases follows with
  | registered loggedIn => exact .registered loggedIn
  | known loggedIn built => exact .known loggedIn built.created
  | refused => exact .refused
  | authorised built => exact .authorised built.created
  | main leaves => exact .main leaves.changes

theorem Gathered.mono {window result : MainWindow} {trace final : Trace}
    (longer : trace <+: final) (gathered : Gathered window result trace) :
    Gathered window result final := by
  obtain ⟨chats, chatNames, same, elements, cleared, ⟨exchange, member, rest⟩, known⟩ := gathered
  refine ⟨chats, chatNames, same, elements, cleared, ⟨exchange, longer.subset member, rest⟩, ?_⟩
  intro chat chatMember
  obtain ⟨found, foundMember, stored⟩ := known chat chatMember
  exact ⟨found, longer.subset foundMember, stored⟩

theorem LoggedIn.mono {username : Bytes} {userId : SizeT} {trace final : Trace}
    (longer : trace <+: final) (loggedIn : LoggedIn username userId trace) :
    LoggedIn username userId final := by
  obtain ⟨exchange, member, rest⟩ := loggedIn
  exact ⟨exchange, longer.subset member, rest⟩

theorem sends_free {window : Window} {event : Event} (trace : Trace)
    (request : ClientRequest) (free : ClientRequest.restricted request = false) :
    Sends window event trace request := by
  cases request with
  | addMessage chatId senderId text => contradiction
  | linkUserToChat userId chatId => contradiction
  | _ => exact trivial

section Handlers

variable {window : MainWindow} {event : Event} {trace : Trace}

theorem sendButton_safe {text : Bytes} (action : event.action = .sendButton text) :
    Safe Valid (Sends (.main window) event) (Leaves window event)
      (window.sendButton text) trace := by
  unfold MainWindow.sendButton
  by_cases empty : text = []
  · rw [if_pos empty]
    exact Safe.done (.unchanged (by rw [action]; rfl))
  · rw [if_neg empty]
    apply Safe.bind_send
    · exact ⟨window, rfl, action, rfl, rfl⟩
    · intro exchange same valid
      apply bind_warn
      exact Safe.done (.sent action)

theorem itemClicked_safe {row : Nat} (action : event.action = .itemClicked row)
    (inside : row < window.listWidget2.length) (kept : Valid trace) :
    Safe Valid (Sends (.main window) event) (Leaves window event)
      (window.itemClicked row) trace := by
  unfold MainWindow.itemClicked
  apply Safe.bind (updateMessages_safe sends_free _ _) kept
  intro result final longer keptFinal drawn
  obtain ⟨listWidget, size, same⟩ := drawn.redrawn
  subst same
  exact Safe.done (.clicked action inside drawn)

theorem timerChat_safe (action : event.action = .timerChat) (kept : Valid trace) :
    Safe Valid (Sends (.main window) event) (Leaves window event)
      (window.timerChat event.fresh) trace := by
  unfold MainWindow.timerChat
  apply Safe.bind (updateChats_safe sends_free window) kept
  intro fetched final longer keptFinal gathered
  by_cases differs : fetched.numOfChats ≠ fetched.sizeOfAnswer
  · rw [if_pos differs]
    apply Safe.bind_lift
    intro rebuilt rebuilds
    exact Safe.done (.rebuilt action gathered differs rebuilds)
  · rw [if_neg differs]
    exact Safe.done (.fetched action gathered (not_not.mp differs))

theorem timerMessage_safe (action : event.action = .timerMessage) :
    Safe Valid (Sends (.main window) event) (Leaves window event)
      window.timerMessage trace :=
  (updateMessages_safe sends_free _ _).weaken fun _ _ drawn => .polled action drawn

theorem createViewBoards_safe {sends : Trace → ClientRequest → Prop} (trello : Trello)
    (chatter : SizeT) (allowed : sends trace (.getTrelloToken chatter)) :
    Safe Valid sends (fun _ _ => True) (MainWindow.createViewBoards trello chatter)
      trace := by
  unfold MainWindow.createViewBoards
  apply Safe.bind_send allowed
  intro exchange same valid
  apply bind_warn
  apply Safe.bind_lift
  intro j _
  apply Safe.bind_lift
  intro chatterToken _
  apply Safe.bind_lift
  intro member _
  apply Safe.bind_lift
  intro chatterId _
  apply Safe.bind_lift
  intro boards _
  apply Safe.bind_lift
  intro rows _
  exact Safe.done trivial

theorem viewBoardsButton_safe (action : event.action = .viewBoardsButton) :
    Safe Valid (Sends (.main window) event) (Leaves window event)
      (window.viewBoardsButton event.trello) trace := by
  unfold MainWindow.viewBoardsButton
  apply Safe.bind_send (sends_free trace _ rfl)
  intro exchange same valid
  apply bind_warn
  apply Safe.bind_lift
  intro j _
  by_cases pair : j.size = 2
  · rw [if_pos pair]
    apply Safe.bind_lift
    intro other _
    apply Safe.bind (createViewBoards_safe _ _ (sends_free _ _ rfl)) valid
    intro opened final longer keptFinal _
    exact Safe.done (.viewed action)
  · rw [if_neg pair]
    apply Safe.bind_report
    exact Safe.done (.unchanged (by rw [action]; rfl))

theorem boardClicked_safe (quiet : event.action.ticks = false) (opened : ViewBoards)
    (boardId : Bytes) :
    Safe Valid (Sends (.main window) event) (Leaves window event)
      (window.boardClicked event.trello opened boardId) trace := by
  unfold MainWindow.boardClicked
  apply Safe.bind_send (sends_free trace _ rfl)
  intro exchange same valid
  apply bind_warn
  apply Safe.bind_lift
  intro j _
  apply Safe.bind_lift
  intro token _
  apply Safe.bind_lift
  intro member _
  apply Safe.bind_lift
  intro trelloUserId _
  apply Safe.bind_report
  apply Safe.bind_lift
  intro board _
  apply Safe.bind_lift
  intro boardUrl _
  apply Safe.bind_report
  exact Safe.done (.unchanged quiet)

theorem addChat_safe {chatName : Bytes} (action : event.action = .addChat chatName) :
    Safe Valid (Sends (.main window) event) (Leaves window event)
      (window.addChat chatName) trace := by
  unfold MainWindow.addChat
  apply Safe.bind_send (sends_free trace _ rfl)
  intro creation creates valid
  cases answer : creation.reply with
  | success =>
      apply Safe.bind_send (sends_free _ _ rfl)
      intro lookup looks validLookup
      apply bind_warn
      apply Safe.bind_lift
      intro j parsed
      obtain ⟨written, replied, rfl⟩ := parse_eq_ok parsed
      apply Safe.bind_lift
      intro chatId dumped
      apply Safe.bind_send
      · exact Links.created action
          ⟨creation, List.mem_append_right _ (List.mem_singleton_self _), creates, answer⟩
          ⟨lookup, [], written, rfl, looks, replied, dumped⟩
      · intro link links validLink
        apply bind_warn
        exact (updateChats_safe sends_free _).weaken fun result final gathered =>
          .added action gathered
  | _ =>
      apply Safe.bind_report
      exact Safe.done (.unchanged (by rw [action]; rfl))

theorem addMember_safe {userName : Bytes}
    (action : event.action = .addMember userName) :
    Safe Valid (Sends (.main window) event) (Leaves window event)
      (window.addMember userName) trace := by
  unfold MainWindow.addMember
  apply Safe.bind_send (sends_free trace _ rfl)
  intro found finds valid
  cases answer : found.reply with
  | userNotFound =>
      apply Safe.bind_report
      exact Safe.done (.unchanged (by rw [action]; rfl))
  | _ =>
      apply Safe.bind_lift
      intro j parsed
      rw [← answer] at parsed
      obtain ⟨written, replied, rfl⟩ := parse_eq_ok parsed
      apply Safe.bind_lift
      intro userId dumped
      apply Safe.bind_send
      · exact Links.invited action (by simp) finds replied dumped
      · intro link links validLink
        apply bind_warn
        exact Safe.done (.unchanged (by rw [action]; rfl))

theorem create_safe {sends : Trace → ClientRequest → Prop}
    (free : ∀ trace request, ClientRequest.restricted request = false →
      sends trace request) (fresh : Allocator) (user : User) (kept : Valid trace) :
    Safe Valid sends (Built fresh user) (MainWindow.create fresh user) trace := by
  unfold MainWindow.create
  apply Safe.bind (updateChats_safe free _) kept
  intro fetched middle longer keptMiddle gathered
  apply Safe.bind_lift
  intro rebuilt rebuilds
  apply Safe.bind (updateMessages_safe free _ _) keptMiddle
  intro redrawn final longerFinal keptFinal drawn
  obtain ⟨listWidget, size, same⟩ := drawn.redrawn
  subst same
  exact Safe.done ⟨fetched, rebuilt, _, gathered.mono longerFinal, rebuilds, drawn, rfl⟩

theorem mainHandler_safe {program : Act MainWindow}
    (handled : window.handler event = some program) :
    Safe Valid (Sends (.main window) event) (Leaves window event) program [] := by
  cases ticks : event.action.ticks with
  | true =>
      cases action : event.action with
      | timerChat =>
          simp only [MainWindow.handler, action, Option.some.injEq] at handled
          subst handled
          exact timerChat_safe action Chained.nil
      | timerMessage =>
          simp only [MainWindow.handler, action, Option.some.injEq] at handled
          subst handled
          exact timerMessage_safe action
      | _ =>
          rw [action] at ticks
          contradiction
  | false =>
      cases MainWindow.offers_of_handler handled with
      | sendButton action => exact sendButton_safe action
      | itemClicked action inside => exact itemClicked_safe action inside Chained.nil
      | timerChat action => exact timerChat_safe action Chained.nil
      | timerMessage action => exact timerMessage_safe action
      | addChat action => exact addChat_safe action
      | addMember action => exact addMember_safe action
      | viewBoardsButton action => exact viewBoardsButton_safe action
      | boardClicked opened boardId => exact boardClicked_safe ticks opened boardId

end Handlers

theorem tokenButton_safe {event : Event} {text : Bytes} {user : User} :
    Safe Valid (Sends (.trelloAuth user) event) (Follows (.trelloAuth user) event)
      (tokenButton event.fresh event.trello text user) [] := by
  unfold tokenButton
  by_cases empty : text = []
  · rw [if_pos empty]
    apply Safe.bind_report
    exact Safe.done .refused
  · rw [if_neg empty]
    apply Safe.bind_send (sends_free _ _ rfl)
    intro exchange same valid
    apply Safe.bind_lift
    intro member _
    apply Safe.bind_lift
    intro trelloUserId _
    apply Safe.bind (create_safe sends_free _ _ valid) valid
    intro main final longer keptFinal built
    exact Safe.done (.authorised built)

theorem authButton_safe {event : Event} {username : Bytes}
    (action : event.action = .authButton username) :
    Safe Valid (Sends .auth event) (Follows .auth event)
      (authButton event.fresh username) [] := by
  unfold authButton
  apply Safe.bind_send (sends_free _ _ rfl)
  intro search searches valid
  apply bind_warn
  cases answer : search.reply with
  | userNotFound =>
      apply Safe.bind_sendUntil fun longer _ => sends_free longer _ rfl
      intro tries registration longer registers accepted validRegistration
      apply Safe.bind_send (sends_free _ _ rfl)
      intro found finds validFound
      apply Safe.bind_lift
      intro j parsed
      obtain ⟨written, replied, rfl⟩ := parse_eq_ok parsed
      apply Safe.bind_lift
      intro userId sized
      apply Safe.bind_send (sends_free _ _ rfl)
      intro creation creates validCreation
      apply bind_warn
      apply Safe.bind_send (sends_free _ _ rfl)
      intro lookup looks validLookup
      apply bind_warn
      apply Safe.bind_lift
      intro chat chatParsed
      obtain ⟨chatWritten, chatReplied, rfl⟩ := parse_eq_ok chatParsed
      apply Safe.bind_lift
      intro chatId dumped
      have loggedIn : LoggedIn username userId
          (tries ++ [registration] ++ [found] ++ [creation]) :=
        ⟨found, by simp, finds, written, replied, sized⟩
      apply Safe.bind_send
      · exact Links.first action loggedIn
          ⟨lookup, [], chatWritten, rfl, looks, chatReplied, dumped⟩
      · intro link links validLink
        apply bind_warn
        apply Safe.done
        apply Follows.registered (loggedIn.mono _)
        exact (List.prefix_append _ _).trans (List.prefix_append _ _)
  | _ =>
      apply Safe.bind_lift
      intro j parsed
      rw [← answer] at parsed
      obtain ⟨written, replied, rfl⟩ := parse_eq_ok parsed
      apply Safe.bind_lift
      intro userId sized
      apply Safe.bind (create_safe sends_free _ _ valid) valid
      intro main final longer keptFinal built
      have loggedIn : LoggedIn username userId ([] ++ [search]) :=
        ⟨search, by simp, searches, written, replied, sized⟩
      exact Safe.done (.known (loggedIn.mono longer) built)

theorem handler_follows {window : Window} {event : Event} {program : Act Window}
    (handled : handler window event = some program) :
    Safe Valid (Sends window event) (Follows window event) program [] := by
  cases window with
  | main main =>
      change (main.handler event).map _ = some program at handled
      obtain ⟨shared, offered, rfl⟩ := Option.map_eq_some_iff.mp handled
      apply Safe.bind (mainHandler_safe offered) Chained.nil
      intro result final longer keptFinal leaves
      exact Safe.done (.main leaves)
  | auth =>
      cases offers_of_handler handled with
      | auth action => exact authButton_safe action
  | trelloAuth user =>
      cases offers_of_handler handled with
      | trelloAuth text => exact tokenButton_safe

theorem handler_safe {window : Window} {event : Event} {program : Act Window}
    (handled : handler window event = some program) :
    Safe Valid (Sends window event) (Next window event) program [] :=
  (handler_follows handled).weaken fun _ _ follows => follows.next

end BpkMessenger.Client
