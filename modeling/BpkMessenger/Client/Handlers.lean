import BpkMessenger.Client.MainWindow

namespace BpkMessenger.Client

open Text Server Interaction

/-! The handlers of the client's windows, each as a program of requests.  A handler
that throws takes the client down: `main` returns. -/

inductive TrelloKey
  | id
  | name
  | url
  deriving DecidableEq, Repr

/-- Trello: the key of the application and the answers to GET requests. -/
structure Trello where
  apiKey : Bytes
  get : Bytes → Except JsonException (Json TrelloKey)

def trelloText (key : TrelloKey) (x : Json TrelloKey) :
    Except JsonException Bytes := do
  let value ← x.index key
  value.getString

def api : Bytes :=
  ascii "https://api.trello.com/1/"

def Trello.memberUrl (trello : Trello) (token : Bytes) : Bytes :=
  api ++ ascii "tokens/" ++ token ++ ascii "/member?key=" ++ trello.apiKey ++
    ascii "&token=" ++ token

def Trello.boardsUrl (trello : Trello) (memberId token : Bytes) : Bytes :=
  api ++ ascii "members/" ++ memberId ++ ascii "/boards?key=" ++ trello.apiKey ++
    ascii "&token=" ++ token

def Trello.inviteUrl (trello : Trello) (boardId memberId token : Bytes) : Bytes :=
  api ++ ascii "boards/" ++ boardId ++ ascii "/members/" ++ memberId ++
    ascii "?key=" ++ trello.apiKey ++ ascii "&token=" ++ token ++ ascii "&type=admin"

def Trello.boardUrl (trello : Trello) (boardId token : Bytes) : Bytes :=
  api ++ ascii "boards/" ++ boardId ++ ascii "?key=" ++ trello.apiKey ++
    ascii "&token=" ++ token

/-- The members of the boards' array that are shown. -/
def boardRow (board : Json TrelloKey) : Except JsonException (Bytes × Bytes) := do
  let name ← trelloText .name board
  let id ← trelloText .id board
  return (name, id)

namespace MainWindow

def create (fresh : Allocator) (user : User) : Act MainWindow := do
  let window ← updateChats { user := user }
  let window ← Program.lift (updateChatsUi fresh { window with numOfChats := 0 })
  let window ← updateMessages (window.iconToChatId (window.item 0)) window
  return { window with
    currentChatId := window.iconToChatId (window.item 0)
    label := window.iconToName (window.item window.currentChat) }

def sendButton (text : Bytes) (window : MainWindow) : Act MainWindow :=
  if text = [] then return window
  else do
    let chatId := window.iconToChatId (window.item window.currentChat)
    let response ← sendBlocking (.addMessage chatId window.user.userId text)
    warn response
    return { window with
      listWidget := window.listWidget ++ [.outgoing text]
      currentChatMessagesSize := window.currentChatMessagesSize + 1 }

/-- `on_listWidget_2_itemClicked` for the item in this row, which is now the
current one. -/
def itemClicked (row : Nat) (window : MainWindow) : Act MainWindow := do
  let item := window.item row
  let window ← updateMessages (window.iconToChatId item)
    { window with currentChatMessagesSize := 0, listWidget := [], currentChat := row }
  return { window with
    currentChatId := window.iconToChatId item
    label := window.iconToName (window.item window.currentChat) }

def timerChat (fresh : Allocator) (window : MainWindow) : Act MainWindow := do
  let window ← updateChats window
  if window.numOfChats ≠ window.sizeOfAnswer then
    let window ← Program.lift (updateChatsUi fresh window)
    return { window with numOfChats := window.listWidget2.length }
  else return window

def timerMessage (window : MainWindow) : Act MainWindow :=
  updateMessages window.currentChatId window

/-- The first listed member that is not the user. -/
def otherMember (userId : SizeT) :
    List (Json Key) → Except JsonException (Option SizeT)
  | [] => .ok none
  | x :: rest => do
      match ← x.index .userId with
      | .number id =>
          if id = userId.toNat then otherMember userId rest
          else return some (UInt64.ofNat id)
      | _ => .error .typeError

def createViewBoards (trello : Trello) (chatter : SizeT) : Act ViewBoards := do
  let response ← sendBlocking (.getTrelloToken chatter)
  warn response
  let j ← Program.lift (parse response)
  let chatterToken ← Program.lift (stringAt .trelloToken j)
  let member ← Program.lift (trello.get (trello.memberUrl chatterToken))
  let chatterId ← Program.lift (trelloText .id member)
  let boards ← Program.lift (trello.get (trello.boardsUrl chatterId chatterToken))
  let rows ← Program.lift (boards.elements.mapM boardRow)
  return ⟨chatterToken, chatterId, rows⟩

def viewBoardsButton (trello : Trello) (window : MainWindow) : Act MainWindow := do
  let response ← sendBlocking (.getChatMembers window.currentChatId)
  warn response
  let j ← Program.lift (parse response)
  if j.size = 2 then
    let other ← Program.lift (otherMember window.user.userId j.elements)
    let chatter := other.getD window.chatter
    let opened ← createViewBoards trello chatter
    return { window with
      chatter := chatter
      viewBoards := window.viewBoards ++ [opened] }
  else
    Program.report (.popUp (ascii "Trello View is not available for group chats."))
    return window

/-- `view_boards::on_listWidget_itemClicked` on a board of an open window. -/
def boardClicked (trello : Trello) (opened : ViewBoards) (boardId : Bytes)
    (window : MainWindow) : Act MainWindow := do
  let response ← sendBlocking (.getTrelloToken window.user.userId)
  warn response
  let j ← Program.lift (parse response)
  let token ← Program.lift (stringAt .trelloToken j)
  let member ← Program.lift (trello.get (trello.memberUrl token))
  let trelloUserId ← Program.lift (trelloText .id member)
  Program.report (.put (trello.inviteUrl boardId trelloUserId opened.chatterToken))
  let board ← Program.lift (trello.get (trello.boardUrl boardId token))
  let boardUrl ← Program.lift (trelloText .url board)
  Program.report (.openUrl boardUrl)
  return window

/-- `add_chat`'s button. -/
def addChat (chatName : Bytes) (window : MainWindow) : Act MainWindow := do
  let chatExists ← sendBlocking (.addChat chatName)
  match chatExists with
  | .success =>
      let response ← sendBlocking (.getChatId chatName)
      warn response
      let j ← Program.lift (parse response)
      let chatId ← Program.lift (dumpAt .chatId j)
      let response ← sendBlocking
        (.linkUserToChat (stdToString window.user.userId) chatId)
      warn response
      updateChats { window with listWidget2 := [] }
  | _ =>
      Program.report (.popUp
        (ascii "This chat name is taken. Please, choose another one."))
      return window

/-- `add_member`'s button. -/
def addMember (userName : Bytes) (window : MainWindow) : Act MainWindow := do
  let userExists ← sendBlocking (.findUser userName)
  match userExists with
  | .userNotFound =>
      Program.report (.popUp (ascii "There is no such user."))
      return window
  | _ =>
      let j ← Program.lift (parse userExists)
      let userId ← Program.lift (dumpAt .userId j)
      let response ← sendBlocking
        (.linkUserToChat userId (stdToString window.currentChatId))
      warn response
      return window

end MainWindow

inductive Window
  | auth
  | trelloAuth (user : User)
  | main (window : MainWindow)

def isSuccess : Reply → Bool
  | .success => true
  | _ => false

def isFail : Reply → Bool
  | .fail => true
  | _ => false

theorem isSuccess_iff {reply : Reply} : isSuccess reply = true ↔ reply = .success := by
  cases reply <;> simp [isSuccess]

/-- `auth`'s button, for the user name that Google returns. -/
def authButton (fresh : Allocator) (username : Bytes) : Act Window := do
  let response ← sendBlocking (.findUser username)
  warn response
  match response with
  | .userNotFound =>
      let _ ← Program.sendUntil (.addUser username) isSuccess
      let response ← sendBlocking (.findUser username)
      let j ← Program.lift (parse response)
      let userId ← Program.lift (sizeAt .userId j)
      let firstChat := username ++ ascii " notes"
      let response ← sendBlocking (.addChat firstChat)
      warn response
      let response ← sendBlocking (.getChatId firstChat)
      warn response
      let j ← Program.lift (parse response)
      let chatId ← Program.lift (dumpAt .chatId j)
      let _ ← sendBlocking (.linkUserToChat (stdToString userId) chatId)
      -- the source tests the reply to get_chat_id here once more
      warn response
      return .trelloAuth ⟨username, userId, [], []⟩
  | _ =>
      let j ← Program.lift (parse response)
      let userId ← Program.lift (sizeAt .userId j)
      let window ← MainWindow.create fresh ⟨username, userId, [], []⟩
      return .main window

/-- `trelloButtonClicked`. -/
def tokenButton (fresh : Allocator) (trello : Trello) (text : Bytes) (user : User) :
    Act Window :=
  if text = [] then do
    Program.report (.popUp (ascii "Trello token field should not be empty."))
    return .trelloAuth user
  else do
    let user := { user with trelloToken := text }
    let _ ← sendBlocking (.setTrelloToken user.userId text)
    let member ← Program.lift (trello.get (trello.memberUrl text))
    let trelloUserId ← Program.lift (trelloText .id member)
    let window ← MainWindow.create fresh { user with trelloUserId := trelloUserId }
    return .main window

inductive Action
  | authButton (username : Bytes)
  | tokenButton (text : Bytes)
  | sendButton (text : Bytes)
  | itemClicked (row : Nat)
  | timerChat
  | timerMessage
  | addChat (chatName : Bytes)
  | addMember (userName : Bytes)
  | viewBoardsButton
  | boardClicked (opened board : Nat)

/-- What happens at a client, with what the outside contributes to the handler. -/
structure Event where
  action : Action
  fresh : Allocator
  trello : Trello

def MainWindow.handler (window : MainWindow) (event : Event) :
    Option (Act MainWindow) :=
  match event.action with
  | .sendButton text => some (window.sendButton text)
  | .itemClicked row =>
      if row < window.listWidget2.length then some (window.itemClicked row) else none
  | .timerChat => some (window.timerChat event.fresh)
  | .timerMessage => some window.timerMessage
  | .addChat chatName => some (window.addChat chatName)
  | .addMember userName => some (window.addMember userName)
  | .viewBoardsButton => some (window.viewBoardsButton event.trello)
  | .boardClicked opened board => do
      let opened ← window.viewBoards[opened]?
      let board ← opened.boards[board]?
      return window.boardClicked event.trello opened board.2
  | _ => none

def handler (window : Window) (event : Event) : Option (Act Window) :=
  match window, event.action with
  | .auth, .authButton username => some (authButton event.fresh username)
  | .trelloAuth user, .tokenButton text =>
      some (tokenButton event.fresh event.trello text user)
  | .main window, _ => (window.handler event).map fun program => do
      let window ← program
      return .main window
  | _, _ => none

/-! Which handler an event starts in which window. -/

inductive MainWindow.Offers (window : MainWindow) (event : Event) : Act MainWindow → Prop
  | sendButton {text : Bytes} (action : event.action = .sendButton text) :
      Offers window event (window.sendButton text)
  | itemClicked {row : Nat} (action : event.action = .itemClicked row)
      (inside : row < window.listWidget2.length) :
      Offers window event (window.itemClicked row)
  | timerChat (action : event.action = .timerChat) :
      Offers window event (window.timerChat event.fresh)
  | timerMessage (action : event.action = .timerMessage) :
      Offers window event window.timerMessage
  | addChat {chatName : Bytes} (action : event.action = .addChat chatName) :
      Offers window event (window.addChat chatName)
  | addMember {userName : Bytes} (action : event.action = .addMember userName) :
      Offers window event (window.addMember userName)
  | viewBoardsButton (action : event.action = .viewBoardsButton) :
      Offers window event (window.viewBoardsButton event.trello)
  | boardClicked (opened : ViewBoards) (boardId : Bytes) :
      Offers window event (window.boardClicked event.trello opened boardId)

inductive Offers : Window → Event → Act Window → Prop
  | auth {event : Event} {username : Bytes} (action : event.action = .authButton username) :
      Offers .auth event (authButton event.fresh username)
  | trelloAuth {event : Event} {user : User} (text : Bytes) :
      Offers (.trelloAuth user) event (tokenButton event.fresh event.trello text user)
  | main {event : Event} {window : MainWindow} {program : Act MainWindow}
      (offers : window.Offers event program) :
      Offers (.main window) event (program >>= fun window => .done (.main window))

theorem MainWindow.offers_of_handler {window : MainWindow} {event : Event}
    {program : Act MainWindow} (handled : window.handler event = some program) :
    window.Offers event program := by
  unfold MainWindow.handler at handled
  cases action : event.action with
  | sendButton text =>
      simp only [action, Option.some.injEq] at handled
      subst handled
      exact .sendButton action
  | itemClicked row =>
      simp only [action] at handled
      by_cases inside : row < window.listWidget2.length
      · rw [if_pos inside, Option.some.injEq] at handled
        subst handled
        exact .itemClicked action inside
      · rw [if_neg inside] at handled
        contradiction
  | timerChat =>
      simp only [action, Option.some.injEq] at handled
      subst handled
      exact .timerChat action
  | timerMessage =>
      simp only [action, Option.some.injEq] at handled
      subst handled
      exact .timerMessage action
  | addChat chatName =>
      simp only [action, Option.some.injEq] at handled
      subst handled
      exact .addChat action
  | addMember userName =>
      simp only [action, Option.some.injEq] at handled
      subst handled
      exact .addMember action
  | viewBoardsButton =>
      simp only [action, Option.some.injEq] at handled
      subst handled
      exact .viewBoardsButton action
  | boardClicked opened board =>
      simp only [action, Option.bind_eq_bind, Option.bind_eq_some_iff] at handled
      obtain ⟨openedWindow, _, row, _, same⟩ := handled
      cases same
      exact .boardClicked openedWindow row.2
  | authButton username => simp [action] at handled
  | tokenButton text => simp [action] at handled

theorem offers_of_handler {window : Window} {event : Event} {program : Act Window}
    (handled : handler window event = some program) : Offers window event program := by
  unfold handler at handled
  cases window with
  | auth =>
      cases action : event.action with
      | authButton username =>
          simp only [action, Option.some.injEq] at handled
          subst handled
          exact .auth action
      | _ => simp [action] at handled
  | trelloAuth user =>
      cases action : event.action with
      | tokenButton text =>
          simp only [action, Option.some.injEq] at handled
          subst handled
          exact .trelloAuth text
      | _ => simp [action] at handled
  | main window =>
      change (window.handler event).map _ = some program at handled
      obtain ⟨shared, offered, rfl⟩ := Option.map_eq_some_iff.mp handled
      exact .main (MainWindow.offers_of_handler offered)

end BpkMessenger.Client
