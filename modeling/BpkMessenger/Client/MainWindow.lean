import BpkMessenger.Client.Request
import BpkMessenger.Interaction.Program

namespace BpkMessenger.Client

open Text Server Interaction

/-! The main window: its state, and the functions its handlers share.  Layout,
fonts and scrolling are left out. -/

structure User where
  username : Bytes
  userId : SizeT
  trelloToken : Bytes
  trelloUserId : Bytes
  deriving DecidableEq, Repr

inductive MessageView
  | outgoing (text : Bytes)
  | incoming (text : Bytes)
  deriving DecidableEq, Repr

abbrev Address := Nat

/-- `QListWidgetItem *`. -/
abbrev ItemPtr := Option Address

/-- The addresses that `new` returns in one handler run. -/
structure Allocator where
  address : Nat → Address
  injective : Function.Injective address

structure ViewBoards where
  chatterToken : Bytes
  chatterId : Bytes
  boards : List (Bytes × Bytes)
  deriving DecidableEq, Repr

/-- `operator[]` of the two maps inserts 0 and the empty name for a new key. -/
structure MainWindow where
  user : User
  listWidget : List MessageView := []
  listWidget2 : List Address := []
  iconToChatId : ItemPtr → SizeT := fun _ => 0
  iconToName : ItemPtr → Bytes := fun _ => []
  chatter : SizeT := 0
  numOfChats : Nat := 0
  sizeOfAnswer : Nat := 0
  chatNames : Json Key := .null
  currentChat : Nat := 0
  currentChatId : SizeT := 0
  currentChatMessagesSize : Nat := 0
  label : Bytes := []
  viewBoards : List ViewBoards := []

/-- `ui->listWidget_2->item(row)`. -/
def MainWindow.item (window : MainWindow) (row : Nat) : ItemPtr :=
  window.listWidget2[row]?

inductive Output
  | popUp (text : Bytes)
  | put (url : Bytes)
  | openUrl (url : Bytes)
  deriving DecidableEq, Repr

abbrev Act := Program ClientRequest Reply Output

def sendBlocking (request : ClientRequest) : Act Reply :=
  Program.send request

/-- `json::parse`: of the replies only the documents are JSON. -/
def parse : Reply → Except JsonException (Json Key)
  | .document written => .ok written.value
  | _ => .error .parseError

def oops : Bytes :=
  ascii "Oops! Something went wrong... Don't worry that's on us."

/-- `if (response == "FAIL")` with its popup; the handler goes on. -/
def warn : Reply → Act Unit
  | .fail => Program.report (.popUp oops)
  | _ => .done ()

/-- `x[key].get<std::size_t>()`. -/
def sizeAt (key : Key) (x : Json Key) : Except JsonException SizeT := do
  let value ← x.index key
  value.getSize

/-- `x[key].get<std::string>()`. -/
def stringAt (key : Key) (x : Json Key) : Except JsonException Bytes := do
  let value ← x.index key
  value.getString

/-- `x[key].dump()`. -/
def dumpAt (key : Key) (x : Json Key) : Except JsonException Bytes := do
  let value ← x.index key
  value.dump Key.name

def fetchChatName (chatNames x : Json Key) : Act (Json Key) := do
  let chatId ← Program.lift (dumpAt .chatId x)
  let response ← sendBlocking (.getChatName chatId)
  warn response
  let chatName ← Program.lift (parse response)
  Program.lift (chatNames.pushBack chatName)

def updateChats (window : MainWindow) : Act MainWindow := do
  let response ← sendBlocking (.getChatList window.user.userId)
  warn response
  let chatIds ← Program.lift (parse response)
  let chatNames ← chatIds.elements.foldlM fetchChatName window.chatNames.clear
  return { window with chatNames := chatNames, sizeOfAnswer := chatNames.size }

def addChatItem (fresh : Allocator) (window : MainWindow) (x : Json Key) :
    Except JsonException MainWindow := do
  let chatName ← stringAt .chatName x
  let chatId ← sizeAt .chatId x
  let item := fresh.address window.listWidget2.length
  return { window with
    iconToChatId := Function.update window.iconToChatId (some item) chatId
    iconToName := Function.update window.iconToName (some item) chatName
    listWidget2 := window.listWidget2 ++ [item] }

def updateChatsUi (fresh : Allocator) (window : MainWindow) :
    Except JsonException MainWindow :=
  window.chatNames.elements.foldlM (addChatItem fresh)
    { window with listWidget2 := [] }

def addMessageRow (user : User) (listWidget : List MessageView) (mess : Json Key) :
    Act (List MessageView) := do
  let senderId ← Program.lift (sizeAt .senderId mess)
  if senderId = user.userId then
    let text ← Program.lift (stringAt .messageText mess)
    return listWidget ++ [.outgoing text]
  else
    let response ← sendBlocking (.getUserName senderId)
    warn response
    let userInfo ← Program.lift (parse response)
    let userName ← Program.lift (stringAt .userName userInfo)
    let text ← Program.lift (stringAt .messageText mess)
    return listWidget ++ [.incoming (userName ++ ascii ": " ++ text)]

def updateMessages (chatId : SizeT) (window : MainWindow) : Act MainWindow := do
  let response ← sendBlocking (.getChatHistory chatId)
  warn response
  let messages ← Program.lift (parse response)
  if window.currentChatMessagesSize ≠ messages.size then
    let listWidget ← messages.elements.foldlM (addMessageRow window.user) []
    return { window with
      listWidget := listWidget
      currentChatMessagesSize := messages.size }
  else return window

end BpkMessenger.Client
