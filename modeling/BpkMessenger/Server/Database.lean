import BpkMessenger.Server.Postgres
import BpkMessenger.Server.Reply

namespace BpkMessenger.Server

open Text Sql

/-! The methods of `Database`.  Each builds its statement text outside the `try`
and runs it in a `pqxx::work`; any exception in there is answered FAIL. -/

inductive DatabaseException
  | service (error : PgError)
  | conversion
  | json (exception : JsonException)
  deriving Repr

/-- A connection inside a transaction: what is committed, what the transaction
sees, and how the service will behave at the operations to come. -/
structure Session (pg : Postgres) where
  committed : Store
  working : Store
  chances : List pg.Chance

def copyText (query : Bytes) : Bytes :=
  ascii "COPY (" ++ query ++ ascii ") TO STDOUT"

abbrev Work (pg : Postgres) := ExceptT DatabaseException (StateM (Session pg))

variable {pg : Postgres}

namespace Work

/-- One operation of the service; the connection is lost when there is no next
chance. -/
def request (operation : pg.Chance → Session pg →
      Except PgError (α × Session pg)) : Work pg α :=
  fun session =>
    match session.chances with
    | [] => (.error (.service .unavailable), session)
    | chance :: chances =>
        match operation chance session with
        | .ok (result, after) => (.ok result, { after with chances := chances })
        | .error error => (.error (.service error), { session with chances := chances })

/-- `pqxx::work W(C)`. -/
def start : Work pg Unit :=
  request fun chance session =>
    if pg.begins chance then .ok ((), session) else .error .unavailable

def exec (text : Bytes) : Work pg (List Row) :=
  request fun chance session => do
    let (rows, after) ← pg.exec chance session.working text
    return (rows, { session with working := after })

def stream (query : Bytes) : Work pg (List Row) :=
  exec (copyText query)

def commit : Work pg Unit :=
  request fun chance session =>
    if pg.commits chance then .ok ((), { session with committed := session.working })
    else .error .unavailable

def lift (result : Except DatabaseException α) : Work pg α :=
  fun session => (result, session)

end Work

abbrev Method (pg : Postgres) := List pg.Chance → Store → Reply × Store

/-- `try { ... } catch { return fail; }`; destroying the `work` rolls back what
was not committed. -/
def attempt (body : Work pg Reply) : Method pg :=
  fun chances store =>
    match body ⟨store, store, chances⟩ with
    | (.ok reply, session) => (reply, session.committed)
    | (.error _, session) => (.fail, session.committed)

def execute (insertInto : Bytes) : Method pg :=
  attempt do
    Work.start
    let _ ← Work.exec insertInto
    Work.commit
    return .success

def answer (query : Bytes)
    (read : List Row → Except DatabaseException Reply) : Method pg :=
  attempt do
    Work.start
    let rows ← Work.stream query
    Work.lift (read rows)

def written (value : Json Key) : Except DatabaseException Reply :=
  match dumped : value.dump Key.name with
  | .ok text => .ok (.document ⟨value, text, dumped⟩)
  | .error exception => .error (.json exception)

def idText : Row → Except DatabaseException (Nat × Bytes)
  | [.bigint id, .text text] => .ok (id, text)
  | _ => .error .conversion

def idId : Row → Except DatabaseException (Nat × Nat)
  | [.bigint first, .bigint second] => .ok (first, second)
  | _ => .error .conversion

def idIdText : Row → Except DatabaseException (Nat × Nat × Bytes)
  | [.bigint first, .bigint second, .text text] => .ok (first, second, text)
  | _ => .error .conversion

def pushed (j value : Json Key) : Except DatabaseException (Json Key) :=
  match j.pushBack value with
  | .ok j => .ok j
  | .error exception => .error (.json exception)

def userDocument (id : Nat) (name : Bytes) : Json Key :=
  .object [(.userId, .number id), (.userName, .string name)]

def chatDocument (id : Nat) (name : Bytes) : Json Key :=
  .object [(.chatId, .number id), (.chatName, .string name)]

def messageDocument (chatId senderId : Nat) (messageText : Bytes) : Json Key :=
  .object [(.chatId, .number chatId), (.messageText, .string messageText),
    (.senderId, .number senderId)]

namespace Database

/-! Statement texts. -/

def addMessageText (chatId senderId : SizeT) (messageText : Bytes) : Bytes :=
  ascii "INSERT INTO Messages (chat_id, sender_id, message_text) Values (" ++
    stdToString chatId ++ ascii ", " ++ stdToString senderId ++ ascii ", '" ++
    doubleQuotes messageText ++ ascii "')"

def addChatText (chatName : Bytes) : Bytes :=
  ascii "INSERT INTO Chats (chat_name) Values ('" ++ doubleQuotes chatName ++
    ascii "')"

def addUserText (userName : Bytes) : Bytes :=
  ascii "INSERT INTO Users (user_name) Values ('" ++ doubleQuotes userName ++
    ascii "')"

def insertLinkText (userId chatId : SizeT) : Bytes :=
  ascii "INSERT INTO UserID_ChatID (user_id, chat_id) Values (" ++
    stdToString userId ++ ascii ", " ++ stdToString chatId ++ ascii ")"

def checkLinkText (userId chatId : SizeT) : Bytes :=
  ascii "SELECT user_id, chat_id FROM UserID_ChatID WHERE user_id = " ++
    stdToString userId ++ ascii " AND chat_id = " ++ stdToString chatId

def findUserText (userName : Bytes) : Bytes :=
  ascii "SELECT user_id, user_name FROM Users WHERE user_name = '" ++
    doubleQuotes userName ++ ascii "'"

def getChatHistoryText (chatId : SizeT) : Bytes :=
  ascii "SELECT chat_id, sender_id, message_text FROM Messages WHERE chat_id = " ++
    stdToString chatId

def getChatNameText (chatId : SizeT) : Bytes :=
  ascii "SELECT chat_id, chat_name FROM Chats WHERE chat_id = " ++ stdToString chatId

def getChatIdText (chatName : Bytes) : Bytes :=
  ascii "SELECT chat_id, chat_name FROM Chats WHERE chat_name = '" ++
    doubleQuotes chatName ++ ascii "'"

def getChatListText (userId : SizeT) : Bytes :=
  ascii "SELECT user_id, chat_id FROM UserID_ChatID WHERE user_id = " ++
    stdToString userId

def setTrelloTokenText (userId : SizeT) (trelloToken : Bytes) : Bytes :=
  ascii "INSERT INTO UserID_TrelloToken (user_id, trello_token) Values (" ++
    stdToString userId ++ ascii ", '" ++ doubleQuotes trelloToken ++ ascii "')"

def getTrelloTokenText (userId : SizeT) : Bytes :=
  ascii "SELECT user_id, trello_token FROM UserID_TrelloToken WHERE user_id = " ++
    stdToString userId

def getChatMembersText (chatId : SizeT) : Bytes :=
  ascii "SELECT user_id, chat_id FROM UserID_ChatID WHERE chat_id = " ++
    stdToString chatId

def getUserNameText (userId : SizeT) : Bytes :=
  ascii "SELECT user_id, user_name FROM Users WHERE user_id = '" ++
    stdToString userId ++ ascii "'"

/-! The methods. -/

def addMessage (chatId senderId : SizeT) (messageText : Bytes) : Method pg :=
  execute (addMessageText chatId senderId messageText)

def addChat (chatName : Bytes) : Method pg :=
  execute (addChatText chatName)

def addUser (userName : Bytes) : Method pg :=
  execute (addUserText userName)

def linkUserToChat (userId chatId : SizeT) : Method pg :=
  attempt do
    Work.start
    let rows ← Work.exec (checkLinkText userId chatId)
    let linkExists := !rows.isEmpty
    if !linkExists then
      let _ ← Work.exec (insertLinkText userId chatId)
    Work.commit
    return .success

def findUser (userName : Bytes) : Method pg :=
  answer (findUserText userName) fun
    | [] => .ok .userNotFound
    | row :: _ => do
        let (id, name) ← idText row
        written (userDocument id name)

def getChatHistory (chatId : SizeT) : Method pg :=
  answer (getChatHistoryText chatId) fun rows => do
    let j ← rows.foldlM (fun j row => do
      let (_, senderId, messageText) ← idIdText row
      pushed j (messageDocument chatId.toNat senderId messageText)) .null
    written j

def getChatName (chatId : SizeT) : Method pg :=
  answer (getChatNameText chatId) fun rows => do
    let j ← rows.foldlM (fun _ row => do
      let (_, chatName) ← idText row
      return chatDocument chatId.toNat chatName) .null
    written j

/-- The name in the document is the argument, whose quotes were doubled in place. -/
def getChatId (chatName : Bytes) : Method pg :=
  answer (getChatIdText chatName) fun rows => do
    let j ← rows.foldlM (fun _ row => do
      let (chatId, _) ← idText row
      return chatDocument chatId (doubleQuotes chatName)) .null
    written j

def getChatList (userId : SizeT) : Method pg :=
  answer (getChatListText userId) fun rows => do
    let j ← rows.foldlM (fun j row => do
      let (_, chatId) ← idId row
      pushed j (.object [(.chatId, .number chatId)])) .null
    written j

def setTrelloToken (userId : SizeT) (trelloToken : Bytes) : Method pg :=
  execute (setTrelloTokenText userId trelloToken)

def getTrelloToken (userId : SizeT) : Method pg :=
  answer (getTrelloTokenText userId) fun
    | [] => written .null
    | row :: _ => do
        let (_, token) ← idText row
        written (.object [(.trelloToken, .string token)])

def getChatMembers (chatId : SizeT) : Method pg :=
  answer (getChatMembersText chatId) fun rows => do
    let j ← rows.foldlM (fun j row => do
      let (user, _) ← idId row
      pushed j (.object [(.userId, .number user)])) .null
    written j

def getUserName (userId : SizeT) : Method pg :=
  answer (getUserNameText userId) fun
    | [] => .ok .userNotFound
    | row :: _ => do
        let (id, name) ← idText row
        written (userDocument id name)

end Database

end BpkMessenger.Server
