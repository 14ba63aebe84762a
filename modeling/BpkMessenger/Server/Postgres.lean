import BpkMessenger.Server.Tables
import BpkMessenger.Sql.Lexer

namespace BpkMessenger.Server

open Text Sql

/-! PostgreSQL as the server relies on it.  The service itself is a parameter:
a `Postgres` runs statement texts in any way that its documentation allows for
the statements below, and what the documentation leaves open (failures, drawn
ids, the order of rows) is decided by a `Chance`. -/

inductive NewRow
  | user (userName : Bytes)
  | chat (chatName : Bytes)
  | link (userId chatId : Nat)
  | message (chatId senderId : Nat) (messageText : Bytes)
  | token (userId : Nat) (trelloToken : Bytes)
  deriving DecidableEq, Repr

/-- The `SELECT` statements by table and `WHERE` clause.  `userById` compares
with a quoted literal. -/
inductive Query
  | userByName (userName : Bytes)
  | userById (literal : Bytes)
  | chatByName (chatName : Bytes)
  | chatById (chatId : Nat)
  | link (userId chatId : Nat)
  | linksOfUser (userId : Nat)
  | linksOfChat (chatId : Nat)
  | messagesOf (chatId : Nat)
  | tokensOf (userId : Nat)
  deriving DecidableEq, Repr

inductive Statement
  | insert (row : NewRow)
  | select (query : Query)
  | copy (query : Query)
  deriving DecidableEq, Repr

/-! Token sequences. -/

def word (name : String) : Token :=
  .word (ascii name)

def symbol (text : String) : List Token :=
  (ascii text).map .symbol

def number (n : Nat) : Token :=
  .number (decimal n)

def commaSeparated : List Token → List Token
  | [] => []
  | [token] => [token]
  | token :: tokens => token :: symbol "," ++ commaSeparated tokens

def insertTokens (table : String) (columns : List String) (values : List Token) :
    List Token :=
  [word "insert", word "into", word table] ++ symbol "(" ++
    commaSeparated (columns.map word) ++ symbol ")" ++ [word "values"] ++
    symbol "(" ++ commaSeparated values ++ symbol ")"

def NewRow.tokens : NewRow → List Token
  | .user userName => insertTokens "users" ["user_name"] [.string userName]
  | .chat chatName => insertTokens "chats" ["chat_name"] [.string chatName]
  | .link userId chatId =>
      insertTokens "userid_chatid" ["user_id", "chat_id"]
        [number userId, number chatId]
  | .message chatId senderId messageText =>
      insertTokens "messages" ["chat_id", "sender_id", "message_text"]
        [number chatId, number senderId, .string messageText]
  | .token userId trelloToken =>
      insertTokens "userid_trellotoken" ["user_id", "trello_token"]
        [number userId, .string trelloToken]

def selectTokens (columns : List String) (table column : String) (value : Token) :
    List Token :=
  [word "select"] ++ commaSeparated (columns.map word) ++
    [word "from", word table, word "where", word column, .operator 61, value]

def Query.tokens : Query → List Token
  | .userByName userName =>
      selectTokens ["user_id", "user_name"] "users" "user_name" (.string userName)
  | .userById literal =>
      selectTokens ["user_id", "user_name"] "users" "user_id" (.string literal)
  | .chatByName chatName =>
      selectTokens ["chat_id", "chat_name"] "chats" "chat_name" (.string chatName)
  | .chatById chatId =>
      selectTokens ["chat_id", "chat_name"] "chats" "chat_id" (number chatId)
  | .link userId chatId =>
      selectTokens ["user_id", "chat_id"] "userid_chatid" "user_id"
          (number userId) ++
        [word "and", word "chat_id", .operator 61, number chatId]
  | .linksOfUser userId =>
      selectTokens ["user_id", "chat_id"] "userid_chatid" "user_id" (number userId)
  | .linksOfChat chatId =>
      selectTokens ["user_id", "chat_id"] "userid_chatid" "chat_id" (number chatId)
  | .messagesOf chatId =>
      selectTokens ["chat_id", "sender_id", "message_text"] "messages" "chat_id"
        (number chatId)
  | .tokensOf userId =>
      selectTokens ["user_id", "trello_token"] "userid_trellotoken" "user_id"
        (number userId)

def Statement.tokens : Statement → List Token
  | .insert row => row.tokens
  | .select query => query.tokens
  | .copy query =>
      [word "copy"] ++ symbol "(" ++ query.tokens ++ symbol ")" ++
        [word "to", word "stdout"]

/-! Documented behaviour. -/

/-- `VARCHAR(limit)`: excess characters are cut off when they are all spaces,
and refused otherwise. -/
def varchar (limit : Nat) (text : Bytes) : Option Bytes :=
  let kept := text.length - (characterLength text - limit)
  if (text.drop kept).all (· == 32) then some (text.take kept) else none

theorem varchar_of_length_le {limit : Nat} {text stored : Bytes}
    (short : characterLength text ≤ limit) (fits : varchar limit text = some stored) :
    stored = text := by
  have kept : text.length - (characterLength text - limit) = text.length := by omega
  simp only [varchar, kept, List.drop_length, List.take_length, List.all_nil, if_true,
    Option.some.injEq] at fits
  exact fits.symm

/-- The row a column list stores; a `BIGSERIAL` key is drawn by the service. -/
inductive NewRow.Stores : NewRow → StoredRow → Prop
  | user {userName stored : Bytes} {userId : Nat}
      (fits : varchar 50 userName = some stored) :
      Stores (.user userName) (.user ⟨userId, stored⟩)
  | chat {chatName stored : Bytes} {chatId : Nat}
      (fits : varchar 50 chatName = some stored) :
      Stores (.chat chatName) (.chat ⟨chatId, stored⟩)
  | link {userId chatId : Nat} :
      Stores (.link userId chatId) (.link ⟨userId, chatId⟩)
  | message {chatId senderId : Nat} {messageText : Bytes} :
      Stores (.message chatId senderId messageText)
        (.message ⟨chatId, senderId, messageText⟩)
  | token {userId : Nat} {trelloToken : Bytes} :
      Stores (.token userId trelloToken) (.token ⟨userId, trelloToken⟩)

def NewRow.text : NewRow → Bytes
  | .user userName => userName
  | .chat chatName => chatName
  | .link _ _ => []
  | .message _ _ messageText => messageText
  | .token _ trelloToken => trelloToken

inductive Field
  | bigint (value : Nat)
  | text (value : Bytes)
  deriving DecidableEq, Repr

abbrev Row := List Field

def UserRow.fields (row : UserRow) : Row := [.bigint row.userId, .text row.userName]

def ChatRow.fields (row : ChatRow) : Row := [.bigint row.chatId, .text row.chatName]

def LinkRow.fields (row : LinkRow) : Row := [.bigint row.userId, .bigint row.chatId]

def MessageRow.fields (row : MessageRow) : Row :=
  [.bigint row.chatId, .bigint row.senderId, .text row.messageText]

def TokenRow.fields (row : TokenRow) : Row :=
  [.bigint row.userId, .text row.trelloToken]

def Query.rows (tables : Tables) : Query → List Row
  | .userByName userName =>
      (tables.users.filter fun row => row.userName = userName).map UserRow.fields
  | .userById literal =>
      (tables.users.filter fun row => row.userId = decimalValue literal).map
        UserRow.fields
  | .chatByName chatName =>
      (tables.chats.filter fun row => row.chatName = chatName).map ChatRow.fields
  | .chatById chatId =>
      (tables.chats.filter fun row => row.chatId = chatId).map ChatRow.fields
  | .link userId chatId =>
      (tables.userIdChatId.filter fun row =>
        row.userId = userId ∧ row.chatId = chatId).map LinkRow.fields
  | .linksOfUser userId =>
      (tables.userIdChatId.filter fun row => row.userId = userId).map LinkRow.fields
  | .linksOfChat chatId =>
      (tables.userIdChatId.filter fun row => row.chatId = chatId).map LinkRow.fields
  | .messagesOf chatId =>
      (tables.messages.filter fun row => row.chatId = chatId).map MessageRow.fields
  | .tokensOf userId =>
      (tables.userIdTrelloToken.filter fun row => row.userId = userId).map
        TokenRow.fields

/-- The literals of a query are in the encoding, and a quoted id is a `BIGINT`. -/
def Query.WellTyped : Query → Prop
  | .userByName userName => validUtf8 userName = true
  | .userById literal => decimalValue literal < 2 ^ 63
  | .chatByName chatName => validUtf8 chatName = true
  | _ => True

def NewRow.Acceptable (store : Store) (row : NewRow) : Prop :=
  validUtf8 row.text = true ∧
    ∃ (stored : StoredRow) (after : Store),
      row.Stores stored ∧ after.toTables = store.toTables.add stored

inductive PgError
  | rejected
  | unavailable
  deriving DecidableEq, Repr

abbrev Outcome := Except PgError (List Row × Store)

/-- What a statement may do: insert exactly one row that keeps the constraints,
or return exactly the matching rows, in any order. -/
def Statement.Permits (store : Store) : Statement → Outcome → Prop
  | _, .error .unavailable => True
  | .insert row, .error .rejected => ¬ row.Acceptable store
  | .insert row, .ok (rows, after) =>
      rows = [] ∧ validUtf8 row.text = true ∧
        ∃ stored, row.Stores stored ∧ after.toTables = store.toTables.add stored
  | .select query, .error .rejected | .copy query, .error .rejected =>
      ¬ query.WellTyped
  | .select query, .ok (rows, after) | .copy query, .ok (rows, after) =>
      query.WellTyped ∧ after = store ∧ rows.Perm (query.rows store.toTables)

/-- A PostgreSQL service behind its C interface. -/
structure Postgres where
  Chance : Type
  begins : Chance → Bool
  /-- `COMMIT` goes through; otherwise it changes nothing. -/
  commits : Chance → Bool
  exec : Chance → Store → Bytes → Outcome
  documented : ∀ chance store text (statement : Statement),
    lex (cString text) = .ok statement.tokens →
      statement.Permits store (exec chance store text)
  malformed : ∀ chance store text,
    lex (cString text) = .error .unterminated →
      ∃ error, exec chance store text = .error error

end BpkMessenger.Server
