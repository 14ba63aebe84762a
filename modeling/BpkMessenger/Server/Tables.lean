import BpkMessenger.Text.Utf8

namespace BpkMessenger.Server

open Text

/-! The five tables of the schema.  A `Store` carries the declared constraints,
so a table state that PostgreSQL would refuse cannot be built. -/

structure UserRow where
  userId : Nat
  userName : Bytes
  deriving DecidableEq, Repr

structure ChatRow where
  chatId : Nat
  chatName : Bytes
  deriving DecidableEq, Repr

structure LinkRow where
  userId : Nat
  chatId : Nat
  deriving DecidableEq, Repr

structure MessageRow where
  chatId : Nat
  senderId : Nat
  messageText : Bytes
  deriving DecidableEq, Repr

structure TokenRow where
  userId : Nat
  trelloToken : Bytes
  deriving DecidableEq, Repr

structure Tables where
  users : List UserRow
  chats : List ChatRow
  userIdChatId : List LinkRow
  messages : List MessageRow
  userIdTrelloToken : List TokenRow
  deriving DecidableEq, Repr

namespace Tables

def empty : Tables := ⟨[], [], [], [], []⟩

def HasUser (tables : Tables) (userId : Nat) : Prop :=
  ∃ row ∈ tables.users, row.userId = userId

def HasChat (tables : Tables) (chatId : Nat) : Prop :=
  ∃ row ∈ tables.chats, row.chatId = chatId

def Linked (tables : Tables) (userId chatId : Nat) : Prop :=
  ⟨userId, chatId⟩ ∈ tables.userIdChatId

instance (tables : Tables) (userId : Nat) : Decidable (tables.HasUser userId) :=
  inferInstanceAs (Decidable (∃ row ∈ tables.users, row.userId = userId))

instance (tables : Tables) (chatId : Nat) : Decidable (tables.HasChat chatId) :=
  inferInstanceAs (Decidable (∃ row ∈ tables.chats, row.chatId = chatId))

instance (tables : Tables) (userId chatId : Nat) :
    Decidable (tables.Linked userId chatId) :=
  inferInstanceAs (Decidable (_ ∈ tables.userIdChatId))

/-- The constraints of the `CREATE TABLE` statements: `BIGSERIAL` primary keys
from 1, `UNIQUE` and `VARCHAR(50)` names, the foreign keys, unique tokens. -/
structure Consistent (tables : Tables) : Prop where
  userIds : (tables.users.map UserRow.userId).Nodup
  userNames : (tables.users.map UserRow.userName).Nodup
  userRange : ∀ row ∈ tables.users, 1 ≤ row.userId ∧ row.userId < 2 ^ 63
  userLength : ∀ row ∈ tables.users, characterLength row.userName ≤ 50
  chatIds : (tables.chats.map ChatRow.chatId).Nodup
  chatNames : (tables.chats.map ChatRow.chatName).Nodup
  chatRange : ∀ row ∈ tables.chats, 1 ≤ row.chatId ∧ row.chatId < 2 ^ 63
  chatLength : ∀ row ∈ tables.chats, characterLength row.chatName ≤ 50
  linkUser : ∀ row ∈ tables.userIdChatId, tables.HasUser row.userId
  linkChat : ∀ row ∈ tables.userIdChatId, tables.HasChat row.chatId
  messageChat : ∀ row ∈ tables.messages, tables.HasChat row.chatId
  messageSender : ∀ row ∈ tables.messages, tables.HasUser row.senderId
  tokenUser : ∀ row ∈ tables.userIdTrelloToken, tables.HasUser row.userId
  tokenUnique : (tables.userIdTrelloToken.map TokenRow.trelloToken).Nodup

theorem consistent_iff (tables : Tables) :
    tables.Consistent ↔
      ((tables.users.map UserRow.userId).Nodup ∧
        (tables.users.map UserRow.userName).Nodup ∧
        (∀ row ∈ tables.users, 1 ≤ row.userId ∧ row.userId < 2 ^ 63) ∧
        ∀ row ∈ tables.users, characterLength row.userName ≤ 50) ∧
      ((tables.chats.map ChatRow.chatId).Nodup ∧
        (tables.chats.map ChatRow.chatName).Nodup ∧
        (∀ row ∈ tables.chats, 1 ≤ row.chatId ∧ row.chatId < 2 ^ 63) ∧
        ∀ row ∈ tables.chats, characterLength row.chatName ≤ 50) ∧
      ((∀ row ∈ tables.userIdChatId, tables.HasUser row.userId) ∧
        ∀ row ∈ tables.userIdChatId, tables.HasChat row.chatId) ∧
      ((∀ row ∈ tables.messages, tables.HasChat row.chatId) ∧
        ∀ row ∈ tables.messages, tables.HasUser row.senderId) ∧
      (∀ row ∈ tables.userIdTrelloToken, tables.HasUser row.userId) ∧
        (tables.userIdTrelloToken.map TokenRow.trelloToken).Nodup := by
  constructor
  · rintro ⟨a, b, c, d, e, f, g, h, i, j, k, l, m, n⟩
    exact ⟨⟨a, b, c, d⟩, ⟨e, f, g, h⟩, ⟨i, j⟩, ⟨k, l⟩, m, n⟩
  · rintro ⟨⟨a, b, c, d⟩, ⟨e, f, g, h⟩, ⟨i, j⟩, ⟨k, l⟩, m, n⟩
    exact ⟨a, b, c, d, e, f, g, h, i, j, k, l, m, n⟩

instance (tables : Tables) : Decidable tables.Consistent :=
  decidable_of_iff _ tables.consistent_iff.symm

end Tables

inductive StoredRow
  | user (row : UserRow)
  | chat (row : ChatRow)
  | link (row : LinkRow)
  | message (row : MessageRow)
  | token (row : TokenRow)
  deriving DecidableEq, Repr

def Tables.add (tables : Tables) : StoredRow → Tables
  | .user row => { tables with users := tables.users ++ [row] }
  | .chat row => { tables with chats := tables.chats ++ [row] }
  | .link row => { tables with userIdChatId := tables.userIdChatId ++ [row] }
  | .message row => { tables with messages := tables.messages ++ [row] }
  | .token row =>
      { tables with userIdTrelloToken := tables.userIdTrelloToken ++ [row] }

/-- A committed state of the database. -/
structure Store extends Tables where
  consistent : toTables.Consistent

namespace Store

@[ext] theorem ext {first second : Store}
    (tables : first.toTables = second.toTables) : first = second := by
  cases first
  cases second
  cases tables
  rfl

def empty : Store where
  toTables := Tables.empty
  consistent := by decide

structure Grows (first second : Store) : Prop where
  users : first.users ⊆ second.users
  chats : first.chats ⊆ second.chats
  links : first.userIdChatId ⊆ second.userIdChatId
  messages : first.messages ⊆ second.messages
  tokens : first.userIdTrelloToken ⊆ second.userIdTrelloToken

theorem Grows.refl (store : Store) : store.Grows store :=
  ⟨fun _ => id, fun _ => id, fun _ => id, fun _ => id, fun _ => id⟩

theorem Grows.trans {first second third : Store}
    (left : first.Grows second) (right : second.Grows third) :
    first.Grows third :=
  ⟨fun _ member => right.users (left.users member),
    fun _ member => right.chats (left.chats member),
    fun _ member => right.links (left.links member),
    fun _ member => right.messages (left.messages member),
    fun _ member => right.tokens (left.tokens member)⟩

theorem grows_of_add {first second : Store} {row : StoredRow}
    (added : second.toTables = first.toTables.add row) : first.Grows second := by
  cases row <;>
    exact ⟨by simp [added, Tables.add], by simp [added, Tables.add],
      by simp [added, Tables.add], by simp [added, Tables.add],
      by simp [added, Tables.add]⟩

theorem Grows.hasChat {first second : Store} (grows : first.Grows second)
    {chatId : Nat} (stored : first.HasChat chatId) : second.HasChat chatId := by
  obtain ⟨row, member, same⟩ := stored
  exact ⟨row, grows.chats member, same⟩

theorem Grows.hasUser {first second : Store} (grows : first.Grows second)
    {userId : Nat} (stored : first.HasUser userId) : second.HasUser userId := by
  obtain ⟨row, member, same⟩ := stored
  exact ⟨row, grows.users member, same⟩

theorem Grows.linked {first second : Store} (grows : first.Grows second)
    {userId chatId : Nat} (linked : first.Linked userId chatId) :
    second.Linked userId chatId :=
  grows.links linked

theorem chat_of_name {store : Store} {first second : ChatRow}
    (firstMember : first ∈ store.chats) (secondMember : second ∈ store.chats)
    (same : first.chatName = second.chatName) : first = second :=
  List.inj_on_of_nodup_map store.consistent.chatNames firstMember secondMember same

theorem chat_of_id {store : Store} {first second : ChatRow}
    (firstMember : first ∈ store.chats) (secondMember : second ∈ store.chats)
    (same : first.chatId = second.chatId) : first = second :=
  List.inj_on_of_nodup_map store.consistent.chatIds firstMember secondMember same

theorem user_of_name {store : Store} {first second : UserRow}
    (firstMember : first ∈ store.users) (secondMember : second ∈ store.users)
    (same : first.userName = second.userName) : first = second :=
  List.inj_on_of_nodup_map store.consistent.userNames firstMember secondMember same

theorem user_of_id {store : Store} {first second : UserRow}
    (firstMember : first ∈ store.users) (secondMember : second ∈ store.users)
    (same : first.userId = second.userId) : first = second :=
  List.inj_on_of_nodup_map store.consistent.userIds firstMember secondMember same

theorem hasChat_pos {store : Store} {chatId : Nat}
    (stored : store.HasChat chatId) : 1 ≤ chatId ∧ chatId < 2 ^ 63 := by
  obtain ⟨row, member, rfl⟩ := stored
  exact store.consistent.chatRange row member

theorem linked_chat {store : Store} {userId chatId : Nat}
    (linked : store.Linked userId chatId) : store.HasChat chatId :=
  store.consistent.linkChat _ linked

end Store

end BpkMessenger.Server
