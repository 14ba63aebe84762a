import BpkMessenger.Server.Transaction

namespace BpkMessenger.Server

open Text

/-! The database service as its callers see it: one request takes one table
state to the next and is answered.  No statement text, transaction or row order
is left in it. -/

inductive Call
  | findUser (userName : Bytes)
  | addUser (userName : Bytes)
  | addChat (chatName : Bytes)
  | addMessage (chatId senderId : SizeT) (messageText : Bytes)
  | linkUserToChat (userId chatId : SizeT)
  | getChatName (chatId : SizeT)
  | getChatId (chatName : Bytes)
  | getChatHistory (chatId : SizeT)
  | getChatList (userId : SizeT)
  | setTrelloToken (userId : SizeT) (trelloToken : Bytes)
  | getTrelloToken (userId : SizeT)
  | getChatMembers (chatId : SizeT)
  | getUserName (userId : SizeT)
  deriving DecidableEq, Repr

def Call.run {pg : Postgres} : Call → Method pg
  | .findUser userName => Database.findUser userName
  | .addUser userName => Database.addUser userName
  | .addChat chatName => Database.addChat chatName
  | .addMessage chatId senderId messageText =>
      Database.addMessage chatId senderId messageText
  | .linkUserToChat userId chatId => Database.linkUserToChat userId chatId
  | .getChatName chatId => Database.getChatName chatId
  | .getChatId chatName => Database.getChatId chatName
  | .getChatHistory chatId => Database.getChatHistory chatId
  | .getChatList userId => Database.getChatList userId
  | .setTrelloToken userId trelloToken => Database.setTrelloToken userId trelloToken
  | .getTrelloToken userId => Database.getTrelloToken userId
  | .getChatMembers chatId => Database.getChatMembers chatId
  | .getUserName userId => Database.getUserName userId

def Call.newRow : Call → Option NewRow
  | .addUser userName => some (.user userName)
  | .addChat chatName => some (.chat chatName)
  | .addMessage chatId senderId messageText =>
      some (.message chatId.toNat senderId.toNat messageText)
  | .setTrelloToken userId trelloToken => some (.token userId.toNat trelloToken)
  | _ => none

def listDocument : List (Json Key) → Json Key
  | [] => .null
  | elements => .array elements

theorem elements_listDocument (elements : List (Json Key)) :
    (listDocument elements).elements = elements := by
  cases elements <;> rfl

/-- What one call may do to the store and answer. -/
inductive Served (store : Store) : Call → Reply → Store → Prop
  | failed {call : Call} : Served store call .fail store
  | inserted {call : Call} {row : NewRow} {stored : StoredRow} {after : Store}
      (inserts : call.newRow = some row) (clean : 0 ∉ row.text)
      (encoded : validUtf8 row.text = true) (stores : row.Stores stored)
      (added : after.toTables = store.toTables.add stored) :
      Served store call .success after
  | linkedBefore {userId chatId : SizeT}
      (linked : store.Linked userId.toNat chatId.toNat) :
      Served store (.linkUserToChat userId chatId) .success store
  | linked {userId chatId : SizeT} {after : Store}
      (unlinked : ¬ store.Linked userId.toNat chatId.toNat)
      (added : after.toTables =
        store.toTables.add (.link ⟨userId.toNat, chatId.toNat⟩)) :
      Served store (.linkUserToChat userId chatId) .success after
  | noUserNamed {userName : Bytes}
      (missing : ∀ row ∈ store.users, row.userName ≠ userName) :
      Served store (.findUser userName) .userNotFound store
  | userNamed {row : UserRow} {userName : Bytes} {written : Document}
      (member : row ∈ store.users) (same : row.userName = userName)
      (value : written.value = userDocument row.userId row.userName) :
      Served store (.findUser userName) (.document written) store
  | noUser {userId : SizeT} (missing : ¬ store.HasUser userId.toNat) :
      Served store (.getUserName userId) .userNotFound store
  | user {row : UserRow} {userId : SizeT} {written : Document}
      (member : row ∈ store.users) (same : row.userId = userId.toNat)
      (value : written.value = userDocument row.userId row.userName) :
      Served store (.getUserName userId) (.document written) store
  | noChat {chatId : SizeT} {written : Document}
      (missing : ¬ store.HasChat chatId.toNat) (value : written.value = .null) :
      Served store (.getChatName chatId) (.document written) store
  | chat {row : ChatRow} {chatId : SizeT} {written : Document}
      (member : row ∈ store.chats) (same : row.chatId = chatId.toNat)
      (value : written.value = chatDocument row.chatId row.chatName) :
      Served store (.getChatName chatId) (.document written) store
  | noChatNamed {chatName : Bytes} {written : Document}
      (missing : ∀ row ∈ store.chats, row.chatName ≠ chatName)
      (value : written.value = .null) :
      Served store (.getChatId chatName) (.document written) store
  | chatNamed {row : ChatRow} {chatName : Bytes} {written : Document}
      (member : row ∈ store.chats) (same : row.chatName = chatName)
      (value : written.value =
        chatDocument row.chatId (Sql.doubleQuotes chatName)) :
      Served store (.getChatId chatName) (.document written) store
  | history {chatId : SizeT} {rows : List MessageRow} {written : Document}
      (matching : rows.Perm
        (store.messages.filter fun row => row.chatId = chatId.toNat))
      (value : written.value = listDocument (rows.map fun row =>
        messageDocument row.chatId row.senderId row.messageText)) :
      Served store (.getChatHistory chatId) (.document written) store
  | chatList {userId : SizeT} {rows : List LinkRow} {written : Document}
      (matching : rows.Perm
        (store.userIdChatId.filter fun row => row.userId = userId.toNat))
      (value : written.value = listDocument (rows.map fun row =>
        .object [(.chatId, .number row.chatId)])) :
      Served store (.getChatList userId) (.document written) store
  | members {chatId : SizeT} {rows : List LinkRow} {written : Document}
      (matching : rows.Perm
        (store.userIdChatId.filter fun row => row.chatId = chatId.toNat))
      (value : written.value = listDocument (rows.map fun row =>
        .object [(.userId, .number row.userId)])) :
      Served store (.getChatMembers chatId) (.document written) store
  | noToken {userId : SizeT} {written : Document}
      (missing : ∀ row ∈ store.userIdTrelloToken, row.userId ≠ userId.toNat)
      (value : written.value = .null) :
      Served store (.getTrelloToken userId) (.document written) store
  | token {row : TokenRow} {userId : SizeT} {written : Document}
      (member : row ∈ store.userIdTrelloToken) (same : row.userId = userId.toNat)
      (value : written.value = .object [(.trelloToken, .string row.trelloToken)]) :
      Served store (.getTrelloToken userId) (.document written) store

theorem Served.grows {store after : Store} {call : Call} {reply : Reply}
    (served : Served store call reply after) : store.Grows after := by
  cases served with
  | inserted _ _ _ _ added => exact Store.grows_of_add added
  | linked _ added => exact Store.grows_of_add added
  | _ => exact Store.Grows.refl store

theorem Served.linked_cases {store after : Store} {call : Call} {reply : Reply}
    {userId chatId : Nat} (served : Served store call reply after)
    (linked : after.Linked userId chatId) :
    store.Linked userId chatId ∨
      ∃ user chat : SizeT, call = .linkUserToChat user chat ∧ user.toNat = userId ∧
        chat.toNat = chatId := by
  cases served with
  | @inserted call row stored after inserts clean encoded stores added =>
      left
      rw [Tables.Linked, added] at linked
      cases stores with
      | link => cases call <;> cases inserts
      | _ => exact linked
  | @linked user chat after unlinked added =>
      rw [Tables.Linked, added] at linked
      rcases List.mem_append.mp linked with earlier | new
      · exact .inl earlier
      · cases List.mem_singleton.mp new
        exact .inr ⟨user, chat, rfl, rfl, rfl⟩
  | _ => exact .inl linked

/-- The message a successful call stores. -/
def posted : Call → Reply → List MessageRow
  | .addMessage chatId senderId messageText, .success =>
      [⟨chatId.toNat, senderId.toNat, messageText⟩]
  | _, _ => []

theorem Served.messages {store after : Store} {call : Call} {reply : Reply}
    (served : Served store call reply after) :
    after.messages = store.messages ++ posted call reply := by
  cases served with
  | @inserted call row stored after inserts clean encoded stores added =>
      rw [added]
      cases stores with
      | message =>
          cases call <;> cases inserts
          rfl
      | _ =>
          cases call <;> cases inserts <;> exact (List.append_nil _).symm
  | linked unlinked added =>
      rw [added]
      exact (List.append_nil _).symm
  | @failed call => cases call <;> exact (List.append_nil _).symm
  | _ => exact (List.append_nil _).symm

/-! Rows in the order the service happened to return them. -/

theorem perm_map_inv {f : α → β} {ys : List β} {xs : List α}
    (perm : ys.Perm (xs.map f)) : ∃ zs : List α, zs.Perm xs ∧ ys = zs.map f := by
  obtain ⟨zs, same, zsPerm⟩ := (congrFun₂ (List.eq_map_comp_perm f) ys xs).mpr perm
  exact ⟨zs, zsPerm, same⟩

theorem filter_key_cases {key : α → β} [DecidableEq β] {xs : List α}
    (distinct : (xs.map key).Nodup) (value : β) :
    (∀ x ∈ xs, key x ≠ value) ∧ (xs.filter fun x => key x = value) = [] ∨
      ∃ x ∈ xs, key x = value ∧ (xs.filter fun x => key x = value) = [x] := by
  induction xs with
  | nil => simp
  | cons x xs induction =>
      rw [List.map_cons, List.nodup_cons] at distinct
      by_cases here : key x = value
      · right
        have others : (xs.filter fun x => key x = value) = [] := by
          rw [List.filter_eq_nil_iff]
          intro other member same
          apply distinct.1
          rw [here, ← of_decide_eq_true same]
          exact List.mem_map_of_mem member
        exact ⟨x, by simp, here, by simp [here, others]⟩
      · rcases induction distinct.2 with ⟨missing, empty⟩ | ⟨found, member, same, single⟩
        · left
          exact ⟨by simpa [here] using missing, by simp [here, empty]⟩
        · right
          exact ⟨found, by simp [member], same, by simp [here, single]⟩

end BpkMessenger.Server
