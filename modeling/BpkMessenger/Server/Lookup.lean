import BpkMessenger.Server.Names

namespace BpkMessenger.Server

open Text

/-! A stored record, asked for by its name and by its id. -/

variable {pg : Postgres}

/-- A payload is answered with this reply, for some chances of the database. -/
def Replies (pg : Postgres) (store : Store) (payload : Bytes) (reply : Reply) : Prop :=
  ∃ (chances : List pg.Chance) (opcode : Opcode),
    (onMessage chances store payload opcode).1 = [⟨opcode, .reply reply⟩]

def Reply.Gives (reply : Reply) (value : Json Key) : Prop :=
  ∃ written : Document, reply = .document written ∧ written.value = value

theorem Replies.served {store : Store} {payload : Bytes} {call : Call} {reply : Reply}
    (replies : Replies pg store payload reply) (spelled : Spelled payload call) :
    ∃ after, Served store call reply after := by
  obtain ⟨chances, opcode, sent⟩ := replies
  rw [onMessage_call (dispatch_of_spelled spelled)] at sent
  cases sent
  exact ⟨_, Call.run_served rfl⟩

section Records

variable {store after : Store} {reply : Reply}

/-- The name in the document is the name asked for, after its quotes were doubled. -/
theorem Served.chatNamed_gives {row : ChatRow} (stored : row ∈ store.chats)
    (served : Served store (.getChatId row.chatName) reply after) (answered : reply ≠ .fail) :
    reply.Gives (chatDocument row.chatId (Sql.doubleQuotes row.chatName)) := by
  cases served with
  | failed => contradiction
  | inserted inserts => cases inserts
  | noChatNamed missing value => exact absurd rfl (missing row stored)
  | chatNamed member same value =>
      cases Store.chat_of_name stored member same.symm
      exact ⟨_, rfl, value⟩

theorem Served.userNamed_gives {row : UserRow} (stored : row ∈ store.users)
    (served : Served store (.findUser row.userName) reply after) (answered : reply ≠ .fail) :
    reply.Gives (userDocument row.userId row.userName) := by
  cases served with
  | failed => contradiction
  | inserted inserts => cases inserts
  | noUserNamed missing => exact absurd rfl (missing row stored)
  | userNamed member same value =>
      cases Store.user_of_name stored member same.symm
      exact ⟨_, rfl, value⟩

theorem Reply.Gives.unique {first second : Json Key} (one : reply.Gives first)
    (other : reply.Gives second) : first = second := by
  obtain ⟨written, rfl, value⟩ := one
  obtain ⟨document, same, otherValue⟩ := other
  cases same
  exact value.symm.trans otherValue

theorem Served.chat_gives {row : ChatRow} {chatId : SizeT} (stored : row ∈ store.chats)
    (same : row.chatId = chatId.toNat)
    (served : Served store (.getChatName chatId) reply after) (answered : reply ≠ .fail) :
    reply.Gives (chatDocument row.chatId row.chatName) :=
  (served.chatName stored same).resolve_left answered

theorem Served.user_gives {row : UserRow} {userId : SizeT} (stored : row ∈ store.users)
    (same : row.userId = userId.toNat)
    (served : Served store (.getUserName userId) reply after) (answered : reply ≠ .fail) :
    reply.Gives (userDocument row.userId row.userName) :=
  (served.userName stored same).resolve_left answered

end Records

theorem chatDocument_doubled {chatId : Nat} {name : Bytes} :
    chatDocument chatId (Sql.doubleQuotes name) = chatDocument chatId name ↔ 39 ∉ name := by
  simp only [chatDocument, Json.object.injEq, List.cons.injEq, Prod.mk.injEq,
    Json.string.injEq, true_and, and_true]
  exact Sql.doubleQuotes_eq_self_iff

theorem small_id {n : Nat} (small : n < 2 ^ 31) :
    n = (UInt64.ofNat n).toNat ∧ decimal n = stdToString (UInt64.ofNat n) := by
  have same : (UInt64.ofNat n).toNat = n := UInt64.toNat_ofNat_of_lt (show n < 2 ^ 64 by omega)
  exact ⟨same.symm, by rw [stdToString, same]⟩

theorem spelled_getChatId (name : Bytes) :
    Spelled (ascii "get_chat_id " ++ name) (.getChatId name) :=
  @Spelled.text (ascii "get_chat_id") .getChatId (by simp [textCalls]) 32 name

theorem spelled_findUser (name : Bytes) :
    Spelled (ascii "find_user " ++ name) (.findUser name) :=
  @Spelled.text (ascii "find_user") .findUser (by simp [textCalls]) 32 name

theorem spelled_getChatName_decimal {chatId : Nat} (small : chatId < 2 ^ 31) :
    Spelled (ascii "get_chat_name " ++ decimal chatId)
      (.getChatName (UInt64.ofNat chatId)) := by
  obtain ⟨same, numeral⟩ := small_id small
  rw [numeral]
  exact spelled_getChatName (by omega)

theorem spelled_getUserName_decimal {userId : Nat} (small : userId < 2 ^ 31) :
    Spelled (ascii "get_user_name " ++ decimal userId)
      (.getUserName (UInt64.ofNat userId)) := by
  obtain ⟨same, numeral⟩ := small_id small
  rw [numeral]
  exact spelled_getUserName (by omega)

/-- A stored chat reads the same by name and by id exactly if its name has no quote; a
stored user always does. -/
theorem lookups_agree_iff (pg : Postgres) (store : Store) :
    (∀ chat ∈ store.chats, chat.chatId < 2 ^ 31 → ∀ byName byId : Reply,
      Replies pg store (ascii "get_chat_id " ++ chat.chatName) byName → byName ≠ .fail →
      Replies pg store (ascii "get_chat_name " ++ decimal chat.chatId) byId → byId ≠ .fail →
        (byName.Gives (chatDocument chat.chatId chat.chatName) ∧
          byId.Gives (chatDocument chat.chatId chat.chatName) ↔ 39 ∉ chat.chatName)) ∧
    ∀ user ∈ store.users, user.userId < 2 ^ 31 → ∀ byName byId : Reply,
      Replies pg store (ascii "find_user " ++ user.userName) byName → byName ≠ .fail →
      Replies pg store (ascii "get_user_name " ++ decimal user.userId) byId → byId ≠ .fail →
        byName.Gives (userDocument user.userId user.userName) ∧
          byId.Gives (userDocument user.userId user.userName) := by
  constructor
  · intro chat stored small byName byId named nameAnswered numbered idAnswered
    obtain ⟨_, servedName⟩ := named.served (spelled_getChatId chat.chatName)
    obtain ⟨_, servedId⟩ := numbered.served (spelled_getChatName_decimal small)
    have givenName := servedName.chatNamed_gives stored nameAnswered
    have givenId := servedId.chat_gives stored (small_id small).1 idAnswered
    constructor
    · intro agree
      exact chatDocument_doubled.mp (givenName.unique agree.1)
    · intro plain
      rw [Sql.doubleQuotes_of_notMem plain] at givenName
      exact ⟨givenName, givenId⟩
  · intro user stored small byName byId named nameAnswered numbered idAnswered
    obtain ⟨_, servedName⟩ := named.served (spelled_findUser user.userName)
    obtain ⟨_, servedId⟩ := numbered.served (spelled_getUserName_decimal small)
    exact ⟨servedName.userNamed_gives stored nameAnswered,
      servedId.user_gives stored (small_id small).1 idAnswered⟩

/-! A run that names one chat with a quote and another one without. -/

def quotedRun : List (Frame Reference.postgres) :=
  [⟨ascii "add_chat it's", .text, List.replicate 3 ⟨true, 1⟩⟩,
    ⟨ascii "add_chat notes", .text, List.replicate 3 ⟨true, 2⟩⟩]

private theorem replies_run {payload : Bytes} {call : Call} (spelled : Spelled payload call)
    (chances : List pg.Chance) (store : Store) :
    Replies pg store payload (call.run chances store).1 := by
  refine ⟨chances, .text, ?_⟩
  rw [onMessage_call (dispatch_of_spelled spelled)]

private theorem ne_fail_of_text {reply : Reply} (text : reply.text ≠ ascii "FAIL") :
    reply ≠ .fail := by
  intro failed
  exact text (congrArg Reply.text failed)

private theorem quotedRun_chats : (onMessages .empty quotedRun).2.chats =
    [⟨1, ascii "it's"⟩, ⟨2, ascii "notes"⟩] := by
  decide +kernel

/-- The reply to a call while nothing fails. -/
private def steady (call : Call) : Reply :=
  (@Call.run Reference.postgres call (List.replicate 3 ⟨true, 0⟩)
    (onMessages .empty quotedRun).2).1

private theorem steady_texts :
    ∀ call ∈ [Call.getChatId (ascii "it's"), .getChatName (UInt64.ofNat 1),
      .getChatId (ascii "notes"), .getChatName (UInt64.ofNat 2)],
      (steady call).text ≠ ascii "FAIL" := by
  decide +kernel

private theorem steady_answers {payload : Bytes} {call : Call}
    (spelled : Spelled payload call) (text : (steady call).text ≠ ascii "FAIL") :
    ∃ reply, Replies Reference.postgres (onMessages .empty quotedRun).2 payload reply ∧
      reply ≠ .fail :=
  ⟨steady call, replies_run spelled _ _, ne_fail_of_text text⟩

theorem lookups_agree_notes :
    ∃ byName byId : Reply, byName ≠ .fail ∧ byId ≠ .fail ∧
      (byName.Gives (chatDocument 2 (ascii "notes")) ∧
        byId.Gives (chatDocument 2 (ascii "notes")) ↔ 39 ∉ ascii "notes") := by
  have stored : ⟨2, ascii "notes"⟩ ∈ (onMessages .empty quotedRun).2.chats := by
    simp [quotedRun_chats]
  obtain ⟨byName, named, nameAnswered⟩ :=
    steady_answers (spelled_getChatId (ascii "notes")) (steady_texts _ (by simp))
  obtain ⟨byId, numbered, idAnswered⟩ :=
    steady_answers (@spelled_getChatName_decimal 2 (by decide)) (steady_texts _ (by simp))
  exact ⟨byName, byId, nameAnswered, idAnswered,
    (lookups_agree_iff Reference.postgres (onMessages .empty quotedRun).2).1 _ stored
      (by decide) byName byId named nameAnswered numbered idAnswered⟩

/-- The chat `it's` is `it''s` by its name. -/
theorem lookups_disagree :
    ∃ (chat : ChatRow) (byName byId : Reply),
      chat ∈ (onMessages .empty quotedRun).2.chats ∧ chat.chatId < 2 ^ 31 ∧
      Replies Reference.postgres (onMessages .empty quotedRun).2
        (ascii "get_chat_id " ++ chat.chatName) byName ∧ byName ≠ .fail ∧
      Replies Reference.postgres (onMessages .empty quotedRun).2
        (ascii "get_chat_name " ++ decimal chat.chatId) byId ∧ byId ≠ .fail ∧
      byName.Gives (chatDocument 1 (ascii "it''s")) ∧
      byId.Gives (chatDocument 1 (ascii "it's")) ∧
      ¬ byName.Gives (chatDocument chat.chatId chat.chatName) := by
  have stored : ⟨1, ascii "it's"⟩ ∈ (onMessages .empty quotedRun).2.chats := by
    simp [quotedRun_chats]
  obtain ⟨byName, named, nameAnswered⟩ :=
    steady_answers (spelled_getChatId (ascii "it's")) (steady_texts _ (by simp))
  obtain ⟨byId, numbered, idAnswered⟩ :=
    steady_answers (@spelled_getChatName_decimal 1 (by decide)) (steady_texts _ (by simp))
  obtain ⟨_, servedName⟩ := named.served (spelled_getChatId (ascii "it's"))
  obtain ⟨_, servedId⟩ := numbered.served (@spelled_getChatName_decimal 1 (by decide))
  have givenName := servedName.chatNamed_gives stored nameAnswered
  have givenId := servedId.chat_gives stored rfl idAnswered
  refine ⟨_, byName, byId, stored, by decide, named, nameAnswered, numbered, idAnswered,
    givenName, givenId, ?_⟩
  intro same
  exact absurd (chatDocument_doubled.mp (givenName.unique same)) (by decide)

end BpkMessenger.Server
