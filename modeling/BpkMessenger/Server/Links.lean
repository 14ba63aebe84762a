import BpkMessenger.Server.Run

namespace BpkMessenger.Server

open Text

/-! The membership relation.  Nothing declares its rows unique; the check before the
insert keeps them so. -/

variable {pg : Postgres}

theorem Served.links {store after : Store} {call : Call} {reply : Reply}
    (served : Served store call reply after) :
    after.userIdChatId = store.userIdChatId ∨
      ∃ userId chatId : SizeT, call = .linkUserToChat userId chatId ∧ reply = .success ∧
        ¬ store.Linked userId.toNat chatId.toNat ∧
          after.userIdChatId = store.userIdChatId ++ [⟨userId.toNat, chatId.toNat⟩] := by
  cases served with
  | @inserted call row stored after inserts clean encoded stores added =>
      left
      rw [added]
      cases stores with
      | link => cases call <;> cases inserts
      | _ => rfl
  | @linked userId chatId after unlinked added =>
      refine .inr ⟨userId, chatId, rfl, rfl, unlinked, ?_⟩
      rw [added]
      rfl
  | _ => exact .inl rfl

theorem Served.links_nodup {store after : Store} {call : Call} {reply : Reply}
    (served : Served store call reply after) (distinct : store.userIdChatId.Nodup) :
    after.userIdChatId.Nodup := by
  rcases served.links with same | ⟨userId, chatId, -, -, unlinked, added⟩
  · rw [same]
    exact distinct
  · rw [added]
    exact distinct.append (List.nodup_singleton _) (by simpa [Tables.Linked] using unlinked)

theorem Served.linked_of_success {store after : Store} {userId chatId : SizeT}
    (served : Served store (.linkUserToChat userId chatId) .success after) :
    after.Linked userId.toNat chatId.toNat := by
  cases served with
  | inserted inserts => cases inserts
  | linkedBefore linked => exact linked
  | linked unlinked added =>
      rw [Tables.Linked, added]
      exact List.mem_append_right _ (List.mem_singleton_self _)

/-- Some request to link the user to the chat was answered SUCCESS. -/
def Joined (handled : List Entry) (userId chatId : SizeT) : Prop :=
  ∃ entry ∈ handled, entry.Answered (.linkUserToChat userId chatId) .success

/-- The links are those that were asked for with success, each once. -/
structure LinkSet (handled : List Entry) (store : Store) : Prop where
  distinct : store.userIdChatId.Nodup
  joined : ∀ userId chatId : SizeT,
    store.Linked userId.toNat chatId.toNat ↔ Joined handled userId chatId

theorem LinkSet.empty : LinkSet [] .empty := by
  refine ⟨List.nodup_nil, fun userId chatId => ⟨fun linked => ?_, ?_⟩⟩
  · exact absurd linked List.not_mem_nil
  · intro asked
    obtain ⟨entry, member, -⟩ := asked
    exact absurd member List.not_mem_nil

theorem LinkSet.step {handled : List Entry} {entry : Entry} (lawful : entry.Lawful)
    (links : LinkSet handled entry.before) : LinkSet (handled ++ [entry]) entry.after := by
  obtain ⟨distinct, joined⟩ := links
  refine ⟨?_, fun userId chatId => ⟨fun linked => ?_, ?_⟩⟩
  · rcases lawful with ⟨-, same⟩ | ⟨call, reply, answered, served⟩
    · rw [same]
      exact distinct
    · exact served.links_nodup distinct
  · by_cases before : entry.before.Linked userId.toNat chatId.toNat
    · obtain ⟨earlier, member, answered⟩ := (joined userId chatId).mp before
      exact ⟨earlier, List.mem_append_left _ member, answered⟩
    · rcases lawful with ⟨-, same⟩ | ⟨call, reply, answered, served⟩
      · rw [same] at linked
        exact absurd linked before
      · rcases served.links with same | ⟨user, chat, rfl, rfl, unlinked, added⟩
        · rw [Tables.Linked, same] at linked
          exact absurd linked before
        · rw [Tables.Linked, added] at linked
          rcases List.mem_append.mp linked with earlier | new
          · exact absurd earlier before
          · have row := List.mem_singleton.mp new
            have sameUser := UInt64.toNat_inj.mp (congrArg LinkRow.userId row)
            have sameChat := UInt64.toNat_inj.mp (congrArg LinkRow.chatId row)
            subst sameUser sameChat
            exact ⟨entry, List.mem_append_right _ (List.mem_singleton_self _), answered⟩
  · intro asked
    obtain ⟨other, member, answered⟩ := asked
    rcases List.mem_append.mp member with earlier | last
    · exact lawful.grows.linked ((joined userId chatId).mpr ⟨other, earlier, answered⟩)
    · rw [List.mem_singleton.mp last] at answered
      exact (lawful.served answered).linked_of_success

theorem onMessages_linkSet (frames : List (Frame pg)) :
    LinkSet (onMessages .empty frames).1 (onMessages .empty frames).2 :=
  onMessages_invariant LinkSet.empty LinkSet.step frames

/-! The two views. -/

section Views

variable {store after : Store} {reply : Reply}

private theorem eq_of_ids {first second : LinkRow} (sameUser : first.userId = second.userId)
    (sameChat : first.chatId = second.chatId) : first = second := by
  cases first
  cases second
  cases sameUser
  cases sameChat
  rfl

/-- One column of the links that have a given value in the other. -/
private theorem column_of {links rows : List LinkRow} {key column : LinkRow → Nat}
    {id : Nat} (determined : ∀ first second : LinkRow, key first = key second →
      column first = column second → first = second) (distinct : links.Nodup)
    (matching : rows.Perm (links.filter fun row => key row = id)) :
    (rows.map column).Nodup ∧
      ∀ value, value ∈ rows.map column ↔ ∃ row ∈ links, key row = id ∧ column row = value := by
  have listed : ∀ row, row ∈ rows ↔ row ∈ links ∧ key row = id := by
    intro row
    rw [matching.mem_iff, List.mem_filter, decide_eq_true_eq]
  refine ⟨?_, fun value => ?_⟩
  · apply (matching.nodup_iff.mpr (distinct.filter _)).map_on
    intro first firstMember second secondMember same
    apply determined first second _ same
    exact ((listed first).mp firstMember).2.trans ((listed second).mp secondMember).2.symm
  · simp only [List.mem_map, listed, and_assoc]

theorem Served.members_of (distinct : store.userIdChatId.Nodup) {chatId : SizeT}
    (served : Served store (.getChatMembers chatId) reply after) (answered : reply ≠ .fail) :
    ∃ written : Document, reply = .document written ∧ ∃ members : List Nat,
      written.value = listDocument (members.map fun id => .object [(.userId, .number id)]) ∧
        members.Nodup ∧ ∀ userId, userId ∈ members ↔ store.Linked userId chatId.toNat := by
  cases served with
  | failed => contradiction
  | inserted inserts => cases inserts
  | @members _ rows written matching value =>
      obtain ⟨once, listed⟩ := @column_of _ rows LinkRow.chatId LinkRow.userId _
        (fun first second sameChat sameUser => eq_of_ids sameUser sameChat)
        distinct matching
      refine ⟨written, rfl, rows.map LinkRow.userId, ?_, once, fun userId => ?_⟩
      · rw [value, List.map_map]
        rfl
      · rw [listed]
        constructor
        · intro listed
          obtain ⟨row, stored, same, rfl⟩ := listed
          rw [Tables.Linked, ← same]
          exact stored
        · intro linked
          exact ⟨_, linked, rfl, rfl⟩

theorem Served.chats_of (distinct : store.userIdChatId.Nodup) {userId : SizeT}
    (served : Served store (.getChatList userId) reply after) (answered : reply ≠ .fail) :
    ∃ written : Document, reply = .document written ∧ ∃ chats : List Nat,
      written.value = listDocument (chats.map fun id => .object [(.chatId, .number id)]) ∧
        chats.Nodup ∧ ∀ chatId, chatId ∈ chats ↔ store.Linked userId.toNat chatId := by
  cases served with
  | failed => contradiction
  | inserted inserts => cases inserts
  | @chatList _ rows written matching value =>
      obtain ⟨once, listed⟩ := @column_of _ rows LinkRow.userId LinkRow.chatId _
        (fun first second sameUser sameChat => eq_of_ids sameUser sameChat)
        distinct matching
      refine ⟨written, rfl, rows.map LinkRow.chatId, ?_, once, fun chatId => ?_⟩
      · rw [value, List.map_map]
        rfl
      · rw [listed]
        constructor
        · intro listed
          obtain ⟨row, stored, same, rfl⟩ := listed
          rw [Tables.Linked, ← same]
          exact stored
        · intro linked
          exact ⟨_, linked, rfl, rfl⟩

end Views

/-- After every run from empty tables no pair is linked twice, and the members of a
chat and the chats of a user tell the same: who was linked with success. -/
theorem membership_agrees (pg : Postgres) (frames : List (Frame pg)) :
    (onMessages .empty frames).2.userIdChatId.Nodup ∧
    ∀ (userId chatId : SizeT) (first second : Frame pg) (membersReply listReply : Reply),
      (first.entry (onMessages .empty frames).2).Answered (.getChatMembers chatId)
          membersReply → membersReply ≠ .fail →
        (second.entry (onMessages .empty frames).2).Answered (.getChatList userId)
            listReply → listReply ≠ .fail →
          ∃ (membersWritten listWritten : Document) (members chats : List Nat),
            membersReply = .document membersWritten ∧
              membersWritten.value = listDocument (members.map fun id =>
                .object [(.userId, .number id)]) ∧
              listReply = .document listWritten ∧
              listWritten.value = listDocument (chats.map fun id =>
                .object [(.chatId, .number id)]) ∧
              members.Nodup ∧ chats.Nodup ∧
              (userId.toNat ∈ members ↔ chatId.toNat ∈ chats) ∧
              (userId.toNat ∈ members ↔
                Joined (onMessages .empty frames).1 userId chatId) := by
  obtain ⟨distinct, joined⟩ := onMessages_linkSet frames
  refine ⟨distinct, ?_⟩
  intro userId chatId first second membersReply listReply membersAnswered membersGiven
    listAnswered listGiven
  obtain ⟨membersWritten, rfl, members, membersValue, membersDistinct, listed⟩ :=
    ((first.entry_lawful _).served membersAnswered).members_of distinct membersGiven
  obtain ⟨listWritten, rfl, chats, chatsValue, chatsDistinct, shown⟩ :=
    ((second.entry_lawful _).served listAnswered).chats_of distinct listGiven
  refine ⟨membersWritten, listWritten, members, chats, rfl, membersValue, rfl, chatsValue,
    membersDistinct, chatsDistinct, ?_, ?_⟩
  · exact (listed userId.toNat).trans (shown chatId.toNat).symm
  · exact (listed userId.toNat).trans (joined userId chatId)

/-- Ann is linked to her chat twice. -/
def linkedTwice : List (Frame Reference.postgres) :=
  [⟨ascii "add_user ann", .text, List.replicate 4 ⟨true, 1⟩⟩,
    ⟨ascii "add_chat notes", .text, List.replicate 4 ⟨true, 1⟩⟩,
    ⟨ascii "link_user_to_chat 1 1", .text, List.replicate 4 ⟨true, 1⟩⟩,
    ⟨ascii "link_user_to_chat 1 1", .text, List.replicate 4 ⟨true, 1⟩⟩]

def asksMembers : Frame Reference.postgres :=
  ⟨ascii "get_chat_members 1", .text, List.replicate 4 ⟨true, 1⟩⟩

def asksChats : Frame Reference.postgres :=
  ⟨ascii "get_chat_list 1", .text, List.replicate 4 ⟨true, 1⟩⟩

private theorem linkedTwice_sent :
    (onMessages .empty linkedTwice).1.map (fun entry => entry.sent.map Message.payload) =
        List.replicate 4 [ascii "SUCCESS"] ∧
      (onMessages .empty linkedTwice).2.userIdChatId = [⟨1, 1⟩] := by
  decide +kernel

/-- Both views are answered. -/
private theorem linkedTwice_views :
    ((Call.getChatMembers 1).run asksMembers.chances (onMessages .empty linkedTwice).2).1.text ≠
        ascii "FAIL" ∧
      ((Call.getChatList 1).run asksChats.chances (onMessages .empty linkedTwice).2).1.text ≠
        ascii "FAIL" := by
  decide +kernel

private theorem ne_fail_of_ne_text {reply : Reply} (other : reply.text ≠ ascii "FAIL") :
    reply ≠ .fail := by
  rintro rfl
  exact other rfl

theorem membership_agrees_twice :
    (onMessages .empty linkedTwice).1.map (fun entry => entry.sent.map Message.payload) =
        List.replicate 4 [ascii "SUCCESS"] ∧
      ∃ (membersWritten listWritten : Document) (members chats : List Nat),
        (asksMembers.entry (onMessages .empty linkedTwice).2).Answered (.getChatMembers 1)
          (.document membersWritten) ∧
        (asksChats.entry (onMessages .empty linkedTwice).2).Answered (.getChatList 1)
          (.document listWritten) ∧
        membersWritten.value = listDocument (members.map fun id =>
          .object [(.userId, .number id)]) ∧
        listWritten.value = listDocument (chats.map fun id =>
          .object [(.chatId, .number id)]) ∧
        members.Nodup ∧ chats.Nodup ∧ 1 ∈ members ∧ 1 ∈ chats := by
  have members := Frame.entry_answered asksMembers
    (@spelled_of_dispatch _ (.getChatMembers 1) (by decide)) (onMessages .empty linkedTwice).2
  have list := Frame.entry_answered asksChats
    (@spelled_of_dispatch _ (.getChatList 1) (by decide)) (onMessages .empty linkedTwice).2
  obtain ⟨membersGiven, listGiven⟩ := linkedTwice_views
  obtain ⟨membersWritten, listWritten, users, chats, membersReply, membersValue, listReply,
    listValue, usersDistinct, chatsDistinct, both, joined⟩ :=
    (membership_agrees Reference.postgres linkedTwice).2 1 1 asksMembers asksChats _ _ members
      (ne_fail_of_ne_text membersGiven) list (ne_fail_of_ne_text listGiven)
  rw [membersReply] at members
  rw [listReply] at list
  have linked : (onMessages .empty linkedTwice).2.Linked 1 1 := by
    rw [Tables.Linked, linkedTwice_sent.2]
    exact List.mem_cons_self
  have member := joined.mpr (((onMessages_linkSet linkedTwice).joined 1 1).mp linked)
  exact ⟨linkedTwice_sent.1, membersWritten, listWritten, users, chats, members, list,
    membersValue, listValue, usersDistinct, chatsDistinct, member, both.mp member⟩

end BpkMessenger.Server
