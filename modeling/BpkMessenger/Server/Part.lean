import BpkMessenger.Server.Service

namespace BpkMessenger.Server

open Text

/-! The part of the tables that concerns one user: the chats he is in, who is or has spoken
there, and what was said.  It is a database of its own, with the same answers about it. -/

/-- Two users of one chat. -/
def Acquainted (store : Store) (first second : Nat) : Prop :=
  ∃ chatId, store.Linked first chatId ∧ store.Linked second chatId

theorem acquainted_iff {store : Store} {first second : Nat} :
    Acquainted store first second ↔
      ∃ row ∈ store.userIdChatId, row.userId = second ∧ store.Linked first row.chatId := by
  constructor
  · intro acquainted
    obtain ⟨chatId, one, other⟩ := acquainted
    exact ⟨⟨second, chatId⟩, other, rfl, one⟩
  · intro stored
    obtain ⟨⟨userId, chatId⟩, other, rfl, one⟩ := stored
    exact ⟨chatId, one, other⟩

instance (store : Store) (first second : Nat) : Decidable (Acquainted store first second) :=
  decidable_of_iff _ acquainted_iff.symm

theorem Acquainted.grows {store after : Store} {first second : Nat}
    (grown : store.Grows after) (acquainted : Acquainted store first second) :
    Acquainted after first second := by
  obtain ⟨chatId, one, other⟩ := acquainted
  exact ⟨chatId, grown.linked one, grown.linked other⟩

/-- The user himself, whom he shares a chat with, and who has spoken in one of his chats. -/
def Knows (store : Store) (userId other : Nat) : Prop :=
  other = userId ∨ Acquainted store userId other ∨
    ∃ row ∈ store.messages, row.senderId = other ∧ store.Linked userId row.chatId

instance (store : Store) (userId other : Nat) : Decidable (Knows store userId other) :=
  inferInstanceAs (Decidable (_ ∨ _ ∨ ∃ row ∈ store.messages, _ ∧ _))

/-- The rows that concern a user. -/
def Store.rowsOf (store : Store) (userId : Nat) : Tables where
  users := store.users.filter fun row => Knows store userId row.userId
  chats := store.chats.filter fun row => store.Linked userId row.chatId
  userIdChatId := store.userIdChatId.filter fun row => store.Linked userId row.chatId
  messages := store.messages.filter fun row => store.Linked userId row.chatId
  userIdTrelloToken := store.userIdTrelloToken.filter fun row =>
    row.userId = userId ∨ Acquainted store userId row.userId

theorem Store.rowsOf_consistent (store : Store) (userId : Nat) :
    (store.rowsOf userId).Consistent := by
  have consistent := store.consistent
  have known : ∀ other, store.HasUser other → Knows store userId other →
      (store.rowsOf userId).HasUser other := by
    intro other stored knows
    obtain ⟨row, member, rfl⟩ := stored
    exact ⟨row, List.mem_filter.mpr ⟨member, decide_eq_true knows⟩, rfl⟩
  have chosen : ∀ chatId, store.HasChat chatId → store.Linked userId chatId →
      (store.rowsOf userId).HasChat chatId := by
    intro chatId stored linked
    obtain ⟨row, member, rfl⟩ := stored
    exact ⟨row, List.mem_filter.mpr ⟨member, decide_eq_true linked⟩, rfl⟩
  refine ⟨?_, ?_, ?_, ?_, ?_, ?_, ?_, ?_, ?_, ?_, ?_, ?_, ?_, ?_⟩
  · exact consistent.userIds.sublist (List.filter_sublist.map _)
  · exact consistent.userNames.sublist (List.filter_sublist.map _)
  · exact fun row member => consistent.userRange row (List.mem_of_mem_filter member)
  · exact fun row member => consistent.userLength row (List.mem_of_mem_filter member)
  · exact consistent.chatIds.sublist (List.filter_sublist.map _)
  · exact consistent.chatNames.sublist (List.filter_sublist.map _)
  · exact fun row member => consistent.chatRange row (List.mem_of_mem_filter member)
  · exact fun row member => consistent.chatLength row (List.mem_of_mem_filter member)
  · intro row member
    obtain ⟨stored, linked⟩ := List.mem_filter.mp member
    exact known row.userId (consistent.linkUser row stored)
      (.inr (.inl ⟨row.chatId, of_decide_eq_true linked, stored⟩))
  · intro row member
    obtain ⟨stored, linked⟩ := List.mem_filter.mp member
    exact chosen row.chatId (consistent.linkChat row stored) (of_decide_eq_true linked)
  · intro row member
    obtain ⟨stored, linked⟩ := List.mem_filter.mp member
    exact chosen row.chatId (consistent.messageChat row stored) (of_decide_eq_true linked)
  · intro row member
    obtain ⟨stored, linked⟩ := List.mem_filter.mp member
    exact known row.senderId (consistent.messageSender row stored)
      (.inr (.inr ⟨row, stored, rfl, of_decide_eq_true linked⟩))
  · intro row member
    obtain ⟨stored, met⟩ := List.mem_filter.mp member
    exact known row.userId (consistent.tokenUser row stored)
      ((of_decide_eq_true met).imp_right .inl)
  · exact consistent.tokenUnique.sublist (List.filter_sublist.map _)

def Store.part (store : Store) (userId : Nat) : Store where
  toTables := store.rowsOf userId
  consistent := store.rowsOf_consistent userId

/-- The chat is one of the user's, or the id is that of no chat. -/
def OwnChat (userId : SizeT) (store : Store) (chatId : SizeT) : Prop :=
  chatId = 0 ∨ store.Linked userId.toNat chatId.toNat

/-- The calls that read, and that ask about nothing but what concerns a user. -/
inductive Call.About (userId : SizeT) (store : Store) : Call → Prop
  | getChatList : About userId store (.getChatList userId)
  | getChatName {chatId : SizeT} (linked : store.Linked userId.toNat chatId.toNat) :
      About userId store (.getChatName chatId)
  | getChatHistory {chatId : SizeT} (own : OwnChat userId store chatId) :
      About userId store (.getChatHistory chatId)
  | getChatMembers {chatId : SizeT} (own : OwnChat userId store chatId) :
      About userId store (.getChatMembers chatId)
  | getUserName {other : SizeT} (knows : Knows store userId.toNat other.toNat) :
      About userId store (.getUserName other)
  | getTrelloToken {other : SizeT}
      (met : other = 0 ∨ other = userId ∨ Acquainted store userId.toNat other.toNat) :
      About userId store (.getTrelloToken other)

/-- The rows that a reading call looks for are the same. -/
inductive Call.SameRows (first second : Store) : Call → Prop
  | getChatList {userId : SizeT}
      (rows : (first.userIdChatId.filter fun row => row.userId = userId.toNat) =
        second.userIdChatId.filter fun row => row.userId = userId.toNat) :
      SameRows first second (.getChatList userId)
  | getChatName {chatId : SizeT}
      (rows : (first.chats.filter fun row => row.chatId = chatId.toNat) =
        second.chats.filter fun row => row.chatId = chatId.toNat) :
      SameRows first second (.getChatName chatId)
  | getChatHistory {chatId : SizeT}
      (rows : (first.messages.filter fun row => row.chatId = chatId.toNat) =
        second.messages.filter fun row => row.chatId = chatId.toNat) :
      SameRows first second (.getChatHistory chatId)
  | getChatMembers {chatId : SizeT}
      (rows : (first.userIdChatId.filter fun row => row.chatId = chatId.toNat) =
        second.userIdChatId.filter fun row => row.chatId = chatId.toNat) :
      SameRows first second (.getChatMembers chatId)
  | getUserName {userId : SizeT}
      (rows : (first.users.filter fun row => row.userId = userId.toNat) =
        second.users.filter fun row => row.userId = userId.toNat) :
      SameRows first second (.getUserName userId)
  | getTrelloToken {userId : SizeT}
      (rows : (first.userIdTrelloToken.filter fun row => row.userId = userId.toNat) =
        second.userIdTrelloToken.filter fun row => row.userId = userId.toNat) :
      SameRows first second (.getTrelloToken userId)

theorem Call.SameRows.symm {first second : Store} {call : Call}
    (same : call.SameRows first second) : call.SameRows second first := by
  cases same with
  | getChatList rows => exact .getChatList rows.symm
  | getChatName rows => exact .getChatName rows.symm
  | getChatHistory rows => exact .getChatHistory rows.symm
  | getChatMembers rows => exact .getChatMembers rows.symm
  | getUserName rows => exact .getUserName rows.symm
  | getTrelloToken rows => exact .getTrelloToken rows.symm

/-- The rows with some value in a column, as a lookup finds them. -/
theorem mem_of_filter_eq {α : Type} {first second : List α} {key : α → Nat} {value : Nat}
    (rows : (first.filter fun row => key row = value) =
      second.filter fun row => key row = value) {row : α} (member : row ∈ first)
    (same : key row = value) : row ∈ second := by
  have listed : row ∈ first.filter fun row => key row = value :=
    List.mem_filter.mpr ⟨member, decide_eq_true same⟩
  rw [rows] at listed
  exact List.mem_of_mem_filter listed

/-- The same rows have the same answers. -/
theorem Served.sameRows {first second after : Store} {call : Call} {reply : Reply}
    (same : call.SameRows first second) (served : Served first call reply after) :
    Served second call reply second := by
  cases same with
  | getChatList rows =>
      cases served with
      | chatList matching value => exact .chatList (rows ▸ matching) value
      | failed => exact .failed
      | inserted inserts => cases inserts
  | getChatName rows =>
      cases served with
      | noChat missing value =>
          refine .noChat (fun stored => missing ?_) value
          obtain ⟨row, member, found⟩ := stored
          exact ⟨row, mem_of_filter_eq rows.symm member found, found⟩
      | chat member found value => exact .chat (mem_of_filter_eq rows member found) found value
      | failed => exact .failed
      | inserted inserts => cases inserts
  | getChatHistory rows =>
      cases served with
      | history matching value => exact .history (rows ▸ matching) value
      | failed => exact .failed
      | inserted inserts => cases inserts
  | getChatMembers rows =>
      cases served with
      | members matching value => exact .members (rows ▸ matching) value
      | failed => exact .failed
      | inserted inserts => cases inserts
  | getUserName rows =>
      cases served with
      | noUser missing =>
          refine .noUser fun stored => missing ?_
          obtain ⟨row, member, found⟩ := stored
          exact ⟨row, mem_of_filter_eq rows.symm member found, found⟩
      | user member found value => exact .user (mem_of_filter_eq rows member found) found value
      | failed => exact .failed
      | inserted inserts => cases inserts
  | getTrelloToken rows =>
      cases served with
      | noToken missing value =>
          refine .noToken (fun row member found => ?_) value
          exact missing row (mem_of_filter_eq rows.symm member found) found
      | token member found value =>
          exact .token (mem_of_filter_eq rows member found) found value
      | failed => exact .failed
      | inserted inserts => cases inserts

/-! What concerns a user is in his part. -/

theorem filter_filter_of_imp {α : Type} {rows : List α} {asked kept : α → Bool}
    (implies : ∀ row ∈ rows, asked row = true → kept row = true) :
    (rows.filter kept).filter asked = rows.filter asked := by
  rw [List.filter_filter]
  apply List.filter_congr
  intro row member
  cases found : asked row with
  | false => rfl
  | true => exact implies row member found

/-- No row is about the chat 0. -/
theorem OwnChat.linked {userId chatId : SizeT} {store : Store}
    (own : OwnChat userId store chatId) (stored : store.HasChat chatId.toNat) :
    store.Linked userId.toNat chatId.toNat := by
  rcases own with rfl | linked
  · have positive := (Store.hasChat_pos stored).1
    contradiction
  · exact linked

theorem Call.About.sameRows {userId : SizeT} {store : Store} {call : Call}
    (about : call.About userId store) : call.SameRows (store.part userId.toNat) store := by
  cases about with
  | getChatList =>
      refine .getChatList (filter_filter_of_imp fun row member asked => ?_)
      have found := of_decide_eq_true asked
      apply decide_eq_true
      rw [← found]
      exact member
  | getChatName linked =>
      refine .getChatName (filter_filter_of_imp fun row member asked => ?_)
      apply decide_eq_true
      rw [of_decide_eq_true asked]
      exact linked
  | getChatHistory own =>
      refine .getChatHistory (filter_filter_of_imp fun row member asked => ?_)
      have found := of_decide_eq_true asked
      apply decide_eq_true
      rw [found]
      apply own.linked
      rw [← found]
      exact store.consistent.messageChat row member
  | getChatMembers own =>
      refine .getChatMembers (filter_filter_of_imp fun row member asked => ?_)
      have found := of_decide_eq_true asked
      apply decide_eq_true
      rw [found]
      apply own.linked
      rw [← found]
      exact store.consistent.linkChat row member
  | getUserName knows =>
      refine .getUserName (filter_filter_of_imp fun row member asked => ?_)
      apply decide_eq_true
      rw [of_decide_eq_true asked]
      exact knows
  | getTrelloToken met =>
      refine .getTrelloToken (filter_filter_of_imp fun row member asked => ?_)
      have found := of_decide_eq_true asked
      apply decide_eq_true
      rw [found]
      rcases met with rfl | rfl | acquainted
      · -- no user has the id 0
        obtain ⟨user, stored, same⟩ := store.consistent.tokenUser row member
        have positive := (store.consistent.userRange user stored).1
        rw [same, found] at positive
        contradiction
      · exact .inl rfl
      · exact .inr acquainted

/-- Whatever is asked about what concerns a user, the tables might as well hold no more. -/
theorem Call.About.served_iff {userId : SizeT} {store : Store} {call : Call}
    (about : call.About userId store) (reply : Reply) :
    Served store call reply store ↔
      Served (store.part userId.toNat) call reply (store.part userId.toNat) :=
  ⟨fun served => served.sameRows about.sameRows.symm,
    fun served => served.sameRows about.sameRows⟩

end BpkMessenger.Server
