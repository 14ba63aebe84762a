import BpkMessenger.Server.Run

namespace BpkMessenger.Server

open Text

/-! Names and the ids they are stored under, over whole runs. -/

variable {pg : Postgres}

def Carries (key : Key) (value : Json Key) (id : Nat) : Prop :=
  value.index key = .ok (.number id)

/-- The replies that hand out the id of a chat. -/
inductive GivesChat : Call → Document → Nat → Prop
  | found {chatName : Bytes} {written : Document} {chatId : Nat}
      (carries : Carries .chatId written.value chatId) :
      GivesChat (.getChatId chatName) written chatId
  | listed {userId : SizeT} {written : Document} {element : Json Key} {chatId : Nat}
      (member : element ∈ written.value.elements)
      (carries : Carries .chatId element chatId) :
      GivesChat (.getChatList userId) written chatId

/-- The replies that hand out the id of a user. -/
inductive GivesUser : Call → Document → Nat → Prop
  | found {userName : Bytes} {written : Document} {userId : Nat}
      (carries : Carries .userId written.value userId) :
      GivesUser (.findUser userName) written userId
  | member {chatId : SizeT} {written : Document} {element : Json Key} {userId : Nat}
      (member : element ∈ written.value.elements)
      (carries : Carries .userId element userId) :
      GivesUser (.getChatMembers chatId) written userId
  | sender {chatId : SizeT} {written : Document} {element : Json Key} {userId : Nat}
      (member : element ∈ written.value.elements)
      (carries : Carries .senderId element userId) :
      GivesUser (.getChatHistory chatId) written userId

section Replies

variable {store after : Store} {reply : Reply} {written : Document} {call : Call}

private theorem listed_element {rows : List α} {document : α → Json Key}
    {value element : Json Key} (listed : value = listDocument (rows.map document))
    (member : element ∈ value.elements) : ∃ row ∈ rows, document row = element := by
  rw [listed, elements_listDocument] at member
  exact List.mem_map.mp member

theorem Served.givesChat {chatId : Nat}
    (served : Served store call (.document written) after)
    (gives : GivesChat call written chatId) : after.HasChat chatId := by
  cases gives with
  | found carries =>
      cases served with
      | noChatNamed missing value =>
          rw [Carries, value] at carries
          cases carries
      | @chatNamed row _ _ member same value =>
          rw [Carries, value] at carries
          cases carries
          exact ⟨row, member, rfl⟩
  | listed member carries =>
      cases served with
      | chatList matching value =>
          obtain ⟨row, rowMember, rfl⟩ := listed_element value member
          cases carries
          exact store.consistent.linkChat row
            (List.mem_filter.mp (matching.subset rowMember)).1

theorem Served.givesUser {userId : Nat}
    (served : Served store call (.document written) after)
    (gives : GivesUser call written userId) : after.HasUser userId := by
  cases gives with
  | found carries =>
      cases served with
      | @userNamed row _ _ member same value =>
          rw [Carries, value] at carries
          cases carries
          exact ⟨row, member, rfl⟩
  | member member carries =>
      cases served with
      | members matching value =>
          obtain ⟨row, rowMember, rfl⟩ := listed_element value member
          cases carries
          exact store.consistent.linkUser row
            (List.mem_filter.mp (matching.subset rowMember)).1
  | sender member carries =>
      cases served with
      | history matching value =>
          obtain ⟨row, rowMember, rfl⟩ := listed_element value member
          cases carries
          exact store.consistent.messageSender row
            (List.mem_filter.mp (matching.subset rowMember)).1

theorem Served.chatName {row : ChatRow} {chatId : SizeT} (stored : row ∈ store.chats)
    (same : row.chatId = chatId.toNat)
    (served : Served store (.getChatName chatId) reply after) :
    reply = .fail ∨ ∃ named : Document, reply = .document named ∧
      named.value = chatDocument row.chatId row.chatName := by
  cases served with
  | failed => exact .inl rfl
  | inserted inserts => cases inserts
  | noChat missing value => exact absurd ⟨row, stored, same⟩ missing
  | chat member found value =>
      cases Store.chat_of_id stored member (same.trans found.symm)
      exact .inr ⟨_, rfl, value⟩

theorem Served.userName {row : UserRow} {userId : SizeT} (stored : row ∈ store.users)
    (same : row.userId = userId.toNat)
    (served : Served store (.getUserName userId) reply after) :
    reply = .fail ∨ ∃ named : Document, reply = .document named ∧
      named.value = userDocument row.userId row.userName := by
  cases served with
  | failed => exact .inl rfl
  | inserted inserts => cases inserts
  | noUser missing => exact absurd ⟨row, stored, same⟩ missing
  | user member found value =>
      cases Store.user_of_id stored member (same.trans found.symm)
      exact .inr ⟨_, rfl, value⟩

end Replies

/-! Ids that were handed out. -/

/-- A spelling of the call is answered, with this value unless it is answered FAIL. -/
def Entry.Resolves (entry : Entry) (call : Call) (value : Json Key) : Prop :=
  Spelled entry.payload call →
    ∃ reply, entry.Answered call reply ∧
      (reply = .fail ∨
        ∃ written : Document, reply = .document written ∧ written.value = value)

theorem Entry.Lawful.resolves {entry : Entry} {call : Call} {value : Json Key}
    (lawful : entry.Lawful)
    (named : ∀ reply, Served entry.before call reply entry.after →
      reply = .fail ∨
        ∃ written : Document, reply = .document written ∧ written.value = value) :
    entry.Resolves call value := by
  intro spelled
  rcases lawful with ⟨unspelled, -⟩ | ⟨other, reply, answered, served⟩
  · exact absurd spelled (unspelled call)
  · cases spelled.unique answered.1
    exact ⟨reply, answered, named reply served⟩

theorem spelled_getChatName {chatId : SizeT} (small : chatId.toNat < 2 ^ 31) :
    Spelled (ascii "get_chat_name " ++ stdToString chatId) (.getChatName chatId) := by
  have member : (ascii "get_chat_name", Call.getChatName) ∈ idCalls := by simp [idCalls]
  simpa [ascii] using spelled_stdToString member small

theorem spelled_getUserName {userId : SizeT} (small : userId.toNat < 2 ^ 31) :
    Spelled (ascii "get_user_name " ++ stdToString userId) (.getUserName userId) := by
  have member : (ascii "get_user_name", Call.getUserName) ∈ idCalls := by simp [idCalls]
  simpa [ascii] using spelled_stdToString member small

/-! Names that were given. -/

section Created

variable {store after : Store} {name : Bytes} {reply : Reply}

theorem Served.chatAdded (served : Served store (.addChat name) .success after) :
    ∃ row : ChatRow, after.chats = store.chats ++ [row] ∧
      varchar 50 name = some row.chatName := by
  cases served with
  | inserted inserts clean encoded stores added =>
      cases inserts
      cases stores with
      | @chat _ stored chatId fits => exact ⟨⟨chatId, stored⟩, by rw [added]; rfl, fits⟩

theorem Served.userAdded (served : Served store (.addUser name) .success after) :
    ∃ row : UserRow, after.users = store.users ++ [row] ∧
      varchar 50 name = some row.userName := by
  cases served with
  | inserted inserts clean encoded stores added =>
      cases inserts
      cases stores with
      | @user _ stored userId fits => exact ⟨⟨userId, stored⟩, by rw [added]; rfl, fits⟩

theorem Served.newChat {store after : Store} {call : Call} {reply : Reply} {chat : ChatRow}
    (served : Served store call reply after) (added : chat ∈ after.chats)
    (new : chat ∉ store.chats) :
    reply = .success ∧ ∃ chatName, call = .addChat chatName := by
  cases served with
  | @inserted call row stored after inserts clean encoded stores grown =>
      refine ⟨rfl, ?_⟩
      cases stores with
      | chat =>
          cases call with
          | addChat chatName => exact ⟨chatName, rfl⟩
          | _ => cases inserts
      | _ =>
          rw [grown] at added
          exact absurd added new
  | linked unlinked grown =>
      rw [grown] at added
      exact absurd added new
  | _ => exact absurd added new

def Reply.Carries (reply : Reply) (key : Key) (id : Nat) : Prop :=
  ∃ written : Document, reply = .document written ∧ Server.Carries key written.value id

theorem Served.chatFound {row : ChatRow} (member : row ∈ store.chats)
    (fits : varchar 50 name = some row.chatName)
    (served : Served store (.getChatId name) reply after) (answered : reply ≠ .fail) :
    reply.Carries .chatId row.chatId ↔ characterLength name ≤ 50 := by
  constructor
  · intro carried
    obtain ⟨written, rfl, carries⟩ := carried
    cases served with
    | noChatNamed missing value =>
        rw [Server.Carries, value] at carries
        cases carries
    | chatNamed found same value =>
        rw [← same]
        exact store.consistent.chatLength _ found
  · intro short
    have named := varchar_of_length_le short fits
    cases served with
    | failed => contradiction
    | inserted inserts => cases inserts
    | noChatNamed missing value => exact absurd named (missing row member)
    | chatNamed found same value =>
        cases Store.chat_of_name member found (named.trans same.symm)
        refine ⟨_, rfl, ?_⟩
        rw [Server.Carries, value]
        rfl

theorem Served.userFound {row : UserRow} (member : row ∈ store.users)
    (fits : varchar 50 name = some row.userName)
    (served : Served store (.findUser name) reply after) (answered : reply ≠ .fail) :
    (∃ written : Document, reply = .document written ∧
        written.value = userDocument row.userId name) ↔ characterLength name ≤ 50 := by
  constructor
  · intro carried
    obtain ⟨written, rfl, carries⟩ := carried
    cases served with
    | userNamed found same value =>
        rw [← same]
        exact store.consistent.userLength _ found
  · intro short
    have named := varchar_of_length_le short fits
    cases served with
    | failed => contradiction
    | inserted inserts => cases inserts
    | noUserNamed missing => exact absurd named (missing row member)
    | userNamed found same value =>
        cases Store.user_of_name member found (named.trans same.symm)
        exact ⟨_, rfl, by rw [value, named]⟩

end Created

/-! A run that names one chat with 50 letters and a space, and another one plainly. -/

def padded : Bytes := List.replicate 50 97 ++ [32]

def namesRun : List (Frame Reference.postgres) :=
  [⟨ascii "add_chat " ++ padded, .text, List.replicate 3 ⟨true, 1⟩⟩,
    ⟨ascii "get_chat_id " ++ padded, .text, List.replicate 3 ⟨true, 1⟩⟩,
    ⟨ascii "add_chat notes", .text, List.replicate 3 ⟨true, 2⟩⟩,
    ⟨ascii "get_chat_id notes", .text, List.replicate 3 ⟨true, 2⟩⟩,
    ⟨ascii "get_chat_name 2", .text, List.replicate 3 ⟨true, 2⟩⟩]

private inductive Answer
  | chat (chatId : Nat)
  | success
  | fail
  | other
  deriving DecidableEq

private def Reply.answer : Reply → Answer
  | .success => .success
  | .fail => .fail
  | .userNotFound => .other
  | .document written =>
      match written.value.index .chatId with
      | .ok (.number id) => .chat id
      | _ => .other

private def Entry.answer (entry : Entry) : Answer :=
  match entry.sent with
  | [⟨_, .reply reply⟩] => reply.answer
  | _ => .fail

private theorem answered_of_answer {frame : Frame pg} {store : Store} {call : Call}
    {answer : Answer} (spelled : Spelled frame.payload call)
    (found : (frame.entry store).answer = answer) :
    ∃ reply : Reply, (frame.entry store).Answered call reply ∧ reply.answer = answer := by
  have answered := frame.entry_answered spelled store
  refine ⟨_, answered, ?_⟩
  obtain ⟨-, opcode, sent⟩ := answered
  rwa [Entry.answer, sent] at found

private theorem answer_chat {reply : Reply} {chatId : Nat} :
    reply.answer = .chat chatId ↔ reply.Carries .chatId chatId := by
  constructor
  · intro found
    cases reply with
    | document written =>
        refine ⟨written, rfl, ?_⟩
        simp only [Reply.answer] at found
        split at found
        · next index =>
            cases found
            exact index
        · contradiction
    | _ => contradiction
  · intro carried
    obtain ⟨written, rfl, carries⟩ := carried
    rw [Server.Carries] at carries
    simp only [Reply.answer, carries]

private theorem namesRun_answers :
    (onMessages .empty namesRun).1.map Entry.answer =
      [.success, .other, .success, .chat 2, .chat 2] := by
  decide +kernel

private theorem answered_success {frame : Frame pg} {store : Store} {call : Call}
    (spelled : Spelled frame.payload call)
    (found : (frame.entry store).answer = .success) :
    (frame.entry store).Answered call .success := by
  obtain ⟨reply, answered, found⟩ := answered_of_answer spelled found
  cases reply with
  | success => exact answered
  | document written =>
      simp only [Reply.answer] at found
      split at found <;> contradiction
  | _ => contradiction

private theorem namesRun_entries : ∃ first second third fourth fifth : Entry,
    (onMessages .empty namesRun).1 = [first, second, third, fourth, fifth] ∧
      first.Answered (.addChat padded) .success ∧
      (∃ reply, second.Answered (.getChatId padded) reply ∧ reply.answer = .other) ∧
      third.Answered (.addChat (ascii "notes")) .success ∧
      fifth.payload = ascii "get_chat_name 2" ∧
      ∃ written, fourth.Answered (.getChatId (ascii "notes")) (.document written) ∧
        Carries .chatId written.value 2 := by
  have answers := namesRun_answers
  refine ⟨_, _, _, _, _, rfl, ?_⟩
  simp only [namesRun, onMessages, List.map_cons, List.map_nil, List.cons.injEq] at answers
  obtain ⟨first, second, third, fourth, -⟩ := answers
  have addChat (name : Bytes) : Spelled (ascii "add_chat " ++ name) (.addChat name) :=
    @Spelled.text (ascii "add_chat") .addChat (by simp [textCalls]) 32 name
  have getChatId (name : Bytes) : Spelled (ascii "get_chat_id " ++ name) (.getChatId name) :=
    @Spelled.text (ascii "get_chat_id") .getChatId (by simp [textCalls]) 32 name
  refine ⟨answered_success (addChat padded) first, answered_of_answer (getChatId padded) second,
    answered_success (addChat (ascii "notes")) third, Frame.entry_payload _ _, ?_⟩
  obtain ⟨reply, answered, found⟩ := answered_of_answer (getChatId (ascii "notes")) fourth
  obtain ⟨written, rfl, carries⟩ := answer_chat.mp found
  exact ⟨written, answered, carries⟩

/-- The id of a chat or a user, once in a reply, is resolved by every later request to
the one name it is stored with. -/
theorem given_ids_resolve (pg : Postgres) (store : Store) (frames : List (Frame pg))
    {earlier later : List Entry} {entry : Entry} {call : Call} {written : Document}
    (ran : (onMessages store frames).1 = earlier ++ entry :: later)
    (answered : entry.Answered call (.document written)) :
    (∀ chatId : SizeT, chatId.toNat < 2 ^ 31 → GivesChat call written chatId.toNat →
      Spelled (ascii "get_chat_name " ++ stdToString chatId) (.getChatName chatId) ∧
      ∃ row ∈ entry.after.chats, row.chatId = chatId.toNat ∧ ∀ other ∈ later,
        other.Resolves (.getChatName chatId) (chatDocument chatId.toNat row.chatName)) ∧
    ∀ userId : SizeT, userId.toNat < 2 ^ 31 → GivesUser call written userId.toNat →
      Spelled (ascii "get_user_name " ++ stdToString userId) (.getUserName userId) ∧
      ∃ row ∈ entry.after.users, row.userId = userId.toNat ∧ ∀ other ∈ later,
        other.Resolves (.getUserName userId) (userDocument userId.toNat row.userName) := by
  obtain ⟨lawful, past⟩ := onMessages_split ran
  have served := lawful.served answered
  refine ⟨fun chatId small gives => ?_, fun userId small gives => ?_⟩
  · obtain ⟨row, member, same⟩ := served.givesChat gives
    refine ⟨spelled_getChatName small, row, member, same, fun other otherMember => ?_⟩
    obtain ⟨otherLawful, grown⟩ := past other otherMember
    apply otherLawful.resolves
    intro reply asked
    rw [← same]
    exact asked.chatName (grown.chats member) same
  · obtain ⟨row, member, same⟩ := served.givesUser gives
    refine ⟨spelled_getUserName small, row, member, same, fun other otherMember => ?_⟩
    obtain ⟨otherLawful, grown⟩ := past other otherMember
    apply otherLawful.resolves
    intro reply asked
    rw [← same]
    exact asked.userName (grown.users member) same

theorem given_ids_resolve_notes :
    ∃ (row : ChatRow) (other : Entry), other ∈ (onMessages .empty namesRun).1 ∧
      row.chatId = 2 ∧ other.payload = ascii "get_chat_name 2" ∧
        other.Resolves (.getChatName 2) (chatDocument 2 row.chatName) := by
  obtain ⟨first, second, third, fourth, fifth, ran, -, -, -, asks, written, answered, carries⟩ :=
    namesRun_entries
  obtain ⟨-, row, -, same, resolves⟩ :=
    (given_ids_resolve Reference.postgres .empty namesRun
      (show _ = [first, second, third] ++ fourth :: [fifth] from ran) answered).1 2 (by decide)
        (.found carries)
  exact ⟨row, fifth, by rw [ran]; simp, same, asks, resolves fifth (by simp)⟩

/-- What was created under a name is found under it exactly if the column does not cut
the name. -/
theorem created_found_iff (pg : Postgres) (store : Store) (frames : List (Frame pg))
    {earlier later : List Entry} {entry : Entry} (name : Bytes)
    (ran : (onMessages store frames).1 = earlier ++ entry :: later) :
    (entry.Answered (.addChat name) .success →
      ∃ row : ChatRow, entry.after.chats = entry.before.chats ++ [row] ∧
        ∀ other ∈ later, ∀ reply, other.Answered (.getChatId name) reply → reply ≠ .fail →
          (reply.Carries .chatId row.chatId ↔ characterLength name ≤ 50)) ∧
    (entry.Answered (.addUser name) .success →
      ∃ row : UserRow, entry.after.users = entry.before.users ++ [row] ∧
        ∀ other ∈ later, ∀ reply, other.Answered (.findUser name) reply → reply ≠ .fail →
          ((∃ written : Document, reply = .document written ∧
            written.value = userDocument row.userId name) ↔ characterLength name ≤ 50)) := by
  obtain ⟨lawful, past⟩ := onMessages_split ran
  refine ⟨fun answered => ?_, fun answered => ?_⟩
  · obtain ⟨row, added, fits⟩ := (lawful.served answered).chatAdded
    refine ⟨row, added, fun other member reply asked given => ?_⟩
    obtain ⟨otherLawful, grown⟩ := past other member
    have stored : row ∈ entry.after.chats := by simp [added]
    exact (otherLawful.served asked).chatFound (grown.chats stored) fits given
  · obtain ⟨row, added, fits⟩ := (lawful.served answered).userAdded
    refine ⟨row, added, fun other member reply asked given => ?_⟩
    obtain ⟨otherLawful, grown⟩ := past other member
    have stored : row ∈ entry.after.users := by simp [added]
    exact (otherLawful.served asked).userFound (grown.users stored) fits given

theorem created_found_iff_notes :
    ∃ (row : ChatRow) (other : Entry) (reply : Reply),
      other ∈ (onMessages .empty namesRun).1 ∧
        other.Answered (.getChatId (ascii "notes")) reply ∧
          (reply.Carries .chatId row.chatId ↔ characterLength (ascii "notes") ≤ 50) := by
  obtain ⟨first, second, third, fourth, fifth, ran, -, -, added, -, written, answered, -⟩ :=
    namesRun_entries
  obtain ⟨row, -, found⟩ :=
    (created_found_iff Reference.postgres .empty namesRun (ascii "notes")
      (show _ = [first, second] ++ third :: [fourth, fifth] from ran)).1 added
  exact ⟨row, fourth, _, by rw [ran]; simp, answered,
    found fourth (by simp) _ answered (by simp)⟩

/-- The chat with the padded name is created, and not found under it. -/
theorem created_not_found :
    ∃ (entry : Entry) (later : List Entry) (other : Entry) (reply : Reply),
      (onMessages .empty namesRun).1 = entry :: later ∧ other ∈ later ∧
        validUtf8 padded = true ∧ 0 ∉ padded ∧ entry.Answered (.addChat padded) .success ∧
          other.Answered (.getChatId padded) reply ∧ reply ≠ .fail ∧
            ∀ chatId, ¬ reply.Carries .chatId chatId := by
  obtain ⟨first, second, third, fourth, fifth, ran, added, ⟨reply, answered, found⟩, -⟩ :=
    namesRun_entries
  refine ⟨first, _, second, reply, ran, List.mem_cons_self, ?_, ?_, added, answered, ?_,
    fun chatId carries => ?_⟩
  · exact validUtf8_of_ascii (by simp [padded])
  · simp [padded]
  · rintro rfl
    contradiction
  · rw [answer_chat.mpr carries] at found
    contradiction

end BpkMessenger.Server
