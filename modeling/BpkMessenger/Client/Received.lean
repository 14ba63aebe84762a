import BpkMessenger.Client.Membership
import BpkMessenger.Json.RoundTrip

namespace BpkMessenger.Client

open Text Server

/-! What the client makes of the texts that it receives: it compares them with the
server's words, or parses them. -/

/-! The documents that the server writes are documents of the library. -/

section Documents

theorem plain_object {members : List (Key × Json Key)} {keys : List Key}
    (named : members.map Prod.fst = keys) (sorted : (keys.map Key.name).Pairwise (· < ·))
    (plain : ∀ member ∈ members, Json.Plain Key.name member.2) :
    Json.Plain Key.name (.object members) := by
  refine ⟨?_, Json.plainMembers_iff.mpr plain⟩
  rw [← named, List.map_map] at sorted
  exact sorted

theorem plain_listDocument {elements : List (Json Key)}
    (plain : ∀ element ∈ elements, Json.Plain Key.name element) :
    Json.Plain Key.name (listDocument elements) := by
  cases elements with
  | nil => exact trivial
  | cons element elements => exact Json.plainElements_iff.mpr plain

theorem plain_number {id : Nat} (small : id < 2 ^ 63) : Json.Plain Key.name (.number id) := by
  change id < 2 ^ 64
  omega

theorem plain_userDocument {id : Nat} (small : id < 2 ^ 63) (name : Bytes) :
    Json.Plain Key.name (userDocument id name) := by
  refine @plain_object _ [.userId, .userName] rfl (by decide) ?_
  simpa [Json.Plain] using plain_number small

theorem plain_chatDocument {id : Nat} (small : id < 2 ^ 63) (name : Bytes) :
    Json.Plain Key.name (chatDocument id name) := by
  refine @plain_object _ [.chatId, .chatName] rfl (by decide) ?_
  simpa [Json.Plain] using plain_number small

theorem plain_messageDocument {chatId senderId : Nat} (chatSmall : chatId < 2 ^ 63)
    (senderSmall : senderId < 2 ^ 63) (text : Bytes) :
    Json.Plain Key.name (messageDocument chatId senderId text) := by
  refine @plain_object _ [.chatId, .messageText, .senderId] rfl (by decide) ?_
  simpa [Json.Plain] using And.intro (plain_number chatSmall) (plain_number senderSmall)

theorem plain_idObject {id : Nat} (small : id < 2 ^ 63) (key : Key) :
    Json.Plain Key.name (.object [(key, .number id)]) := by
  refine @plain_object _ [key] rfl (List.pairwise_singleton _ _) ?_
  simpa [Json.Plain] using plain_number small

/-- Every id that is stored in a table is one of a user or of a chat. -/
theorem user_small {store : Store} {userId : Nat} (stored : store.HasUser userId) :
    userId < 2 ^ 63 := by
  obtain ⟨row, member, rfl⟩ := stored
  exact (store.consistent.userRange row member).2

theorem chat_small {store : Store} {chatId : Nat} (stored : store.HasChat chatId) :
    chatId < 2 ^ 63 :=
  (Store.hasChat_pos stored).2

theorem plain_rows {α : Type} {rows stored : List α} {keep : α → Bool}
    (matching : rows.Perm (stored.filter keep)) {document : α → Json Key}
    (plain : ∀ row ∈ stored, Json.Plain Key.name (document row)) :
    Json.Plain Key.name (listDocument (rows.map document)) := by
  apply plain_listDocument
  intro element member
  obtain ⟨row, inside, rfl⟩ := List.mem_map.mp member
  exact plain row (List.mem_filter.mp (matching.subset inside)).1

theorem plain_of_served {store after : Store} {call : Call} {written : Document}
    (served : Served store call (.document written) after) :
    Json.Plain Key.name written.value := by
  cases served with
  | userNamed member same value =>
      rw [value]
      exact plain_userDocument (store.consistent.userRange _ member).2 _
  | user member same value =>
      rw [value]
      exact plain_userDocument (store.consistent.userRange _ member).2 _
  | noChat missing value =>
      rw [value]
      exact trivial
  | chat member same value =>
      rw [value]
      exact plain_chatDocument (store.consistent.chatRange _ member).2 _
  | noChatNamed missing value =>
      rw [value]
      exact trivial
  | chatNamed member same value =>
      rw [value]
      exact plain_chatDocument (store.consistent.chatRange _ member).2 _
  | history matching value =>
      rw [value]
      refine plain_rows matching fun row member => ?_
      exact plain_messageDocument (chat_small (store.consistent.messageChat row member))
        (user_small (store.consistent.messageSender row member)) _
  | chatList matching value =>
      rw [value]
      refine plain_rows matching fun row member => ?_
      exact plain_idObject (chat_small (store.consistent.linkChat row member)) _
  | members matching value =>
      rw [value]
      refine plain_rows matching fun row member => ?_
      exact plain_idObject (user_small (store.consistent.linkUser row member)) _
  | noToken missing value =>
      rw [value]
      exact trivial
  | token member same value =>
      rw [value]
      exact @plain_object _ [.trelloToken] rfl (List.pairwise_singleton _ _) (by simp [Json.Plain])

end Documents

/-! The text of a reply, and the reply. -/

def keys : List Key :=
  [.chatId, .chatName, .messageText, .senderId, .trelloToken, .userId, .userName]

def keyNamed (text : Bytes) : Option Key :=
  keys.find? fun key => key.name = text

theorem keyNamed_name (key : Key) : keyNamed key.name = some key := by
  cases key <;> rfl

theorem name_keyNamed (text : Bytes) (key : Key) (found : keyNamed text = some key) :
    key.name = text := by
  simpa using List.find?_some found

/-- One of the server's words. -/
def bare : Reply → Bool
  | .document _ => false
  | _ => true

/-- A text that is compared with the words, or parsed, as the reply would be. -/
structure Agrees (isfinite : Bytes → Bool) (text : Bytes) (reply : Reply) : Prop where
  success : text = ascii "SUCCESS" ↔ reply = .success
  fail : text = ascii "FAIL" ↔ reply = .fail
  userNotFound : text = ascii "User not found" ↔ reply = .userNotFound
  parsed : ∀ dom, Json.parse isfinite text = .ok dom ↔
    ∃ value, parse reply = .ok value ∧ dom = Json.dom Key.name value

section Texts

variable (isfinite : Bytes → Bool)

private theorem document_ne_word {written : Document} {word : Bytes}
    (capital : ∃ byte rest, word = byte :: rest ∧ 65 ≤ byte ∧ byte ≤ 90) :
    written.text ≠ word := by
  obtain ⟨byte, rest, rfl, low, high⟩ := capital
  intro same
  obtain ⟨first, others, split, outside⟩ := Json.dump_head written.dumped
  rw [same, List.cons.injEq] at split
  obtain ⟨rfl, -⟩ := split
  simp only [UInt8.le_iff_toNat_le, UInt8.lt_iff_toNat_lt] at low high outside
  omega

/-- A word of the server begins with a capital, and so does no document. -/
private theorem word_capital {word : Reply} (isWord : bare word = true) :
    ∃ byte rest, word.text = byte :: rest ∧ 65 ≤ byte ∧ byte ≤ 90 ∧ byte ≠ 0xEF ∧
      (Json.scan (byte :: rest)).1 = .parseError := by
  cases word with
  | success => exact ⟨_, _, rfl, by decide⟩
  | fail => exact ⟨_, _, rfl, by decide⟩
  | userNotFound => exact ⟨_, _, rfl, by decide⟩
  | document written => contradiction

theorem text_eq_word {reply word : Reply} (isWord : bare word = true) :
    reply.text = word.text ↔ reply = word := by
  refine ⟨fun same => ?_, fun same => congrArg Reply.text same⟩
  cases reply with
  | document written =>
      obtain ⟨byte, rest, split, low, high, -⟩ := word_capital isWord
      exact absurd same (document_ne_word ⟨byte, rest, split, low, high⟩)
  | success => cases word <;> first | rfl | contradiction
  | fail => cases word <;> first | rfl | contradiction
  | userNotFound => cases word <;> first | rfl | contradiction

theorem agrees_word {word : Reply} (isWord : bare word = true) :
    Agrees isfinite word.text word where
  success := @text_eq_word word .success rfl
  fail := @text_eq_word word .fail rfl
  userNotFound := @text_eq_word word .userNotFound rfl
  parsed := by
    obtain ⟨byte, rest, split, -, -, other, unknown⟩ := word_capital isWord
    rw [split, Json.parse_error isfinite other unknown]
    intro dom
    constructor
    · intro parsed
      contradiction
    · rintro ⟨value, parsed, -⟩
      obtain ⟨written, rfl, -⟩ := parse_eq_ok parsed
      contradiction

theorem agrees_document {text : Bytes} {written : Document}
    (success : text ≠ ascii "SUCCESS") (fail : text ≠ ascii "FAIL")
    (missing : text ≠ ascii "User not found")
    (parsed : Json.parse isfinite text = .ok (Json.dom Key.name written.value)) :
    Agrees isfinite text (.document written) where
  success := by simpa using success
  fail := by simpa using fail
  userNotFound := by simpa using missing
  parsed := by
    intro dom
    rw [parsed]
    simp [parse, eq_comm]

theorem agrees_of_served {store after : Store} {call : Call} {reply : Reply}
    (served : Served store call reply after) : Agrees isfinite reply.text reply := by
  cases reply with
  | document written =>
      have other : ∀ word : Reply, bare word = true → written.text ≠ word.text := by
        intro word isWord same
        rw [← (@text_eq_word (.document written) word isWord).mp same] at isWord
        contradiction
      exact agrees_document isfinite (other .success rfl) (other .fail rfl)
        (other .userNotFound rfl) (Json.parse_dump isfinite written.dumped (plain_of_served served))
  | success => exact agrees_word isfinite rfl
  | fail => exact agrees_word isfinite rfl
  | userNotFound => exact agrees_word isfinite rfl

/-- The reply that a text stands for. -/
def readReply (text : Bytes) : Option Reply :=
  if text = ascii "SUCCESS" then some .success
  else if text = ascii "FAIL" then some .fail
  else if text = ascii "User not found" then some .userNotFound
  else
    match Json.parse isfinite text with
    | .ok dom => (Json.toJson keyNamed dom).bind document
    | .error _ => none
where
  document (value : Json Key) : Option Reply :=
    match dumped : value.dump Key.name with
    | .ok text => some (.document ⟨value, text, dumped⟩)
    | .error _ => none

theorem readReply_document (written : Document) :
    readReply.document written.value = some (.document written) := by
  obtain ⟨value, text, dumped⟩ := written
  unfold readReply.document
  split
  · next other again =>
      have same : other = text := by
        rw [dumped] at again
        exact (Except.ok.inj again).symm
      subst same
      rfl
  · next exception refused =>
      rw [dumped] at refused
      contradiction

theorem readReply_of_agrees {text : Bytes} {reply : Reply}
    (agrees : Agrees isfinite text reply) : readReply isfinite text = some reply := by
  unfold readReply
  cases reply with
  | success => simp [agrees.success.mpr rfl]
  | fail => simp [agrees.fail.mpr rfl, ascii]
  | userNotFound => simp [agrees.userNotFound.mpr rfl, ascii]
  | document written =>
      have success : text ≠ ascii "SUCCESS" := by
        rw [ne_eq, agrees.success]
        simp
      have fail : text ≠ ascii "FAIL" := by
        rw [ne_eq, agrees.fail]
        simp
      have missing : text ≠ ascii "User not found" := by
        rw [ne_eq, agrees.userNotFound]
        simp
      have parsed := (agrees.parsed _).mpr ⟨written.value, rfl, rfl⟩
      simp only [success, fail, missing, if_false, parsed]
      rw [Json.toJson_dom keyNamed_name, Option.bind_some, readReply_document]

theorem readReply_document_eq_some {value : Json Key} {reply : Reply}
    (made : readReply.document value = some reply) :
    ∃ written : Document, reply = .document written ∧ written.value = value := by
  unfold readReply.document at made
  split at made
  · cases made
    exact ⟨_, rfl, rfl⟩
  · contradiction

theorem readReply_iff {text : Bytes} {reply : Reply} :
    readReply isfinite text = some reply ↔ Agrees isfinite text reply := by
  refine ⟨fun read => ?_, readReply_of_agrees isfinite⟩
  unfold readReply at read
  split_ifs at read with success fail missing
  · cases read
    rw [success]
    exact @agrees_word isfinite .success rfl
  · cases read
    rw [fail]
    exact @agrees_word isfinite .fail rfl
  · cases read
    rw [missing]
    exact @agrees_word isfinite .userNotFound rfl
  · split at read
    · next dom parsed =>
        obtain ⟨value, taken, made⟩ := Option.bind_eq_some_iff.mp read
        obtain ⟨written, rfl, rfl⟩ := readReply_document_eq_some made
        rw [← Json.dom_toJson name_keyNamed dom taken] at parsed
        exact agrees_document isfinite success fail missing parsed
    · contradiction

theorem Agrees.unique {isfinite : Bytes → Bool} {text : Bytes} {first second : Reply}
    (left : Agrees isfinite text first) (right : Agrees isfinite text second) :
    first = second := by
  have read := readReply_of_agrees isfinite left
  rw [readReply_of_agrees isfinite right] at read
  exact (Option.some.inj read).symm

/-- What the server sends for a call is read as its reply, and as no other. -/
theorem sent_reply_read {pg : Postgres} (chances : List pg.Chance) (store : Store)
    (payload : Bytes) (opcode : Opcode) {message : Message} {reply : Reply}
    (sent : message ∈ (onMessage chances store payload opcode).1)
    (content : message.content = .reply reply) :
    Agrees isfinite message.payload reply ∧
      ∀ other, Agrees isfinite message.payload other → other = reply := by
  have agrees : Agrees isfinite message.payload reply := by
    cases dispatched : dispatch payload with
    | error exception =>
        rw [onMessage_throws dispatched] at sent
        contradiction
    | ok request =>
        rcases request with _ | text | call
        · rw [onMessage_unknown dispatched] at sent
          contradiction
        · rw [onMessage_echo dispatched] at sent
          dsimp only at sent
          split_ifs at sent
          · contradiction
          · rw [List.mem_singleton.mp sent] at content
            contradiction
        · rw [onMessage_call dispatched] at sent
          have same := List.mem_singleton.mp sent
          subst same
          cases content
          exact agrees_of_served isfinite (@Call.run_served pg _ chances store _ _ rfl)
  exact ⟨agrees, fun other read => read.unique agrees⟩

end Texts

private def annFound : List Message :=
  (onMessage (List.replicate 3 ⟨true, 0⟩ : List Reference.postgres.Chance) annAlone
    (ascii "find_user ann") .text).1

private theorem annFound_texts : (annFound.map fun message =>
    match message.content with
    | .reply reply => some reply.text
    | .echoed _ => none) =
      [some (ascii "\x7b\"user_id\":1,\"user_name\":\"ann\"\x7d")] := by
  decide +kernel

theorem sent_reply_read_annFound : ∃ message ∈ annFound, ∃ reply,
    message.content = .reply reply ∧
      message.payload = ascii "\x7b\"user_id\":1,\"user_name\":\"ann\"\x7d" ∧
      Agrees (fun _ => true) message.payload reply := by
  obtain ⟨message, found, text⟩ := List.map_eq_singleton_iff.mp annFound_texts
  have sent : message ∈ annFound := by
    rw [found]
    exact List.mem_singleton_self _
  cases content : message.content with
  | echoed echo => simp [content] at text
  | reply reply =>
      rw [content] at text
      refine ⟨message, sent, reply, content, ?_, ?_⟩
      · rw [Message.payload, content]
        exact Option.some.inj text
      · exact (sent_reply_read (fun _ => true) _ _ _ _ sent content).1

end BpkMessenger.Client
