import BpkMessenger.Server.Reference
import BpkMessenger.Server.Spelling

namespace BpkMessenger.Server

open Text

/-! The payloads of every call, and of every reply. -/

def textCalls : List (Bytes × (Bytes → Call)) :=
  [(ascii "find_user", .findUser), (ascii "add_user", .addUser),
    (ascii "add_chat", .addChat), (ascii "get_chat_id", .getChatId)]

def idCalls : List (Bytes × (SizeT → Call)) :=
  [(ascii "get_chat_name", .getChatName),
    (ascii "get_chat_history", .getChatHistory),
    (ascii "get_chat_list", .getChatList),
    (ascii "get_trello_token", .getTrelloToken),
    (ascii "get_chat_members", .getChatMembers),
    (ascii "get_user_name", .getUserName)]

/-- A keyword, any one byte, and arguments as the branch of the keyword reads
them. -/
inductive Spelled : Bytes → Call → Prop
  | text {keyword : Bytes} {call : Bytes → Call}
      (member : (keyword, call) ∈ textCalls) (separator : UInt8) (text : Bytes) :
      Spelled (keyword ++ separator :: text) (call text)
  | id {keyword text rest : Bytes} {call : SizeT → Call} {value : Int}
      (member : (keyword, call) ∈ idCalls) (separator : UInt8)
      (reads : ReadsInteger text value rest)
      (low : -2 ^ 31 ≤ value) (high : value < 2 ^ 31) :
      Spelled (keyword ++ separator :: text) (call (UInt64.ofInt value))
  | addMessage {text messageText : Bytes} {chatId senderId : SizeT}
      {skipped : UInt8} (separator : UInt8)
      (reads : ReadsTwo text chatId senderId (skipped :: messageText)) :
      Spelled (ascii "add_message" ++ separator :: text)
        (.addMessage chatId senderId messageText)
  | linkUserToChat {text : Bytes} {userId chatId : SizeT} (separator : UInt8)
      (reads : LinkArguments text userId chatId) :
      Spelled (ascii "link_user_to_chat" ++ separator :: text)
        (.linkUserToChat userId chatId)
  | setTrelloToken {text trelloToken : Bytes} {userId : SizeT}
      (separator : UInt8) (reads : TokenArguments text userId trelloToken) :
      Spelled (ascii "set_trello_token" ++ separator :: text)
        (.setTrelloToken userId trelloToken)

theorem textCalls_commands {keyword : Bytes} {call : Bytes → Call}
    (member : (keyword, call) ∈ textCalls) :
    ⟨keyword, textArgument call⟩ ∈ commands := by
  simp only [textCalls, List.mem_cons, Prod.mk.injEq, List.not_mem_nil,
    or_false] at member
  rcases member with ⟨rfl, rfl⟩ | ⟨rfl, rfl⟩ | ⟨rfl, rfl⟩ | ⟨rfl, rfl⟩ <;>
    simp [commands]

theorem idCalls_commands {keyword : Bytes} {call : SizeT → Call}
    (member : (keyword, call) ∈ idCalls) :
    ⟨keyword, stoiArgument call⟩ ∈ commands := by
  simp only [idCalls, List.mem_cons, Prod.mk.injEq, List.not_mem_nil,
    or_false] at member
  rcases member with ⟨rfl, rfl⟩ | ⟨rfl, rfl⟩ | ⟨rfl, rfl⟩ | ⟨rfl, rfl⟩ |
    ⟨rfl, rfl⟩ | ⟨rfl, rfl⟩ <;> simp [commands]

inductive Branch : Command → Prop
  | echo : Branch ⟨ascii "echo", fun text => .ok (.echo text)⟩
  | text {keyword : Bytes} {call : Bytes → Call}
      (member : (keyword, call) ∈ textCalls) :
      Branch ⟨keyword, textArgument call⟩
  | id {keyword : Bytes} {call : SizeT → Call}
      (member : (keyword, call) ∈ idCalls) :
      Branch ⟨keyword, stoiArgument call⟩
  | addMessage : Branch ⟨ascii "add_message", addMessageArguments⟩
  | linkUserToChat : Branch ⟨ascii "link_user_to_chat", linkUserToChatArguments⟩
  | setTrelloToken : Branch ⟨ascii "set_trello_token", setTrelloTokenArguments⟩

theorem branch_of_mem {command : Command} (member : command ∈ commands) :
    Branch command := by
  simp only [commands, List.mem_cons, List.not_mem_nil, or_false] at member
  rcases member with rfl | rfl | rfl | rfl | rfl | rfl | rfl | rfl | rfl | rfl |
    rfl | rfl | rfl | rfl
  · exact .echo
  · exact .text (by simp [textCalls])
  · exact .text (by simp [textCalls])
  · exact .text (by simp [textCalls])
  · exact .addMessage
  · exact .linkUserToChat
  · exact .id (by simp [idCalls])
  · exact .text (by simp [textCalls])
  · exact .id (by simp [idCalls])
  · exact .id (by simp [idCalls])
  · exact .setTrelloToken
  · exact .id (by simp [idCalls])
  · exact .id (by simp [idCalls])
  · exact .id (by simp [idCalls])

theorem spelled_stdToString {keyword : Bytes} {call : SizeT → Call}
    (member : (keyword, call) ∈ idCalls) {id : SizeT} (small : id.toNat < 2 ^ 31) :
    Spelled (keyword ++ 32 :: stdToString id) (call id) := by
  have spelled := Spelled.id member 32 (readsInteger_stdToString id) (by omega) (by omega)
  rwa [ofInt_toNat] at spelled

/-- `std::stoi` ends at 2^31, whatever `std::size_t` could hold. -/
theorem dispatch_large {keyword : Bytes} {call : SizeT → Call}
    (member : (keyword, call) ∈ idCalls) {id : SizeT} (large : 2 ^ 31 ≤ id.toNat)
    (request : Option Request) :
    dispatch (keyword ++ 32 :: stdToString id) ≠ .ok request := by
  rw [dispatch_command (idCalls_commands member)]
  cases read : stoiArgument call (stdToString id) with
  | error exception => simp only [read]; exact fun same => by cases same
  | ok found =>
      obtain ⟨value, rest, reads, low, high, -⟩ := stoiArgument_eq_ok_iff.mp read
      obtain ⟨rfl, -⟩ := reads.unique (readsInteger_stdToString id)
      omega

theorem dispatch_of_spelled {payload : Bytes} {call : Call}
    (spelled : Spelled payload call) :
    dispatch payload = .ok (some (.call call)) := by
  cases spelled with
  | text member separator text =>
      exact dispatch_reads (textCalls_commands member) separator rfl
  | id member separator reads low high =>
      exact dispatch_reads (idCalls_commands member) separator
        (stoiArgument_eq_ok_iff.mpr ⟨_, _, reads, low, high, rfl⟩)
  | addMessage separator reads =>
      have member : ⟨ascii "add_message", addMessageArguments⟩ ∈ commands := by
        simp [commands]
      exact dispatch_reads member separator (addMessageArguments_of_reads reads)
  | linkUserToChat separator reads =>
      have member : ⟨ascii "link_user_to_chat", linkUserToChatArguments⟩ ∈
          commands := by simp [commands]
      exact dispatch_reads member separator (linkUserToChatArguments_iff.mpr reads)
  | setTrelloToken separator reads =>
      have member : ⟨ascii "set_trello_token", setTrelloTokenArguments⟩ ∈
          commands := by simp [commands]
      exact dispatch_reads member separator (setTrelloTokenArguments_iff.mpr reads)

/-- What is dispatched was read by the branch of its keyword. -/
private theorem read_of_dispatch {payload : Bytes} {request : Request}
    (dispatched : dispatch payload = .ok (some request)) :
    ∃ command ∈ commands, ∃ separator text,
      payload = command.keyword ++ separator :: text ∧ command.read text = .ok request := by
  rcases payload_cases payload with unknown | ⟨command, member, rfl | ⟨separator,
    text, rfl⟩⟩
  · rw [dispatch_unknown unknown] at dispatched
    cases dispatched
  · rw [dispatch_bare member] at dispatched
    contradiction
  rw [dispatch_command member] at dispatched
  refine ⟨command, member, separator, text, rfl, ?_⟩
  cases result : command.read text with
  | error exception =>
      rw [result] at dispatched
      contradiction
  | ok request =>
      rw [result] at dispatched
      cases dispatched
      rfl

theorem spelled_of_dispatch {payload : Bytes} {call : Call}
    (dispatched : dispatch payload = .ok (some (.call call))) :
    Spelled payload call := by
  obtain ⟨command, member, separator, text, rfl, read⟩ := read_of_dispatch dispatched
  cases branch_of_mem member with
  | echo => cases read
  | text listed =>
      cases read
      exact .text listed separator text
  | id listed =>
      obtain ⟨value, rest, reads, low, high, same⟩ := stoiArgument_eq_ok_iff.mp read
      cases same
      exact .id listed separator reads low high
  | addMessage =>
      obtain ⟨chatId, senderId, skipped, messageText, reads, same⟩ :=
        reads_of_addMessageArguments read
      cases same
      exact .addMessage separator reads
  | linkUserToChat =>
      obtain ⟨userId, chatId, rfl⟩ : ∃ userId chatId,
          call = .linkUserToChat userId chatId := by
        cases read
        exact ⟨_, _, rfl⟩
      exact .linkUserToChat separator (linkUserToChatArguments_iff.mp read)
  | setTrelloToken =>
      obtain ⟨userId, trelloToken, rfl⟩ : ∃ userId trelloToken,
          call = .setTrelloToken userId trelloToken := by
        cases read
        exact ⟨_, _, rfl⟩
      exact .setTrelloToken separator (setTrelloTokenArguments_iff.mp read)

/-- The payloads that are calls are exactly the spellings; no other one changes a
table. -/
theorem dispatch_iff_spelled (payload : Bytes) :
    (∀ call, dispatch payload = .ok (some (.call call)) ↔ Spelled payload call) ∧
      ∀ (pg : Postgres) (chances : List pg.Chance) (store : Store) (opcode : Opcode),
        (∀ call, Spelled payload call →
          onMessage chances store payload opcode =
            ([⟨opcode, .reply (call.run chances store).1⟩],
              (call.run chances store).2)) ∧
        ((∀ call, ¬ Spelled payload call) →
          (onMessage chances store payload opcode).2 = store) := by
  refine ⟨fun call => ⟨spelled_of_dispatch, dispatch_of_spelled⟩, ?_⟩
  intro pg chances store opcode
  constructor
  · intro call spelled
    exact onMessage_call (dispatch_of_spelled spelled) chances store opcode
  · intro unspelled
    apply onMessage_undispatched
    intro call dispatched
    exact unspelled call (spelled_of_dispatch dispatched)

/-- The protocol's spelling of a call: one space everywhere, unsigned numerals in
range and nothing behind them. -/
inductive WellFormed : Bytes → Call → Prop
  | text {keyword : Bytes} {call : Bytes → Call}
      (member : (keyword, call) ∈ textCalls) (text : Bytes) :
      WellFormed (keyword ++ 32 :: text) (call text)
  | id {keyword digits : Bytes} {call : SizeT → Call}
      (member : (keyword, call) ∈ idCalls) (nonempty : digits ≠ [])
      (digit : ∀ byte ∈ digits, isdigit byte = true)
      (range : decimalValue digits < 2 ^ 31) :
      WellFormed (keyword ++ 32 :: digits)
        (call (UInt64.ofNat (decimalValue digits)))
  | addMessage {chatId senderId messageText : Bytes}
      (nonempty : chatId ≠ [] ∧ senderId ≠ [])
      (digit : ∀ byte ∈ chatId ++ senderId, isdigit byte = true)
      (range : decimalValue chatId < 2 ^ 64 ∧ decimalValue senderId < 2 ^ 64) :
      WellFormed
        (ascii "add_message" ++ 32 :: chatId ++ 32 :: senderId ++ 32 :: messageText)
        (.addMessage (UInt64.ofNat (decimalValue chatId))
          (UInt64.ofNat (decimalValue senderId)) messageText)
  | linkUserToChat {userId chatId : Bytes} (nonempty : userId ≠ [] ∧ chatId ≠ [])
      (digit : ∀ byte ∈ userId ++ chatId, isdigit byte = true)
      (range : decimalValue userId < 2 ^ 64 ∧ decimalValue chatId < 2 ^ 64) :
      WellFormed (ascii "link_user_to_chat" ++ 32 :: userId ++ 32 :: chatId)
        (.linkUserToChat (UInt64.ofNat (decimalValue userId))
          (UInt64.ofNat (decimalValue chatId)))
  | setTrelloToken {userId trelloToken : Bytes} (nonempty : userId ≠ [])
      (digit : ∀ byte ∈ userId, isdigit byte = true)
      (range : decimalValue userId < 2 ^ 64) :
      WellFormed (ascii "set_trello_token" ++ 32 :: userId ++ 32 :: trelloToken)
        (.setTrelloToken (UInt64.ofNat (decimalValue userId)) trelloToken)

theorem WellFormed.space_mem {payload : Bytes} {call : Call}
    (wellFormed : WellFormed payload call) : 32 ∈ payload := by
  cases wellFormed <;> simp

/-- `add_user:bob` adds the user `bob`. -/
theorem dispatch_misspelled :
    dispatch (ascii "add_user:bob") = .ok (some (.call (.addUser (ascii "bob")))) ∧
      ¬ ∀ payload call, dispatch payload = .ok (some (.call call)) →
        WellFormed payload call := by
  have member : (ascii "add_user", Call.addUser) ∈ textCalls := by simp [textCalls]
  have dispatched : dispatch (ascii "add_user:bob") =
      .ok (some (.call (.addUser (ascii "bob")))) :=
    dispatch_of_spelled (.text member 58 (ascii "bob"))
  refine ⟨dispatched, fun strict => ?_⟩
  have space := (strict _ _ dispatched).space_mem
  revert space
  decide

/-! Replies. -/

inductive Answerable (opcode : Opcode) : Bytes → Prop
  | echo (separator : UInt8) {text : Bytes}
      (sendable : opcode = .binary ∨ validUtf8 text = true) :
      Answerable opcode (ascii "echo" ++ separator :: text)
  | text {keyword : Bytes} {call : Bytes → Call}
      (member : (keyword, call) ∈ textCalls) (separator : UInt8) (text : Bytes) :
      Answerable opcode (keyword ++ separator :: text)
  | id {keyword text rest : Bytes} {call : SizeT → Call} {value : Int}
      (member : (keyword, call) ∈ idCalls) (separator : UInt8)
      (reads : ReadsInteger text value rest)
      (low : -2 ^ 31 ≤ value) (high : value < 2 ^ 31) :
      Answerable opcode (keyword ++ separator :: text)
  | addMessage {text messageText : Bytes} {chatId senderId : SizeT}
      {skipped : UInt8} (separator : UInt8)
      (reads : ReadsTwo text chatId senderId (skipped :: messageText)) :
      Answerable opcode (ascii "add_message" ++ separator :: text)
  | linkUserToChat (separator : UInt8) (text : Bytes) :
      Answerable opcode (ascii "link_user_to_chat" ++ separator :: text)
  | setTrelloToken (separator : UInt8) (text : Bytes) :
      Answerable opcode (ascii "set_trello_token" ++ separator :: text)

theorem linkArguments_total (text : Bytes) :
    ∃ userId chatId, LinkArguments text userId chatId :=
  ⟨_, _, linkUserToChatArguments_iff.mp rfl⟩

theorem tokenArguments_total (text : Bytes) :
    ∃ userId trelloToken, TokenArguments text userId trelloToken :=
  ⟨_, _, setTrelloTokenArguments_iff.mp rfl⟩

private theorem answerable_of_spelled {payload : Bytes} {call : Call}
    (spelled : Spelled payload call) (opcode : Opcode) :
    Answerable opcode payload := by
  cases spelled with
  | text member separator text => exact .text member separator text
  | id member separator reads low high => exact .id member separator reads low high
  | addMessage separator reads => exact .addMessage separator reads
  | linkUserToChat separator reads => exact .linkUserToChat separator _
  | setTrelloToken separator reads => exact .setTrelloToken separator _

private theorem answerable_cases {opcode : Opcode} {payload : Bytes}
    (answerable : Answerable opcode payload) :
    (∃ text, dispatch payload = .ok (some (.echo text)) ∧
        ¬ (opcode = .text ∧ validUtf8 text = false)) ∨
      ∃ call, Spelled payload call := by
  cases answerable with
  | @echo separator text sendable =>
      left
      have member : ⟨ascii "echo", fun text => .ok (.echo text)⟩ ∈ commands := by
        simp [commands]
      refine ⟨text, dispatch_reads member separator rfl, ?_⟩
      rintro ⟨rfl, invalid⟩
      rcases sendable with impossible | valid
      · contradiction
      · rw [valid] at invalid
        contradiction
  | text member separator text => exact .inr ⟨_, .text member separator text⟩
  | id member separator reads low high =>
      exact .inr ⟨_, .id member separator reads low high⟩
  | addMessage separator reads => exact .inr ⟨_, .addMessage separator reads⟩
  | linkUserToChat separator text =>
      obtain ⟨userId, chatId, reads⟩ := linkArguments_total text
      exact .inr ⟨_, .linkUserToChat separator reads⟩
  | setTrelloToken separator text =>
      obtain ⟨userId, trelloToken, reads⟩ := tokenArguments_total text
      exact .inr ⟨_, .setTrelloToken separator reads⟩

private theorem echo_of_dispatch {payload text : Bytes}
    (dispatched : dispatch payload = .ok (some (.echo text))) :
    ∃ separator, payload = ascii "echo" ++ separator :: text := by
  obtain ⟨command, member, separator, argument, rfl, read⟩ := read_of_dispatch dispatched
  cases branch_of_mem member with
  | echo =>
      cases read
      exact ⟨separator, rfl⟩
  | text listed => cases read
  | id listed =>
      obtain ⟨_, _, _, _, _, same⟩ := stoiArgument_eq_ok_iff.mp read
      cases same
  | addMessage =>
      obtain ⟨_, _, _, _, _, same⟩ := reads_of_addMessageArguments read
      cases same
  | linkUserToChat => cases read
  | setTrelloToken => cases read

/-- Exactly the answerable payloads are answered, whatever the database does. -/
theorem answered_iff_answerable (pg : Postgres) (chances : List pg.Chance)
    (store : Store) (payload : Bytes) (opcode : Opcode) :
    (onMessage chances store payload opcode).1.length = 1 ↔
      Answerable opcode payload := by
  constructor
  · intro answered
    cases dispatched : dispatch payload with
    | error exception =>
        rw [onMessage_throws dispatched] at answered
        contradiction
    | ok request =>
        cases request with
        | none =>
            rw [onMessage_unknown dispatched] at answered
            contradiction
        | some request =>
            cases request with
            | call call =>
                exact answerable_of_spelled (spelled_of_dispatch dispatched) opcode
            | echo text =>
                rw [onMessage_echo dispatched] at answered
                obtain ⟨separator, rfl⟩ := echo_of_dispatch dispatched
                apply Answerable.echo
                by_contra refused
                simp only [not_or, Bool.not_eq_true] at refused
                have sentAsText : opcode = .text := by
                  cases opcode with
                  | text => rfl
                  | binary => exact absurd rfl refused.1
                rw [if_pos ⟨sentAsText, refused.2⟩] at answered
                contradiction
  · intro answerable
    rcases answerable_cases answerable with
      ⟨text, dispatched, sendable⟩ | ⟨call, spelled⟩
    · rw [onMessage_echo dispatched, if_neg sendable]
      rfl
    · rw [onMessage_call (dispatch_of_spelled spelled)]
      rfl

theorem bare_keyword_unanswered :
    onMessage ([] : List Reference.postgres.Chance) .empty (ascii "find_user") .text =
        ([], .empty) ∧
      ¬ ∀ (pg : Postgres) (chances : List pg.Chance) (store : Store)
        (payload : Bytes) (opcode : Opcode),
        (onMessage chances store payload opcode).1.length = 1 := by
  have member : ⟨ascii "find_user", textArgument .findUser⟩ ∈ commands := by
    simp [commands]
  have silent := onMessage_throws (dispatch_bare member)
    ([] : List Reference.postgres.Chance) .empty .text
  refine ⟨silent, fun always => ?_⟩
  have answered := always Reference.postgres [] .empty (ascii "find_user") .text
  rw [silent] at answered
  contradiction

end BpkMessenger.Server
