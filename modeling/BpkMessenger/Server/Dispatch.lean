import BpkMessenger.Server.Refinement
import BpkMessenger.Text.Readers

namespace BpkMessenger.Server

open Text

/-! `on_message`: the payload is matched against the keywords in order, the branch
reads its arguments behind keyword and separator, runs its method and sends the
reply back.  Every exception is logged and dropped. -/

inductive Opcode
  | text
  | binary
  deriving DecidableEq, Repr

inductive Request
  | echo (text : Bytes)
  | call (call : Call)
  deriving DecidableEq, Repr

structure Command where
  keyword : Bytes
  read : Bytes → Except StdException Request

def textArgument (call : Bytes → Call) (text : Bytes) :
    Except StdException Request :=
  .ok (.call (call text))

/-- `std::size_t id = std::stoi(text)`. -/
def stoiArgument (call : SizeT → Call) (text : Bytes) :
    Except StdException Request := do
  let id ← stoi text
  return .call (call (UInt64.ofInt id))

def addMessageArguments (text : Bytes) : Except StdException Request := do
  let (chatId, ss) := (StringStream.ofString text).extract 0
  let (senderId, ss) := ss.extract 0
  let ss := ss.ignore
  let messageText ← substr ss.str ss.tellg
  return .call (.addMessage chatId senderId messageText)

def linkUserToChatArguments (text : Bytes) : Except StdException Request :=
  let (userId, ss) := (StringStream.ofString text).extract 0
  let (chatId, _) := ss.extract 0
  .ok (.call (.linkUserToChat userId chatId))

def setTrelloTokenArguments (text : Bytes) : Except StdException Request :=
  let (userId, ss) := (StringStream.ofString text).extract 0
  let trelloToken := ss.ignore.getline []
  .ok (.call (.setTrelloToken userId trelloToken))

def commands : List Command :=
  [⟨ascii "echo", fun text => .ok (.echo text)⟩,
    ⟨ascii "find_user", textArgument .findUser⟩,
    ⟨ascii "add_user", textArgument .addUser⟩,
    ⟨ascii "add_chat", textArgument .addChat⟩,
    ⟨ascii "add_message", addMessageArguments⟩,
    ⟨ascii "link_user_to_chat", linkUserToChatArguments⟩,
    ⟨ascii "get_chat_name", stoiArgument .getChatName⟩,
    ⟨ascii "get_chat_id", textArgument .getChatId⟩,
    ⟨ascii "get_chat_history", stoiArgument .getChatHistory⟩,
    ⟨ascii "get_chat_list", stoiArgument .getChatList⟩,
    ⟨ascii "set_trello_token", setTrelloTokenArguments⟩,
    ⟨ascii "get_trello_token", stoiArgument .getTrelloToken⟩,
    ⟨ascii "get_chat_members", stoiArgument .getChatMembers⟩,
    ⟨ascii "get_user_name", stoiArgument .getUserName⟩]

/-- The `if` chain up to the method call; no keyword matches in the last case. -/
def dispatch (payload : Bytes) : Except StdException (Option Request) :=
  match commands.find? fun command =>
      payload.take command.keyword.length = command.keyword with
  | none => .ok none
  | some command => do
      let text ← substr payload (command.keyword.length + 1)
      let request ← command.read text
      return some request

inductive Content
  | echoed (text : Bytes)
  | reply (reply : Reply)

def Content.text : Content → Bytes
  | .echoed text => text
  | .reply answered => answered.text

structure Message where
  opcode : Opcode
  content : Content

def Message.payload (message : Message) : Bytes :=
  message.content.text

inductive ServerException
  | std (exception : StdException)
  | invalidPayload
  deriving DecidableEq, Repr

/-- `s->send(hdl, message, opcode)`, which refuses a text that is not UTF-8. -/
def send (opcode : Opcode) (content : Content) :
    Except ServerException (List Message) :=
  if opcode = .text ∧ validUtf8 content.text = false then .error .invalidPayload
  else .ok [⟨opcode, content⟩]

variable {pg : Postgres}

/-- The `try` block: the message it sends, or what it throws, and the store. -/
def handle (chances : List pg.Chance) (store : Store) (payload : Bytes)
    (opcode : Opcode) : Except ServerException (List Message) × Store :=
  match dispatch payload with
  | .error exception => (.error (.std exception), store)
  | .ok none => (.ok [], store)
  | .ok (some (.echo text)) => (send opcode (.echoed text), store)
  | .ok (some (.call call)) =>
      let (reply, after) := call.run chances store
      (send opcode (.reply reply), after)

def onMessage (chances : List pg.Chance) (store : Store) (payload : Bytes)
    (opcode : Opcode) : List Message × Store :=
  match handle chances store payload opcode with
  | (.ok sent, after) => (sent, after)
  | (.error _, after) => ([], after)

/-! Recognition. -/

/-- No keyword begins another, so the order of the branches does not matter. -/
theorem keywords_prefixFree :
    commands.Pairwise fun first second =>
      ¬ first.keyword <+: second.keyword ∧ ¬ second.keyword <+: first.keyword := by
  decide

private theorem find?_of_unique {p : α → Bool} {xs : List α} {x : α}
    (member : x ∈ xs) (holds : p x = true)
    (unique : ∀ y ∈ xs, p y = true → y = x) : xs.find? p = some x := by
  cases found : xs.find? p with
  | none =>
      have fails := List.find?_eq_none.mp found x member
      contradiction
  | some y =>
      rw [unique y (List.mem_of_find?_eq_some found) (List.find?_some found)]

private theorem eq_of_pairwise {R : α → α → Prop} {xs : List α}
    (pairwise : xs.Pairwise fun x y => ¬ R x y ∧ ¬ R y x) {x y : α}
    (first : x ∈ xs) (second : y ∈ xs) (related : R x y) : x = y := by
  have symmetric : Std.Symm fun x y => ¬ R x y ∧ ¬ R y x :=
    ⟨fun _ _ both => both.symm⟩
  by_contra different
  exact (pairwise.forall first second different).1 related

theorem take_eq_keyword_iff {payload : Bytes} {command : Command} :
    payload.take command.keyword.length = command.keyword ↔
      command.keyword <+: payload := by
  rw [List.prefix_iff_eq_take, eq_comm]

theorem find_command {command : Command} (member : command ∈ commands)
    (rest : Bytes) :
    commands.find? (fun other =>
      (command.keyword ++ rest).take other.keyword.length = other.keyword) =
      some command := by
  apply find?_of_unique member
  · simp
  · intro other otherMember matched
    have begins : other.keyword <+: command.keyword ++ rest :=
      take_eq_keyword_iff.mp (of_decide_eq_true matched)
    rcases List.prefix_or_prefix_of_prefix begins
      (List.prefix_append command.keyword rest) with shorter | longer
    · exact eq_of_pairwise keywords_prefixFree otherMember member shorter
    · exact (eq_of_pairwise keywords_prefixFree member otherMember longer).symm

theorem dispatch_command {command : Command} (member : command ∈ commands)
    (separator : UInt8) (text : Bytes) :
    dispatch (command.keyword ++ separator :: text) =
      some <$> command.read text := by
  have cut : substr (command.keyword ++ separator :: text)
      (command.keyword.length + 1) = .ok text := by
    unfold substr
    rw [if_pos ⟨by omega, by simp⟩]
    have length : ((command.keyword.length : Int) + 1).toNat =
        command.keyword.length + 1 := by omega
    rw [length, List.drop_length_add_append]
    rfl
  simp only [dispatch, find_command member, cut]
  cases read : command.read text with
  | error exception => simp [bind, Except.bind, read]
  | ok request => simp [bind, Except.bind, pure, Except.pure, read]

theorem dispatch_reads {command : Command} (member : command ∈ commands)
    (separator : UInt8) {text : Bytes} {request : Request}
    (read : command.read text = .ok request) :
    dispatch (command.keyword ++ separator :: text) = .ok (some request) := by
  rw [dispatch_command member, read]
  rfl

theorem dispatch_bare {command : Command} (member : command ∈ commands) :
    dispatch command.keyword = .error .outOfRange := by
  have cut : substr command.keyword (command.keyword.length + 1) =
      .error .outOfRange := by
    unfold substr
    rw [if_neg (by omega)]
  have found := find_command member []
  rw [List.append_nil] at found
  simp only [dispatch, found, cut]
  rfl

theorem dispatch_unknown {payload : Bytes}
    (unknown : ∀ command ∈ commands, ¬ command.keyword <+: payload) :
    dispatch payload = .ok none := by
  have none : commands.find? (fun command =>
      payload.take command.keyword.length = command.keyword) = none := by
    rw [List.find?_eq_none]
    intro command member matched
    exact unknown command member (take_eq_keyword_iff.mp (of_decide_eq_true matched))
  unfold dispatch
  rw [none]

theorem payload_cases (payload : Bytes) :
    (∀ command ∈ commands, ¬ command.keyword <+: payload) ∨
      ∃ command ∈ commands, payload = command.keyword ∨
        ∃ separator text, payload = command.keyword ++ separator :: text := by
  by_cases unknown : ∀ command ∈ commands, ¬ command.keyword <+: payload
  · exact .inl unknown
  · simp only [not_forall, not_not] at unknown
    obtain ⟨command, member, rest, rfl⟩ := unknown
    refine .inr ⟨command, member, ?_⟩
    cases rest with
    | nil => exact .inl (List.append_nil _)
    | cons separator text => exact .inr ⟨separator, text, rfl⟩

/-! What comes of a dispatched payload. -/

theorem onMessage_call {payload : Bytes} {call : Call}
    (dispatched : dispatch payload = .ok (some (.call call)))
    (chances : List pg.Chance) (store : Store) (opcode : Opcode) :
    onMessage chances store payload opcode =
      ([⟨opcode, .reply (call.run chances store).1⟩],
        (call.run chances store).2) := by
  have sendable : ¬ (opcode = .text ∧
      validUtf8 (Content.reply (call.run chances store).1).text = false) := by
    rintro ⟨-, invalid⟩
    have valid := Reply.validUtf8_text (call.run chances store).1
    rw [Content.text, valid] at invalid
    contradiction
  simp only [onMessage, handle, dispatched, send, if_neg sendable]

theorem onMessage_echo {payload text : Bytes}
    (dispatched : dispatch payload = .ok (some (.echo text)))
    (chances : List pg.Chance) (store : Store) (opcode : Opcode) :
    onMessage chances store payload opcode =
      (if opcode = .text ∧ validUtf8 text = false then []
        else [⟨opcode, .echoed text⟩], store) := by
  by_cases refused : opcode = .text ∧ validUtf8 text = false
  · simp [onMessage, handle, dispatched, send, Content.text, refused]
  · simp [onMessage, handle, dispatched, send, Content.text, refused]

theorem onMessage_unknown {payload : Bytes}
    (dispatched : dispatch payload = .ok none)
    (chances : List pg.Chance) (store : Store) (opcode : Opcode) :
    onMessage chances store payload opcode = ([], store) := by
  simp only [onMessage, handle, dispatched]

theorem onMessage_throws {payload : Bytes} {exception : StdException}
    (dispatched : dispatch payload = .error exception)
    (chances : List pg.Chance) (store : Store) (opcode : Opcode) :
    onMessage chances store payload opcode = ([], store) := by
  simp only [onMessage, handle, dispatched]

theorem onMessage_undispatched {payload : Bytes}
    (undispatched : ∀ call, dispatch payload ≠ .ok (some (.call call)))
    (chances : List pg.Chance) (store : Store) (opcode : Opcode) :
    (onMessage chances store payload opcode).2 = store := by
  cases dispatched : dispatch payload with
  | error exception => rw [onMessage_throws dispatched]
  | ok request =>
      cases request with
      | none => rw [onMessage_unknown dispatched]
      | some request =>
          cases request with
          | echo text => rw [onMessage_echo dispatched]
          | call call => exact absurd dispatched (undispatched call)

theorem onMessage_length (chances : List pg.Chance) (store : Store) (payload : Bytes)
    (opcode : Opcode) : (onMessage chances store payload opcode).1.length ≤ 1 := by
  cases dispatched : dispatch payload with
  | error exception =>
      rw [onMessage_throws dispatched]
      exact Nat.zero_le 1
  | ok request =>
      cases request with
      | none =>
          rw [onMessage_unknown dispatched]
          exact Nat.zero_le 1
      | some request =>
          cases request with
          | echo text =>
              rw [onMessage_echo dispatched]
              dsimp only
              split
              · exact Nat.zero_le 1
              · exact Nat.le_refl 1
          | call call =>
              rw [onMessage_call dispatched]
              exact Nat.le_refl 1

end BpkMessenger.Server
