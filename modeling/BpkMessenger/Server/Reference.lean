import BpkMessenger.Server.Postgres

namespace BpkMessenger.Server.Reference

open Text Sql

/-! A PostgreSQL that runs: it reads the statement back from its tokens, draws the
id it is told to, and returns rows in the order of the table. -/

def numbers (tokens : List Token) : List Nat :=
  tokens.filterMap fun
    | .number digits => some (decimalValue digits)
    | _ => none

def strings (tokens : List Token) : List Bytes :=
  tokens.filterMap fun
    | .string value => some value
    | _ => none

def words (tokens : List Token) : List Bytes :=
  tokens.filterMap fun
    | .word name => some name
    | _ => none

def newRows (ids : List Nat) (texts : List Bytes) : List NewRow :=
  let first := ids.headD 0
  let second := ids.tail.headD 0
  let text := texts.headD []
  [.user text, .chat text, .link first second, .message first second text,
    .token first text]

def queries (ids : List Nat) (texts : List Bytes) : List Query :=
  let first := ids.headD 0
  let second := ids.tail.headD 0
  let text := texts.headD []
  [.userByName text, .userById text, .chatByName text, .chatById first,
    .link first second, .linksOfUser first, .linksOfChat first, .messagesOf first,
    .tokensOf first]

def statements (ids : List Nat) (texts : List Bytes) : List Statement :=
  (newRows ids texts).map .insert ++ (queries ids texts).map .select ++
    (queries ids texts).map .copy

def parse (tokens : List Token) : Option Statement :=
  (statements (numbers tokens) (strings tokens)).find? fun statement =>
    words statement.tokens = words tokens

private theorem parse_of_numbers {statement : Statement} {ids : List Nat}
    (read : numbers statement.tokens = ids)
    (found : (statements ids (strings statement.tokens)).find? (fun other =>
      words other.tokens = words statement.tokens) = some statement) :
    parse statement.tokens = some statement := by
  rw [parse, read, found]

private theorem one_number (n : Nat) : [decimalValue (decimal n)] = [n] := by
  rw [decimalValue_decimal]

private theorem two_numbers (first second : Nat) :
    [decimalValue (decimal first), decimalValue (decimal second)] =
      [first, second] := by
  rw [decimalValue_decimal, decimalValue_decimal]

theorem parse_tokens (statement : Statement) :
    parse statement.tokens = some statement := by
  cases statement with
  | insert row =>
      cases row with
      | user userName => rfl
      | chat chatName => rfl
      | link userId chatId => exact parse_of_numbers (two_numbers userId chatId) rfl
      | message chatId senderId messageText =>
          exact parse_of_numbers (two_numbers chatId senderId) rfl
      | token userId trelloToken => exact parse_of_numbers (one_number userId) rfl
  | select query =>
      cases query with
      | userByName userName => rfl
      | userById literal => rfl
      | chatByName chatName => rfl
      | chatById chatId => exact parse_of_numbers (one_number chatId) rfl
      | link userId chatId => exact parse_of_numbers (two_numbers userId chatId) rfl
      | linksOfUser userId => exact parse_of_numbers (one_number userId) rfl
      | linksOfChat chatId => exact parse_of_numbers (one_number chatId) rfl
      | messagesOf chatId => exact parse_of_numbers (one_number chatId) rfl
      | tokensOf userId => exact parse_of_numbers (one_number userId) rfl
  | copy query =>
      cases query with
      | userByName userName => rfl
      | userById literal => rfl
      | chatByName chatName => rfl
      | chatById chatId => exact parse_of_numbers (one_number chatId) rfl
      | link userId chatId => exact parse_of_numbers (two_numbers userId chatId) rfl
      | linksOfUser userId => exact parse_of_numbers (one_number userId) rfl
      | linksOfChat chatId => exact parse_of_numbers (one_number chatId) rfl
      | messagesOf chatId => exact parse_of_numbers (one_number chatId) rfl
      | tokensOf userId => exact parse_of_numbers (one_number userId) rfl

instance : (query : Query) → Decidable query.WellTyped
  | .userByName userName => inferInstanceAs (Decidable (validUtf8 userName = true))
  | .userById literal => inferInstanceAs (Decidable (decimalValue literal < 2 ^ 63))
  | .chatByName chatName => inferInstanceAs (Decidable (validUtf8 chatName = true))
  | .chatById _ | .link _ _ | .linksOfUser _ | .linksOfChat _ | .messagesOf _
  | .tokensOf _ => inferInstanceAs (Decidable True)

/-- What happens at one operation: it goes through, with this id for a new row. -/
structure Draw where
  up : Bool
  id : Nat
  deriving DecidableEq, Repr

def storedRow (id : Nat) : NewRow → Option StoredRow
  | .user userName => (varchar 50 userName).map fun text => .user ⟨id, text⟩
  | .chat chatName => (varchar 50 chatName).map fun text => .chat ⟨id, text⟩
  | .link userId chatId => some (.link ⟨userId, chatId⟩)
  | .message chatId senderId messageText =>
      some (.message ⟨chatId, senderId, messageText⟩)
  | .token userId trelloToken => some (.token ⟨userId, trelloToken⟩)

theorem stores_of_storedRow {row : NewRow} {id : Nat} {stored : StoredRow}
    (same : storedRow id row = some stored) : row.Stores stored := by
  cases row with
  | user userName =>
      obtain ⟨text, fits, rfl⟩ := Option.map_eq_some_iff.mp same
      exact .user fits
  | chat chatName =>
      obtain ⟨text, fits, rfl⟩ := Option.map_eq_some_iff.mp same
      exact .chat fits
  | link userId chatId =>
      cases same
      exact .link
  | message chatId senderId messageText =>
      cases same
      exact .message
  | token userId trelloToken =>
      cases same
      exact .token

def insertRow (id : Nat) (store : Store) (row : NewRow) : Outcome :=
  match storedRow id row with
  | none => .error .unavailable
  | some stored =>
      if consistent : validUtf8 row.text = true ∧
          (store.toTables.add stored).Consistent then
        .ok ([], ⟨store.toTables.add stored, consistent.2⟩)
      else .error .unavailable

def selectRows (store : Store) (query : Query) : Outcome :=
  if query.WellTyped then .ok (query.rows store.toTables, store)
  else .error .rejected

def perform (id : Nat) (store : Store) : Statement → Outcome
  | .insert row => insertRow id store row
  | .select query | .copy query => selectRows store query

theorem insertRow_permitted (id : Nat) (store : Store) (row : NewRow) :
    (Statement.insert row).Permits store (insertRow id store row) := by
  unfold insertRow
  cases same : storedRow id row with
  | none => exact trivial
  | some stored =>
      by_cases consistent : validUtf8 row.text = true ∧
          (store.toTables.add stored).Consistent
      · simp only [dif_pos consistent]
        exact ⟨rfl, consistent.1, stored, stores_of_storedRow same, rfl⟩
      · simp only [dif_neg consistent]
        exact trivial

theorem perform_permitted (id : Nat) (store : Store) (statement : Statement) :
    statement.Permits store (perform id store statement) := by
  cases statement with
  | insert row => exact insertRow_permitted id store row
  | select query =>
      by_cases typed : query.WellTyped
      · simp only [perform, selectRows, if_pos typed]
        exact ⟨typed, rfl, .refl _⟩
      · simp only [perform, selectRows, if_neg typed]
        exact typed
  | copy query =>
      by_cases typed : query.WellTyped
      · simp only [perform, selectRows, if_pos typed]
        exact ⟨typed, rfl, .refl _⟩
      · simp only [perform, selectRows, if_neg typed]
        exact typed

def run (draw : Draw) (store : Store) (text : Bytes) : Outcome :=
  if draw.up then
    match lex (cString text) with
    | .error _ => .error .rejected
    | .ok tokens =>
        match parse tokens with
        | none => .error .unavailable
        | some statement => perform draw.id store statement
  else .error .unavailable

theorem run_statement {draw : Draw} {store : Store} {text : Bytes} {statement : Statement}
    (up : draw.up = true) (lexed : lex (cString text) = .ok statement.tokens) :
    run draw store text = perform draw.id store statement := by
  rw [run, if_pos up, lexed]
  simp only [parse_tokens]

theorem run_copy {draw : Draw} {store : Store} {text : Bytes} {query : Query}
    (up : draw.up = true) (lexed : lex (cString text) = .ok (Statement.copy query).tokens)
    (typed : query.WellTyped) :
    run draw store text = .ok (query.rows store.toTables, store) := by
  rw [run_statement up lexed, perform, selectRows, if_pos typed]

def postgres : Postgres where
  Chance := Draw
  begins := Draw.up
  commits := Draw.up
  exec := run
  documented := by
    intro draw store text statement lexed
    unfold run
    cases up : draw.up with
    | false => cases statement <;> exact trivial
    | true =>
        rw [if_pos rfl, lexed]
        simp only [parse_tokens]
        exact perform_permitted draw.id store statement
  malformed := by
    intro draw store text lexed
    unfold run
    cases up : draw.up with
    | false => exact ⟨_, rfl⟩
    | true =>
        rw [if_pos rfl, lexed]
        exact ⟨_, rfl⟩

end BpkMessenger.Server.Reference
