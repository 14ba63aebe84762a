import BpkMessenger.Json.Lexer

namespace BpkMessenger.Json

open Text

/-! The parser of the JSON library: one loop over the tokens with a stack, which builds
the document as it goes.  Whether the value of a float literal is finite is a parameter. -/

inductive Dom where
  | null
  | boolean (value : Bool)
  | unsigned (value : Nat)
  | integer (value : Int)
  | float (literal : Bytes)
  | string (text : Bytes)
  | array (elements : List Dom)
  | object (members : List (Bytes × Dom))

inductive ParseException
  | syntaxError
  | numberOverflow
  deriving DecidableEq, Repr

/-- `operator[]` of the map of an object, and the assignment to what it returns. -/
def setMember (key : Bytes) (value : Dom) : List (Bytes × Dom) → List (Bytes × Dom)
  | [] => [(key, value)]
  | (other, held) :: members =>
      if key < other then (key, value) :: (other, held) :: members
      else if key = other then (key, value) :: members
      else (other, held) :: setMember key value members

/-- An array or object that is not closed yet; `element` is the key of the member that
`object_element` points to. -/
inductive Frame where
  | array (elements : List Dom)
  | object (members : List (Bytes × Dom)) (element : Bytes)

def Frame.close : Frame → Dom
  | .array elements => .array elements
  | .object members _ => .object members

/-- `handle_value` with the container on top of the stack. -/
def Frame.handleValue (value : Dom) : Frame → Frame
  | .array elements => .array (elements ++ [value])
  | .object members element => .object (setMember element value members) element

/-- `states` and `ref_stack` are kept top first. -/
structure Parser where
  lastToken : Token
  rest : Bytes
  states : List Bool
  refStack : List Frame
  root : Dom
  skipToStateEvaluation : Bool

namespace Parser

def getToken (parser : Parser) : Parser :=
  { parser with lastToken := (scan parser.rest).1, rest := (scan parser.rest).2 }

def handleValue (value : Dom) (parser : Parser) : Parser :=
  match parser.refStack with
  | [] => { parser with root := value }
  | frame :: frames => { parser with refStack := frame.handleValue value :: frames }

def startArray (parser : Parser) : Parser :=
  { parser with refStack := Frame.array [] :: parser.refStack }

def startObject (parser : Parser) : Parser :=
  { parser with refStack := Frame.object [] [] :: parser.refStack }

/-- The member of the key is there from now on, null until its value comes. -/
def key (text : Bytes) (parser : Parser) : Parser :=
  match parser.refStack with
  | .object members _ :: frames =>
      let present := members.any fun member => member.1 = text
      let members := if present then members else setMember text .null members
      { parser with refStack := Frame.object members text :: frames }
  | _ => parser

/-- `end_array` and `end_object`: the container has its place in the one below. -/
def endContainer (parser : Parser) : Parser :=
  match parser.refStack with
  | [] => parser
  | frame :: frames => handleValue frame.close { parser with refStack := frames }

/-- What one round of the loop comes to. -/
inductive Progress where
  | goOn (parser : Parser)
  | finished (parser : Parser)

/-- A key, a colon and the first token of the value. -/
def member (parser : Parser) : Except ParseException Parser :=
  match parser.lastToken with
  | .valueString text =>
      let parser := (parser.key text).getToken
      if parser.lastToken = .nameSeparator then .ok parser.getToken else .error .syntaxError
  | _ => .error .syntaxError

/-- The end of a round: a value has been parsed. -/
def evaluate (parser : Parser) : Except ParseException Progress :=
  match parser.states with
  | [] => .ok (.finished parser)
  | true :: states =>
      let parser := parser.getToken
      match parser.lastToken with
      | .valueSeparator => .ok (.goOn parser.getToken)
      | .endArray =>
          .ok (.goOn { parser.endContainer with states := states, skipToStateEvaluation := true })
      | _ => .error .syntaxError
  | false :: states =>
      let parser := parser.getToken
      match parser.lastToken with
      | .valueSeparator => do
          let parser ← parser.getToken.member
          return .goOn parser
      | .endObject =>
          .ok (.goOn { parser.endContainer with states := states, skipToStateEvaluation := true })
      | _ => .error .syntaxError

section Finite

variable (isfinite : Bytes → Bool)

/-- One round of `sax_parse_internal`. -/
def round (parser : Parser) : Except ParseException Progress :=
  if parser.skipToStateEvaluation then
    evaluate { parser with skipToStateEvaluation := false }
  else
    match parser.lastToken with
    | .beginObject =>
        let parser := parser.startObject.getToken
        if parser.lastToken = .endObject then evaluate parser.endContainer
        else do
          let parser ← parser.member
          return .goOn { parser with states := false :: parser.states }
    | .beginArray =>
        let parser := parser.startArray.getToken
        if parser.lastToken = .endArray then evaluate parser.endContainer
        else .ok (.goOn { parser with states := true :: parser.states })
    | .valueFloat literal =>
        if isfinite literal then evaluate (parser.handleValue (.float literal))
        else .error .numberOverflow
    | .literalFalse => evaluate (parser.handleValue (.boolean false))
    | .literalNull => evaluate (parser.handleValue .null)
    | .literalTrue => evaluate (parser.handleValue (.boolean true))
    | .valueInteger value => evaluate (parser.handleValue (.integer value))
    | .valueString text => evaluate (parser.handleValue (.string text))
    | .valueUnsigned value => evaluate (parser.handleValue (.unsigned value))
    | _ => .error .syntaxError

/-- `while (true)`, for so many rounds. -/
def loop : Nat → Parser → Option (Except ParseException Parser)
  | 0, _ => none
  | fuel + 1, parser =>
      match round isfinite parser with
      | .error exception => some (.error exception)
      | .ok (.finished parser) => some (.ok parser)
      | .ok (.goOn parser) => loop fuel parser

end Finite

/-- The parser as constructed, its first token read. -/
def initial (text : Bytes) : Parser :=
  match skipBom text with
  | some rest => getToken ⟨.parseError, rest, [], [], .null, false⟩
  | none => ⟨.parseError, [], [], [], .null, false⟩

end Parser

/-- `json::parse`: the whole text is one document. -/
def parse (isfinite : Bytes → Bool) (text : Bytes) : Except ParseException Dom :=
  match Parser.loop isfinite (text.length + 2) (Parser.initial text) with
  | some (.ok parser) =>
      if parser.getToken.lastToken = .endOfInput then .ok parser.root
      else .error .syntaxError
  | some (.error exception) => .error exception
  | none => .error .syntaxError

/-! Every text is read in so many rounds: each takes a token, and one behind the end of the
text is the last. -/

theorem scanString_length {point : StringPoint} {buffer input text rest : Bytes}
    (scanned : scanString point buffer input = some (text, rest)) :
    rest.length < input.length := by
  induction input generalizing point buffer with
  | nil => contradiction
  | cons byte input induction =>
      rw [scanString] at scanned
      split_ifs at scanned
      · cases scanned
        exact Nat.lt_succ_self _
      · obtain ⟨next, -, scanned⟩ := Option.bind_eq_some_iff.mp scanned
        exact Nat.lt_succ_of_lt (induction scanned)

theorem scanNumberFrom_length {type final : NumberType} {point : NumberPoint}
    {buffer input literal rest : Bytes}
    (scanned : scanNumberFrom type point buffer input = some (final, literal, rest)) :
    rest.length ≤ input.length := by
  induction input generalizing type point buffer with
  | nil =>
      rw [scanNumberFrom] at scanned
      split_ifs at scanned
      cases scanned
      exact le_rfl
  | cons byte input induction =>
      rw [scanNumberFrom] at scanned
      split at scanned
      · exact Nat.le_succ_of_le (induction scanned)
      · split_ifs at scanned
        cases scanned
        exact le_rfl

private theorem orError_length {scanned : Option (Token × Bytes)} {bound : Nat}
    (short : ∀ token rest, scanned = some (token, rest) → rest.length ≤ bound) :
    (orError scanned).2.length ≤ bound := by
  cases scanned with
  | none => exact Nat.zero_le _
  | some scanned => exact short scanned.1 scanned.2 rfl

private theorem scanLiteral_length {literal input rest : Bytes} {token found : Token}
    (scanned : scanLiteral literal token input = some (found, rest)) :
    rest.length ≤ input.length := by
  rw [scanLiteral] at scanned
  split_ifs at scanned
  cases scanned
  simp

private theorem scanNumber_length {byte : UInt8} {input rest : Bytes} {token : Token}
    (scanned : scanNumber byte input = some (token, rest)) : rest.length ≤ input.length := by
  obtain ⟨scanned, found, same⟩ := Option.map_eq_some_iff.mp scanned
  cases same
  exact scanNumberFrom_length found

private theorem ite_length {condition : Prop} [Decidable condition] {first second : Token × Bytes}
    {bound : Nat} (left : first.2.length ≤ bound) (right : second.2.length ≤ bound) :
    (if condition then first else second).2.length ≤ bound := by
  split_ifs
  · exact left
  · exact right

/-- A token takes a byte, if there is one. -/
theorem scan_length (byte : UInt8) (input : Bytes) :
    (scan (byte :: input)).2.length ≤ input.length := by
  have literal : ∀ text token (input : Bytes),
      (orError (scanLiteral text token input)).2.length ≤ input.length :=
    fun _ _ _ => orError_length fun _ _ scanned => scanLiteral_length scanned
  have string : ∀ input : Bytes, (orError ((scanString .character [] input).map fun scanned =>
      (Token.valueString scanned.1, scanned.2))).2.length ≤ input.length := by
    intro input
    refine orError_length fun token rest scanned => ?_
    obtain ⟨scanned, found, same⟩ := Option.map_eq_some_iff.mp scanned
    cases same
    exact (scanString_length found).le
  have number : ∀ byte (input : Bytes),
      (orError (scanNumber byte input)).2.length ≤ input.length :=
    fun _ _ => orError_length fun _ _ scanned => scanNumber_length scanned
  have token : ∀ byte (input : Bytes), (scan input).2.length ≤ input.length →
      (scan (byte :: input)).2.length ≤ input.length := by
    intro byte input blank
    rw [scan]
    refine ite_length blank ?_
    iterate 6 refine ite_length le_rfl ?_
    iterate 3 refine ite_length (literal _ _ _) ?_
    exact ite_length (string _) (ite_length (number _ _) (ite_length le_rfl le_rfl))
  induction input generalizing byte with
  | nil => exact token byte [] le_rfl
  | cons next input induction =>
      exact token byte (next :: input) (Nat.le_succ_of_le (induction next))

namespace Parser

theorem getToken_length (parser : Parser) :
    parser.getToken.rest.length ≤ parser.rest.length := by
  cases rest : parser.rest with
  | nil => simp [getToken, rest, scan]
  | cons byte input =>
      simpa [getToken, rest] using Nat.le_succ_of_le (scan_length byte input)

theorem getToken_taken {parser : Parser} (more : parser.getToken.lastToken ≠ .endOfInput) :
    parser.getToken.rest.length < parser.rest.length := by
  cases rest : parser.rest with
  | nil => simp [getToken, rest, scan] at more
  | cons byte input =>
      simpa [getToken, rest] using Nat.lt_succ_of_le (scan_length byte input)

theorem rest_handleValue (value : Dom) (parser : Parser) :
    (parser.handleValue value).rest = parser.rest := by
  unfold handleValue
  split <;> rfl

theorem rest_endContainer (parser : Parser) : parser.endContainer.rest = parser.rest := by
  unfold endContainer
  split
  · rfl
  · exact rest_handleValue _ _

theorem rest_key (text : Bytes) (parser : Parser) : (parser.key text).rest = parser.rest := by
  unfold Parser.key
  split <;> rfl

theorem member_length {parser next : Parser} (taken : parser.member = .ok next) :
    next.rest.length ≤ parser.rest.length ∧ parser.lastToken ≠ .endOfInput := by
  unfold member at taken
  split at taken
  · next text last =>
      dsimp only at taken
      split_ifs at taken
      cases taken
      have colon := getToken_length (parser.key text)
      rw [rest_key] at colon
      exact ⟨(getToken_length _).trans colon, by simp [last]⟩
  · contradiction

/-- Behind a value there is a token, or the loop is over. -/
theorem evaluate_length {parser next : Parser} (goes : evaluate parser = .ok (.goOn next)) :
    next.rest.length < parser.rest.length := by
  unfold evaluate at goes
  split at goes
  · injection goes with finished
    contradiction
  · simp only at goes
    split at goes
    · next last =>
        cases goes
        exact (getToken_length _).trans_lt (getToken_taken (by simp [last]))
    · next last =>
        cases goes
        rw [rest_endContainer]
        exact getToken_taken (by simp [last])
    · contradiction
  · simp only at goes
    split at goes
    · next last =>
        obtain ⟨found, taken, same⟩ := bind_eq_ok_iff.mp goes
        cases same
        exact ((member_length taken).1.trans (getToken_length _)).trans_lt
          (getToken_taken (by simp [last]))
    · next last =>
        cases goes
        rw [rest_endContainer]
        exact getToken_taken (by simp [last])
    · contradiction

variable {isfinite : Bytes → Bool}

/-- Nothing is left, and no value begins. -/
def Exhausted (parser : Parser) : Prop :=
  parser.lastToken = .endOfInput ∧ parser.skipToStateEvaluation = false

theorem round_exhausted {parser : Parser} (exhausted : parser.Exhausted) :
    round isfinite parser = .error .syntaxError := by
  simp [round, exhausted.1, exhausted.2]

theorem round_length {parser next : Parser}
    (goes : round isfinite parser = .ok (.goOn next)) :
    next.rest.length < parser.rest.length ∨ next.Exhausted := by
  unfold round at goes
  split_ifs at goes with skip
  · have shorter := evaluate_length goes
    exact .inl shorter
  · split at goes
    · simp only at goes
      split_ifs at goes
      · have shorter := evaluate_length goes
        rw [rest_endContainer] at shorter
        exact .inl (shorter.trans_le (getToken_length _))
      · obtain ⟨found, taken, same⟩ := bind_eq_ok_iff.mp goes
        cases same
        obtain ⟨shorter, more⟩ := member_length taken
        exact .inl (shorter.trans_lt (getToken_taken more))
    · simp only at goes
      split_ifs at goes
      · have shorter := evaluate_length goes
        rw [rest_endContainer] at shorter
        exact .inl (shorter.trans_le (getToken_length _))
      · cases goes
        by_cases more : parser.startArray.getToken.lastToken = .endOfInput
        · exact .inr ⟨more, by simpa [getToken, startArray] using skip⟩
        · exact .inl (getToken_taken more)
    all_goals first
      | contradiction
      | (have shorter := evaluate_length goes
         rw [rest_handleValue] at shorter
         exact .inl shorter)
      | skip
    split_ifs at goes
    have shorter := evaluate_length goes
    rw [rest_handleValue] at shorter
    exact .inl shorter

theorem loop_isSome {fuel : Nat} {parser : Parser}
    (enough : parser.rest.length + 2 ≤ fuel) : (loop isfinite fuel parser).isSome = true := by
  induction fuel generalizing parser with
  | zero => omega
  | succ fuel induction =>
      rw [loop]
      split
      · rfl
      · rfl
      · next next goes =>
          rcases round_length goes with shorter | exhausted
          · exact induction (by omega)
          · cases fuel with
            | zero => omega
            | succ fuel =>
                rw [loop, round_exhausted exhausted]
                rfl

theorem loop_more {fuel : Nat} {parser : Parser} {result : Except ParseException Parser}
    (came : loop isfinite fuel parser = some result) (more : Nat) :
    loop isfinite (fuel + more) parser = some result := by
  induction fuel generalizing parser with
  | zero => contradiction
  | succ fuel induction =>
      rw [Nat.succ_add, loop]
      rw [loop] at came
      cases step : round isfinite parser with
      | error exception =>
          rw [step] at came
          exact came
      | ok progress =>
          rw [step] at came
          cases progress with
          | finished parser => exact came
          | goOn parser => exact induction came

theorem length_initial (text : Bytes) : (initial text).rest.length ≤ text.length := by
  unfold initial
  split
  · next rest found =>
      refine (getToken_length _).trans ?_
      unfold skipBom at found
      split at found
      · cases found
        simp only [List.length_cons]
        omega
      · contradiction
      · cases found
        exact le_rfl
  · exact Nat.zero_le _

/-- The rounds that `parse` gives the loop are enough. -/
theorem loop_initial (isfinite : Bytes → Bool) (text : Bytes) :
    ∃ result, loop isfinite (text.length + 2) (initial text) = some result :=
  Option.isSome_iff_exists.mp (loop_isSome (Nat.add_le_add_right (length_initial text) 2))

end Parser

end BpkMessenger.Json
