import BpkMessenger.Json.Parser
import BpkMessenger.Json.Scanning

namespace BpkMessenger.Json

open Text

/-! What the writer wrote, the parser reads. -/

variable {κ : Type}

/-! Documents that the library can hold: 64-bit numbers, and members in the order of
their names. -/

section Plain

variable (name : κ → Bytes)

mutual
def Plain : Json κ → Prop
  | .null => True
  | .number value => value < 2 ^ 64
  | .string _ => True
  | .array values => PlainElements values
  | .object members =>
      (members.map fun member => name member.1).Pairwise (· < ·) ∧ PlainMembers members

def PlainElements : List (Json κ) → Prop
  | [] => True
  | value :: values => Plain value ∧ PlainElements values

def PlainMembers : List (κ × Json κ) → Prop
  | [] => True
  | (_, value) :: members => Plain value ∧ PlainMembers members
end

mutual
/-- The document that the parser builds. -/
def dom : Json κ → Dom
  | .null => .null
  | .number value => .unsigned value
  | .string text => .string text
  | .array values => .array (domElements values)
  | .object members => .object (domMembers members)

def domElements : List (Json κ) → List Dom
  | [] => []
  | value :: values => dom value :: domElements values

def domMembers : List (κ × Json κ) → List (Bytes × Dom)
  | [] => []
  | (key, value) :: members => (name key, dom value) :: domMembers members
end

end Plain

theorem plainElements_iff {name : κ → Bytes} {values : List (Json κ)} :
    PlainElements name values ↔ ∀ value ∈ values, Plain name value := by
  induction values with
  | nil => simp [PlainElements]
  | cons value values induction => simp [PlainElements, induction]

theorem plainMembers_iff {name : κ → Bytes} {members : List (κ × Json κ)} :
    PlainMembers name members ↔ ∀ member ∈ members, Plain name member.2 := by
  induction members with
  | nil => simp [PlainMembers]
  | cons member members induction => simp [PlainMembers, induction]

/-! Members at the end of an object. -/

private theorem key_ne {key other : Bytes} (less : other < key) : key ≠ other := by
  rintro rfl
  exact List.lt_irrefl key less

theorem setMember_end {members : List (Bytes × Dom)} {key : Bytes}
    (before : ∀ member ∈ members, member.1 < key) (value : Dom) :
    setMember key value members = members ++ [(key, value)] := by
  induction members with
  | nil => rfl
  | cons member members induction =>
      obtain ⟨other, held⟩ := member
      have less : other < key := before (other, held) List.mem_cons_self
      have others := induction fun member inside => before member (List.mem_cons_of_mem _ inside)
      rw [setMember, if_neg (List.lt_asymm less), if_neg (key_ne less), others, List.cons_append]

theorem setMember_last {members : List (Bytes × Dom)} {key : Bytes}
    (before : ∀ member ∈ members, member.1 < key) (former value : Dom) :
    setMember key value (members ++ [(key, former)]) = members ++ [(key, value)] := by
  induction members with
  | nil => simp [setMember]
  | cons member members induction =>
      obtain ⟨other, held⟩ := member
      have less : other < key := before (other, held) List.mem_cons_self
      have others := induction fun member inside => before member (List.mem_cons_of_mem _ inside)
      rw [List.cons_append, setMember, if_neg (List.lt_asymm less), if_neg (key_ne less), others,
        List.cons_append]

theorem key_absent {members : List (Bytes × Dom)} {key : Bytes}
    (before : ∀ member ∈ members, member.1 < key) :
    (members.any fun member => member.1 = key) = false := by
  simp only [List.any_eq_false, decide_eq_true_eq]
  intro member inside same
  exact key_ne (before member inside) same.symm

namespace Parser

variable (isfinite : Bytes → Bool)

/-- The loop comes from one state to the other. -/
def Leads (first second : Parser) : Prop :=
  ∃ rounds, ∀ fuel,
    loop isfinite (fuel + 1 + rounds) first = loop isfinite (fuel + 1) second

variable {isfinite}

theorem Leads.trans {first second third : Parser} (left : Leads isfinite first second)
    (right : Leads isfinite second third) : Leads isfinite first third := by
  obtain ⟨before, left⟩ := left
  obtain ⟨after, right⟩ := right
  refine ⟨after + before, fun fuel => ?_⟩
  have moved := left (fuel + after)
  rw [show fuel + 1 + (after + before) = fuel + after + 1 + before by omega, moved,
    show fuel + after + 1 = fuel + 1 + after by omega, right]

theorem Leads.goOn {first second : Parser}
    (rounds : round isfinite first = .ok (.goOn second)) : Leads isfinite first second := by
  refine ⟨1, fun fuel => ?_⟩
  rw [loop, rounds]

theorem Leads.same {first second : Parser}
    (rounds : round isfinite first = round isfinite second) : Leads isfinite first second := by
  refine ⟨0, fun fuel => ?_⟩
  rw [Nat.add_zero, loop, loop, rounds]

/-- Before a value. -/
def reading (parser : Parser) (input : Bytes) : Parser :=
  { parser with
    lastToken := (scan input).1
    rest := (scan input).2
    skipToStateEvaluation := false }

/-- Behind a value: the next round begins with the evaluation. -/
def passed (parser : Parser) (value : Dom) (token : Token) (rest : Bytes) : Parser :=
  { parser.handleValue value with
    lastToken := token
    rest := rest
    skipToStateEvaluation := true }

/-- Inside an array. -/
def inArray (parser : Parser) (elements : List Dom) : Parser :=
  { parser with
    states := true :: parser.states
    refStack := Frame.array elements :: parser.refStack }

/-- Inside an object, before the value of its last member. -/
def inObject (parser : Parser) (members : List (Bytes × Dom)) (key : Bytes) : Parser :=
  { parser with
    states := false :: parser.states
    refStack := Frame.object (members ++ [(key, .null)]) key :: parser.refStack }

/-- A value that is one token. -/
theorem leads_token {parser : Parser} {input tail : Bytes} {token : Token} {value : Dom}
    (scanned : scan input = (token, tail))
    (handled : ∀ parser : Parser, parser.lastToken = token →
      parser.skipToStateEvaluation = false →
        round isfinite parser = evaluate (parser.handleValue value)) :
    Leads isfinite (parser.reading input) (parser.passed value token tail) := by
  apply Leads.same
  rw [handled (parser.reading input) (congrArg Prod.fst scanned) rfl, round]
  obtain ⟨lastToken, rest, states, _ | ⟨frame, frames⟩, root, skip⟩ := parser
  · simp [reading, passed, handleValue, scanned]
  · simp [reading, passed, handleValue, scanned]

/-! Brackets, and what stands between values. -/

theorem round_openArray {parser : Parser} {input : Bytes}
    (more : (scan input).1 ≠ .endArray) :
    round isfinite (parser.reading (91 :: input)) =
      .ok (.goOn ((parser.inArray []).reading input)) := by
  have opening : scan (91 :: input) = (.beginArray, input) := rfl
  simp [round, reading, inArray, startArray, getToken, opening, more]

theorem leads_emptyArray (parser : Parser) (tail : Bytes) :
    Leads isfinite (parser.reading (91 :: 93 :: tail))
      (parser.passed (.array []) .endArray tail) := by
  have opening : scan (91 :: 93 :: tail) = (.beginArray, 93 :: tail) := rfl
  have closing : scan (93 :: tail) = (.endArray, tail) := rfl
  apply Leads.same
  obtain ⟨lastToken, rest, states, _ | ⟨frame, frames⟩, root, skip⟩ := parser
  · simp [round, reading, passed, startArray, getToken, endContainer, handleValue,
      Frame.close, opening, closing]
  · simp [round, reading, passed, startArray, getToken, endContainer, handleValue,
      Frame.close, opening, closing]

theorem round_nextElement {parser : Parser} {elements : List Dom} {value : Dom}
    {token : Token} {input : Bytes} :
    round isfinite ((parser.inArray elements).passed value token (44 :: input)) =
      .ok (.goOn ((parser.inArray (elements ++ [value])).reading input)) := by
  have separator : scan (44 :: input) = (.valueSeparator, input) := rfl
  simp [round, reading, passed, inArray, handleValue, Frame.handleValue, evaluate, getToken,
    separator]

theorem round_lastElement {parser : Parser} {elements : List Dom} {value : Dom}
    {token : Token} {tail : Bytes} :
    round isfinite ((parser.inArray elements).passed value token (93 :: tail)) =
      .ok (.goOn (parser.passed (.array (elements ++ [value])) .endArray tail)) := by
  have closing : scan (93 :: tail) = (.endArray, tail) := rfl
  obtain ⟨lastToken, rest, states, _ | ⟨frame, frames⟩, root, skip⟩ := parser
  · simp [round, passed, inArray, handleValue, Frame.handleValue, Frame.close, evaluate,
      endContainer, getToken, closing]
  · simp [round, passed, inArray, handleValue, Frame.handleValue, Frame.close, evaluate,
      endContainer, getToken, closing]

theorem round_openObject {parser : Parser} {written key input : Bytes}
    (dumped : Json.dumpString key = .ok written) :
    round isfinite (parser.reading (123 :: (written ++ 58 :: input))) =
      .ok (.goOn ((parser.inObject [] key).reading input)) := by
  have opening : scan (123 :: (written ++ 58 :: input)) =
      (.beginObject, written ++ 58 :: input) := rfl
  have separator : scan (58 :: input) = (.nameSeparator, input) := rfl
  have named := scan_dumpString dumped (58 :: input)
  simp [round, reading, inObject, startObject, getToken, member, Parser.key, setMember,
    opening, separator, named]

theorem leads_emptyObject (parser : Parser) (tail : Bytes) :
    Leads isfinite (parser.reading (123 :: 125 :: tail))
      (parser.passed (.object []) .endObject tail) := by
  have opening : scan (123 :: 125 :: tail) = (.beginObject, 125 :: tail) := rfl
  have closing : scan (125 :: tail) = (.endObject, tail) := rfl
  apply Leads.same
  obtain ⟨lastToken, rest, states, _ | ⟨frame, frames⟩, root, skip⟩ := parser
  · simp [round, reading, passed, startObject, getToken, endContainer, handleValue,
      Frame.close, opening, closing]
  · simp [round, reading, passed, startObject, getToken, endContainer, handleValue,
      Frame.close, opening, closing]

theorem round_nextMember {parser : Parser} {members : List (Bytes × Dom)}
    {former key written input : Bytes} {value : Dom} {token : Token}
    (sorted : ∀ member ∈ members, member.1 < former)
    (before : ∀ member ∈ members ++ [(former, value)], member.1 < key)
    (dumped : Json.dumpString key = .ok written) :
    round isfinite ((parser.inObject members former).passed value token
        (44 :: (written ++ 58 :: input))) =
      .ok (.goOn ((parser.inObject (members ++ [(former, value)]) key).reading input)) := by
  have separator : scan (44 :: (written ++ 58 :: input)) =
      (.valueSeparator, written ++ 58 :: input) := rfl
  have colon : scan (58 :: input) = (.nameSeparator, input) := rfl
  have named := scan_dumpString dumped (58 :: input)
  simp [round, reading, passed, inObject, handleValue, Frame.handleValue, evaluate, getToken,
    member, separator, colon, named, setMember_last sorted, Parser.key, key_absent before,
    setMember_end before]

theorem round_lastMember {parser : Parser} {members : List (Bytes × Dom)} {key : Bytes}
    {value : Dom} {token : Token} {tail : Bytes}
    (sorted : ∀ member ∈ members, member.1 < key) :
    round isfinite ((parser.inObject members key).passed value token (125 :: tail)) =
      .ok (.goOn (parser.passed (.object (members ++ [(key, value)])) .endObject tail)) := by
  have closing : scan (125 :: tail) = (.endObject, tail) := rfl
  obtain ⟨lastToken, rest, states, _ | ⟨frame, frames⟩, root, skip⟩ := parser
  · simp [round, passed, inObject, handleValue, Frame.handleValue, Frame.close, evaluate,
      endContainer, getToken, closing, setMember_last sorted]
  · simp [round, passed, inObject, handleValue, Frame.handleValue, Frame.close, evaluate,
      endContainer, getToken, closing, setMember_last sorted]

/-! The document, by its structure. -/

section Written

variable {name : κ → Bytes}

private theorem delimited_cons {byte : UInt8} (rest : Bytes)
    (stops : isdigit byte = false ∧ byte ≠ 46 ∧ byte ≠ 101 ∧ byte ≠ 69) :
    Delimited (byte :: rest) := by
  intro other head
  cases head
  exact stops

theorem scan_dump_ne_endArray {value : Json κ} {written tail : Bytes}
    (dumped : value.dump name = .ok written) (plain : Plain name value)
    (delimited : Delimited tail) : (scan (written ++ tail)).1 ≠ .endArray := by
  cases value with
  | null =>
      cases dumped
      simp [scan, ascii, isWhitespace, scanLiteral, orError]
  | number value =>
      cases dumped
      simp [scan_decimal plain delimited]
  | string text => simp [scan_dumpString dumped tail]
  | array values =>
      obtain ⟨rest, rfl⟩ := Json.dump_array dumped
      simp [scan, isWhitespace]
  | object members =>
      simp only [Json.dump, bind_eq_ok_iff] at dumped
      obtain ⟨body, bodyDumped, same⟩ := dumped
      cases same
      simp [scan, ascii, isWhitespace]

theorem dumpElements_single {value : Json κ} {written : Bytes}
    (dumped : Json.dumpElements name [value] = .ok written) :
    value.dump name = .ok written := by
  simp only [Json.dumpElements, bind_eq_ok_iff] at dumped
  obtain ⟨first, firstDumped, others, othersDumped, same⟩ := dumped
  cases othersDumped
  cases same
  simpa using firstDumped

theorem dumpElements_more {value second : Json κ} {values : List (Json κ)} {written : Bytes}
    (dumped : Json.dumpElements name (value :: second :: values) = .ok written) :
    ∃ first others, value.dump name = .ok first ∧
      Json.dumpElements name (second :: values) = .ok others ∧
      written = first ++ 44 :: others := by
  rw [Json.dumpElements] at dumped
  simp only [bind_eq_ok_iff] at dumped
  obtain ⟨first, firstDumped, others, othersDumped, same⟩ := dumped
  cases same
  exact ⟨first, others, firstDumped, othersDumped, by simp [ascii]⟩

theorem scan_dumpElements {value : Json κ} {values : List (Json κ)} {written : Bytes}
    (dumped : Json.dumpElements name (value :: values) = .ok written)
    (plain : Plain name value) (tail : Bytes) :
    (scan (written ++ 93 :: tail)).1 ≠ .endArray := by
  cases values with
  | nil =>
      exact scan_dump_ne_endArray (dumpElements_single dumped) plain
        (delimited_cons tail (by decide))
  | cons second values =>
      obtain ⟨first, others, firstDumped, -, rfl⟩ := dumpElements_more dumped
      rw [List.append_assoc]
      exact scan_dump_ne_endArray firstDumped plain (delimited_cons _ (by decide))

theorem dumpMembers_single {key : κ} {value : Json κ} {written : Bytes}
    (dumped : Json.dumpMembers name [(key, value)] = .ok written) :
    ∃ named first, Json.dumpString (name key) = .ok named ∧ value.dump name = .ok first ∧
      written = named ++ 58 :: first := by
  simp only [Json.dumpMembers, bind_eq_ok_iff] at dumped
  obtain ⟨named, namedDumped, first, firstDumped, others, othersDumped, same⟩ := dumped
  cases othersDumped
  cases same
  exact ⟨named, first, namedDumped, firstDumped, by simp [ascii]⟩

theorem dumpMembers_more {key : κ} {value : Json κ} {member : κ × Json κ}
    {members : List (κ × Json κ)} {written : Bytes}
    (dumped : Json.dumpMembers name ((key, value) :: member :: members) = .ok written) :
    ∃ named first others, Json.dumpString (name key) = .ok named ∧
      value.dump name = .ok first ∧ Json.dumpMembers name (member :: members) = .ok others ∧
      written = named ++ 58 :: (first ++ 44 :: others) := by
  rw [Json.dumpMembers] at dumped
  simp only [bind_eq_ok_iff] at dumped
  obtain ⟨named, namedDumped, first, firstDumped, others, othersDumped, same⟩ := dumped
  cases same
  exact ⟨named, first, others, namedDumped, firstDumped, othersDumped, by simp [ascii]⟩

/-- The loop reads what was written of a value, whatever stands around it. -/
def Readable (isfinite : Bytes → Bool) (name : κ → Bytes) (value : Json κ) : Prop :=
  ∀ (parser : Parser) (written tail : Bytes), value.dump name = .ok written →
    Plain name value → Delimited tail →
      ∃ token, Leads isfinite (parser.reading (written ++ tail))
        (parser.passed (dom name value) token tail)

theorem leads_elements (parser : Parser) {before : List Dom} {value : Json κ}
    {values : List (Json κ)} (readable : ∀ other ∈ value :: values, Readable isfinite name other)
    {written : Bytes} (tail : Bytes)
    (dumped : Json.dumpElements name (value :: values) = .ok written)
    (plain : PlainElements name (value :: values)) :
    ∃ token, Leads isfinite ((parser.inArray before).reading (written ++ 93 :: tail))
      (parser.passed (.array (before ++ domElements name (value :: values))) token tail) := by
  induction values generalizing before value written with
  | nil =>
      obtain ⟨token, read⟩ := readable value List.mem_cons_self (parser.inArray before)
        written (93 :: tail) (dumpElements_single dumped) plain.1
        (delimited_cons tail (by decide))
      exact ⟨_, Leads.trans read (Leads.goOn round_lastElement)⟩
  | cons second values induction =>
      obtain ⟨first, others, firstDumped, othersDumped, rfl⟩ := dumpElements_more dumped
      obtain ⟨token, read⟩ := readable value List.mem_cons_self (parser.inArray before)
        first (44 :: (others ++ 93 :: tail)) firstDumped plain.1
        (delimited_cons _ (by decide))
      obtain ⟨last, onward⟩ := @induction (before ++ [dom name value]) second
        (fun other member => readable other (List.mem_cons_of_mem _ member)) others
        othersDumped plain.2
      have step := Leads.trans read (Leads.goOn round_nextElement)
      rw [List.append_assoc] at onward
      rw [List.append_assoc]
      exact ⟨last, Leads.trans step onward⟩

theorem leads_members (parser : Parser) {before : List (Bytes × Dom)} {key : κ}
    {value : Json κ} {members : List (κ × Json κ)}
    (readable : ∀ member ∈ (key, value) :: members, Readable isfinite name member.2)
    {written : Bytes} (tail : Bytes)
    (dumped : Json.dumpMembers name ((key, value) :: members) = .ok written)
    (sorted : (before.map Prod.fst ++
      ((key, value) :: members).map fun member => name member.1).Pairwise (· < ·))
    (plain : PlainMembers name ((key, value) :: members)) :
    ∃ named input, Json.dumpString (name key) = .ok named ∧ written = named ++ 58 :: input ∧
      ∃ token, Leads isfinite ((parser.inObject before (name key)).reading (input ++ 125 :: tail))
        (parser.passed (.object (before ++ domMembers name ((key, value) :: members)))
          token tail) := by
  have lower : ∀ member ∈ before, member.1 < name key := by
    intro member inside
    exact (List.pairwise_append.mp sorted).2.2 member.1 (List.mem_map_of_mem inside) _
      List.mem_cons_self
  induction members generalizing before key value written with
  | nil =>
      obtain ⟨named, first, namedDumped, firstDumped, rfl⟩ := dumpMembers_single dumped
      obtain ⟨token, read⟩ := readable (key, value) List.mem_cons_self
        (parser.inObject before (name key)) first (125 :: tail) firstDumped plain.1
        (delimited_cons tail (by decide))
      exact ⟨named, first, namedDumped, rfl, _,
        Leads.trans read (Leads.goOn (round_lastMember lower))⟩
  | cons second members induction =>
      obtain ⟨next, held⟩ := second
      obtain ⟨named, first, others, namedDumped, firstDumped, othersDumped, rfl⟩ :=
        dumpMembers_more dumped
      have onwardSorted : ((before ++ [(name key, dom name value)]).map Prod.fst ++
          ((next, held) :: members).map fun member => name member.1).Pairwise (· < ·) := by
        simpa using sorted
      have onwardLower : ∀ member ∈ before ++ [(name key, dom name value)],
          member.1 < name next := by
        intro member inside
        exact (List.pairwise_append.mp onwardSorted).2.2 member.1 (List.mem_map_of_mem inside) _
          List.mem_cons_self
      obtain ⟨nextNamed, input, nextDumped, rfl, last, onward⟩ :=
        @induction (before ++ [(name key, dom name value)]) next held
          (fun other member => readable other (List.mem_cons_of_mem _ member)) others
          othersDumped onwardSorted plain.2 onwardLower
      obtain ⟨token, read⟩ := readable (key, value) List.mem_cons_self
        (parser.inObject before (name key)) first
        (44 :: (nextNamed ++ 58 :: (input ++ 125 :: tail))) firstDumped plain.1
        (delimited_cons _ (by decide))
      have step := Leads.trans read
        (Leads.goOn (round_nextMember lower onwardLower nextDumped))
      rw [List.append_assoc] at onward
      refine ⟨named, _, namedDumped, rfl, last, ?_⟩
      have split : first ++ 44 :: (nextNamed ++ 58 :: input) ++ 125 :: tail =
          first ++ 44 :: (nextNamed ++ 58 :: (input ++ 125 :: tail)) := by simp
      rw [split]
      exact Leads.trans step onward

theorem readable_array {values : List (Json κ)}
    (readable : ∀ value ∈ values, Readable isfinite name value) :
    Readable isfinite name (.array values) := by
  intro parser written tail dumped plain delimited
  cases values with
  | nil =>
      cases dumped
      exact ⟨_, leads_emptyArray parser tail⟩
  | cons value values =>
      simp only [Json.dump, bind_eq_ok_iff] at dumped
      obtain ⟨body, bodyDumped, same⟩ := dumped
      cases same
      have split : ascii "[" ++ body ++ ascii "]" ++ tail = 91 :: (body ++ 93 :: tail) := by
        simp [ascii]
      have opened := scan_dumpElements bodyDumped plain.1 tail
      obtain ⟨token, onward⟩ := @leads_elements κ isfinite name parser [] value values
        readable body tail bodyDumped plain
      rw [split]
      exact ⟨token, Leads.trans (Leads.goOn (round_openArray opened)) onward⟩

theorem readable_object {members : List (κ × Json κ)}
    (readable : ∀ member ∈ members, Readable isfinite name member.2) :
    Readable isfinite name (.object members) := by
  intro parser written tail dumped plain delimited
  cases members with
  | nil =>
      cases dumped
      exact ⟨_, leads_emptyObject parser tail⟩
  | cons member members =>
      obtain ⟨key, value⟩ := member
      simp only [Json.dump, bind_eq_ok_iff] at dumped
      obtain ⟨body, bodyDumped, same⟩ := dumped
      cases same
      obtain ⟨named, input, namedDumped, rfl, token, onward⟩ :=
        @leads_members κ isfinite name parser [] key value members readable body tail bodyDumped
          plain.1 plain.2
      have split : ascii "\x7b" ++ (named ++ 58 :: input) ++ ascii "\x7d" ++ tail =
          123 :: (named ++ 58 :: (input ++ 125 :: tail)) := by
        simp [ascii]
      rw [split]
      exact ⟨token, Leads.trans (Leads.goOn (round_openObject namedDumped)) onward⟩

theorem readable_string (text : Bytes) : Readable isfinite name (.string text : Json κ) := by
  intro parser written tail dumped plain delimited
  refine ⟨_, leads_token (scan_dumpString dumped tail) ?_⟩
  intro parser last skip
  simp [round, last, skip, dom]

theorem readable_number (value : Nat) : Readable isfinite name (.number value : Json κ) := by
  intro parser written tail dumped small delimited
  cases dumped
  refine ⟨_, leads_token (scan_decimal small delimited) ?_⟩
  intro parser last skip
  simp [round, last, skip, dom]

theorem readable_null : Readable isfinite name (.null : Json κ) := by
  intro parser written tail dumped plain delimited
  cases dumped
  refine ⟨.literalNull, leads_token rfl ?_⟩
  intro parser last skip
  simp [round, last, skip, dom]

mutual
theorem readable : ∀ value : Json κ, Readable isfinite name value
  | .null => readable_null
  | .number value => readable_number value
  | .string text => readable_string text
  | .array values => readable_array (readableElements values)
  | .object members => readable_object (readableMembers members)

theorem readableElements :
    ∀ values : List (Json κ), ∀ value ∈ values, Readable isfinite name value
  | [] => fun _ member => absurd member List.not_mem_nil
  | first :: values => List.forall_mem_cons.mpr ⟨readable first, readableElements values⟩

theorem readableMembers :
    ∀ members : List (κ × Json κ), ∀ member ∈ members, Readable isfinite name member.2
  | [] => fun _ member => absurd member List.not_mem_nil
  | (_, first) :: members =>
      List.forall_mem_cons.mpr ⟨readable first, readableMembers members⟩
end

end Written

end Parser

theorem skipBom_cons {byte : UInt8} (rest : Bytes) (other : byte ≠ 0xEF) :
    skipBom (byte :: rest) = some (byte :: rest) := by
  unfold skipBom
  split
  · simp_all
  · simp_all
  · rfl

section Written

variable {name : κ → Bytes} (isfinite : Bytes → Bool)

theorem skipBom_dump {value : Json κ} {written : Bytes}
    (dumped : value.dump name = .ok written) : skipBom written = some written := by
  cases value with
  | null =>
      cases dumped
      rfl
  | number value =>
      cases dumped
      obtain ⟨byte, rest, split⟩ := List.exists_cons_of_ne_nil (decimal_ne_nil value)
      have digit : isdigit byte = true :=
        @isdigit_of_mem_decimal value byte (by rw [split]; exact List.mem_cons_self)
      rw [split]
      apply skipBom_cons
      rintro rfl
      contradiction
  | string text =>
      simp only [Json.dump, Json.dumpString] at dumped
      split at dumped
      · cases dumped
        exact skipBom_cons _ (by decide)
      · contradiction
  | array values =>
      obtain ⟨rest, rfl⟩ := Json.dump_array dumped
      exact skipBom_cons _ (by decide)
  | object members =>
      simp only [Json.dump, bind_eq_ok_iff] at dumped
      obtain ⟨body, bodyDumped, same⟩ := dumped
      cases same
      exact skipBom_cons _ (by decide)

/-- `json::parse` behind `json::dump`. -/
theorem parse_dump {value : Json κ} {written : Bytes} (dumped : value.dump name = .ok written)
    (plain : Plain name value) : parse isfinite written = .ok (dom name value) := by
  let fresh : Parser := ⟨.parseError, [], [], [], .null, false⟩
  have begins : Parser.initial written = fresh.reading written := by
    rw [Parser.initial, skipBom_dump dumped]
    rfl
  obtain ⟨token, rounds, leads⟩ := Parser.readable value fresh written []
    dumped plain Delimited.nil
  rw [List.append_nil, ← begins] at leads
  have last : Parser.loop isfinite 1 (fresh.passed (dom name value) token []) =
      some (.ok ⟨token, [], [], [], dom name value, false⟩) := rfl
  have came := (leads 0).trans last
  obtain ⟨result, counted⟩ := Parser.loop_initial isfinite written
  have same : result = .ok ⟨token, [], [], [], dom name value, false⟩ := by
    have one := Parser.loop_more counted (0 + 1 + rounds)
    have other := Parser.loop_more came (written.length + 2)
    rw [Nat.add_comm, one] at other
    exact Option.some.inj other
  rw [parse, counted, same]
  rfl

/-- A text with no token at its head is no document. -/
theorem parse_error {byte : UInt8} {rest : Bytes} (other : byte ≠ 0xEF)
    (unknown : (scan (byte :: rest)).1 = .parseError) :
    parse isfinite (byte :: rest) = .error .syntaxError := by
  have begins : Parser.initial (byte :: rest) =
      Parser.getToken ⟨.parseError, byte :: rest, [], [], .null, false⟩ := by
    rw [Parser.initial, skipBom_cons rest other]
  rw [parse, begins, Parser.loop]
  simp [Parser.round, Parser.getToken, unknown]

end Written

/-! From the parsed document back. -/

section Back

variable (key : Bytes → Option κ)

mutual
/-- What a program that knows these keys takes for a document. -/
def toJson : Dom → Option (Json κ)
  | .null => some .null
  | .unsigned value => some (.number value)
  | .string text => some (.string text)
  | .array elements => (toJsonElements elements).map .array
  | .object members => (toJsonMembers members).map .object
  | _ => none

def toJsonElements : List Dom → Option (List (Json κ))
  | [] => some []
  | element :: elements => do
      let value ← toJson element
      let values ← toJsonElements elements
      return value :: values

def toJsonMembers : List (Bytes × Dom) → Option (List (κ × Json κ))
  | [] => some []
  | (text, element) :: elements => do
      let key ← key text
      let value ← toJson element
      let members ← toJsonMembers elements
      return (key, value) :: members
end

variable {key} {name : κ → Bytes}

mutual
theorem toJson_dom (known : ∀ k, key (name k) = some k) :
    ∀ value : Json κ, toJson key (dom name value) = some value
  | .null => rfl
  | .number _ => rfl
  | .string _ => rfl
  | .array values => by rw [dom, toJson, toJson_domElements known values, Option.map_some]
  | .object members => by rw [dom, toJson, toJson_domMembers known members, Option.map_some]

theorem toJson_domElements (known : ∀ k, key (name k) = some k) :
    ∀ values : List (Json κ), toJsonElements key (domElements name values) = some values
  | [] => rfl
  | value :: values => by
      rw [domElements, toJsonElements, toJson_dom known value,
        toJson_domElements known values]
      rfl

theorem toJson_domMembers (known : ∀ k, key (name k) = some k) :
    ∀ members : List (κ × Json κ), toJsonMembers key (domMembers name members) = some members
  | [] => rfl
  | (first, value) :: members => by
      rw [domMembers, toJsonMembers, known, toJson_dom known value,
        toJson_domMembers known members]
      rfl
end

mutual
theorem dom_toJson (named : ∀ text k, key text = some k → name k = text) :
    ∀ (document : Dom) {value : Json κ}, toJson key document = some value →
      dom name value = document
  | .null, _, taken => by
      cases taken
      rfl
  | .unsigned _, _, taken => by
      cases taken
      rfl
  | .string _, _, taken => by
      cases taken
      rfl
  | .array elements, _, taken => by
      obtain ⟨values, same, rfl⟩ := Option.map_eq_some_iff.mp taken
      rw [dom, dom_toJsonElements named elements same]
  | .object elements, _, taken => by
      obtain ⟨members, same, rfl⟩ := Option.map_eq_some_iff.mp taken
      rw [dom, dom_toJsonMembers named elements same]

theorem dom_toJsonElements (named : ∀ text k, key text = some k → name k = text) :
    ∀ (elements : List Dom) {values : List (Json κ)},
      toJsonElements key elements = some values → domElements name values = elements
  | [], _, taken => by
      cases taken
      rfl
  | element :: elements, _, taken => by
      simp only [toJsonElements, Option.bind_eq_bind, Option.bind_eq_some_iff] at taken
      obtain ⟨value, first, values, others, same⟩ := taken
      cases same
      rw [domElements, dom_toJson named element first, dom_toJsonElements named elements others]

theorem dom_toJsonMembers (named : ∀ text k, key text = some k → name k = text) :
    ∀ (elements : List (Bytes × Dom)) {members : List (κ × Json κ)},
      toJsonMembers key elements = some members → domMembers name members = elements
  | [], _, taken => by
      cases taken
      rfl
  | (text, element) :: elements, _, taken => by
      simp only [toJsonMembers, Option.bind_eq_bind, Option.bind_eq_some_iff] at taken
      obtain ⟨key, known, value, first, members, others, same⟩ := taken
      cases same
      rw [domMembers, named text key known, dom_toJson named element first,
        dom_toJsonMembers named elements others]
end

end Back

end BpkMessenger.Json
