import BpkMessenger.Text.Bytes
import Mathlib.Data.List.TakeWhile

namespace BpkMessenger.Text

/-! The readers of the C++ standard library: `std::string::substr`, `std::stoi`
and a `std::stringstream` that is read from. -/

inductive StdException
  | outOfRange
  | invalidArgument
  deriving DecidableEq, Repr

/-- `text.substr(position)`; a negative position, converted to `size_t`, lies
past the end of every string. -/
def substr (text : Bytes) (position : Int) : Except StdException Bytes :=
  if 0 ≤ position ∧ position ≤ text.length then .ok (text.drop position.toNat)
  else .error .outOfRange

/-- How a decimal reader cuts a text: blanks, an optional sign, the longest run
of digits, and what it leaves. -/
structure Scan where
  blanks : Bytes
  sign : Bytes
  digits : Bytes
  rest : Bytes

def scanInteger (text : Bytes) : Scan :=
  let field := text.dropWhile isspace
  let sign := (field.take 1).filter isSign
  let unsigned := field.drop sign.length
  { blanks := text.takeWhile isspace
    sign := sign
    digits := unsigned.takeWhile isdigit
    rest := unsigned.dropWhile isdigit }

def signedValue (sign digits : Bytes) : Int :=
  if sign = ascii "-" then -(decimalValue digits : Int) else decimalValue digits

def Scan.value (scan : Scan) : Int :=
  signedValue scan.sign scan.digits

def Scan.taken (scan : Scan) : Bytes :=
  scan.blanks ++ scan.sign ++ scan.digits

/-- `std::stoi` in base ten. -/
def stoi (text : Bytes) : Except StdException Int :=
  let scan := scanInteger text
  if scan.digits = [] then .error .invalidArgument
  else if -2 ^ 31 ≤ scan.value ∧ scan.value < 2 ^ 31 then .ok scan.value
  else .error .outOfRange

/-- A `std::stringstream` by what has been read from its buffer and what has
not, with its error state. -/
structure StringStream where
  consumed : Bytes
  rest : Bytes
  eofbit : Bool := false
  failbit : Bool := false

namespace StringStream

def ofString (text : Bytes) : StringStream where
  consumed := []
  rest := text

def str (ss : StringStream) : Bytes :=
  ss.consumed ++ ss.rest

def good (ss : StringStream) : Bool :=
  !ss.eofbit && !ss.failbit

/-- `ss >> value` for a `std::size_t`: the value left in the variable and the
stream after it.  A missing numeral stores 0, one that is too large stores the
largest value, and a stream that is not good leaves the variable alone. -/
def extract (ss : StringStream) (value : SizeT) : SizeT × StringStream :=
  let scan := scanInteger ss.rest
  let after : StringStream :=
    { consumed := ss.consumed ++ scan.taken
      rest := scan.rest
      eofbit := scan.rest.isEmpty }
  if !ss.good then (value, { ss with failbit := true })
  else if ss.rest.all isspace then (value, { after with failbit := true })
  else if scan.digits = [] then (0, { after with failbit := true })
  else if 2 ^ 64 ≤ decimalValue scan.digits then
    (UInt64.ofNat (2 ^ 64 - 1), { after with failbit := true })
  else (UInt64.ofInt scan.value, after)

/-- `ss.ignore(1)`. -/
def ignore (ss : StringStream) : StringStream :=
  if !ss.good then { ss with failbit := true }
  else
    match ss.rest with
    | [] => { ss with eofbit := true }
    | byte :: rest => { ss with consumed := ss.consumed ++ [byte], rest := rest }

/-- `ss.tellg()`, which is -1 unless the stream is good. -/
def tellg (ss : StringStream) : Int :=
  if ss.good then ss.consumed.length else -1

/-- `std::getline(ss, line)`: the string afterwards. -/
def getline (ss : StringStream) (line : Bytes) : Bytes :=
  if ss.good then ss.rest.takeWhile (· != 10) else line

end StringStream

/-! What the numeric readers accept, said without their algorithm. -/

/-- `text` is blanks, an optional sign, a numeral of this signed value, and
`rest`, which does not continue the numeral. -/
inductive ReadsInteger : Bytes → Int → Bytes → Prop
  | intro {blanks sign digits rest : Bytes}
      (blank : ∀ byte ∈ blanks, isspace byte = true)
      (signed : sign = [] ∨ ∃ byte, isSign byte = true ∧ sign = [byte])
      (nonempty : digits ≠ [])
      (digit : ∀ byte ∈ digits, isdigit byte = true)
      (stops : ∀ byte ∈ rest.head?, isdigit byte = false) :
      ReadsInteger (blanks ++ sign ++ digits ++ rest)
        (signedValue sign digits) rest

private theorem head?_dropWhile_false {p : α → Bool} {xs : List α} {x : α}
    (head : x ∈ (xs.dropWhile p).head?) : p x = false := by
  induction xs with
  | nil => simp at head
  | cons y xs induction =>
      rw [List.dropWhile_cons] at head
      split at head
      · exact induction head
      · next stop =>
          simp only [List.head?_cons, Option.mem_def, Option.some.injEq] at head
          simpa [← head] using stop

private theorem dropWhile_eq_self {p : α → Bool} {xs : List α}
    (stops : ∀ x ∈ xs.head?, p x = false) : xs.dropWhile p = xs := by
  cases xs with
  | nil => rfl
  | cons x xs => simp [stops x (by simp)]

private theorem takeWhile_eq_nil {p : α → Bool} {xs : List α}
    (stops : ∀ x ∈ xs.head?, p x = false) : xs.takeWhile p = [] := by
  cases xs with
  | nil => rfl
  | cons x xs => simp [stops x (by simp)]

theorem scanInteger_append (text : Bytes) :
    (scanInteger text).taken ++ (scanInteger text).rest = text := by
  have signed : ((text.dropWhile isspace).take 1).filter isSign ++
      (text.dropWhile isspace).drop
        (((text.dropWhile isspace).take 1).filter isSign).length =
      text.dropWhile isspace := by
    cases text.dropWhile isspace with
    | nil => rfl
    | cons byte field => cases sign : isSign byte <;> simp [sign]
  simp only [Scan.taken, scanInteger, List.append_assoc,
    List.takeWhile_append_dropWhile]
  rw [signed, List.takeWhile_append_dropWhile]

theorem scanInteger_of_parts {blanks sign digits rest : Bytes}
    (blank : ∀ byte ∈ blanks, isspace byte = true)
    (signed : sign = [] ∨ ∃ byte, isSign byte = true ∧ sign = [byte])
    (nonempty : digits ≠ [])
    (digit : ∀ byte ∈ digits, isdigit byte = true)
    (stops : ∀ byte ∈ rest.head?, isdigit byte = false) :
    scanInteger (blanks ++ sign ++ digits ++ rest) =
      { blanks := blanks, sign := sign, digits := digits, rest := rest } := by
  obtain ⟨first, tail, rfl⟩ := List.exists_cons_of_ne_nil nonempty
  have firstDigit : isdigit first = true := digit first (by simp)
  have fieldHead : ∀ byte ∈ (sign ++ (first :: tail) ++ rest).head?,
      isspace byte = false := by
    rcases signed with rfl | ⟨byte, isSigned, rfl⟩
    · simpa using isdigit_not_isspace firstDigit
    · simpa using isSign_not_isspace isSigned
  have taken : (blanks ++ (sign ++ (first :: tail) ++ rest)).takeWhile isspace =
      blanks := by
    rw [List.takeWhile_append_of_pos blank, takeWhile_eq_nil fieldHead,
      List.append_nil]
  have dropped : (blanks ++ (sign ++ (first :: tail) ++ rest)).dropWhile isspace =
      sign ++ (first :: tail) ++ rest := by
    rw [List.dropWhile_append_of_pos blank, dropWhile_eq_self fieldHead]
  have signTaken : ((sign ++ (first :: tail) ++ rest).take 1).filter isSign =
      sign := by
    rcases signed with rfl | ⟨byte, isSigned, rfl⟩
    · simp [isdigit_not_isSign firstDigit]
    · simp [isSigned]
  have digitsTaken : ((first :: tail) ++ rest).takeWhile isdigit =
      first :: tail := by
    rw [List.takeWhile_append_of_pos digit, takeWhile_eq_nil stops,
      List.append_nil]
  have digitsDropped : ((first :: tail) ++ rest).dropWhile isdigit = rest := by
    rw [List.dropWhile_append_of_pos digit, dropWhile_eq_self stops]
  have unsigned : (sign ++ (first :: tail) ++ rest).drop sign.length =
      (first :: tail) ++ rest := by
    simp [List.append_assoc]
  have regroup : blanks ++ sign ++ (first :: tail) ++ rest =
      blanks ++ (sign ++ (first :: tail) ++ rest) := by
    simp [List.append_assoc]
  simp only [scanInteger, regroup, taken, dropped, signTaken, unsigned,
    digitsTaken, digitsDropped]

theorem readsInteger_iff {text rest : Bytes} {value : Int} :
    ReadsInteger text value rest ↔
      (scanInteger text).digits ≠ [] ∧
        value = (scanInteger text).value ∧ rest = (scanInteger text).rest := by
  constructor
  · rintro ⟨blank, signed, nonempty, digit, stops⟩
    rw [scanInteger_of_parts blank signed nonempty digit stops]
    exact ⟨nonempty, rfl, rfl⟩
  · rintro ⟨nonempty, rfl, rfl⟩
    have whole := scanInteger_append text
    conv => arg 1; rw [← whole]
    apply ReadsInteger.intro
    · exact fun byte member => List.mem_takeWhile_imp member
    · simp only [scanInteger]
      cases text.dropWhile isspace with
      | nil => exact .inl rfl
      | cons byte field =>
          cases sign : isSign byte
          · left; simp [sign]
          · right; exact ⟨byte, sign, by simp [sign]⟩
    · exact nonempty
    · exact fun byte member => List.mem_takeWhile_imp member
    · exact fun byte member => head?_dropWhile_false member

theorem ReadsInteger.unique {text rest otherRest : Bytes} {value otherValue : Int}
    (first : ReadsInteger text value rest)
    (second : ReadsInteger text otherValue otherRest) :
    value = otherValue ∧ rest = otherRest := by
  obtain ⟨-, rfl, rfl⟩ := readsInteger_iff.mp first
  obtain ⟨-, rfl, rfl⟩ := readsInteger_iff.mp second
  exact ⟨rfl, rfl⟩

theorem ReadsInteger.ne_nil {text rest : Bytes} {value : Int}
    (reads : ReadsInteger text value rest) : text ≠ [] := by
  rintro rfl
  exact (readsInteger_iff.mp reads).1 rfl

theorem stoi_eq_ok_iff {text : Bytes} {value : Int} :
    stoi text = .ok value ↔
      (∃ rest, ReadsInteger text value rest) ∧
        -2 ^ 31 ≤ value ∧ value < 2 ^ 31 := by
  simp only [stoi, readsInteger_iff]
  constructor
  · intro read
    split at read
    · contradiction
    · next nonempty =>
        split at read
        · next bound =>
            cases read
            exact ⟨⟨_, nonempty, rfl, rfl⟩, bound⟩
        · contradiction
  · rintro ⟨⟨_, nonempty, rfl, _⟩, bound⟩
    rw [if_neg nonempty, if_pos bound]

/-- `ss >> value` on `text` from 0: the value stored, and what is left unread
when the extraction succeeds. -/
inductive Extracts : Bytes → SizeT → Option Bytes → Prop
  | numeral {text rest : Bytes} {value : Int}
      (reads : ReadsInteger text value rest) (fits : value.natAbs < 2 ^ 64) :
      Extracts text (UInt64.ofInt value) (some rest)
  | tooLarge {text rest : Bytes} {value : Int}
      (reads : ReadsInteger text value rest) (large : 2 ^ 64 ≤ value.natAbs) :
      Extracts text (UInt64.ofNat (2 ^ 64 - 1)) none
  | missing {text : Bytes}
      (missing : ∀ value rest, ¬ ReadsInteger text value rest) :
      Extracts text 0 none

def StringStream.left (ss : StringStream) : Option Bytes :=
  if ss.failbit then none else some ss.rest

theorem natAbs_signedValue (sign digits : Bytes) :
    (signedValue sign digits).natAbs = decimalValue digits := by
  unfold signedValue
  split <;> simp

private theorem digits_nil_of_blank {text : Bytes}
    (blank : text.all isspace = true) : (scanInteger text).digits = [] := by
  have dropped : text.dropWhile isspace = [] := by
    rw [List.dropWhile_eq_nil_iff]
    exact List.all_eq_true.mp blank
  simp [scanInteger, dropped]

theorem StringStream.extract_good {ss : StringStream} (good : ss.good = true)
    {value : SizeT} :
    ss.extract value =
      if (scanInteger ss.rest).digits = [] then
        (if ss.rest.all isspace then value else 0,
          { consumed := ss.consumed ++ (scanInteger ss.rest).taken
            rest := (scanInteger ss.rest).rest
            eofbit := (scanInteger ss.rest).rest.isEmpty
            failbit := true })
      else if 2 ^ 64 ≤ (scanInteger ss.rest).value.natAbs then
        (UInt64.ofNat (2 ^ 64 - 1),
          { consumed := ss.consumed ++ (scanInteger ss.rest).taken
            rest := (scanInteger ss.rest).rest
            eofbit := (scanInteger ss.rest).rest.isEmpty
            failbit := true })
      else
        (UInt64.ofInt (scanInteger ss.rest).value,
          { consumed := ss.consumed ++ (scanInteger ss.rest).taken
            rest := (scanInteger ss.rest).rest
            eofbit := (scanInteger ss.rest).rest.isEmpty }) := by
  simp only [extract, good, Scan.value, natAbs_signedValue]
  by_cases blank : ss.rest.all isspace = true
  · simp [digits_nil_of_blank blank, blank]
  · simp [blank]

theorem StringStream.extract_bad {ss : StringStream} (bad : ss.good = false)
    (value : SizeT) : ss.extract value = (value, { ss with failbit := true }) := by
  simp [extract, bad]

theorem StringStream.extract_numeral {ss : StringStream} {value : Int}
    {rest : Bytes} (good : ss.good = true) (reads : ReadsInteger ss.rest value rest)
    (fits : value.natAbs < 2 ^ 64) (old : SizeT) :
    ∃ consumed, ss.extract old =
      (UInt64.ofInt value,
        { consumed := consumed, rest := rest, eofbit := rest.isEmpty }) := by
  obtain ⟨nonempty, rfl, rfl⟩ := readsInteger_iff.mp reads
  refine ⟨ss.consumed ++ (scanInteger ss.rest).taken, ?_⟩
  rw [extract_good good, if_neg nonempty, if_neg (Nat.not_le.mpr fits)]

theorem StringStream.extract_failed {ss : StringStream}
    (fails : ∀ value rest, ReadsInteger ss.rest value rest →
      ¬ value.natAbs < 2 ^ 64) (old : SizeT) :
    (ss.extract old).2.failbit = true := by
  by_cases good : ss.good = true
  · rw [extract_good good]
    by_cases empty : (scanInteger ss.rest).digits = []
    · rw [if_pos empty]
    · have large := fails _ _ (readsInteger_iff.mpr ⟨empty, rfl, rfl⟩)
      rw [if_neg empty, if_pos (Nat.not_lt.mp large)]
  · rw [extract_bad (by simpa using good)]

theorem StringStream.bad_of_failbit {ss : StringStream}
    (failed : ss.failbit = true) : ss.good = false := by
  simp [good, failed]

theorem StringStream.ignore_bad {ss : StringStream} (bad : ss.good = false) :
    ss.ignore = { ss with failbit := true } := by
  simp [ignore, bad]

theorem StringStream.substr_tellg {ss : StringStream} (good : ss.good = true) :
    substr ss.str ss.tellg = .ok ss.rest := by
  have inside : ss.consumed.length ≤ ss.str.length := by simp [str]
  simp only [substr, tellg, good, if_true]
  rw [if_pos ⟨by omega, by exact_mod_cast inside⟩, Int.toNat_natCast, str,
    List.drop_left]

theorem StringStream.substr_tellg_failed {ss : StringStream}
    (failed : ss.failbit = true) :
    substr ss.str ss.tellg = .error .outOfRange := by
  simp [substr, tellg, bad_of_failbit failed]

theorem StringStream.extract_eofbit {ss : StringStream} (good : ss.good = true)
    (value : SizeT) :
    (ss.extract value).2.eofbit = (ss.extract value).2.rest.isEmpty := by
  rw [extract_good good]
  split_ifs <;> rfl

theorem extracts_iff {ss : StringStream} (good : ss.good = true)
    {value : SizeT} {left : Option Bytes} :
    Extracts ss.rest value left ↔
      value = (ss.extract 0).1 ∧ left = (ss.extract 0).2.left := by
  rw [StringStream.extract_good good]
  constructor
  · intro extracts
    generalize text : ss.rest = field at extracts ⊢
    cases extracts with
    | numeral reads fits =>
        obtain ⟨nonempty, rfl, rfl⟩ := readsInteger_iff.mp reads
        rw [if_neg nonempty, if_neg (Nat.not_le.mpr fits)]
        simp [StringStream.left]
    | tooLarge reads large =>
        obtain ⟨nonempty, rfl, rfl⟩ := readsInteger_iff.mp reads
        rw [if_neg nonempty, if_pos large]
        simp [StringStream.left]
    | missing missing =>
        have empty : (scanInteger field).digits = [] := by
          by_contra nonempty
          exact missing _ _ (readsInteger_iff.mpr ⟨nonempty, rfl, rfl⟩)
        rw [if_pos empty]
        simp [StringStream.left]
  · rintro ⟨rfl, rfl⟩
    split_ifs with empty blank large
    · exact .missing fun value rest reads =>
        (readsInteger_iff.mp reads).1 empty
    · exact .missing fun value rest reads =>
        (readsInteger_iff.mp reads).1 empty
    · exact .tooLarge (readsInteger_iff.mpr ⟨empty, rfl, rfl⟩) large
    · exact .numeral (readsInteger_iff.mpr ⟨empty, rfl, rfl⟩)
        (Nat.not_le.mp large)

theorem readsInteger_decimal (n : Nat) {rest : Bytes}
    (stops : ∀ byte ∈ rest.head?, isdigit byte = false) :
    ReadsInteger (decimal n ++ rest) n rest := by
  have reads := @ReadsInteger.intro [] [] (decimal n) rest (by simp) (.inl rfl)
    (decimal_ne_nil n) (fun _ => isdigit_of_mem_decimal) stops
  simpa [signedValue, ascii] using reads

theorem ReadsInteger.blank_cons {text rest : Bytes} {value : Int} {byte : UInt8}
    (space : isspace byte = true) (reads : ReadsInteger text value rest) :
    ReadsInteger (byte :: text) value rest := by
  obtain ⟨blank, signed, nonempty, digit, stops⟩ := reads
  rw [← List.cons_append, ← List.cons_append, ← List.cons_append]
  refine .intro ?_ signed nonempty digit stops
  intro other member
  rcases List.mem_cons.mp member with rfl | member
  · exact space
  · exact blank other member

end BpkMessenger.Text
