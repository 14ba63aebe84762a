import BpkMessenger.Json.Lexer
import BpkMessenger.Json.Value

namespace BpkMessenger.Json

open Text

/-! What the writer wrote, the scanner reads. -/

/-! Strings: byte by byte, in step with the UTF-8 validator. -/

/-- Points of the scanner, as long as the string is not closed. -/
def StringPoint.run (point : StringPoint) : Bytes → Option (StringPoint × Bytes)
  | [] => some (point, [])
  | byte :: rest =>
      if point = .character ∧ byte = 34 then none
      else (point.step byte).bind fun next =>
        (next.1.run rest).map fun final => (final.1, next.2 ++ final.2)

theorem StringPoint.run_append {point middle last : StringPoint}
    {first second added others : Bytes} (ran : point.run first = some (middle, added))
    (onward : middle.run second = some (last, others)) :
    point.run (first ++ second) = some (last, added ++ others) := by
  induction first generalizing point added with
  | nil =>
      cases ran
      exact onward
  | cons byte first induction =>
      rw [run] at ran
      rw [List.cons_append, run]
      split_ifs at ran ⊢ with quote
      obtain ⟨next, stepped, ran⟩ := Option.bind_eq_some_iff.mp ran
      obtain ⟨final, inner, same⟩ := Option.map_eq_some_iff.mp ran
      cases same
      rw [stepped, Option.bind_some, induction inner, Option.map_some,
        List.append_assoc]

theorem scanString_run {point next : StringPoint} {first added : Bytes}
    (ran : point.run first = some (next, added)) (buffer rest : Bytes) :
    scanString point buffer (first ++ rest) = scanString next (buffer ++ added) rest := by
  induction first generalizing point added buffer with
  | nil =>
      cases ran
      rw [List.nil_append, List.append_nil]
  | cons byte first induction =>
      rw [StringPoint.run] at ran
      rw [List.cons_append, scanString]
      split_ifs at ran ⊢ with quote
      obtain ⟨middle, stepped, ran⟩ := Option.bind_eq_some_iff.mp ran
      obtain ⟨final, inner, same⟩ := Option.map_eq_some_iff.mp ran
      cases same
      rw [stepped, Option.bind_some, induction inner, List.append_assoc]

/-- The point that stands for a state of the validator. -/
def pointAt : Nat → StringPoint
  | 2 => .within [(0x80, 0xBF)]
  | 3 => .within [(0x80, 0xBF), (0x80, 0xBF)]
  | 4 => .within [(0xA0, 0xBF), (0x80, 0xBF)]
  | 5 => .within [(0x80, 0x9F), (0x80, 0xBF)]
  | 6 => .within [(0x90, 0xBF), (0x80, 0xBF), (0x80, 0xBF)]
  | 7 => .within [(0x80, 0xBF), (0x80, 0xBF), (0x80, 0xBF)]
  | 8 => .within [(0x80, 0x8F), (0x80, 0xBF), (0x80, 0xBF)]
  | _ => .character

private theorem run_escapeByte_ascii : ∀ n < 128,
    StringPoint.run .character (escapeByte (UInt8.ofNat n)) =
      some (.character, [UInt8.ofNat n]) := by
  decide +kernel

private theorem run_escapeByte_other : ∀ state < 9, ∀ n < 128, state = 1 ∨
    utf8Step state (UInt8.ofNat (128 + n)) = 1 ∨
      utf8Step state (UInt8.ofNat (128 + n)) < 9 ∧
      (pointAt state).run (escapeByte (UInt8.ofNat (128 + n))) =
        some (pointAt (utf8Step state (UInt8.ofNat (128 + n))), [UInt8.ofNat (128 + n)]) := by
  decide +kernel

/-- One byte of a valid text. -/
theorem run_escapeByte {state : Nat} {byte : UInt8} (known : state < 9)
    (accepted : utf8Step state byte ≠ 1) (live : state ≠ 1) :
    utf8Step state byte < 9 ∧ (pointAt state).run (escapeByte byte) =
      some (pointAt (utf8Step state byte), [byte]) := by
  have value : UInt8.ofNat byte.toNat = byte := UInt8.ofNat_toNat
  by_cases low : byte < 0x80
  · have accepting : state = 0 := by
      by_contra inside
      exact accepted (utf8Step_ascii_inside low inside)
    subst accepting
    rw [utf8Step_ascii low]
    have ran := run_escapeByte_ascii byte.toNat low
    rw [value] at ran
    exact ⟨by decide, ran⟩
  · have high : 128 ≤ byte.toNat := by
      simpa [UInt8.lt_iff_toNat_lt] using low
    obtain ⟨n, same⟩ := Nat.exists_eq_add_of_le high
    have bound := byte.toNat_lt
    have ran := run_escapeByte_other state known n (by omega)
    rw [← same, value] at ran
    exact (ran.resolve_left live).resolve_left accepted

theorem run_escaped {state : Nat} {text : Bytes} (known : state < 9) (live : state ≠ 1)
    (valid : validUtf8From state text = true) :
    (pointAt state).run (text.flatMap escapeByte) = some (.character, text) := by
  induction text generalizing state with
  | nil =>
      have accepted : state = 0 := by simpa [validUtf8From] using valid
      rw [accepted]
      rfl
  | cons byte text induction =>
      rw [validUtf8From] at valid
      have accepted : utf8Step state byte ≠ 1 := by
        intro rejected
        rw [rejected, validUtf8From_reject] at valid
        contradiction
      obtain ⟨next, ran⟩ := run_escapeByte known accepted live
      exact StringPoint.run_append ran (induction next accepted valid)

/-- A string that was written is read up to its closing quote. -/
theorem scan_dumpString {text written : Bytes} (dumped : dumpString text = .ok written)
    (rest : Bytes) : scan (written ++ rest) = (.valueString text, rest) := by
  unfold dumpString at dumped
  split at dumped
  · next valid =>
      cases dumped
      have ran := @run_escaped 0 text (by decide) (by decide) valid
      have scanned : scanString .character [] (text.flatMap escapeByte ++ (34 :: rest)) =
          some (text, rest) := by
        have read := scanString_run ran [] (34 :: rest)
        exact read.trans rfl
      have split : ascii "\"" ++ text.flatMap escapeByte ++ ascii "\"" ++ rest =
          34 :: (text.flatMap escapeByte ++ (34 :: rest)) := by
        simp [ascii]
      rw [split, scan]
      simp [isWhitespace, scanned, orError]
  · contradiction

/-! Numbers. -/

/-- What follows a number does not go on with it. -/
def Delimited (rest : Bytes) : Prop :=
  ∀ byte ∈ rest.head?, isdigit byte = false ∧ byte ≠ 46 ∧ byte ≠ 101 ∧ byte ≠ 69

theorem Delimited.nil : Delimited [] := by
  intro byte member
  contradiction

private theorem next_none {point : NumberPoint} {rest : Bytes} (delimited : Delimited rest)
    (done : point.done = true) (buffer : Bytes) :
    scanNumberFrom .unsigned point buffer rest = some (.unsigned, buffer, rest) := by
  cases rest with
  | nil => simp [scanNumberFrom, done]
  | cons byte rest =>
      obtain ⟨digit, point', lower, upper⟩ := delimited byte rfl
      have stops : point.next byte = none := by
        cases point with
        | zero => simp [NumberPoint.next, point', lower, upper]
        | any1 => simp [NumberPoint.next, digit, point', lower, upper]
        | decimal2 => simp [NumberPoint.next, digit, lower, upper]
        | any2 => simp [NumberPoint.next, digit]
        | _ => contradiction
      simp [scanNumberFrom, stops, done]

private theorem scanNumberFrom_digits {digits rest : Bytes} (delimited : Delimited rest)
    (all : ∀ byte ∈ digits, isdigit byte = true) (buffer : Bytes) :
    scanNumberFrom .unsigned .any1 buffer (digits ++ rest) =
      some (.unsigned, buffer ++ digits, rest) := by
  induction digits generalizing buffer with
  | nil =>
      rw [List.nil_append, List.append_nil]
      exact next_none delimited rfl buffer
  | cons byte digits induction =>
      have digit := all byte List.mem_cons_self
      have on : NumberPoint.any1.next byte = some .any1 := by simp [NumberPoint.next, digit]
      rw [List.cons_append, scanNumberFrom, on]
      change scanNumberFrom .unsigned .any1 (buffer ++ [byte]) (digits ++ rest) = _
      rw [induction fun other member => all other (List.mem_cons_of_mem _ member)]
      simp

private theorem scan_digit {byte : UInt8} {rest : Bytes} (digit : isdigit byte = true) :
    scan (byte :: rest) = orError (scanNumber byte rest) := by
  have bounds := digit
  simp only [isdigit, Bool.and_eq_true, decide_eq_true_eq, UInt8.le_iff_toNat_le,
    UInt8.toNat_ofNat] at bounds
  have others : ∀ other : UInt8, other.toNat < 48 ∨ 57 < other.toNat → byte ≠ other := by
    intro other outside same
    rw [same] at bounds
    omega
  have blank : isWhitespace byte = false := by
    simp [isWhitespace, others 32 (by decide), others 9 (by decide), others 10 (by decide),
      others 13 (by decide)]
  rw [scan, blank]
  simp [others 91 (by decide), others 93 (by decide), others 123 (by decide),
    others 125 (by decide), others 58 (by decide), others 44 (by decide),
    others 116 (by decide), others 102 (by decide), others 110 (by decide),
    others 34 (by decide), digit]

/-- A number that was written is read up to what follows it. -/
theorem scan_decimal {n : Nat} {rest : Bytes} (small : n < 2 ^ 64)
    (delimited : Delimited rest) :
    scan (decimal n ++ rest) = (.valueUnsigned n, rest) := by
  have token : numberToken .unsigned (decimal n) = .valueUnsigned n := by
    rw [numberToken, decimalValue_decimal, if_pos small]
  rcases Nat.eq_zero_or_pos n with rfl | positive
  · have scanned : scanNumber 48 rest = some (.valueUnsigned 0, rest) := by
      change (scanNumberFrom .unsigned .zero [48] rest).map _ = _
      rw [next_none delimited rfl]
      rfl
    change scan (48 :: rest) = _
    rw [scan_digit rfl, scanned]
    rfl
  · obtain ⟨byte, digits, split, nonzero⟩ := decimal_head positive
    have all : ∀ other ∈ byte :: digits, isdigit other = true := by
      intro other member
      rw [← split] at member
      exact isdigit_of_mem_decimal member
    have digit := all byte List.mem_cons_self
    have sign : byte ≠ 45 := by
      rintro rfl
      contradiction
    rw [split, List.cons_append, scan_digit digit, scanNumber, if_neg sign, if_neg nonzero]
    change orError ((scanNumberFrom .unsigned .any1 [byte] (digits ++ rest)).map _) = _
    rw [scanNumberFrom_digits delimited fun other member =>
      all other (List.mem_cons_of_mem _ member), List.singleton_append, ← split]
    simp [orError, token]

end BpkMessenger.Json
