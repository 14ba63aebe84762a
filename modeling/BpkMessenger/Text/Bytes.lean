import Mathlib.Tactic

namespace BpkMessenger.Text

/-! Byte strings and the decimal numerals written into them. -/

abbrev Bytes := List UInt8

/-- `std::size_t` on a 64-bit platform. -/
abbrev SizeT := UInt64

def ascii (literal : String) : Bytes :=
  literal.toList.map fun character => UInt8.ofNat character.toNat

/-- `std::isspace` in the "C" locale. -/
def isspace (byte : UInt8) : Bool :=
  byte == 32 || (9 ≤ byte && byte ≤ 13)

def isdigit (byte : UInt8) : Bool :=
  48 ≤ byte && byte ≤ 57

def isSign (byte : UInt8) : Bool :=
  byte == 43 || byte == 45

def digitValue (byte : UInt8) : Nat :=
  byte.toNat - 48

def digitByte (digit : Nat) : UInt8 :=
  UInt8.ofNat (48 + digit)

def decimalValue (digits : Bytes) : Nat :=
  digits.foldl (fun value byte => value * 10 + digitValue byte) 0

def decimalAux : Nat → Nat → Bytes → Bytes
  | 0, _, digits => digits
  | fuel + 1, n, digits =>
      if n < 10 then digitByte n :: digits
      else decimalAux fuel (n / 10) (digitByte (n % 10) :: digits)

def decimal (n : Nat) : Bytes :=
  decimalAux (n + 1) n []

/-- `std::to_string` of a `std::size_t`. -/
def stdToString (value : SizeT) : Bytes :=
  decimal value.toNat

theorem isdigit_digitByte {digit : Nat} (bound : digit < 10) :
    isdigit (digitByte digit) = true := by
  interval_cases digit <;> rfl

theorem digitValue_digitByte {digit : Nat} (bound : digit < 10) :
    digitValue (digitByte digit) = digit := by
  interval_cases digit <;> rfl

theorem isdigit_not_isspace {byte : UInt8} (digit : isdigit byte = true) :
    isspace byte = false := by
  simp only [isdigit, Bool.and_eq_true, decide_eq_true_eq, UInt8.le_iff_toNat_le,
    UInt8.toNat_ofNat] at digit
  simp only [isspace, Bool.or_eq_false_iff, Bool.and_eq_false_iff, beq_eq_false_iff_ne,
    decide_eq_false_iff_not, UInt8.le_iff_toNat_le, UInt8.toNat_ofNat, ne_eq,
    ← UInt8.toNat_inj]
  omega

theorem isdigit_not_isSign {byte : UInt8} (digit : isdigit byte = true) :
    isSign byte = false := by
  simp only [isdigit, Bool.and_eq_true, decide_eq_true_eq, UInt8.le_iff_toNat_le,
    UInt8.toNat_ofNat] at digit
  simp only [isSign, Bool.or_eq_false_iff, beq_eq_false_iff_ne, ne_eq,
    ← UInt8.toNat_inj, UInt8.toNat_ofNat]
  omega

theorem isSign_not_isspace {byte : UInt8} (sign : isSign byte = true) :
    isspace byte = false := by
  simp only [isSign, Bool.or_eq_true, beq_iff_eq] at sign
  rcases sign with rfl | rfl <;> rfl

private theorem foldl_decimalValue (digits : Bytes) (value : Nat) :
    digits.foldl (fun value byte => value * 10 + digitValue byte) value =
      value * 10 ^ digits.length + decimalValue digits := by
  induction digits generalizing value with
  | nil => simp [decimalValue]
  | cons byte digits induction =>
      have unfolded : decimalValue (byte :: digits) =
          digitValue byte * 10 ^ digits.length + decimalValue digits := by
        simpa [decimalValue] using induction (digitValue byte)
      rw [List.foldl_cons, induction, unfolded, List.length_cons]
      ring

theorem decimalValue_cons (byte : UInt8) (digits : Bytes) :
    decimalValue (byte :: digits) =
      digitValue byte * 10 ^ digits.length + decimalValue digits := by
  simpa [decimalValue] using foldl_decimalValue digits (digitValue byte)

private theorem decimalAux_value {fuel n : Nat} (enough : n < fuel)
    (digits : Bytes) :
    decimalValue (decimalAux fuel n digits) =
      n * 10 ^ digits.length + decimalValue digits := by
  induction fuel generalizing n digits with
  | zero => omega
  | succ fuel induction =>
      simp only [decimalAux]
      split
      · next small => rw [decimalValue_cons, digitValue_digitByte small]
      · next large =>
          have split : n = 10 * (n / 10) + n % 10 := by omega
          rw [induction (by omega), decimalValue_cons, List.length_cons,
            digitValue_digitByte (Nat.mod_lt n (by omega))]
          conv_rhs => rw [split]
          ring

private theorem decimalAux_digits {fuel n : Nat} {digits : Bytes}
    (all : ∀ byte ∈ digits, isdigit byte = true) :
    ∀ byte ∈ decimalAux fuel n digits, isdigit byte = true := by
  induction fuel generalizing n digits with
  | zero => exact all
  | succ fuel induction =>
      simp only [decimalAux]
      split
      · next small =>
          intro byte member
          rcases List.mem_cons.mp member with rfl | member
          · exact isdigit_digitByte small
          · exact all byte member
      · apply induction
        intro byte member
        rcases List.mem_cons.mp member with rfl | member
        · exact isdigit_digitByte (Nat.mod_lt n (by omega))
        · exact all byte member

private theorem decimalAux_ne_nil {fuel n : Nat} {digits : Bytes}
    (nonempty : 0 < fuel ∨ digits ≠ []) : decimalAux fuel n digits ≠ [] := by
  induction fuel generalizing n digits with
  | zero => simpa [decimalAux] using nonempty
  | succ fuel induction =>
      simp only [decimalAux]
      split
      · simp
      · exact induction (.inr (by simp))

@[simp] theorem decimalValue_decimal (n : Nat) :
    decimalValue (decimal n) = n := by
  rw [decimal, decimalAux_value (Nat.lt_succ_self n)]
  simp [decimalValue]

theorem isdigit_of_mem_decimal {n : Nat} {byte : UInt8}
    (member : byte ∈ decimal n) : isdigit byte = true :=
  decimalAux_digits (by simp) byte member

@[simp] theorem decimal_ne_nil (n : Nat) : decimal n ≠ [] :=
  decimalAux_ne_nil (.inl (Nat.succ_pos n))

private theorem decimalAux_head {fuel n : Nat} (enough : n < fuel) (positive : 0 < n)
    (digits : Bytes) :
    ∃ byte rest, decimalAux fuel n digits = byte :: rest ∧ byte ≠ 48 := by
  induction fuel generalizing n digits with
  | zero => omega
  | succ fuel induction =>
      simp only [decimalAux]
      split
      · next small =>
          refine ⟨digitByte n, digits, rfl, ?_⟩
          interval_cases n <;> decide
      · exact induction (by omega) (by omega) _

/-- A positive number does not begin with a zero. -/
theorem decimal_head {n : Nat} (positive : 0 < n) :
    ∃ byte rest, decimal n = byte :: rest ∧ byte ≠ 48 :=
  decimalAux_head (Nat.lt_succ_self n) positive []

theorem bind_eq_ok_iff {x : Except ε α} {f : α → Except ε β} {result : β} :
    (x >>= f) = .ok result ↔ ∃ value, x = .ok value ∧ f value = .ok result := by
  cases x with
  | error exception => simp [bind, Except.bind]
  | ok value => simp [bind, Except.bind]

end BpkMessenger.Text
