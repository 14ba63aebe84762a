import BpkMessenger.Text.Bytes

namespace BpkMessenger.Text

/-! The streaming UTF-8 validator shared by the WebSocket layer and the JSON
serializer: byte classes, and a state machine with accepting state 0 and
rejecting state 1. -/

def utf8Class (byte : UInt8) : Nat :=
  if byte < 0x80 then 0
  else if byte < 0x90 then 1
  else if byte < 0xa0 then 9
  else if byte < 0xc0 then 7
  else if byte < 0xc2 then 8
  else if byte < 0xe0 then 2
  else if byte = 0xe0 then 10
  else if byte = 0xed then 4
  else if byte < 0xf0 then 3
  else if byte = 0xf0 then 11
  else if byte < 0xf4 then 6
  else if byte = 0xf4 then 5
  else 8

/-- The transition table; every entry that is not listed rejects. -/
def utf8Transition : Nat → Nat → Nat
  | 0, 0 => 0
  | 0, 2 => 2
  | 0, 3 => 3
  | 0, 4 => 5
  | 0, 5 => 8
  | 0, 6 => 7
  | 0, 10 => 4
  | 0, 11 => 6
  | 2, 1 | 2, 7 | 2, 9 => 0
  | 3, 1 | 3, 7 | 3, 9 => 2
  | 4, 7 => 2
  | 5, 1 | 5, 9 => 2
  | 6, 7 | 6, 9 => 3
  | 7, 1 | 7, 7 | 7, 9 => 3
  | 8, 1 => 3
  | _, _ => 1

def utf8Step (state : Nat) (byte : UInt8) : Nat :=
  utf8Transition state (utf8Class byte)

def validUtf8From : Nat → Bytes → Bool
  | state, [] => state == 0
  | state, byte :: bytes => validUtf8From (utf8Step state byte) bytes

/-- `utf8_validator::validate`. -/
def validUtf8 (bytes : Bytes) : Bool :=
  validUtf8From 0 bytes

/-- The number of characters of a UTF-8 text: its bytes that do not continue one. -/
def characterLength (bytes : Bytes) : Nat :=
  (bytes.filter fun byte => !(0x80 ≤ byte && byte < 0xc0)).length

@[simp] theorem utf8Class_of_ascii {byte : UInt8} (low : byte < 0x80) :
    utf8Class byte = 0 := by
  simp [utf8Class, low]

theorem utf8Step_ascii {byte : UInt8} (low : byte < 0x80) :
    utf8Step 0 byte = 0 := by
  simp [utf8Step, utf8Class_of_ascii low, utf8Transition]

theorem utf8Step_ascii_inside {state : Nat} {byte : UInt8}
    (low : byte < 0x80) (inside : state ≠ 0) : utf8Step state byte = 1 := by
  rw [utf8Step, utf8Class_of_ascii low]
  unfold utf8Transition
  split <;> simp_all

@[simp] theorem validUtf8From_reject (bytes : Bytes) :
    validUtf8From 1 bytes = false := by
  induction bytes with
  | nil => rfl
  | cons byte bytes induction =>
      rw [validUtf8From]
      have stuck : utf8Step 1 byte = 1 := by
        unfold utf8Step utf8Transition
        split <;> simp_all
      rw [stuck, induction]

theorem validUtf8From_append {state : Nat} {first second : Bytes}
    (valid : validUtf8From state first = true) :
    validUtf8From state (first ++ second) = validUtf8 second := by
  induction first generalizing state with
  | nil =>
      have accepted : state = 0 := by simpa [validUtf8From] using valid
      rw [accepted]
      rfl
  | cons byte first induction => exact induction valid

theorem validUtf8_append {first second : Bytes}
    (validFirst : validUtf8 first = true) (validSecond : validUtf8 second = true) :
    validUtf8 (first ++ second) = true := by
  rw [validUtf8, validUtf8From_append validFirst, validSecond]

theorem validUtf8_of_ascii {bytes : Bytes} (low : ∀ byte ∈ bytes, byte < 0x80) :
    validUtf8 bytes = true := by
  induction bytes with
  | nil => rfl
  | cons byte bytes induction =>
      rw [validUtf8, validUtf8From, utf8Step_ascii (low byte (by simp))]
      exact induction fun other member => low other (by simp [member])

theorem validUtf8From_flatMap {state : Nat} {bytes : Bytes}
    {replace : UInt8 → Bytes}
    (ofAscii : ∀ byte < 0x80, ∀ other ∈ replace byte, other < 0x80)
    (ofOther : ∀ byte, ¬ byte < 0x80 → replace byte = [byte])
    (valid : validUtf8From state bytes = true) :
    validUtf8From state (bytes.flatMap replace) = true := by
  induction bytes generalizing state with
  | nil => exact valid
  | cons byte bytes induction =>
      rw [validUtf8From] at valid
      rw [List.flatMap_cons]
      by_cases low : byte < 0x80
      · by_cases accepting : state = 0
        · subst accepting
          rw [utf8Step_ascii low] at valid
          exact validUtf8_append (validUtf8_of_ascii (ofAscii byte low)) (induction valid)
        · rw [utf8Step_ascii_inside low accepting] at valid
          simp at valid
      · rw [ofOther byte low]
        exact induction valid

theorem isdigit_ascii {byte : UInt8} (digit : isdigit byte = true) :
    byte < 0x80 := by
  simp only [isdigit, Bool.and_eq_true, decide_eq_true_eq, UInt8.le_iff_toNat_le,
    UInt8.toNat_ofNat] at digit
  simp only [UInt8.lt_iff_toNat_lt, UInt8.toNat_ofNat]
  omega

theorem validUtf8_decimal (n : Nat) : validUtf8 (decimal n) = true :=
  validUtf8_of_ascii fun _ member => isdigit_ascii (isdigit_of_mem_decimal member)

end BpkMessenger.Text
