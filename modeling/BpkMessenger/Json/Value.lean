import BpkMessenger.Text.Utf8

namespace BpkMessenger

open Text

/-! JSON documents as the JSON library keeps them, over the keys `κ` a program
uses.  Numbers are the unsigned integers. -/

inductive Json (κ : Type) where
  | null
  | number (value : Nat)
  | string (text : Bytes)
  | array (elements : List (Json κ))
  | object (members : List (κ × Json κ))

/-- What the library throws: parsing a text that is no document, reading a value
of the wrong type, or writing a string that is not UTF-8. -/
inductive JsonException
  | parseError
  | typeError
  | invalidUtf8
  deriving DecidableEq, Repr

namespace Json

def elements : Json κ → List (Json κ)
  | .null => []
  | .array values => values
  | .object members => members.map Prod.snd
  | value => [value]

def size : Json κ → Nat
  | .null => 0
  | .array values => values.length
  | .object members => members.length
  | _ => 1

def clear : Json κ → Json κ
  | .null => .null
  | .number _ => .number 0
  | .string _ => .string []
  | .array _ => .array []
  | .object _ => .object []

def pushBack : Json κ → Json κ → Except JsonException (Json κ)
  | .null, value => .ok (.array [value])
  | .array values, value => .ok (.array (values ++ [value]))
  | _, _ => .error .typeError

/-- `operator[]` with a key: null becomes an object, and a missing member null. -/
def index [DecidableEq κ] (key : κ) : Json κ → Except JsonException (Json κ)
  | .null => .ok .null
  | .object members =>
      .ok (((members.find? fun member => member.1 = key).map Prod.snd).getD .null)
  | _ => .error .typeError

def getSize : Json κ → Except JsonException SizeT
  | .number value => .ok (UInt64.ofNat value)
  | _ => .error .typeError

def getString : Json κ → Except JsonException Bytes
  | .string text => .ok text
  | _ => .error .typeError

def hexByte (value : Nat) : UInt8 :=
  if value < 10 then UInt8.ofNat (48 + value) else UInt8.ofNat (87 + value)

/-- `dump_escaped` on one byte, without `ensure_ascii`. -/
def escapeByte (byte : UInt8) : Bytes :=
  if byte = 0x08 then ascii "\\b"
  else if byte = 0x09 then ascii "\\t"
  else if byte = 0x0a then ascii "\\n"
  else if byte = 0x0c then ascii "\\f"
  else if byte = 0x0d then ascii "\\r"
  else if byte = 0x22 then ascii "\\\""
  else if byte = 0x5c then ascii "\\\\"
  else if byte ≤ 0x1f then
    ascii "\\u00" ++ [hexByte (byte.toNat / 16), hexByte (byte.toNat % 16)]
  else [byte]

def dumpString (text : Bytes) : Except JsonException Bytes :=
  if validUtf8 text then .ok (ascii "\"" ++ text.flatMap escapeByte ++ ascii "\"")
  else .error .invalidUtf8

section Dump

variable (name : κ → Bytes)

mutual
def dump : Json κ → Except JsonException Bytes
  | .null => .ok (ascii "null")
  | .number value => .ok (decimal value)
  | .string text => dumpString text
  | .array values => do
      let body ← dumpElements values
      return ascii "[" ++ body ++ ascii "]"
  | .object members => do
      let body ← dumpMembers members
      return ascii "\x7b" ++ body ++ ascii "\x7d"

def dumpElements : List (Json κ) → Except JsonException Bytes
  | [] => .ok []
  | value :: values => do
      let first ← dump value
      let others ← dumpElements values
      return first ++ (if values.isEmpty then [] else ascii ",") ++ others

def dumpMembers : List (κ × Json κ) → Except JsonException Bytes
  | [] => .ok []
  | (key, value) :: members => do
      let first ← dumpString (name key)
      let second ← dump value
      let others ← dumpMembers members
      return first ++ ascii ":" ++ second ++
        (if members.isEmpty then [] else ascii ",") ++ others
end

end Dump

theorem dump_array {name : κ → Bytes} {values : List (Json κ)} {written : Bytes}
    (dumped : (Json.array values).dump name = .ok written) :
    ∃ rest, written = 91 :: rest := by
  simp only [dump, bind_eq_ok_iff] at dumped
  obtain ⟨body, bodyDumped, same⟩ := dumped
  cases same
  exact ⟨_, rfl⟩

theorem dump_head {name : κ → Bytes} {value : Json κ} {written : Bytes}
    (dumped : value.dump name = .ok written) :
    ∃ byte rest, written = byte :: rest ∧ (byte < 65 ∨ 90 < byte) := by
  cases value with
  | null =>
      cases dumped
      exact ⟨_, _, rfl, by decide⟩
  | number value =>
      cases dumped
      obtain ⟨byte, rest, split⟩ := List.exists_cons_of_ne_nil (decimal_ne_nil value)
      have digit : isdigit byte = true :=
        @isdigit_of_mem_decimal value byte (by rw [split]; exact List.mem_cons_self)
      refine ⟨byte, rest, split, .inl ?_⟩
      simp only [isdigit, Bool.and_eq_true, decide_eq_true_eq,
        UInt8.le_iff_toNat_le, UInt8.toNat_ofNat] at digit
      simp only [UInt8.lt_iff_toNat_lt, UInt8.toNat_ofNat]
      omega
  | string text =>
      simp only [dump, dumpString] at dumped
      split at dumped
      · cases dumped
        exact ⟨_, _, rfl, by decide⟩
      · contradiction
  | array values =>
      obtain ⟨rest, rfl⟩ := dump_array dumped
      exact ⟨_, rest, rfl, by decide⟩
  | object members =>
      simp only [dump, bind_eq_ok_iff] at dumped
      obtain ⟨body, bodyDumped, same⟩ := dumped
      cases same
      exact ⟨_, _, rfl, by decide⟩

private theorem hexByte_ascii {value : Nat} (small : value < 16) :
    hexByte value < 0x80 := by
  interval_cases value <;> decide

private theorem escapeByte_ascii (byte : UInt8) (low : byte < 0x80) :
    ∀ other ∈ escapeByte byte, other < 0x80 := by
  unfold escapeByte
  split_ifs with _ _ _ _ _ _ _ control
  · simp [ascii]
  · simp [ascii]
  · simp [ascii]
  · simp [ascii]
  · simp [ascii]
  · simp [ascii]
  · simp [ascii]
  · have bound : byte.toNat ≤ 31 := by simpa [UInt8.le_iff_toNat_le] using control
    have first := hexByte_ascii (show byte.toNat / 16 < 16 by omega)
    have second := hexByte_ascii (Nat.mod_lt byte.toNat (show 16 > 0 by decide))
    simp [ascii, first, second]
  · simpa using low

private theorem escapeByte_other (byte : UInt8) (high : ¬ byte < 0x80) :
    escapeByte byte = [byte] := by
  simp only [UInt8.lt_iff_toNat_lt, UInt8.toNat_ofNat] at high
  simp only [escapeByte, UInt8.le_iff_toNat_le, ← UInt8.toNat_inj, UInt8.toNat_ofNat]
  split_ifs <;> first | rfl | (exfalso; omega)

theorem validUtf8_dumpString {text written : Bytes}
    (dumped : dumpString text = .ok written) : validUtf8 written = true := by
  unfold dumpString at dumped
  split at dumped
  · next valid =>
      cases dumped
      have escaped := validUtf8From_flatMap escapeByte_ascii escapeByte_other valid
      exact validUtf8_append (validUtf8_append (by decide) escaped) (by decide)
  · contradiction

private theorem validUtf8_separator (values : List α) :
    validUtf8 (if values.isEmpty then [] else ascii ",") = true := by
  cases values <;> rfl

mutual
theorem validUtf8_dump (name : κ → Bytes) :
    ∀ (value : Json κ) {written : Bytes},
      dump name value = .ok written → validUtf8 written = true
  | .null, _, dumped => by cases dumped; rfl
  | .number value, _, dumped => by cases dumped; exact validUtf8_decimal value
  | .string _, _, dumped => validUtf8_dumpString dumped
  | .array values, _, dumped => by
      simp only [dump, bind_eq_ok_iff] at dumped
      obtain ⟨body, bodyDumped, written⟩ := dumped
      cases written
      exact validUtf8_append (validUtf8_append (by decide)
        (validUtf8_dumpElements name values bodyDumped)) (by decide)
  | .object members, _, dumped => by
      simp only [dump, bind_eq_ok_iff] at dumped
      obtain ⟨body, bodyDumped, written⟩ := dumped
      cases written
      exact validUtf8_append (validUtf8_append (by decide)
        (validUtf8_dumpMembers name members bodyDumped)) (by decide)

theorem validUtf8_dumpElements (name : κ → Bytes) :
    ∀ (values : List (Json κ)) {written : Bytes},
      dumpElements name values = .ok written → validUtf8 written = true
  | [], _, dumped => by cases dumped; rfl
  | value :: values, _, dumped => by
      simp only [dumpElements, bind_eq_ok_iff] at dumped
      obtain ⟨first, firstDumped, others, othersDumped, written⟩ := dumped
      cases written
      exact validUtf8_append (validUtf8_append
        (validUtf8_dump name value firstDumped) (validUtf8_separator values))
        (validUtf8_dumpElements name values othersDumped)

theorem validUtf8_dumpMembers (name : κ → Bytes) :
    ∀ (members : List (κ × Json κ)) {written : Bytes},
      dumpMembers name members = .ok written → validUtf8 written = true
  | [], _, dumped => by cases dumped; rfl
  | (key, value) :: members, _, dumped => by
      simp only [dumpMembers, bind_eq_ok_iff] at dumped
      obtain ⟨first, firstDumped, second, secondDumped, others, othersDumped,
        written⟩ := dumped
      cases written
      exact validUtf8_append (validUtf8_append (validUtf8_append
        (validUtf8_append (validUtf8_dumpString firstDumped) (by decide))
        (validUtf8_dump name value secondDumped)) (validUtf8_separator members))
        (validUtf8_dumpMembers name members othersDumped)
end

end Json

end BpkMessenger
