import BpkMessenger.Text.Bytes

namespace BpkMessenger.Sql

open Text

/-! PostgreSQL's lexical structure with `standard_conforming_strings` on: words,
integers, string constants, quoted names, operators and comments.  Forms outside
this subset (escape, bit, national and Unicode strings, dollar quoting, fractions,
operators of several characters) are reported as such, never misread. -/

inductive Token
  | word (name : Bytes)
  | quotedName (name : Bytes)
  | number (digits : Bytes)
  | string (value : Bytes)
  | operator (byte : UInt8)
  | symbol (byte : UInt8)
  deriving DecidableEq, Repr

inductive LexError
  | unterminated
  | outside
  deriving DecidableEq, Repr

/-- Where the scanner stands between two bytes. -/
inductive Mode
  | start
  | word (text : Bytes)
  | number (text : Bytes)
  | string (text : Bytes)
  | quote (text : Bytes)
  | gap (text : Bytes) (newline : Bool)
  | gapDash (text : Bytes) (newline : Bool)
  | gapLine (text : Bytes)
  | name (text : Bytes)
  | nameQuote (text : Bytes)
  | operator (byte : UInt8)
  | line
  | block (depth : Nat) (last : UInt8)
  | failed
  deriving DecidableEq, Repr

structure LexState where
  tokens : List Token
  mode : Mode
  deriving DecidableEq, Repr

def isNewline (byte : UInt8) : Bool :=
  byte == 10 || byte == 13

def isUpper (byte : UInt8) : Bool :=
  65 ≤ byte && byte ≤ 90

def isLower (byte : UInt8) : Bool :=
  97 ≤ byte && byte ≤ 122

def isWordStart (byte : UInt8) : Bool :=
  isUpper byte || isLower byte || byte == 95 || 128 ≤ byte

def isWordByte (byte : UInt8) : Bool :=
  isWordStart byte || isdigit byte || byte == 36

def isSymbol (byte : UInt8) : Bool :=
  (ascii "()[],;:.").contains byte

def isOperator (byte : UInt8) : Bool :=
  (ascii "+-*/<>=~!@#%^&|?\x60").contains byte

def fold (text : Bytes) : Bytes :=
  text.map fun byte => if isUpper byte then byte + 32 else byte

/-- A word that turns the quote right after it into another kind of constant. -/
def opensSpecial (word : Bytes) (byte : UInt8) : Bool :=
  (byte == 39 && (ascii "ebxn").any fun letter => fold word == [letter]) ||
    (byte == 38 && fold word == ascii "u")

/-- The token a byte that does not continue the mode completes. -/
def Mode.completed : Mode → List Token
  | .word text => [.word (fold text)]
  | .number text => [.number text]
  | .quote text => [.string text]
  | .gap text _ => [.string text]
  | .gapDash text _ => [.string text, .operator 45]
  | .gapLine text => [.string text]
  | .nameQuote text => [.quotedName text]
  | .operator byte => [.operator byte]
  | _ => []

def begins (tokens : List Token) (byte : UInt8) : LexState :=
  if isspace byte then ⟨tokens, .start⟩
  else if isWordStart byte then ⟨tokens, .word [byte]⟩
  else if isdigit byte then ⟨tokens, .number [byte]⟩
  else if byte = 39 then ⟨tokens, .string []⟩
  else if byte = 34 then ⟨tokens, .name []⟩
  else if isSymbol byte then ⟨tokens ++ [.symbol byte], .start⟩
  else if isOperator byte then ⟨tokens, .operator byte⟩
  else ⟨tokens, .failed⟩

def LexState.step (state : LexState) (byte : UInt8) : LexState :=
  let resume := begins (state.tokens ++ state.mode.completed) byte
  let stay (mode : Mode) : LexState := ⟨state.tokens, mode⟩
  match state.mode with
  | .start => resume
  | .word text =>
      if isWordByte byte then stay (.word (text ++ [byte]))
      else if opensSpecial text byte then stay .failed
      else resume
  | .number text =>
      if isdigit byte then stay (.number (text ++ [byte]))
      else if isWordByte byte || byte == 46 then stay .failed
      else resume
  | .string text =>
      if byte = 39 then stay (.quote text) else stay (.string (text ++ [byte]))
  | .quote text =>
      if byte = 39 then stay (.string (text ++ [39]))
      else if isspace byte then stay (.gap text (isNewline byte))
      else if byte = 45 then stay (.gapDash text false)
      else resume
  | .gap text newline =>
      if byte = 39 && newline then stay (.string text)
      else if isspace byte then stay (.gap text (newline || isNewline byte))
      else if byte = 45 then stay (.gapDash text newline)
      else resume
  | .gapDash text _ =>
      if byte = 45 then stay (.gapLine text)
      else if isOperator byte then stay .failed
      else resume
  | .gapLine text =>
      if isNewline byte then stay (.gap text true) else stay (.gapLine text)
  | .name text =>
      if byte = 34 then stay (.nameQuote text) else stay (.name (text ++ [byte]))
  | .nameQuote text =>
      if byte = 34 then stay (.name (text ++ [34])) else resume
  | .operator last =>
      if last = 45 ∧ byte = 45 then stay .line
      else if last = 47 ∧ byte = 42 then stay (.block 1 0)
      else if isOperator byte then stay .failed
      else resume
  | .line => if isNewline byte then stay .start else stay .line
  | .block depth last =>
      if last = 47 ∧ byte = 42 then stay (.block (depth + 1) 0)
      else if last = 42 ∧ byte = 47 then
        if depth = 1 then stay .start else stay (.block (depth - 1) 0)
      else stay (.block depth byte)
  | .failed => stay .failed

def LexState.run (state : LexState) (text : Bytes) : LexState :=
  text.foldl LexState.step state

def LexState.finish (state : LexState) : Except LexError (List Token) :=
  match state.mode with
  | .string _ | .name _ | .block _ _ => .error .unterminated
  | .failed => .error .outside
  | mode => .ok (state.tokens ++ mode.completed)

def lex (text : Bytes) : Except LexError (List Token) :=
  ((⟨[], .start⟩ : LexState).run text).finish

/-- The text a C string interface sees: what precedes the first NUL. -/
def cString (text : Bytes) : Bytes :=
  text.takeWhile (· != 0)

/-- A text with every quote doubled. -/
def doubleQuotes (text : Bytes) : Bytes :=
  text.flatMap fun byte => if byte = 39 then [39, 39] else [byte]

@[simp] theorem LexState.run_nil (state : LexState) : state.run [] = state := rfl

@[simp] theorem LexState.run_cons (state : LexState) (byte : UInt8) (text : Bytes) :
    state.run (byte :: text) = (state.step byte).run text := rfl

theorem LexState.run_append (state : LexState) (first second : Bytes) :
    state.run (first ++ second) = (state.run first).run second :=
  List.foldl_append

@[simp] theorem doubleQuotes_nil : doubleQuotes [] = [] := rfl

theorem doubleQuotes_cons (byte : UInt8) (text : Bytes) :
    doubleQuotes (byte :: text) =
      (if byte = 39 then [39, 39] else [byte]) ++ doubleQuotes text := by
  simp [doubleQuotes]

@[simp] theorem doubleQuotes_append (first second : Bytes) :
    doubleQuotes (first ++ second) = doubleQuotes first ++ doubleQuotes second := by
  simp [doubleQuotes]

theorem run_doubleQuotes (tokens : List Token) (read text : Bytes) :
    (⟨tokens, .string read⟩ : LexState).run (doubleQuotes text) =
      ⟨tokens, .string (read ++ text)⟩ := by
  induction text generalizing read with
  | nil => simp
  | cons byte text induction =>
      rw [doubleQuotes_cons, LexState.run_append]
      by_cases quote : byte = 39
      · subst quote
        simp [LexState.step, induction]
      · simp [quote, LexState.step, induction]

private theorem begins_digit (tokens : List Token) {byte : UInt8}
    (digit : isdigit byte = true) :
    begins tokens byte = ⟨tokens, .number [byte]⟩ := by
  have notStart : isWordStart byte = false := by
    simp only [isdigit, Bool.and_eq_true, decide_eq_true_eq, UInt8.le_iff_toNat_le,
      UInt8.toNat_ofNat] at digit
    simp only [isWordStart, isUpper, isLower, Bool.or_eq_false_iff,
      Bool.and_eq_false_iff, beq_eq_false_iff_ne, decide_eq_false_iff_not,
      UInt8.le_iff_toNat_le, UInt8.toNat_ofNat, ne_eq, ← UInt8.toNat_inj]
    omega
  simp [begins, isdigit_not_isspace digit, notStart, digit]

private theorem run_number (tokens : List Token) (read : Bytes) {digits : Bytes}
    (digit : ∀ byte ∈ digits, isdigit byte = true) :
    (⟨tokens, .number read⟩ : LexState).run digits =
      ⟨tokens, .number (read ++ digits)⟩ := by
  induction digits generalizing read with
  | nil => simp
  | cons byte digits induction =>
      have stays : (⟨tokens, .number read⟩ : LexState).step byte =
          ⟨tokens, .number (read ++ [byte])⟩ := by
        simp [LexState.step, digit byte (by simp)]
      rw [LexState.run_cons, stays, induction _ fun other member => digit other (by simp [member])]
      simp

theorem run_decimal (tokens : List Token) (n : Nat) :
    (⟨tokens, .start⟩ : LexState).run (decimal n) =
      ⟨tokens, .number (decimal n)⟩ := by
  obtain ⟨first, digits, split⟩ := List.exists_cons_of_ne_nil (decimal_ne_nil n)
  have digit : ∀ byte ∈ first :: digits, isdigit byte = true := by
    intro byte member
    exact isdigit_of_mem_decimal (n := n) (by rwa [split])
  have opened : (⟨tokens, .start⟩ : LexState).step first =
      ⟨tokens, .number [first]⟩ := by
    simp [LexState.step, Mode.completed, begins_digit tokens (digit first (by simp))]
  rw [split, LexState.run_cons, opened,
    run_number tokens [first] fun other member => digit other (by simp [member])]
  rfl

theorem cString_append {first second : Bytes} (clean : 0 ∉ first) :
    cString (first ++ second) = first ++ cString second := by
  apply List.takeWhile_append_of_pos
  intro byte member
  simpa using ne_of_mem_of_not_mem member clean

theorem cString_of_clean {text : Bytes} (clean : 0 ∉ text) :
    cString text = text := by
  simpa [cString] using @cString_append text [] clean

@[simp] theorem zero_mem_doubleQuotes (text : Bytes) :
    0 ∈ doubleQuotes text ↔ 0 ∈ text := by
  induction text with
  | nil => simp
  | cons byte text induction =>
      rw [doubleQuotes_cons, List.mem_append, induction, List.mem_cons]
      by_cases quote : byte = 39
      · subst quote
        simp
      · simp [quote]

@[simp] theorem zero_notMem_decimal (n : Nat) : 0 ∉ decimal n := by
  intro member
  have digit := isdigit_of_mem_decimal member
  contradiction

/-- A text that ends in an opened constant swallows whatever is put in it up to
its first NUL, and never closes it. -/
theorem lex_cut_constant {before after text read : Bytes} {tokens : List Token}
    (opened : (⟨[], .start⟩ : LexState).run before = ⟨tokens, .string read⟩)
    (clean : 0 ∉ before) (cut : 0 ∈ text) :
    lex (cString (before ++ doubleQuotes text ++ after)) = .error .unterminated := by
  obtain ⟨kept, lost, rfl, keptClean⟩ := List.eq_append_cons_of_mem cut
  have seen : cString (before ++ doubleQuotes (kept ++ 0 :: lost) ++ after) =
      before ++ doubleQuotes kept := by
    rw [doubleQuotes_append, doubleQuotes_cons, List.append_assoc, List.append_assoc,
      cString_append clean, cString_append (by simpa using keptClean)]
    simp [cString]
  rw [seen, lex, LexState.run_append, opened, run_doubleQuotes]
  rfl

theorem lex_constant {before after text : Bytes} {tokens : List Token}
    (opened : (⟨[], .start⟩ : LexState).run before = ⟨tokens, .string []⟩)
    (cleanBefore : 0 ∉ before) (cleanAfter : 0 ∉ after) (clean : 0 ∉ text) :
    lex (cString (before ++ doubleQuotes text ++ 39 :: after)) =
      ((⟨tokens, .quote text⟩ : LexState).run after).finish := by
  rw [cString_of_clean (by simp [cleanBefore, cleanAfter, clean]), lex,
    LexState.run_append, LexState.run_append, opened, run_doubleQuotes]
  rfl

theorem lex_numeral {before after : Bytes} {tokens : List Token} (n : Nat)
    (opened : (⟨[], .start⟩ : LexState).run before = ⟨tokens, .start⟩)
    (cleanBefore : 0 ∉ before) (cleanAfter : 0 ∉ after) :
    lex (cString (before ++ decimal n ++ after)) =
      ((⟨tokens, .number (decimal n)⟩ : LexState).run after).finish := by
  rw [cString_of_clean (by simp [cleanBefore, cleanAfter]), lex,
    LexState.run_append, LexState.run_append, opened, run_decimal]

theorem doubleQuotes_of_notMem {text : Bytes} (plain : 39 ∉ text) :
    doubleQuotes text = text := by
  induction text with
  | nil => rfl
  | cons byte text induction =>
      simp only [List.mem_cons, not_or] at plain
      rw [doubleQuotes_cons, if_neg (Ne.symm plain.1), induction plain.2]
      rfl

theorem length_doubleQuotes (text : Bytes) :
    (doubleQuotes text).length = text.length + text.count 39 := by
  induction text with
  | nil => rfl
  | cons byte text induction =>
      rw [doubleQuotes_cons, List.length_append, induction, List.length_cons]
      by_cases quote : byte = 39
      · rw [if_pos quote, quote, List.count_cons_self, List.length_cons, List.length_singleton]
        omega
      · rw [if_neg quote, List.count_cons_of_ne quote, List.length_singleton]
        omega

/-- The doubling shows exactly in texts with a quote. -/
theorem doubleQuotes_eq_self_iff {text : Bytes} :
    doubleQuotes text = text ↔ 39 ∉ text := by
  constructor
  · intro same
    have length := length_doubleQuotes text
    rw [same] at length
    exact List.count_eq_zero.mp (by omega)
  · exact doubleQuotes_of_notMem

theorem doubleQuotes_decimal (n : Nat) : doubleQuotes (decimal n) = decimal n := by
  apply doubleQuotes_of_notMem
  intro member
  have digit := isdigit_of_mem_decimal member
  contradiction

end BpkMessenger.Sql
