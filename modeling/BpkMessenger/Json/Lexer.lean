import BpkMessenger.Text.Utf8

namespace BpkMessenger.Json

open Text

/-! The scanner of the JSON library.  A number that is no 64-bit integer is kept as its
literal, and no position or error text is. -/

inductive Token
  | beginArray
  | endArray
  | beginObject
  | endObject
  | nameSeparator
  | valueSeparator
  | literalTrue
  | literalFalse
  | literalNull
  | valueString (text : Bytes)
  | valueUnsigned (value : Nat)
  | valueInteger (value : Int)
  | valueFloat (literal : Bytes)
  | endOfInput
  | parseError
  deriving DecidableEq, Repr

/-! Strings. -/

/-- The digit that `get_codepoint` adds for a byte. -/
def hexDigit (byte : UInt8) : Option Nat :=
  if 48 ≤ byte ∧ byte ≤ 57 then some (byte.toNat - 0x30)
  else if 65 ≤ byte ∧ byte ≤ 70 then some (byte.toNat - 0x37)
  else if 97 ≤ byte ∧ byte ≤ 102 then some (byte.toNat - 0x57)
  else none

/-- The byte that a one-letter escape stands for. -/
def escapedByte (byte : UInt8) : Option UInt8 :=
  if byte = 34 then some 34
  else if byte = 92 then some 92
  else if byte = 47 then some 47
  else if byte = 98 then some 8
  else if byte = 102 then some 12
  else if byte = 110 then some 10
  else if byte = 114 then some 13
  else if byte = 116 then some 9
  else none

/-- The bytes of a code point. -/
def codepointBytes (codepoint : Nat) : Bytes :=
  if codepoint < 0x80 then [UInt8.ofNat codepoint]
  else if codepoint ≤ 0x7FF then
    [UInt8.ofNat (0xC0 ||| codepoint >>> 6), UInt8.ofNat (0x80 ||| codepoint &&& 0x3F)]
  else if codepoint ≤ 0xFFFF then
    [UInt8.ofNat (0xE0 ||| codepoint >>> 12),
      UInt8.ofNat (0x80 ||| codepoint >>> 6 &&& 0x3F),
      UInt8.ofNat (0x80 ||| codepoint &&& 0x3F)]
  else
    [UInt8.ofNat (0xF0 ||| codepoint >>> 18),
      UInt8.ofNat (0x80 ||| codepoint >>> 12 &&& 0x3F),
      UInt8.ofNat (0x80 ||| codepoint >>> 6 &&& 0x3F),
      UInt8.ofNat (0x80 ||| codepoint &&& 0x3F)]

/-- The ranges of the bytes that `next_byte_in_range` wants behind this one. -/
def continuations (byte : UInt8) : Option (List (UInt8 × UInt8)) :=
  if byte < 0x20 then none
  else if byte < 0x80 then some []
  else if byte < 0xC2 then none
  else if byte ≤ 0xDF then some [(0x80, 0xBF)]
  else if byte = 0xE0 then some [(0xA0, 0xBF), (0x80, 0xBF)]
  else if byte = 0xED then some [(0x80, 0x9F), (0x80, 0xBF)]
  else if byte ≤ 0xEF then some [(0x80, 0xBF), (0x80, 0xBF)]
  else if byte = 0xF0 then some [(0x90, 0xBF), (0x80, 0xBF), (0x80, 0xBF)]
  else if byte ≤ 0xF3 then some [(0x80, 0xBF), (0x80, 0xBF), (0x80, 0xBF)]
  else if byte = 0xF4 then some [(0x80, 0x8F), (0x80, 0xBF), (0x80, 0xBF)]
  else none

/-- Where `scan_string` stands when it calls `get`: at the head of its loop, behind a
backslash, in `get_codepoint` (with the high surrogate before it, the sum so far and the
factors left), before the second half of a pair, or in `next_byte_in_range`. -/
inductive StringPoint
  | character
  | escape
  | codepoint (high : Option Nat) (sum : Nat) (factors : List Nat)
  | backslash (high : Nat)
  | letter (high : Nat)
  | range (low high : UInt8) (ranges : List (UInt8 × UInt8))
  deriving DecidableEq, Repr

def StringPoint.within : List (UInt8 × UInt8) → StringPoint
  | [] => .character
  | (low, high) :: ranges => .range low high ranges

/-- A code point that has been read: a high surrogate waits for its pair. -/
def StringPoint.translate (high : Option Nat) (codepoint : Nat) :
    Option (StringPoint × Bytes) :=
  match high with
  | none =>
      if 0xD800 ≤ codepoint ∧ codepoint ≤ 0xDBFF then some (.backslash codepoint, [])
      else if 0xDC00 ≤ codepoint ∧ codepoint ≤ 0xDFFF then none
      else some (.character, codepointBytes codepoint)
  | some high =>
      if 0xDC00 ≤ codepoint ∧ codepoint ≤ 0xDFFF then
        some (.character, codepointBytes (high <<< 10 + codepoint - 0x35FDC00))
      else none

/-- The next point, and what is added to the token buffer. -/
def StringPoint.step : StringPoint → UInt8 → Option (StringPoint × Bytes)
  | .character, byte =>
      if byte = 92 then some (.escape, [])
      else (continuations byte).map fun ranges => (.within ranges, [byte])
  | .escape, byte =>
      if byte = 117 then some (.codepoint none 0 [12, 8, 4, 0], [])
      else (escapedByte byte).map fun escaped => (.character, [escaped])
  | .codepoint high sum factors, byte =>
      (hexDigit byte).bind fun digit =>
        match factors with
        | [] => none
        | [factor] => translate high (sum + digit <<< factor)
        | factor :: factors => some (.codepoint high (sum + digit <<< factor) factors, [])
  | .backslash high, byte => if byte = 92 then some (.letter high, []) else none
  | .letter high, byte =>
      if byte = 117 then some (.codepoint (some high) 0 [12, 8, 4, 0], []) else none
  | .range low high ranges, byte =>
      if low ≤ byte ∧ byte ≤ high then some (.within ranges, [byte]) else none

/-- `scan_string`: the text, and what follows its closing quote. -/
def scanString (point : StringPoint) (buffer : Bytes) : Bytes → Option (Bytes × Bytes)
  | [] => none
  | byte :: rest =>
      if point = .character ∧ byte = 34 then some (buffer, rest)
      else (point.step byte).bind fun next => scanString next.1 (buffer ++ next.2) rest

/-! Numbers. -/

inductive NumberPoint
  | minus
  | zero
  | any1
  | decimal1
  | decimal2
  | exponent
  | sign
  | any2
  deriving DecidableEq, Repr

inductive NumberType
  | unsigned
  | integer
  | float
  deriving DecidableEq, Repr

namespace NumberPoint

def next (point : NumberPoint) (byte : UInt8) : Option NumberPoint :=
  match point with
  | .minus => if byte = 48 then some .zero else if isdigit byte then some .any1 else none
  | .zero =>
      if byte = 46 then some .decimal1
      else if byte = 101 ∨ byte = 69 then some .exponent
      else none
  | .any1 =>
      if isdigit byte then some .any1
      else if byte = 46 then some .decimal1
      else if byte = 101 ∨ byte = 69 then some .exponent
      else none
  | .decimal1 => if isdigit byte then some .decimal2 else none
  | .decimal2 =>
      if isdigit byte then some .decimal2
      else if byte = 101 ∨ byte = 69 then some .exponent
      else none
  | .exponent =>
      if isSign byte then some .sign else if isdigit byte then some .any2 else none
  | .sign => if isdigit byte then some .any2 else none
  | .any2 => if isdigit byte then some .any2 else none

/-- Whether a byte that leads nowhere ends the number here. -/
def done : NumberPoint → Bool
  | .zero | .any1 | .decimal2 | .any2 => true
  | _ => false

/-- The type that is set on entering the state. -/
def entered (type : NumberType) : NumberPoint → NumberType
  | .minus => .integer
  | .decimal1 | .exponent => .float
  | _ => type

end NumberPoint

/-- The states of `scan_number` behind its first byte; the byte behind the number is
given back. -/
def scanNumberFrom (type : NumberType) (point : NumberPoint) (buffer : Bytes) :
    Bytes → Option (NumberType × Bytes × Bytes)
  | [] => if point.done then some (type, buffer, []) else none
  | byte :: rest =>
      match point.next byte with
      | some next => scanNumberFrom (next.entered type) next (buffer ++ [byte]) rest
      | none => if point.done then some (type, buffer, byte :: rest) else none

/-- `strtoull` and `strtoll` on what was scanned, else a float. -/
def numberToken : NumberType → Bytes → Token
  | .unsigned, literal =>
      if decimalValue literal < 2 ^ 64 then .valueUnsigned (decimalValue literal)
      else .valueFloat literal
  | .integer, literal =>
      if decimalValue (literal.drop 1) ≤ 2 ^ 63 then
        .valueInteger (-(decimalValue (literal.drop 1) : Int))
      else .valueFloat literal
  | .float, literal => .valueFloat literal

def scanNumber (first : UInt8) (rest : Bytes) : Option (Token × Bytes) :=
  let point := if first = 45 then .minus else if first = 48 then .zero else .any1
  (scanNumberFrom (NumberPoint.entered .unsigned point) point [first] rest).map
    fun scanned => (numberToken scanned.1 scanned.2.1, scanned.2.2)

/-! Tokens. -/

def isWhitespace (byte : UInt8) : Bool :=
  byte == 32 || byte == 9 || byte == 10 || byte == 13

/-- A scan that fails is an error token, after which nothing more is read. -/
def orError (scanned : Option (Token × Bytes)) : Token × Bytes :=
  scanned.getD (.parseError, [])

/-- `scan_literal`, behind the first letter. -/
def scanLiteral (literal : Bytes) (token : Token) (rest : Bytes) : Option (Token × Bytes) :=
  if literal.isPrefixOf rest then some (token, rest.drop literal.length) else none

/-- `scan`: the next token, and the input behind it. -/
def scan : Bytes → Token × Bytes
  | [] => (.endOfInput, [])
  | byte :: rest =>
      if isWhitespace byte then scan rest
      else if byte = 91 then (.beginArray, rest)
      else if byte = 93 then (.endArray, rest)
      else if byte = 123 then (.beginObject, rest)
      else if byte = 125 then (.endObject, rest)
      else if byte = 58 then (.nameSeparator, rest)
      else if byte = 44 then (.valueSeparator, rest)
      else if byte = 116 then orError (scanLiteral (ascii "rue") .literalTrue rest)
      else if byte = 102 then orError (scanLiteral (ascii "alse") .literalFalse rest)
      else if byte = 110 then orError (scanLiteral (ascii "ull") .literalNull rest)
      else if byte = 34 then
        orError ((scanString .character [] rest).map fun scanned =>
          (.valueString scanned.1, scanned.2))
      else if byte = 45 ∨ isdigit byte then orError (scanNumber byte rest)
      else if byte = 0 then (.endOfInput, rest)
      else (.parseError, rest)

/-- `skip_bom`, before the first token. -/
def skipBom : Bytes → Option Bytes
  | 0xEF :: 0xBB :: 0xBF :: rest => some rest
  | 0xEF :: _ => none
  | input => some input

end BpkMessenger.Json
