import Lexicon.Json.Basic
import Lexicon.Text.Utf8

/-!
# Reading JSON text

The grammar of RFC 8259 over bytes, and nothing beyond it: no comments, no trailing commas, no byte
order mark, no blanks other than space, tab and line ends, no control characters in strings. Nothing
but blanks may follow the value.

Text that is well formed but not Unicode inside a string is read as a garbled string.
-/

set_option autoImplicit false

namespace Lexicon.Json

def isBlankByte (byte : UInt8) : Bool :=
  byte == 0x20 || byte == 0x09 || byte == 0x0A || byte == 0x0D

def skipBlanks (bytes : List UInt8) : List UInt8 :=
  bytes.dropWhile isBlankByte

def isDigitByte (byte : UInt8) : Bool :=
  0x30 ≤ byte && byte ≤ 0x39

/-! ## Strings -/

/-- A piece of a string: a byte of it, or the code unit of a numeric escape. -/
inductive Piece where
  | byte (value : UInt8)
  | unit (value : Nat)

def hexDigit? (byte : UInt8) : Option Nat :=
  if isDigitByte byte then some (byte.toNat - 0x30)
  else if 0x41 ≤ byte && byte ≤ 0x46 then some (byte.toNat - 0x37)
  else if 0x61 ≤ byte && byte ≤ 0x66 then some (byte.toNat - 0x57)
  else none

def codeUnit? (digits : List UInt8) : Option Nat :=
  digits.foldl (fun value byte =>
    match value, hexDigit? byte with
    | some value, some digit => some (16 * value + digit)
    | _, _ => none) (some 0)

def escape? (letter : UInt8) : Option UInt8 :=
  if letter == 0x22 || letter == 0x5C || letter == 0x2F then some letter
  else if letter == 0x62 then some 0x08
  else if letter == 0x66 then some 0x0C
  else if letter == 0x6E then some 0x0A
  else if letter == 0x72 then some 0x0D
  else if letter == 0x74 then some 0x09
  else none

def readPieces : List UInt8 → Option (List Piece × List UInt8)
  | [] => none
  | 0x22 :: rest => some ([], rest)
  | 0x5C :: 0x75 :: a :: b :: c :: d :: rest =>
    match codeUnit? [a, b, c, d], readPieces rest with
    | some unit, some (pieces, rest) => some (.unit unit :: pieces, rest)
    | _, _ => none
  | 0x5C :: letter :: rest =>
    match escape? letter, readPieces rest with
    | some byte, some (pieces, rest) => some (.byte byte :: pieces, rest)
    | _, _ => none
  | byte :: rest =>
    if byte < 0x20 then none
    else
      match readPieces rest with
      | some (pieces, rest) => some (.byte byte :: pieces, rest)
      | none => none

/-- The bytes of the text that pieces make up. Two escaped surrogates in a row form one character; a
surrogate on its own forms none. -/
def bytesOf? : List Piece → Option (List UInt8)
  | [] => some []
  | .byte value :: rest => (bytesOf? rest).map (value :: ·)
  | .unit unit :: rest =>
    if unit < 0xD800 ∨ 0xDFFF < unit then
      (bytesOf? rest).map (Text.encodeUtf8 (String.singleton (Char.ofNat unit)) ++ ·)
    else
      match rest with
      | .unit low :: rest =>
        if unit < 0xDC00 ∧ 0xDC00 ≤ low ∧ low ≤ 0xDFFF then
          let code := 0x10000 + (unit - 0xD800) * 0x400 + (low - 0xDC00)
          (bytesOf? rest).map (Text.encodeUtf8 (String.singleton (Char.ofNat code)) ++ ·)
        else
          none
      | _ => none

/-- Reads a string after its opening quote. The text is none if the string is garbled. -/
def readString (bytes : List UInt8) : Option (Option String × List UInt8) :=
  (readPieces bytes).map fun (pieces, rest) =>
    match bytesOf? pieces with
    | none => (none, rest)
    | some text => (Text.decodeUtf8? text, rest)

/-! ## Numbers and words -/

def readDigits (bytes : List UInt8) : Option (List UInt8 × List UInt8) :=
  match bytes.takeWhile isDigitByte with
  | [] => none
  | digits => some (digits, bytes.dropWhile isDigitByte)

/-- Skips a fraction if there is one, and says whether there was. -/
def skipFraction : List UInt8 → Option (Bool × List UInt8)
  | 0x2E :: rest => (readDigits rest).map fun (_, rest) => (true, rest)
  | bytes => some (false, bytes)

def skipSign : List UInt8 → List UInt8
  | 0x2B :: rest => rest
  | 0x2D :: rest => rest
  | bytes => bytes

/-- Skips an exponent if there is one, and says whether there was. -/
def skipExponent : List UInt8 → Option (Bool × List UInt8)
  | 0x65 :: rest => (readDigits (skipSign rest)).map fun (_, rest) => (true, rest)
  | 0x45 :: rest => (readDigits (skipSign rest)).map fun (_, rest) => (true, rest)
  | bytes => some (false, bytes)

def decimalValue (digits : List UInt8) : Nat :=
  digits.foldl (fun value digit => 10 * value + (digit.toNat - 0x30)) 0

def ofDigits (negative : Bool) (digits : List UInt8) : Json :=
  if negative = false ∧ decimalValue digits < UInt64.size then
    .natural (UInt64.ofNat (decimalValue digits))
  else
    .number

/-- Reads a number. A leading zero stands alone. -/
def readNumber (bytes : List UInt8) : Option (Json × List UInt8) := do
  let negative := bytes.head? == some 0x2D
  let (digits, rest) ← readDigits (if negative then bytes.drop 1 else bytes)
  if digits.head? = some 0x30 ∧ digits.length ≠ 1 then none
  else
    let (fraction, rest) ← skipFraction rest
    let (exponent, rest) ← skipExponent rest
    some (if fraction || exponent then .number else ofDigits negative digits, rest)

def readWord? (bytes : List UInt8) : Option (Json × List UInt8) :=
  [("null", Json.null), ("true", .bool true), ("false", .bool false)].findSome? fun (word, value) =>
    let letters := Text.encodeUtf8 word
    if letters.isPrefixOf bytes then some (value, bytes.drop letters.length) else none

/-! ## Values

A value and the elements after it are read with a bound on the steps. Every second step consumes a
byte, so twice the length of the text is enough. -/

mutual

def readValue (bound : Nat) (bytes : List UInt8) : Option (Json × List UInt8) :=
  match bound with
  | 0 => none
  | bound + 1 =>
    match skipBlanks bytes with
    | 0x7B :: rest =>
      match skipBlanks rest with
      | 0x7D :: rest => some (.object [], rest)
      | rest => (readMembers bound rest).map fun (members, rest) => (.object members, rest)
    | 0x5B :: rest =>
      match skipBlanks rest with
      | 0x5D :: rest => some (.array [], rest)
      | rest => (readElements bound rest).map fun (values, rest) => (.array values, rest)
    | 0x22 :: rest =>
      (readString rest).map fun (text, rest) =>
        match text with
        | none => (.garbled, rest)
        | some text => (.string text, rest)
    | bytes => (readWord? bytes).or (readNumber bytes)

def readElements (bound : Nat) (bytes : List UInt8) : Option (List Json × List UInt8) :=
  match bound with
  | 0 => none
  | bound + 1 =>
    match readValue bound bytes with
    | none => none
    | some (value, rest) =>
      match skipBlanks rest with
      | 0x2C :: rest => (readElements bound rest).map fun (values, rest) => (value :: values, rest)
      | 0x5D :: rest => some ([value], rest)
      | _ => none

def readMembers (bound : Nat) (bytes : List UInt8) :
    Option (List (Option String × Json) × List UInt8) :=
  match bound with
  | 0 => none
  | bound + 1 =>
    match skipBlanks bytes with
    | 0x22 :: rest =>
      match readString rest with
      | none => none
      | some (key, rest) =>
        match skipBlanks rest with
        | 0x3A :: rest =>
          match readValue bound rest with
          | none => none
          | some (value, rest) =>
            match skipBlanks rest with
            | 0x2C :: rest =>
              (readMembers bound rest).map fun (members, rest) => ((key, value) :: members, rest)
            | 0x7D :: rest => some ([(key, value)], rest)
            | _ => none
        | _ => none
    | _ => none

end

def ofBytes? (bytes : List UInt8) : Option Json :=
  match readValue (2 * bytes.length + 2) bytes with
  | none => none
  | some (value, rest) => if skipBlanks rest = [] then some value else none

end Lexicon.Json
