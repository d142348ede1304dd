/-!
# The layout of dictionary regions

All numbers are big-endian. A region is a header and then entries.

```text
4 bytes   magic number 0x9BC13AFE
2 bytes   format version, 2 to 4
2 bytes   flags
4 bytes   header size, at least 16 and at most the size of the region
4 bytes   number of entries
...       padding up to the header size
entries   1 byte frequency, 1 byte length, that many bytes of a UTF-8 word
```

Bytes after the last entry belong to nobody and are allowed.
-/

set_option autoImplicit false

namespace Lexicon.Region

/-! ## Numbers -/

/-- The number that bytes write, the most significant first. -/
def ofBytes (bytes : List UInt8) : Nat :=
  bytes.foldl (fun value byte => 256 * value + byte.toNat) 0

/-- A number in `width` bytes, the most significant first. Higher digits are dropped. -/
def toBytes (width value : Nat) : List UInt8 :=
  match width with
  | 0 => []
  | width + 1 => toBytes width (value / 256) ++ [UInt8.ofNat (value % 256)]

def field (bytes : List UInt8) (start width : Nat) : Nat :=
  ofBytes ((bytes.drop start).take width)

@[simp] theorem length_toBytes (width value : Nat) : (toBytes width value).length = width := by
  induction width generalizing value with
  | zero => rfl
  | succ width ih => simp [toBytes, ih]

theorem ofBytes_append (bytes : List UInt8) (byte : UInt8) :
    ofBytes (bytes ++ [byte]) = 256 * ofBytes bytes + byte.toNat := by
  simp [ofBytes]

/-! ## Constants -/

def magic : Nat := 0x9BC13AFE

/-- The version that is written unless another one is asked for. -/
def currentVersion : UInt16 := 2

def leastHeader : Nat := 16

def isSupported (version : Nat) : Bool :=
  2 ≤ version && version ≤ 4

structure Entry where
  word : String
  frequency : UInt8
  deriving DecidableEq, Repr

/-! ## Defects -/

inductive Defect where
  | truncated (length : Nat)
  | badMagic (found : Nat)
  | unsupportedVersion (version : Nat)
  /-- The declared header is smaller than a header or larger than the region. -/
  | headerSize (declared length : Nat)
  /-- The entry does not fit in what is left of the region. -/
  | entryOverrun (index : Nat)
  | invalidWord (index : Nat)
  deriving DecidableEq, Repr

def hexadecimal (value : Nat) : String :=
  let digits := Nat.toDigits 16 value
  String.ofList (List.replicate (8 - digits.length) '0' ++ digits)

def Defect.message : Defect → String
  | .truncated length => "Region too short for header: " ++ toString length ++ " bytes"
  | .badMagic found => "Bad magic number: 0x" ++ hexadecimal found
  | .unsupportedVersion version => "Unsupported format version: " ++ toString version
  | .headerSize declared length =>
    "Header size " ++ toString declared ++ " out of bounds for region of " ++ toString length ++
      " bytes"
  | .entryOverrun index => "Entry " ++ toString index ++ " runs past the end of the region"
  | .invalidWord index => "Entry " ++ toString index ++ " is not valid UTF-8"

end Lexicon.Region
