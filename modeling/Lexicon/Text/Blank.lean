/-!
# White space

The twenty-five characters with the Unicode property `White_Space`, and trimming by them. Trimming
takes every blank from both ends and nothing from the middle.
-/

set_option autoImplicit false

namespace Lexicon.Text

/-- Whether a character is white space: tab to carriage return, the space, and the next-line,
no-break, Ogham, typographic, separator, mathematical and ideographic spaces. -/
def isBlank (c : Char) : Bool :=
  let code := c.toNat
  (9 ≤ code && code ≤ 13) || code == 0x20 || code == 0x85 || code == 0xA0 || code == 0x1680 ||
    (0x2000 ≤ code && code ≤ 0x200A) || code == 0x2028 || code == 0x2029 || code == 0x202F ||
    code == 0x205F || code == 0x3000

def trimStart (cs : List Char) : List Char :=
  cs.dropWhile isBlank

def trimEnd (cs : List Char) : List Char :=
  (cs.reverse.dropWhile isBlank).reverse

def trim (text : String) : String :=
  String.ofList (trimEnd (trimStart text.toList))

@[simp] theorem toList_trim (text : String) :
    (trim text).toList = trimEnd (trimStart text.toList) := by
  simp [trim]

end Lexicon.Text
