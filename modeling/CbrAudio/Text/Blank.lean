/-!
# Blank characters

The characters with the Unicode property `White_Space`, which are trimmed from both ends of a name.

* `blankRanges` — the property, as ranges of code points.
* `isBlank`, `trim` — the characters, and a text without them at its ends.
-/

namespace CbrAudio.Text

/-- The code points with the property `White_Space`, first and last of each range. -/
def blankRanges : List (Nat × Nat) :=
  [(0x09, 0x0D), (0x20, 0x20), (0x85, 0x85), (0xA0, 0xA0), (0x1680, 0x1680), (0x2000, 0x200A),
    (0x2028, 0x2029), (0x202F, 0x202F), (0x205F, 0x205F), (0x3000, 0x3000)]

def isBlank (c : Char) : Bool :=
  blankRanges.any fun range => range.1 ≤ c.toNat && c.toNat ≤ range.2

/-- The text without blanks at either end. -/
def trim (s : List Char) : List Char :=
  ((s.dropWhile isBlank).reverse.dropWhile isBlank).reverse

end CbrAudio.Text
