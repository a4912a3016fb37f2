/-!
Contract: the white space of text and trimming by it.

Owns:
- the characters with the `White_Space` property;
- trimming of a character list by any class.

Does not own: line splitting, or any notion of blank text in a particular
format.
-/

namespace RemoteWrite.Text

/-- The closed code point ranges of the `White_Space` property, ascending and
apart. -/
def whiteSpaceRanges : List (Nat × Nat) :=
  [(0x09, 0x0D), (0x20, 0x20), (0x85, 0x85), (0xA0, 0xA0), (0x1680, 0x1680),
   (0x2000, 0x200A), (0x2028, 0x2029), (0x202F, 0x202F), (0x205F, 0x205F),
   (0x3000, 0x3000)]

def isWhiteSpace (c : Char) : Bool :=
  whiteSpaceRanges.any fun range => range.1 ≤ c.toNat && c.toNat ≤ range.2

/-- Drop the longest suffix whose members are all in the class. -/
def dropEndWhile (inClass : Char → Bool) (text : List Char) : List Char :=
  (text.reverse.dropWhile inClass).reverse

/-- Drop the longest prefix and the longest suffix whose members are all in
the class. -/
def trimWhile (inClass : Char → Bool) (text : List Char) : List Char :=
  dropEndWhile inClass (text.dropWhile inClass)

def trim (text : List Char) : List Char :=
  trimWhile isWhiteSpace text

end RemoteWrite.Text
