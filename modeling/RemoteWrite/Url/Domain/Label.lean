import RemoteWrite.Text.Mark
import RemoteWrite.Url.Domain.Joiner
import RemoteWrite.Url.Domain.Mapping
import RemoteWrite.Url.Punycode

/-!
Contract: the labels of domain names.

Owns:
- labels, with the characters that they show and their text in ASCII;
- the rules for labels with characters other than ASCII.

Does not own: rules for the name as a whole.
-/

namespace RemoteWrite.Url.Domain

structure Label where
  /-- The characters that the label shows. -/
  characters : List Char
  ascii : List Char
deriving DecidableEq, Repr

namespace Label

/-- The marker of a label that shows other characters than its text has. -/
def marker : List Char := ['x', 'n', '-', '-']

/-- The greatest number of characters that a label with a character other than
ASCII may show. -/
def maxCharacters : Nat := 1000

/-- The greatest number of characters after the marker. -/
def maxDigits : Nat := 2000

/-- A label with a character other than ASCII may show the characters. The
first one is no mark, and joiners stand where they change something. -/
def mayShow (characters : List Char) : Bool :=
  !characters.head?.any Text.isMark && joinersAgree [] characters &&
    characters.length ≤ maxCharacters

/-- Read what follows the marker of a label. -/
def ofDigits? (digits : List Char) : Option Label :=
  if digits.length ≤ maxDigits ∧ digits.getLast?.any (· ≠ '-') then
    match Punycode.decode? digits with
    | none => none
    | some characters =>
      if !characters.all Punycode.isBasic && isMapped characters && mayShow characters then
        some ⟨characters, marker ++ digits⟩
      else none
  else none

/-- Read a label of a name that is its own form. -/
def read? (label : List Char) : Option Label :=
  if marker.isPrefixOf label then ofDigits? (label.drop marker.length)
  else if label.all Punycode.isBasic then some ⟨label, label⟩
  else if mayShow label then some ⟨label, marker ++ Punycode.encode label⟩
  else none

end Label
end RemoteWrite.Url.Domain
