import RemoteWrite.Text.Pieces
import RemoteWrite.Text.Utf8
import RemoteWrite.Url.Domain.Direction
import RemoteWrite.Url.Domain.Label
import RemoteWrite.Url.Percent

/-!
Contract: domain names in ASCII.

Owns:
- the ASCII characters that no domain name has;
- the ASCII form of a domain name.

Does not own: addresses.
-/

namespace RemoteWrite.Url.Domain

/-- Visible ASCII characters that no domain name has. -/
def forbiddenChars : List Char :=
  ['%', '#', '/', ':', '<', '>', '?', '@', '[', '\\', ']', '^', '|']

/-- No domain name has the character: it is a space, a control, or forbidden. -/
def isForbidden (c : Char) : Bool :=
  c.toNat ≤ 0x20 || c.toNat = 0x7F || forbiddenChars.contains c

/-- The ASCII form of a domain name, whose escapes are undone first. -/
def ascii? (text : List Char) : Option (List Char) := do
  let text ← Text.ofUtf8? (unescape (Text.utf8 (String.ofList text)))
  let name ← mapped? text.toList
  if name.any isForbidden then none
  else
    let labels ← (Text.pieces '.' name).mapM Label.read?
    if directionsAgree (labels.map Label.characters) then
      some (['.'].intercalate (labels.map Label.ascii))
    else none

end RemoteWrite.Url.Domain
