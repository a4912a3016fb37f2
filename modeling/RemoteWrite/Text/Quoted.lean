import RemoteWrite.Text.Hexadecimal
import RemoteWrite.Text.Printable

/-!
Contract: text between double quotes, with escapes for what would not show.

Owns:
- the escape of one character;
- the quoted form of a text.

Does not own: the classes of characters, which are in `Text.Printable`.
-/

namespace RemoteWrite.Text

/-- How a character appears inside quotes: the quote, the backslash, and four
controls have an escape of one letter, every other character that does not
stand for itself is written by its code point. -/
def escape (c : Char) : List Char :=
  if c = '"' then ['\\', '"']
  else if c = '\\' then ['\\', '\\']
  else if c = '\t' then ['\\', 't']
  else if c = '\n' then ['\\', 'n']
  else if c = '\r' then ['\\', 'r']
  else if c = '\x00' then ['\\', '0']
  else if isPrintable c then [c]
  else ['\\', 'u', '\x7b'] ++ Hexadecimal.digits c.toNat ++ ['\x7d']

def quoted (text : String) : String :=
  String.ofList ('"' :: text.toList.flatMap escape ++ ['"'])

end RemoteWrite.Text
