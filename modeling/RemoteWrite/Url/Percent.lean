import RemoteWrite.Text.Hexadecimal
import RemoteWrite.Text.Utf8

/-!
Contract: percent escapes.

Owns:
- the bytes that each part of a URL writes as a percent sign and two digits;
- escaping a text for a part, and undoing escapes.

Does not own: which text belongs to which part.
-/

namespace RemoteWrite.Url

/-- The parts of a URL, which differ in the characters that they escape. -/
inductive Part where
  | userInfo
  | host
  | segment
  | rootlessPath
  | query
  /-- The query of a scheme with rules of its own. -/
  | knownQuery
  | fragment
deriving DecidableEq, Repr

namespace Part

/-- The printable ASCII characters that a part escapes. -/
def escapedChars : Part → List Char
  | userInfo =>
    [' ', '"', '<', '>', '\x60', '#', '?', '\x7b', '\x7d', '/', ':', ';', '=', '@', '[',
     '\\', ']', '^', '|']
  | host | rootlessPath => []
  | segment => [' ', '"', '<', '>', '\x60', '#', '?', '\x7b', '\x7d']
  | query => [' ', '"', '#', '<', '>']
  | knownQuery => [' ', '"', '#', '<', '>', '\'']
  | fragment => [' ', '"', '<', '>', '\x60']

/-- A part escapes all controls, everything beyond ASCII, and its own
characters. -/
def escapes (part : Part) (byte : UInt8) : Bool :=
  byte < 0x20 || 0x7F ≤ byte || part.escapedChars.contains (Char.ofNat byte.toNat)

end Part

def escape (byte : UInt8) : List Char :=
  ['%', Text.Hexadecimal.upperDigitChar (byte.toNat / 16),
    Text.Hexadecimal.upperDigitChar (byte.toNat % 16)]

/-- A text as it appears in a part. Percent signs stay as they are. -/
def Part.write (part : Part) (text : List Char) : String :=
  String.ofList ((Text.utf8 (String.ofList text)).flatMap fun byte =>
    if part.escapes byte then escape byte else [Char.ofNat byte.toNat])

/-- Replace the escapes in a byte string by what they stand for. A percent
sign without two digits stands for itself. -/
def unescape : Bytes → Bytes
  | 0x25 :: high :: low :: rest =>
    match Text.Hexadecimal.digit? (Char.ofNat high.toNat),
        Text.Hexadecimal.digit? (Char.ofNat low.toNat) with
    | some high, some low => UInt8.ofNat (16 * high + low) :: unescape rest
    | _, _ => 0x25 :: unescape (high :: low :: rest)
  | byte :: rest => byte :: unescape rest
  | [] => []

end RemoteWrite.Url
