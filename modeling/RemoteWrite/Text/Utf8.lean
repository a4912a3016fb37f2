/-!
Contract: text as UTF-8 bytes.

Owns:
- the byte string type used throughout the library;
- the UTF-8 bytes of a text and the strict reading of them;
- the lossy reading, which replaces each maximal invalid part by U+FFFD;
- visible ASCII, the only header values that read as text.

Does not own: normalization or any other encoding.
-/

namespace RemoteWrite

abbrev Bytes := List UInt8

namespace Text

def utf8 (text : String) : Bytes :=
  text.toUTF8.data.toList

/-- Read bytes that are exactly a UTF-8 text. -/
def ofUtf8? (bytes : Bytes) : Option String :=
  String.fromUTF8? ⟨bytes.toArray⟩

/-- A byte of the form `10xxxxxx`. -/
def isContinuation (byte : UInt8) : Bool :=
  0x80 ≤ byte && byte ≤ 0xBF

/-- What the first byte of a character announces: the number of continuation
bytes, the bits it contributes, and the range allowed for the second byte.
The range rules out overlong forms, surrogates, and values past U+10FFFF. -/
structure Lead where
  continuations : Nat
  bits : Nat
  secondLow : UInt8
  secondHigh : UInt8

/-- The announcement of a lead byte, if it is one of a multi-byte
character. -/
def lead? (byte : UInt8) : Option Lead :=
  if 0xC2 ≤ byte && byte ≤ 0xDF then some ⟨1, byte.toNat - 0xC0, 0x80, 0xBF⟩
  else if byte = 0xE0 then some ⟨2, 0, 0xA0, 0xBF⟩
  else if byte = 0xED then some ⟨2, 0xD, 0x80, 0x9F⟩
  else if 0xE1 ≤ byte && byte ≤ 0xEF then some ⟨2, byte.toNat - 0xE0, 0x80, 0xBF⟩
  else if byte = 0xF0 then some ⟨3, 0, 0x90, 0xBF⟩
  else if byte = 0xF4 then some ⟨3, 4, 0x80, 0x8F⟩
  else if 0xF1 ≤ byte && byte ≤ 0xF3 then some ⟨3, byte.toNat - 0xF0, 0x80, 0xBF⟩
  else none

/-- Read up to `count` continuation bytes onto the bits so far. The result is
the code point if all of them are there, and what follows the bytes read. -/
def readContinuations : Nat → Nat → Bytes → Option Nat × Bytes
  | 0, bits, rest => (some bits, rest)
  | count + 1, bits, byte :: rest =>
    if isContinuation byte then
      readContinuations count (bits * 64 + (byte.toNat - 0x80)) rest
    else (none, byte :: rest)
  | _ + 1, _, [] => (none, [])

/-- The replacement for bytes that are no character. -/
def replacement : Char := '\uFFFD'

/-- Read one character or one maximal invalid part, which is replaced, from a
byte and what follows it. -/
def readLossy (byte : UInt8) (rest : Bytes) : Char × Bytes :=
  if byte < 0x80 then (Char.ofNat byte.toNat, rest)
  else
    match lead? byte, rest with
    | none, _ => (replacement, rest)
    | some _, [] => (replacement, [])
    | some lead, second :: tail =>
      if lead.secondLow ≤ second && second ≤ lead.secondHigh then
        match readContinuations (lead.continuations - 1)
            (lead.bits * 64 + (second.toNat - 0x80)) tail with
        | (some point, tail) => (Char.ofNat point, tail)
        | (none, tail) => (replacement, tail)
      else (replacement, second :: tail)

theorem readContinuations_length (count bits : Nat) (rest : Bytes) :
    (readContinuations count bits rest).2.length ≤ rest.length := by
  induction count generalizing bits rest with
  | zero => simp [readContinuations]
  | succ count inductionHypothesis =>
      cases rest with
      | nil => simp [readContinuations]
      | cons byte rest =>
          simp only [readContinuations]
          split
          · have bound := inductionHypothesis (bits * 64 + (byte.toNat - 0x80)) rest
            simp only [List.length_cons]
            omega
          · simp

theorem readLossy_length (byte : UInt8) (rest : Bytes) :
    (readLossy byte rest).2.length ≤ rest.length := by
  unfold readLossy
  split
  · simp
  · split
    · simp
    · simp
    · rename_i lead second tail _
      split
      · have bound := readContinuations_length (lead.continuations - 1)
          (lead.bits * 64 + (second.toNat - 0x80)) tail
        split <;> rename_i equation <;> rw [equation] at bound <;>
          simp only [List.length_cons] at bound ⊢ <;> omega
      · simp

/-- The characters of a byte string, with each maximal invalid part replaced
by U+FFFD. -/
def lossyChars : Bytes → List Char
  | [] => []
  | byte :: rest => (readLossy byte rest).1 :: lossyChars (readLossy byte rest).2
termination_by bytes => bytes.length
decreasing_by
  have bound := readLossy_length byte rest
  simp only [List.length_cons]
  omega

/-- The text of a byte string, with each maximal invalid part replaced by
U+FFFD. -/
def lossy (bytes : Bytes) : String :=
  String.ofList (lossyChars bytes)

/-- A tab or a byte from space to tilde. -/
def isVisibleAscii (byte : UInt8) : Bool :=
  byte = 0x09 || (0x20 ≤ byte && byte ≤ 0x7E)

/-- The text of a byte string that holds visible ASCII, spaces, and tabs
only. -/
def visible? (bytes : Bytes) : Option String :=
  if bytes.all isVisibleAscii then
    some (String.ofList (bytes.map fun byte => Char.ofNat byte.toNat))
  else none

end Text
end RemoteWrite
