import RemoteWrite.Decimal.Scaled
import RemoteWrite.Decimal.Shortest
import RemoteWrite.Document
import RemoteWrite.Text.Hexadecimal
import RemoteWrite.Text.Numeral

/-!
Contract: documents as JSON text.

Owns:
- reading JSON text, where integers of 64 bits stay integers and other numbers
  become floating-point numbers;
- writing documents without white space.

Does not own: what documents mean.
-/

namespace RemoteWrite.Json

/-! ## Writing -/

/-- How a character appears in a JSON text. -/
def escapeInto (out : String) (c : Char) : String :=
  if c = '"' then out ++ "\\\""
  else if c = '\\' then out ++ "\\\\"
  else if c.toNat < 32 then
    ((out ++ "\\u00").push (Text.Hexadecimal.digitChar (c.toNat / 16))).push
      (Text.Hexadecimal.digitChar (c.toNat % 16))
  else out.push c

def textInto (out : String) (text : String) : String :=
  (text.toList.foldl escapeInto (out.push '"')).push '"'

def numberInto (out : String) : Number → String
  | .natural n => out ++ Text.Numeral.render n.toNat
  | .negative n => out.push '-' ++ Text.Numeral.render n.toInt.natAbs
  | .float x => out ++ Decimal.render x

mutual

/-- Append a document. -/
def renderInto (out : String) : Document → String
  | .null => out ++ "null"
  | .boolean true => out ++ "true"
  | .boolean false => out ++ "false"
  | .number n => numberInto out n
  | .text text => textInto out text
  | .list items => (itemsInto (out.push '[') true items).push ']'
  | .map entries => (entriesInto (out.push '\x7b') true entries).push '\x7d'

def itemsInto (out : String) (first : Bool) : List Document → String
  | [] => out
  | item :: rest =>
    itemsInto (renderInto (if first then out else out.push ',') item) false rest

def entriesInto (out : String) (first : Bool) : List (String × Document) → String
  | [] => out
  | (key, item) :: rest =>
    let out := textInto (if first then out else out.push ',') key
    entriesInto (renderInto (out.push ':') item) false rest

end

def render (document : Document) : String := renderInto "" document

/-! ## Reading -/

def isBlank (c : Char) : Bool := c = ' ' || c = '\t' || c = '\n' || c = '\r'

def skipBlanks (text : List Char) : List Char := text.dropWhile isBlank

/-- The value of four hexadecimal digits. -/
def unit? (text : List Char) : Option Nat :=
  if text.length = 4 then Text.Hexadecimal.value? text else none

def escaped (c : Char) : Char :=
  if c = 'n' then '\n' else if c = 't' then '\t' else if c = 'r' then '\r'
  else if c = 'b' then '\x08' else if c = 'f' then '\x0c' else c

/-- Read the rest of a text after the opening quote onto what is read
already. -/
def readText (out : String) : List Char → Option (String × List Char)
  | [] => none
  | '"' :: rest => some (out, rest)
  | '\\' :: 'u' :: a :: b :: c :: d :: rest =>
    match unit? [a, b, c, d] with
    | none => none
    | some high =>
      if 0xD800 ≤ high ∧ high < 0xDC00 then
        match rest with
        | '\\' :: 'u' :: a :: b :: c :: d :: rest =>
          match unit? [a, b, c, d] with
          | none => none
          | some low =>
            readText (out.push (Char.ofNat (0x10000 + (high - 0xD800) * 1024 + (low - 0xDC00))))
              rest
        | _ => none
      else readText (out.push (Char.ofNat high)) rest
  | '\\' :: c :: rest => readText (out.push (escaped c)) rest
  | c :: rest => readText (out.push c) rest

def isNumberChar (c : Char) : Bool :=
  c.isDigit || c = '-' || c = '+' || c = '.' || c = 'e' || c = 'E'

/-- The value of an exponent with an optional sign. -/
def exponent? : List Char → Option Int
  | '-' :: digits => (Text.Numeral.value? digits).map fun n => -(n : Int)
  | '+' :: digits => (Text.Numeral.value? digits).map fun n => (n : Int)
  | digits => (Text.Numeral.value? digits).map fun n => (n : Int)

/-- Significands stay below this number. -/
def significandLimit : Nat := 2 ^ 64

/-- Extend a significand by digits as long as it stays below the limit. The
result has the digits that are left. -/
def extend : Nat → List Char → Nat × List Char
  | significand, [] => (significand, [])
  | significand, c :: rest =>
    let longer := 10 * significand + (Text.Numeral.digit? c).getD 0
    if longer < significandLimit then extend longer rest else (significand, c :: rest)

/-- A significand and the power of ten that it counts. -/
structure Scaled where
  significand : Nat
  exponent : Int

/-- The digits before and after the point. Those that do not fit into the
significand only count as places before the point, and are nothing after it. -/
def Scaled.ofDigits (whole fraction : List Char) : Scaled :=
  let (significand, wholeRest) := extend 0 whole
  let (significand, fractionRest) := extend significand fraction
  ⟨significand, wholeRest.length - (fraction.length - fractionRest.length : Nat)⟩

/-- The floating-point number of a scaled significand with a sign. -/
def float? (negative : Bool) (scaled : Scaled) : Option Number :=
  (Decimal.ofScaled? scaled.significand scaled.exponent).map fun x =>
    .float (if negative then Decimal.negate x else x)

/-- An integer without fraction and exponent. One that has no 64-bit form, or
is zero with a sign, is a floating-point number. -/
def integer? (negative : Bool) (digits : List Char) : Option Number :=
  let scaled := Scaled.ofDigits digits []
  let n := scaled.significand
  if scaled.exponent ≠ 0 then float? negative scaled
  else if !negative then some (.natural (UInt64.ofNat n))
  else if 0 < n ∧ n ≤ 2 ^ 63 then some (.negative (Int64.ofInt (-(n : Int))))
  else float? true scaled

/-- The number of a literal without its sign. -/
def unsignedNumber? (negative : Bool) (text : List Char) : Option Number :=
  let whole := text.takeWhile Char.isDigit
  let rest := text.dropWhile Char.isDigit
  let fraction := (rest.drop 1).takeWhile Char.isDigit
  let withExponent (fraction rest : List Char) : Option Number :=
    let scaled := Scaled.ofDigits whole fraction
    match rest with
    | [] => float? negative scaled
    | _ :: digits =>
      (exponent? digits).bind fun exponent =>
        float? negative { scaled with exponent := scaled.exponent + exponent }
  match whole, rest with
  | [], _ => none
  | _, [] => integer? negative whole
  | _, '.' :: rest => withExponent fraction (rest.dropWhile Char.isDigit)
  | _, rest => withExponent [] rest

def number? : List Char → Option Number
  | '-' :: text => unsignedNumber? true text
  | text => unsignedNumber? false text

mutual

/-- Read a value. Every value, item, and entry takes a unit of fuel. -/
def readValue : (fuel : Nat) → List Char → Option (Document × List Char)
  | 0, _ => none
  | fuel + 1, text =>
    match skipBlanks text with
    | 'n' :: 'u' :: 'l' :: 'l' :: rest => some (.null, rest)
    | 't' :: 'r' :: 'u' :: 'e' :: rest => some (.boolean true, rest)
    | 'f' :: 'a' :: 'l' :: 's' :: 'e' :: rest => some (.boolean false, rest)
    | '"' :: rest => (readText "" rest).map fun (text, rest) => (.text text, rest)
    | '[' :: rest =>
      match skipBlanks rest with
      | ']' :: rest => some (.list [], rest)
      | rest => (readItems fuel rest).map fun (items, rest) => (.list items, rest)
    | '\x7b' :: rest =>
      match skipBlanks rest with
      | '\x7d' :: rest => some (.map [], rest)
      | rest => (readEntries fuel rest).map fun (entries, rest) => (.ofEntries entries, rest)
    | text =>
      (number? (text.takeWhile isNumberChar)).map fun n =>
        (.number n, text.dropWhile isNumberChar)

/-- Read the items of a list up to its end. -/
def readItems : (fuel : Nat) → List Char → Option (List Document × List Char)
  | 0, _ => none
  | fuel + 1, text =>
    match readValue fuel text with
    | none => none
    | some (item, rest) =>
      match skipBlanks rest with
      | ',' :: rest => (readItems fuel rest).map fun (items, rest) => (item :: items, rest)
      | ']' :: rest => some ([item], rest)
      | _ => none

/-- Read the entries of a map up to its end. -/
def readEntries : (fuel : Nat) → List Char → Option (List (String × Document) × List Char)
  | 0, _ => none
  | fuel + 1, text =>
    match skipBlanks text with
    | '"' :: rest =>
      match readText "" rest with
      | none => none
      | some (key, rest) =>
        match skipBlanks rest with
        | ':' :: rest =>
          match readValue fuel rest with
          | none => none
          | some (item, rest) =>
            match skipBlanks rest with
            | ',' :: rest =>
              (readEntries fuel rest).map fun (entries, rest) => ((key, item) :: entries, rest)
            | '\x7d' :: rest => some ([(key, item)], rest)
            | _ => none
        | _ => none
    | _ => none

end

/-- Read a document. Every step consumes a character or enters a value, which
takes at most two steps for each character. -/
def parse? (text : String) : Option Document :=
  let chars := text.toList
  match readValue (2 * chars.length + 1) chars with
  | some (document, rest) => if (skipBlanks rest).isEmpty then some document else none
  | none => none

end RemoteWrite.Json
