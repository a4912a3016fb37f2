import RemoteWrite.Text.Hexadecimal
import RemoteWrite.Text.Numeral
import RemoteWrite.Text.Pieces

/-!
Contract: numeric addresses of hosts.

Owns:
- addresses of four bytes, whose numbers may be decimal, octal, or hexadecimal,
  and whose last number fills the bytes that are left;
- addresses of eight groups, where one run of zeros may be left out and the
  last two groups may be an address of four bytes;
- the canonical text of both.

Does not own: which host names are addresses at all.
-/

namespace RemoteWrite.Url

structure Ipv4 where
  bits : Nat
  bits_lt : bits < 2 ^ 32
deriving DecidableEq, Repr

namespace Ipv4

/-- The value of digits below a base. -/
def valueIn? (base : Nat) (text : List Char) : Option Nat :=
  text.foldlM (fun value c =>
    match Text.Hexadecimal.digit? c with
    | some digit => if digit < base then some (base * value + digit) else none
    | none => none) 0

/-- The value of one number of an address. A leading zero makes it octal, and a
leading `0x` hexadecimal. -/
def number? : List Char → Option Nat
  | [] => none
  | '0' :: 'x' :: digits => valueIn? 16 digits
  | '0' :: 'X' :: digits => valueIn? 16 digits
  | '0' :: c :: digits => valueIn? 8 (c :: digits)
  | digits => valueIn? 10 digits

/-- The pieces of a name between dots, without an empty one at the end. -/
def numbers (name : List Char) : List (List Char) :=
  match (Text.pieces '.' name).reverse with
  | [] :: others => others.reverse
  | pieces => pieces.reverse

/-- A name that ends in a number can only be an address. -/
def isExpected (name : List Char) : Bool :=
  match (numbers name).getLast? with
  | none => false
  | some last =>
    (!last.isEmpty && last.all fun c => (Text.Numeral.digit? c).isSome) ||
      (number? last).isSome

/-- An address from its numbers: all but the last are bytes. -/
def ofNumbers? (leading : List Nat) (last : Nat) : Option Ipv4 :=
  let high := leading.foldl (fun bits byte => 256 * bits + byte) 0
  let bits := high * 256 ^ (4 - leading.length) + last
  if leading.length < 4 && leading.all (· < 256) && last < 256 ^ (4 - leading.length) then
    if bits_lt : bits < 2 ^ 32 then some ⟨bits, bits_lt⟩ else none
  else none

def parse? (name : List Char) : Option Ipv4 :=
  match (numbers name).mapM number? with
  | none => none
  | some values =>
    match values.getLast? with
    | none => none
    | some last => ofNumbers? values.dropLast last

/-- The byte of an address with a number of bytes after it. -/
def byte (address : Ipv4) (after : Nat) : Nat :=
  address.bits / 256 ^ after % 256

/-- The text of an address: its bytes in decimal. -/
def render (address : Ipv4) : String :=
  ".".intercalate ([3, 2, 1, 0].map fun after => Text.Numeral.render (address.byte after))

end Ipv4

structure Ipv6 where
  groups : List Nat
deriving DecidableEq, Repr

namespace Ipv6

/-- The value of a group, which has one to four digits. -/
def group? (text : List Char) : Option Nat :=
  if text.isEmpty || 4 < text.length then none else Text.Hexadecimal.value? text

/-- The value of a byte in decimal without leading zeros. -/
def byte? (text : List Char) : Option Nat :=
  match text with
  | '0' :: _ :: _ => none
  | _ => (Text.Numeral.value? text).bind fun n => if n < 256 then some n else none

/-- The two groups of an address of four bytes in decimal. -/
def tail? (text : List Char) : Option (List Nat) :=
  match (Text.pieces '.' text).mapM byte? with
  | some [a, b, c, d] => some [256 * a + b, 256 * c + d]
  | _ => none

/-- The groups of a text between colons. Only the last piece may be an address
of four bytes, where the text is at the end of the address. -/
def groupsOfPieces? (atEnd : Bool) : List (List Char) → Option (List Nat)
  | [] => some []
  | [last] =>
    if atEnd && last.contains '.' then tail? last else (group? last).map ([·])
  | piece :: rest =>
    match group? piece, groupsOfPieces? atEnd rest with
    | some group, some groups => some (group :: groups)
    | _, _ => none

/-- The groups of a text, which may be empty. -/
def groups? (atEnd : Bool) (text : List Char) : Option (List Nat) :=
  if text.isEmpty then some [] else groupsOfPieces? atEnd (Text.pieces ':' text)

/-- What stands before and after the first two colons in a row. -/
def splitGap : List Char → Option (List Char × List Char)
  | ':' :: ':' :: rest => some ([], rest)
  | c :: rest => (splitGap rest).map fun (before, after) => (c :: before, after)
  | [] => none

def parse? (text : List Char) : Option Ipv6 :=
  match splitGap text with
  | none =>
    match groups? true text with
    | some groups => if groups.length = 8 then some ⟨groups⟩ else none
    | none => none
  | some (before, after) =>
    match groups? false before, groups? true after with
    | some high, some low =>
      if high.length + low.length < 8 then
        some ⟨high ++ List.replicate (8 - high.length - low.length) 0 ++ low⟩
      else none
    | _, _ => none

/-- The number of zeros at the start of a list. -/
def zeroRun (groups : List Nat) : Nat :=
  (groups.takeWhile (· = 0)).length

/-- The place and the length of the first of the longest runs of zeros. -/
def longestRun (groups : List Nat) : Nat × Nat :=
  (List.range groups.length).foldl (fun (best : Nat × Nat) place =>
    let run := zeroRun (groups.drop place)
    if best.2 < run then (place, run) else best) (0, 0)

def renderGroups (groups : List Nat) : String :=
  ":".intercalate (groups.map fun group => String.ofList (Text.Hexadecimal.digits group))

/-- The text of an address, where the longest run of at least two zeros is
left out. -/
def render (address : Ipv6) : String :=
  let (place, run) := longestRun address.groups
  if 2 ≤ run then
    renderGroups (address.groups.take place) ++ "::" ++
      renderGroups (address.groups.drop (place + run))
  else renderGroups address.groups

end Ipv6
end RemoteWrite.Url
