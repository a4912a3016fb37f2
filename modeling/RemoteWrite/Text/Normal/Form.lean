import RemoteWrite.Text.Normal.CombiningClass
import RemoteWrite.Text.Normal.Decomposition

/-!
Contract: the composed normal form of text.

Texts that read the same have one normal form: characters are taken apart,
marks are put into the order of their classes, and parts are composed again.

Owns: the order of marks, their composition, and the normal form.

Does not own: the tables.
-/

namespace RemoteWrite.Text.Normal

/-- Put a code point in front of ordered ones. A mark moves behind those of
smaller classes, as far as the next code point that is no mark. -/
def insert (point : Nat) : List Nat → List Nat
  | [] => [point]
  | next :: rest =>
    if 0 < combiningClass next ∧ combiningClass next < combiningClass point then
      next :: insert point rest
    else point :: next :: rest

/-- Put every run of marks into the order of their classes. Marks of one class
keep their order. -/
def ordered (points : List Nat) : List Nat :=
  points.foldr insert []

/-- Compose a code point with those after it that can reach it. The marks that
stay behind are in reverse, and a mark does not pass another of its class. -/
def composeFrom (starter : Nat) (marks : List Nat) : List Nat → List Nat
  | [] => starter :: marks.reverse
  | point :: rest =>
    let reaches := marks.head?.all (combiningClass · < combiningClass point)
    match if reaches then compose? starter point else none with
    | some composite => composeFrom composite marks rest
    | none =>
      if combiningClass point = 0 then
        starter :: (marks.reverse ++ composeFrom point [] rest)
      else composeFrom starter (point :: marks) rest

/-- Compose an ordered text. Marks in front of everything else stay. -/
def composed : List Nat → List Nat
  | [] => []
  | point :: rest =>
    if combiningClass point = 0 then composeFrom point [] rest else point :: composed rest

def form (text : List Char) : List Char :=
  (composed (ordered (text.flatMap fun c => decompose c.toNat))).map Char.ofNat

def isNormal (text : List Char) : Bool :=
  form text = text

end RemoteWrite.Text.Normal
