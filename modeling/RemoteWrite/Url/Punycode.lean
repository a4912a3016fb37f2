import RemoteWrite.Natural

/-!
Contract: labels of domain names in ASCII.

A label with other characters is written as its ASCII characters and a run of
digits. The digits tell, in ascending order of the other characters, how far
to move through all pairs of a character and a place before inserting one.

Owns: writing a label in this form, and reading it back.

Does not own: the marker that introduces such a label, or which characters a
label may have.
-/

namespace RemoteWrite.Url.Punycode

def digitChar (digit : Nat) : Char :=
  if digit < 26 then Char.ofNat (97 + digit) else Char.ofNat (22 + digit)

def digit? (c : Char) : Option Nat :=
  if 'a' ≤ c ∧ c ≤ 'z' then some (c.toNat - 97)
  else if 'A' ≤ c ∧ c ≤ 'Z' then some (c.toNat - 65)
  else if '0' ≤ c ∧ c ≤ '9' then some (c.toNat - 22)
  else none

/-- A digit below this bound is the last one of its number. The bound depends
on the place of the digit, which is a multiple of 36, and on the bias. -/
def threshold (bias place : Nat) : Nat :=
  min 26 (max 1 (place - bias))

theorem threshold_pos (bias place : Nat) : 1 ≤ threshold bias place := by
  unfold threshold
  omega

theorem threshold_le (bias place : Nat) : threshold bias place ≤ 26 := by
  unfold threshold
  omega

/-- Scale a distance down until it is small. The result is the distance and
36 for each step. -/
def scale (distance steps : Nat) : Nat × Nat :=
  if 455 < distance then scale (distance / 35) (36 + steps) else (distance, steps)
termination_by distance

/-- The bias after a distance, given the length of the label so far. -/
def adapt (distance length : Nat) (first : Bool) : Nat :=
  let halved := if first then distance / 700 else distance / 2
  let (rest, steps) := scale (halved + halved / length) 0
  steps + 36 * rest / (rest + 38)

/-- The digits of a distance, from a place on. -/
def distanceDigits (bias place distance : Nat) : List Char :=
  let bound := threshold bias place
  if distance < bound then [digitChar distance]
  else
    digitChar (bound + (distance - bound) % (36 - bound)) ::
      distanceDigits bias (36 + place) ((distance - bound) / (36 - bound))
termination_by distance
decreasing_by
  have positive := threshold_pos bias place
  have bounded := threshold_le bias place
  have shrinks := Nat.div_le_self (distance - threshold bias place)
    (36 - threshold bias place)
  omega

/-- The characters that are written so far are all below `next`. -/
structure Progress where
  digits : List Char
  next : Nat
  distance : Nat
  bias : Nat
  written : Nat

/-- Pass one character of the label: smaller ones are places to move over, and
an equal one is inserted here. -/
def pass (basic point : Nat) (progress : Progress) (c : Char) : Progress :=
  if c.toNat < point then { progress with distance := progress.distance + 1 }
  else if c.toNat = point then
    { progress with
      digits := progress.digits ++ distanceDigits progress.bias 36 progress.distance
      distance := 0
      bias := adapt progress.distance (progress.written + 1) (progress.written = basic)
      written := progress.written + 1 }
  else progress

def insertPoint (label : List Char) (basic : Nat) (progress : Progress) (point : Nat) :
    Progress :=
  let moved :=
    { progress with
      distance := progress.distance + (point - progress.next) * (progress.written + 1) }
  let passed := label.foldl (pass basic point) moved
  { passed with next := point + 1, distance := passed.distance + 1 }

def isBasic (c : Char) : Bool := c.toNat < 0x80

def encode (label : List Char) : List Char :=
  let basic := label.filter isBasic
  let points := ((label.filter (!isBasic ·)).map Char.toNat).mergeSort.eraseDups
  let progress := points.foldl (insertPoint label basic.length)
    ⟨[], 0x80, 0, 72, basic.length⟩
  (if basic.isEmpty then [] else basic ++ ['-']) ++ progress.digits

/-- Places and weights that are read stay below this number. -/
def limit : Nat := 2 ^ 32

/-- Read the digits of the distance from a place. The result is the place that
is reached and what follows the digits. -/
def readDistance (bias : Nat) : Nat → Nat → Nat → List Char → Option (Nat × List Char)
  | _, _, _, [] => none
  | place, weight, position, c :: rest =>
    match digit? c with
    | none => none
    | some digit =>
      let position := position + digit * weight
      let bound := threshold bias place
      if limit ≤ position then none
      else if digit < bound then some (position, rest)
      else if limit ≤ weight * (36 - bound) then none
      else readDistance bias (36 + place) (weight * (36 - bound)) position rest

theorem readDistance_length {bias place weight position result : Nat} {text rest : List Char}
    (read : readDistance bias place weight position text = some (result, rest)) :
    rest.length < text.length := by
  induction text generalizing place weight position with
  | nil => simp [readDistance] at read
  | cons c text inductionHypothesis =>
      simp only [readDistance] at read
      split at read
      · contradiction
      · split at read
        · contradiction
        · split at read
          · simp only [Option.some.injEq, Prod.mk.injEq] at read
            simp [read.2]
          · split at read
            · contradiction
            · have shorter := inductionHypothesis read
              simp only [List.length_cons]
              omega

/-- Insert the characters that a run of digits stands for. -/
def insertAll (point index bias : Nat) (first : Bool) (label digits : List Char) :
    Option (List Char) :=
  if digits.isEmpty then some label
  else
    match _ : readDistance bias 36 1 index digits with
    | none => none
    | some (position, rest) =>
      let count := label.length + 1
      let point := point + position / count
      if 0x10FFFF < point || (0xD800 ≤ point && point ≤ 0xDFFF) then none
      else
        let next := position % count
        insertAll point (next + 1) (adapt (position - index) count first) false
          (label.take next ++ Char.ofNat point :: label.drop next) rest
termination_by digits.length
decreasing_by exact readDistance_length ‹_›

/-- The characters before the last hyphen, and those after it. All belong to
the digits if there is nothing before it. -/
def splitBasic (label : List Char) : List Char × List Char :=
  let digits := (label.reverse.takeWhile (· ≠ '-')).reverse
  let basic := label.take (label.length - digits.length - 1)
  if basic.isEmpty then ([], label) else (basic, digits)

def decode? (label : List Char) : Option (List Char) :=
  let (basic, digits) := splitBasic label
  if basic.all isBasic then insertAll 0x80 0 72 true basic digits else none

end RemoteWrite.Url.Punycode
