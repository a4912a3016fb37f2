import RemoteWrite.Text.WhiteSpace
import RemoteWrite.Url.Basic

/-!
Contract: reading URLs, alone and relative to another one.

Owns:
- the cleaning of the text, and the cuts that divide it;
- authorities, with the last `@` as the end of the user's name;
- paths, where dots move within the path of the base;
- resolving a reference against a base.

Does not own: hosts and escapes.
-/

namespace RemoteWrite.Url

/-! ## The text -/

/-- Drop what surrounds a URL, and all tabs and line ends. -/
def clean (text : List Char) : List Char :=
  (Text.trimWhile (fun c => c.toNat ≤ 0x20) text).filter fun c =>
    c ≠ '\t' && c ≠ '\n' && c ≠ '\r'

def isSchemeChar (c : Char) : Bool :=
  c.isAlphanum || c = '+' || c = '-' || c = '.'

/-- The scheme of a text and what follows its colon. A scheme starts with a
letter. -/
def splitScheme? (text : List Char) : Option (String × List Char) :=
  let scheme := text.takeWhile isSchemeChar
  match scheme, text.drop scheme.length with
  | first :: _, ':' :: rest =>
    if first.isAlpha then some (String.ofList (scheme.map Char.toLower), rest) else none
  | _, _ => none

/-- The part of a text before the first occurrence of a character, and the one
after it. -/
def cutAt (c : Char) (text : List Char) : List Char × Option (List Char) :=
  let before := text.takeWhile (· ≠ c)
  match text.drop before.length with
  | [] => (before, none)
  | _ :: after => (before, some after)

/-- A text divided into its path, its query, and its fragment. -/
structure Reference where
  path : List Char
  query : Option (List Char)
  fragment : Option (List Char)

def Reference.ofText (text : List Char) : Reference :=
  let (rest, fragment) := cutAt '#' text
  let (path, query) := cutAt '?' rest
  ⟨path, query, fragment⟩

/-- A backslash is as good as a slash in schemes with rules of their own. -/
def isSlash (known : Bool) (c : Char) : Bool :=
  c = '/' || (known && c = '\\')

def endsAuthority (known : Bool) (c : Char) : Bool :=
  isSlash known c || c = '?' || c = '#'

/-! ## Paths -/

def isSingleDot (segment : String) : Bool :=
  segment.toLower = "." || segment.toLower = "%2e"

def isDoubleDot (segment : String) : Bool :=
  ["..", ".%2e", "%2e.", "%2e%2e"].contains segment.toLower

/-- The name of a drive: a letter and a colon or a bar. -/
def isDrive : List Char → Bool
  | [letter, mark] => letter.isAlpha && (mark = ':' || mark = '|')
  | _ => false

/-- The name of a drive with a colon. -/
def isPlainDrive (segment : String) : Bool :=
  isDrive segment.toList && !segment.contains '|'

/-- A segment that dots do not remove: the name of a drive, which a backslash
may follow. -/
def isLasting (segment : String) : Bool :=
  isDrive (segment.toList.take 2) && (segment.toList.drop 2).head?.all (· = '\\')

/-- Remove the last segment of a path, unless it is the name of a drive. -/
def ascend (segments : List String) : List String :=
  if segments.getLast?.any isLasting then segments else segments.dropLast

/-- Add a segment to a path. A drive at the start of the path of a file is
written with a colon. -/
def pushSegment (isFile : Bool) (segments : List String) (segment : String) : List String :=
  if isFile && segments.isEmpty && isDrive segment.toList then
    [String.ofList (segment.toList.take 1) ++ ":"]
  else segments ++ [segment]

/-- Move through a path. Dots at the end leave an empty segment. -/
def walk (isFile : Bool) (segments : List String) : List (List Char) → List String
  | [] => segments
  | piece :: rest =>
    let segment := Part.segment.write piece
    if isDoubleDot segment then
      let shorter := ascend segments
      walk isFile (if rest.isEmpty then shorter ++ [""] else shorter) rest
    else if isSingleDot segment then
      walk isFile (if rest.isEmpty then segments ++ [""] else segments) rest
    else walk isFile (pushSegment isFile segments segment) rest

/-- The path of a file has no empty segments at its start. -/
def dropEmptyStart (segments : List String) : List String :=
  match segments.dropWhile String.isEmpty with
  | [] => [""]
  | rest => rest

def pathPieces (known : Option KnownScheme) (text : List Char) : List (List Char) :=
  Text.pieces '/' (text.map fun c => if isSlash known.isSome c then '/' else c)

/-- Follow a path from the given segments on. The text has no slash at its
start that separates it from them. -/
def follow (known : Option KnownScheme) (segments : List String) (text : List Char) :
    List String :=
  let isFile := known = some .file
  let walked := walk isFile segments (pathPieces known text)
  if isFile then dropEmptyStart walked else walked

/-- The path after an authority. It may be missing altogether unless the
scheme has rules of its own. -/
def rooted (known : Option KnownScheme) (text : List Char) : List String :=
  match text with
  | [] => if known.isSome then [""] else []
  | c :: rest => if isSlash known.isSome c then follow known [] rest else follow known [] text

/-! ## Parts -/

def queryPart (known : Option KnownScheme) : Part :=
  if known.isSome then .knownQuery else .query

/-- A URL with the query and the fragment of a reference. -/
def withSuffix (url : Url) (reference : Reference) : Url :=
  { url with
    query := reference.query.map (queryPart (known? url.scheme)).write
    fragment := reference.fragment.map Part.fragment.write }

/-- The name and the password in front of the last `@` of an authority, what
follows them, and whether there are any. -/
def splitUserInfo (known : Bool) (text : List Char) : Option (List Char) × List Char :=
  let region := text.takeWhile fun c => !endsAuthority known c
  let host := (region.reverse.takeWhile (· ≠ '@')).reverse
  if region.contains '@' then
    (some (region.take (region.length - host.length - 1)), host ++ text.drop region.length)
  else (none, text)

/-- The host at the start of a text, and what follows it. A colon ends it
unless it is in brackets. -/
def splitHost (known inBrackets : Bool) : List Char → List Char × List Char
  | [] => ([], [])
  | c :: rest =>
    if endsAuthority known c || (c = ':' && !inBrackets) then ([], c :: rest)
    else
      let inBrackets := if c = '[' then true else if c = ']' then false else inBrackets
      let (host, rest) := splitHost known inBrackets rest
      (c :: host, rest)

/-- Read the port after a host, and return what follows it. The default port
and an empty one are the same as none. -/
def readPort (known : Option KnownScheme) (text : List Char) :
    Except Error (Option Nat × List Char) :=
  match text with
  | ':' :: rest =>
    let digits := rest.takeWhile fun c => (Text.Numeral.digit? c).isSome
    let after := rest.drop digits.length
    let terminated :=
      match after with
      | [] => true
      | c :: _ => endsAuthority true c
    let port := Text.Numeral.value? digits
    if !terminated || 65535 < port.getD 0 then .error .invalidPort
    else .ok (if port = known.bind KnownScheme.defaultPort? then none else port, after)
  | _ => .ok (none, text)

/-- Read the host of an authority, given its scheme. -/
def readHost (known : Option KnownScheme) (text : List Char) : Except Error Host :=
  if known.isSome then
    if text.isEmpty then .error .emptyHost else Host.ofDomain text
  else Host.ofOther text

/-- An empty host has neither a user nor a port, and a lone `@` needs a
host. -/
def checkEmptyHost (userInfo : Option (List Char)) (host rest : List Char) :
    Except Error Unit :=
  let hasUser := userInfo.any fun user => user.any (· ≠ ':') || 1 < user.length
  let port := rest.head? = some ':'
  let loneSign := userInfo = some [] && !rest.isEmpty
  if host.isEmpty && (hasUser || port || loneSign) then .error .emptyHost else .ok ()

/-- Read an authority, and return what follows it. -/
def readAuthority (known : Option KnownScheme) (text : List Char) :
    Except Error (Authority × List Char) := do
  let (userInfo, text) := splitUserInfo known.isSome text
  let (hostText, rest) := splitHost known.isSome false text
  let host ← readHost known hostText
  checkEmptyHost userInfo hostText rest
  let (port, rest) ← readPort known rest
  let (username, password) := cutAt ':' (userInfo.getD [])
  let username := Part.userInfo.write username
  let password := Part.userInfo.write (password.getD [])
  pure (⟨username, password, host, port⟩, rest)

/-- Read what follows the slashes in front of an authority. -/
def afterSlashes (scheme : String) (text : List Char) : Except Error Url := do
  let known := known? scheme
  let (authority, rest) ← readAuthority known text
  let reference := Reference.ofText rest
  pure (withSuffix ⟨scheme, some authority, .segments (rooted known reference.path), none, none⟩
    reference)

/-! ## Relative references -/

/-- The segments of a URL that others can be resolved against. -/
def segments (url : Url) : List String :=
  match url.path with
  | .rootless _ => []
  | .segments segments => segments

/-- Replace the fragment, and what stands before it as far as the reference
has any of it. -/
def replaceSuffix (base : Url) (reference : Reference) : Url :=
  match reference.query with
  | some _ => withSuffix base reference
  | none => { base with fragment := reference.fragment.map Part.fragment.write }

def resolveIn (base : Url) (text : List Char) : Except Error Url :=
  let known := known? base.scheme
  let reference := Reference.ofText text
  match text.takeWhile (isSlash true) with
  | [] =>
    if reference.path.isEmpty then .ok (replaceSuffix base reference)
    else
      let path := follow known base.segments.dropLast reference.path
      .ok (withSuffix { base with path := .segments path } reference)
  | [_] =>
    let path := follow known [] (reference.path.drop 1)
    .ok (withSuffix { base with path := .segments path } reference)
  | '/' :: '/' :: _ => afterSlashes base.scheme (text.drop 2)
  | slashes => afterSlashes base.scheme (text.drop slashes.length)

/-! ## Files -/

def startsWithDrive (text : List Char) : Bool :=
  isDrive (text.take 2) && (text.drop 2).head?.all (endsAuthority true)

/-- A file, given its host and its path. -/
def ofFile (host : Host) (segments : List String) (reference : Reference) : Url :=
  withSuffix ⟨"file", some ⟨"", "", host, none⟩, .segments segments, none, none⟩ reference

def readFileHost (text : List Char) : Except Error Host :=
  if text.isEmpty then .ok .empty
  else (Host.ofDomain text).map fun host =>
    if host = .domain "localhost" then .empty else host

/-- The path after the host of a file, and whether it starts on a drive. -/
def afterFileHost (text : List Char) : List String × Bool :=
  let walked := walk true [] (pathPieces (some .file) (text.drop 1))
  (dropEmptyStart walked, walked.head?.any isPlainDrive)

/-- Read what follows the two slashes in front of the host of a file. A drive
there is no host, and a file on a drive has none. The slash after a missing host
is an empty segment. -/
def fileAfterSlashes (text : List Char) : Except Error Url :=
  let hostText := text.takeWhile fun c => !endsAuthority true c
  if isDrive hostText then
    let reference := Reference.ofText text
    .ok (ofFile .empty (follow (some .file) [] reference.path) reference)
  else
    (readFileHost hostText).map fun host =>
      let reference := Reference.ofText (text.drop hostText.length)
      if host = .empty then ofFile host (follow (some .file) [] reference.path) reference
      else
        let (segments, onDrive) := afterFileHost reference.path
        ofFile (if onDrive then .empty else host) segments reference

def host (url : Url) : Host :=
  match url.authority with
  | none => .empty
  | some authority => authority.host

/-- Where the path of a file starts that is given from the root on: on the
drive of the base, or on its host. -/
def fileRoot (base : Option Url) (text : List Char) : Host × List String :=
  if startsWithDrive text then (.empty, [])
  else
    match base with
    | none => (.empty, [])
    | some base =>
      match base.segments with
      | first :: _ => if isPlainDrive first then (.empty, [first]) else (base.host, [])
      | [] => (base.host, [])

/-- Walk on from a drive whose name has no slash after it. The first piece
goes on with the name. -/
def walkFromDrive (before : List String) (drive : String) : List (List Char) → List String
  | [] => before ++ [drive]
  | piece :: rest =>
    let segment := Part.segment.write piece
    if isDoubleDot segment then walk true (before ++ [drive]) rest
    else if isSingleDot segment then
      walk true (before ++ if rest.isEmpty then [drive, ""] else [drive]) rest
    else walk true (before ++ [drive ++ segment]) rest

/-- Follow a path from the folder of a file on. A drive is its own folder. -/
def followFromFile (segments : List String) (text : List Char) : List String :=
  match segments.reverse with
  | drive :: before =>
    if isPlainDrive drive && !before.isEmpty then
      walkFromDrive before.reverse drive (pathPieces (some .file) text)
    else
      follow (some .file) (if isPlainDrive drive then segments else before.reverse) text
  | [] => follow (some .file) [] text

def readFile (base : Option Url) (text : List Char) : Except Error Url :=
  let reference := Reference.ofText text
  match text.takeWhile (isSlash true) with
  | _ :: _ :: _ => fileAfterSlashes (text.drop 2)
  | [_] =>
    let path := reference.path.drop 1
    let (host, segments) := fileRoot base path
    .ok (ofFile host (follow (some .file) segments path) reference)
  | [] =>
    match base with
    | none => .ok (ofFile .empty (follow (some .file) [] reference.path) reference)
    | some base =>
      if reference.path.isEmpty then .ok (replaceSuffix base reference)
      else if startsWithDrive text then
        .ok (ofFile .empty (follow (some .file) [] reference.path) reference)
      else
        let path := followFromFile base.segments reference.path
        .ok (withSuffix { base with path := .segments path } reference)

/-! ## The whole -/

/-- Read what follows a scheme without rules of its own. -/
def readOther (scheme : String) (text : List Char) : Except Error Url :=
  match text with
  | '/' :: '/' :: rest => afterSlashes scheme rest
  | '/' :: rest =>
    let reference := Reference.ofText rest
    .ok (withSuffix ⟨scheme, none, .segments (follow none [] reference.path), none, none⟩
      reference)
  | _ =>
    let reference := Reference.ofText text
    .ok (withSuffix ⟨scheme, none, .rootless (Part.rootlessPath.write reference.path), none,
      none⟩ reference)

/-- Read what follows a scheme with rules of its own. With fewer than two
slashes it is relative to a base of the same scheme. -/
def readKnown (base : Option Url) (scheme : String) (text : List Char) : Except Error Url :=
  let slashes := text.takeWhile (isSlash true)
  match base with
  | some base =>
    if slashes.length < 2 && base.scheme = scheme then resolveIn base text
    else afterSlashes scheme (text.drop slashes.length)
  | none => afterSlashes scheme (text.drop slashes.length)

def readAfterScheme (base : Option Url) (scheme : String) (text : List Char) :
    Except Error Url :=
  match known? scheme with
  | none => readOther scheme text
  | some .file => readFile (base.filter fun base => base.scheme = scheme) text
  | some _ => readKnown base scheme text

/-- Resolve a text without a scheme. Only its fragment can be replaced in a URL
with a rootless path. -/
def resolveRelative (base : Url) (text : List Char) : Except Error Url :=
  match base.path, text with
  | _, '#' :: _ => .ok (replaceSuffix base (Reference.ofText text))
  | .rootless _, _ => .error .cannotBeABase
  | .segments _, _ =>
    if known? base.scheme = some .file then readFile (some base) text
    else resolveIn base text

def parse (base : Option Url) (text : String) : Except Error Url :=
  let text := clean text.toList
  match splitScheme? text, base with
  | some (scheme, rest), _ => readAfterScheme base scheme rest
  | none, some base => resolveRelative base text
  | none, none => .error .relativeWithoutBase

def resolve (baseUrl path : String) : Except Error Url :=
  match parse none baseUrl with
  | .error error => .error error
  | .ok base => parse (some base) path

end RemoteWrite.Url
