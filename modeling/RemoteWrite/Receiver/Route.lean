import RemoteWrite.Receiver.Handle
import RemoteWrite.Text.Pieces
import RemoteWrite.Text.Quoted

/-!
Contract: serving a receiver under a path.

A route is a path of literal text and of parameters. A parameter stands for the
rest of a segment, and the last one may stand for the rest of the path. A brace
that is written twice is literal.

Owns:
- routes, reading them, and the paths they match;
- the path of a request, without query and fragment;
- the answers to other paths and to other methods than `POST`;
- the errors of texts that are no routes.

Does not own: the answers of the receiver.
-/

namespace RemoteWrite

/-- What is wrong with the parameters of a route. -/
inductive ParameterFault where
  /-- A brace stands alone, or there is no name between two. -/
  | unnamed
  /-- Something follows a parameter in its segment. -/
  | crowded
  /-- Something follows the parameter for the rest of the path. -/
  | restNotLast
deriving DecidableEq, Repr

inductive RouteError where
  | empty
  | relative
  | colonSegment
  | starSegment
  | parameter (path : String) (fault : ParameterFault)
deriving DecidableEq, Repr

def ParameterFault.message : ParameterFault → String
  | .unnamed => "Parameters must be registered with a valid name"
  | .crowded => "Only one parameter is allowed per path segment"
  | .restNotLast => "Catch-all parameters are only allowed at the end of a route"

def RouteError.message : RouteError → String
  | .empty => "Paths must start with a \x60/\x60. Use \"/\" for root routes"
  | .relative => "Paths must start with a \x60/\x60"
  | .colonSegment =>
    "Path segments must not start with \x60:\x60. For capture groups, use " ++
      "\x60\x7bcapture\x7d\x60. If you meant to literally match a segment starting with " ++
      "a colon, call \x60without_v07_checks\x60 on the router."
  | .starSegment =>
    "Path segments must not start with \x60*\x60. For wildcard capture, use " ++
      "\x60\x7b*wildcard\x7d\x60. If you meant to literally match a segment starting with " ++
      "an asterisk, call \x60without_v07_checks\x60 on the router."
  | .parameter path fault => "Invalid route " ++ Text.quoted path ++ ": " ++ fault.message

inductive RoutePart where
  | literal (c : Char)
  | segment
  | rest
deriving DecidableEq, Repr

structure Route where
  parts : List RoutePart
deriving DecidableEq, Repr

namespace Route

/-! ## Reading -/

/-- A character of a route, and whether it was a brace written twice. -/
structure Symbol where
  char : Char
  doubled : Bool
deriving DecidableEq, Repr

def symbols : List Char → List Symbol
  | '\x7b' :: '\x7b' :: text => ⟨'\x7b', true⟩ :: symbols text
  | '\x7d' :: '\x7d' :: text => ⟨'\x7d', true⟩ :: symbols text
  | c :: text => ⟨c, false⟩ :: symbols text
  | [] => []

def Symbol.opens (symbol : Symbol) : Bool := symbol.char = '\x7b' && !symbol.doubled

def Symbol.closes (symbol : Symbol) : Bool := symbol.char = '\x7d' && !symbol.doubled

/-- Read the name of a parameter up to its closing brace, given the character
before. The result is what follows. -/
def closeName (before : Char) : List Symbol → Except ParameterFault (List Symbol)
  | [] => .error .unnamed
  | symbol :: text =>
    if symbol.closes then
      if before = '*' then .error .unnamed
      else if text.head?.any (·.char ≠ '/') then .error .crowded
      else .ok text
    else if symbol.char = '*' || symbol.char = '/' then .error .unnamed
    else closeName symbol.char text

theorem closeName_length {before : Char} {text rest : List Symbol}
    (closed : closeName before text = .ok rest) : rest.length < text.length := by
  induction text generalizing before with
  | nil => simp [closeName] at closed
  | cons symbol text inductionHypothesis =>
      simp only [closeName] at closed
      split at closed
      · split at closed
        · contradiction
        · split at closed
          · contradiction
          · simp only [Except.ok.injEq] at closed
            simp [closed]
      · split at closed
        · contradiction
        · have shorter := inductionHypothesis closed
          simp only [List.length_cons]
          omega

def readParts (text : List Symbol) : Except ParameterFault (List RoutePart) :=
  match text with
  | [] => .ok []
  | symbol :: text =>
    if symbol.closes then .error .unnamed
    else if symbol.opens then
      match text with
      | [] => .error .unnamed
      | first :: text =>
        if first.char = '\x7d' then .error .unnamed
        else
          match _ : closeName first.char text with
          | .error fault => .error fault
          | .ok rest =>
            let part := if first.char = '*' then RoutePart.rest else .segment
            (readParts rest).map (part :: ·)
    else (readParts text).map (.literal symbol.char :: ·)
termination_by text.length
decreasing_by
  · have shorter := closeName_length ‹_›
    simp only [List.length_cons]
    omega
  · simp

/-- The rest of the path ends a route. -/
def restIsLast : List RoutePart → Bool
  | .rest :: parts => parts.isEmpty
  | _ :: parts => restIsLast parts
  | [] => true

def ofPath (path : String) : Except RouteError Route :=
  let text := path.toList
  let starts := (Text.pieces '/' text).filterMap List.head?
  if text.isEmpty then .error .empty
  else if text.head? ≠ some '/' then .error .relative
  else
    match starts.find? fun c => c = ':' || c = '*' with
    | some c => .error (if c = ':' then .colonSegment else .starSegment)
    | none =>
      match readParts (symbols text) with
      | .error fault => .error (.parameter path fault)
      | .ok parts =>
        if restIsLast parts then .ok ⟨parts⟩ else .error (.parameter path .restNotLast)

/-! ## Matching -/

/-- The parts match a path. A parameter at the end is not empty, while one with
something after it may be. -/
def matchesParts : List RoutePart → List Char → Bool
  | [], path => path.isEmpty
  | .literal c :: parts, path =>
    match path with
    | [] => false
    | next :: path => c = next && matchesParts parts path
  | [.segment], path => !path.isEmpty && !path.contains '/'
  | .segment :: parts, path => matchesParts parts (path.dropWhile (· ≠ '/'))
  | .rest :: _, path => !path.isEmpty

def isSchemeChar (c : Char) : Bool :=
  c.isAlphanum || c = '+' || c = '-' || c = '.'

/-- The path that a request names. A scheme and an authority may precede it,
and then it is never empty. -/
def requestPath (target : String) : List Char :=
  let text := target.toList.takeWhile fun c => c ≠ '?' && c ≠ '#'
  match text.dropWhile isSchemeChar with
  | ':' :: '/' :: '/' :: rest =>
    let path := rest.dropWhile (· ≠ '/')
    if path.isEmpty then ['/'] else path
  | _ => text

def covers (route : Route) (target : String) : Bool :=
  matchesParts route.parts (requestPath target)

end Route

namespace Receiver

/-- A response without any text. -/
def bareResponse (status : Http.Status) (headers : Http.Headers) : ServerResponse :=
  ⟨status, headers, ""⟩

/-- Answer requests to a route, and refuse all others. -/
def serve {σ : Type} (receiver : Receiver σ) (route : Route) (state : σ)
    (request : IncomingRequest) : Handled σ :=
  if route.covers request.path then
    if request.method = "POST" then receiver.handle state request
    else
      ⟨bareResponse .methodNotAllowed (.ofList [(Http.allowName, Text.utf8 "POST")]), state, []⟩
  else ⟨bareResponse .notFound .empty, state, []⟩

/-- Serve a request that the receiver can handle, or does not have to. -/
def serve? {σ : Type} (receiver : Receiver σ) (route : Route) (state : σ)
    (request : IncomingRequest) : Option (Handled σ) :=
  if route.covers request.path && request.method = "POST" && receiver.overflows request then none
  else some (receiver.serve route state request)

end Receiver
end RemoteWrite
