import RemoteWrite.Url.Host

/-!
Contract: URLs as values.

Owns:
- schemes that have rules of their own, and their default ports;
- the parts of a URL, each as it stands in the text;
- the text of a URL.

Does not own: reading URLs.
-/

namespace RemoteWrite

namespace Url

inductive KnownScheme where
  | http
  | https
  | ws
  | wss
  | ftp
  | file
deriving DecidableEq, Repr

namespace KnownScheme

def all : List KnownScheme := [http, https, ws, wss, ftp, file]

def name : KnownScheme → String
  | http => "http"
  | https => "https"
  | ws => "ws"
  | wss => "wss"
  | ftp => "ftp"
  | file => "file"

/-- The port that is not written. -/
def defaultPort? : KnownScheme → Option Nat
  | http | ws => some 80
  | https | wss => some 443
  | ftp => some 21
  | file => none

end KnownScheme

/-- Who serves a URL. -/
structure Authority where
  username : String := ""
  password : String := ""
  host : Host
  port : Option Nat := none
deriving DecidableEq, Repr

namespace Authority

/-- The name and the password with the sign that ends them, where there are
any. -/
def renderUserInfo (authority : Authority) : String :=
  if authority.username.isEmpty && authority.password.isEmpty then ""
  else if authority.password.isEmpty then authority.username ++ "@"
  else authority.username ++ ":" ++ authority.password ++ "@"

def render (authority : Authority) : String :=
  authority.renderUserInfo ++ authority.host.render ++
    match authority.port with
    | none => ""
    | some port => ":" ++ Text.Numeral.render port

end Authority

inductive Path where
  /-- A text that no slash begins. Nothing can be resolved against it. -/
  | rootless (text : String)
  | segments (segments : List String)
deriving DecidableEq, Repr

def Path.render : Path → String
  | .rootless text => text
  | .segments names => String.join (names.map ("/" ++ ·))

end Url

structure Url where
  scheme : String
  authority : Option Url.Authority
  path : Url.Path
  query : Option String := none
  fragment : Option String := none
deriving DecidableEq, Repr

namespace Url

/-- The scheme of a name, if it has rules of its own. -/
def known? (scheme : String) : Option KnownScheme :=
  KnownScheme.all.find? fun known => known.name = scheme

/-- The start of a path that would else be read as an authority. -/
def needsDot (url : Url) : Bool :=
  url.authority.isNone &&
    match url.path with
    | .segments ("" :: _ :: _) => true
    | _ => false

/-- The path and the query, which a request names. -/
def target (url : Url) : String :=
  url.path.render ++
    match url.query with
    | none => ""
    | some query => "?" ++ query

def render (url : Url) : String :=
  url.scheme ++ ":" ++
    (match url.authority with
    | none => if url.needsDot then "/." else ""
    | some authority => "//" ++ authority.render) ++
    url.target ++
    match url.fragment with
    | none => ""
    | some fragment => "#" ++ fragment

end Url
end RemoteWrite
