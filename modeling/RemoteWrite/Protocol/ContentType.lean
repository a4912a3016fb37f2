import RemoteWrite.Protocol
import RemoteWrite.Text.Pieces
import RemoteWrite.Text.WhiteSpace

/-!
Contract: which protocol a content type announces.

A content type is cut at its semicolons. The first piece is the media type,
every further piece is a parameter of one key and one value. The first
parameter with the key `proto` decides; without one the protocol is 1.0.
Nothing after the deciding parameter is looked at.

Owns:
- the reading of one parameter;
- the announced protocol.

Does not own: the catalog of protocols.
-/

namespace RemoteWrite.Protocol

/-- The key and the value of a parameter that has exactly one equals sign. -/
def parameter? (text : List Char) : Option (List Char × List Char) :=
  match Text.pieces '=' text with
  | [key, value] => some (key, value)
  | _ => none

/-- Find the protocol in the parameters of a content type. -/
def ofParameters (contentType : String) : List (List Char) → Except ProtocolError Protocol
  | [] => .ok v1
  | text :: rest =>
    match parameter? text with
    | none => .error (.malformedParameter (String.ofList text) contentType)
    | some (key, value) =>
      if Text.trim key = "proto".toList then ofName (String.ofList (Text.trim value))
      else ofParameters contentType rest

def ofContentType (text : String) : Except ProtocolError Protocol :=
  let trimmed := Text.trim text.toList
  let contentType := String.ofList trimmed
  match Text.pieces ';' trimmed with
  | [] => .error (.unexpectedMediaType contentType)
  | media :: parameters =>
    if Text.trim media = mediaType.toList then ofParameters contentType parameters
    else .error (.unexpectedMediaType contentType)

end RemoteWrite.Protocol
