import RemoteWrite.Text.Numeral

/-!
Contract: HTTP status codes and how they are written.

Owns:
- the codes of three digits;
- their classes;
- their standard reason phrases.

Does not own: what a client or a receiver makes of a status.
-/

namespace RemoteWrite.Http

structure Status where
  code : Nat
  lower : 100 ≤ code := by decide
  upper : code ≤ 999 := by decide
deriving DecidableEq, Repr

namespace Status

def ofNat? (code : Nat) : Option Status :=
  if bounds : 100 ≤ code ∧ code ≤ 999 then some ⟨code, bounds.1, bounds.2⟩ else none

def ok : Status := { code := 200 }
def noContent : Status := { code := 204 }
def notModified : Status := { code := 304 }
def badRequest : Status := { code := 400 }
def notFound : Status := { code := 404 }
def methodNotAllowed : Status := { code := 405 }
def payloadTooLarge : Status := { code := 413 }
def unsupportedMediaType : Status := { code := 415 }
def tooManyRequests : Status := { code := 429 }
def internalServerError : Status := { code := 500 }

def isSuccess (status : Status) : Bool :=
  200 ≤ status.code && status.code < 300

def isServerError (status : Status) : Bool :=
  500 ≤ status.code && status.code < 600

def reasons : List (Nat × String) :=
  [(100, "Continue"), (101, "Switching Protocols"), (102, "Processing"),
   (103, "Early Hints"),
   (200, "OK"), (201, "Created"), (202, "Accepted"),
   (203, "Non Authoritative Information"), (204, "No Content"), (205, "Reset Content"),
   (206, "Partial Content"), (207, "Multi-Status"), (208, "Already Reported"),
   (226, "IM Used"),
   (300, "Multiple Choices"), (301, "Moved Permanently"), (302, "Found"),
   (303, "See Other"), (304, "Not Modified"), (305, "Use Proxy"),
   (307, "Temporary Redirect"), (308, "Permanent Redirect"),
   (400, "Bad Request"), (401, "Unauthorized"), (402, "Payment Required"),
   (403, "Forbidden"), (404, "Not Found"), (405, "Method Not Allowed"),
   (406, "Not Acceptable"), (407, "Proxy Authentication Required"),
   (408, "Request Timeout"), (409, "Conflict"), (410, "Gone"), (411, "Length Required"),
   (412, "Precondition Failed"), (413, "Payload Too Large"), (414, "URI Too Long"),
   (415, "Unsupported Media Type"), (416, "Range Not Satisfiable"),
   (417, "Expectation Failed"), (418, "I'm a teapot"), (421, "Misdirected Request"),
   (422, "Unprocessable Entity"), (423, "Locked"), (424, "Failed Dependency"),
   (425, "Too Early"), (426, "Upgrade Required"), (428, "Precondition Required"),
   (429, "Too Many Requests"), (431, "Request Header Fields Too Large"),
   (451, "Unavailable For Legal Reasons"),
   (500, "Internal Server Error"), (501, "Not Implemented"), (502, "Bad Gateway"),
   (503, "Service Unavailable"), (504, "Gateway Timeout"),
   (505, "HTTP Version Not Supported"), (506, "Variant Also Negotiates"),
   (507, "Insufficient Storage"), (508, "Loop Detected"), (510, "Not Extended"),
   (511, "Network Authentication Required")]

/-- The reason phrase of a status, or a marker where no standard gives one. -/
def reason (status : Status) : String :=
  (reasons.lookup status.code).getD "<unknown status code>"

/-- A status is written as its code and its reason phrase. -/
def render (status : Status) : String :=
  Text.Numeral.render status.code ++ " " ++ status.reason

end Status
end RemoteWrite.Http
