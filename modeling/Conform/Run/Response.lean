import Conform.Internet.Url
import Conform.Json.Reading
import Conform.Run.Request
import Conform.Text.Encoding

/-!
# Responses

A reply holds bytes. They are read as JSON if possible, and otherwise as text in the encoding that
the headers name.

## Main definitions

- `Reply` — a reply as it comes in
- `Response` — a reply that has been read
- `Reply.read` — reading a reply
- `reasonPhrase` — the standard words for a status
-/

namespace Conform

/-- A reply as it comes in. -/
structure Reply where
  status : Nat
  headers : List (Text × Text)
  body : List UInt8
  deriving DecidableEq, Repr

/-- A reply that has been read. Any status counts. -/
structure Response where
  status : Nat
  /-- The words that go with the status. -/
  statusText : Text
  headers : List (Text × Text)
  data : Value

/-- The standard words for statuses. -/
def reasonPhrases : List (Nat × String) := [
  (100, "Continue"), (101, "Switching Protocols"), (102, "Processing"), (103, "Early Hints"),
  (200, "OK"), (201, "Created"), (202, "Accepted"), (203, "Non-Authoritative Information"),
  (204, "No Content"), (205, "Reset Content"), (206, "Partial Content"), (207, "Multi-Status"),
  (208, "Already Reported"), (226, "IM Used"),
  (300, "Multiple Choices"), (301, "Moved Permanently"), (302, "Found"), (303, "See Other"),
  (304, "Not Modified"), (305, "Use Proxy"), (307, "Temporary Redirect"),
  (308, "Permanent Redirect"),
  (400, "Bad Request"), (401, "Unauthorized"), (402, "Payment Required"), (403, "Forbidden"),
  (404, "Not Found"), (405, "Method Not Allowed"), (406, "Not Acceptable"),
  (407, "Proxy Authentication Required"), (408, "Request Timeout"), (409, "Conflict"),
  (410, "Gone"), (411, "Length Required"), (412, "Precondition Failed"),
  (413, "Request Entity Too Large"), (414, "Request-URI Too Long"),
  (415, "Unsupported Media Type"), (416, "Requested Range Not Satisfiable"),
  (417, "Expectation Failed"), (418, "I'm a teapot"), (421, "Misdirected Request"),
  (422, "Unprocessable Entity"), (423, "Locked"), (424, "Failed Dependency"), (425, "Too Early"),
  (426, "Upgrade Required"), (428, "Precondition Required"), (429, "Too Many Requests"),
  (431, "Request Header Fields Too Large"), (451, "Unavailable For Legal Reasons"),
  (500, "Internal Server Error"), (501, "Not Implemented"), (502, "Bad Gateway"),
  (503, "Service Unavailable"), (504, "Gateway Timeout"), (505, "HTTP Version Not Supported"),
  (506, "Variant Also Negotiates"), (507, "Insufficient Storage"), (508, "Loop Detected"),
  (510, "Not Extended"), (511, "Network Authentication Required")]

/-- The standard words for a status; nothing for others. -/
def reasonPhrase (status : Nat) : Text :=
  match reasonPhrases.lookup status with
  | some words => words
  | none => []

namespace Reply

/-- The parameters of a header's value behind its first part, with names in small letters. -/
def parameters (value : Text) : List (Text × Text) :=
  ((Text.splitAll ';'.toNat value).drop 1).filterMap fun part =>
    (Text.splitFirst? '='.toNat part).map fun (name, v) =>
      let v := v.strip
      let quoted := v.head? = some '"'.toNat ∧ v.getLast? = some '"'.toNat ∧ 1 < v.length
      (Internet.asciiLower name.strip, if quoted then (v.drop 1).dropLast else v)

/-- The encoding of the text in a reply: the one that is named, if it is known. -/
def encoding (r : Reply) : Encoding :=
  let named := (Headers.get? r.headers "Content-Type").bind fun value =>
    (Fields.get? (parameters value) "charset").bind Encoding.ofName?
  named.getD .utf8

/-- What the bytes of a reply stand for. -/
def data (r : Reply) : Value :=
  if r.body.isEmpty then .text []
  else
    let parsed := ((Encoding.ofJson r.body).decode? r.body).bind fun t =>
      match Json.ofTokens (Json.tokens t) with
      | .ok v => some v
      | .error _ => none
    parsed.getD (.text (r.encoding.decodeLossy r.body))

/-- The names of headers in small letters, each once, with their values. -/
def plainHeaders (r : Reply) : List (Text × Text) :=
  let given := r.headers.foldl (fun (found : List (Text × Text)) (name, v) =>
    let key := Internet.asciiLower name
    match Fields.get? found key with
    | some old => Fields.insert key (old ++ ", " ++ v) found
    | none => found ++ [(key, v)]) []
  if r.body.isEmpty ∨ Fields.has given "content-length" then given
  else given ++ [(Text.ofString "content-length", Text.ofNat r.body.length)]

/-- The response that a reply is. -/
def read (r : Reply) : Response := ⟨r.status, reasonPhrase r.status, r.plainHeaders, r.data⟩

/-- The statuses of redirections. -/
def redirections : List Nat := [301, 302, 303, 307, 308]

/-- Where a reply redirects to, if it does. -/
def target? (r : Reply) : Option Text :=
  if r.status ∈ redirections then Headers.get? r.headers "Location" else none

/-- The ways to pack bytes that cannot be undone here. -/
def packings : List Text := ["gzip", "deflate"].map Text.ofString

/-- Whether the bytes of a reply are said to be packed. -/
def isPacked (r : Reply) : Bool :=
  match Headers.get? r.headers "Content-Encoding" with
  | some value =>
    !r.body.isEmpty
      && (Text.splitAll ','.toNat value).any fun part =>
        packings.contains (Internet.asciiLower part.strip)
  | none => false

end Reply

end Conform
