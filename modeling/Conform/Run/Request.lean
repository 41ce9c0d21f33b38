import Conform.Config.Basic
import Conform.Internet.Location
import Conform.Json.Printing
import Conform.Run.Body
import Conform.Schema.Checking

/-!
# Requests

A request is made from an address, a method, headers and a body. The headers of a call come on top
of the configured ones, and a body goes out as JSON if the method carries one.

## Main definitions

- `RequestCall` — what is asked for
- `Request` — a request as it goes out
- `Request.make` — the request of a call
- `Request.redirected` — the request that follows a redirection
-/

namespace Conform

/-- What a client is asked for. A null body means that there is none. -/
structure RequestCall where
  address : Text
  verb : Text
  headers : List (Text × Value)
  body : Value

/-- A request as it goes out. -/
structure Request where
  verb : Text
  location : Location
  headers : List (Text × Text)
  body : Text
  deriving DecidableEq, Repr

/-- Why a request cannot be made. -/
inductive RequestFault
  | location (fault : LocationFault)
  | headerType (typeName : Text)
  | headerText (bad : Unencodable)
  | notFinite
  | bodyText (bad : Unencodable)
  deriving DecidableEq, Repr

/-- The wording of a fault. -/
def RequestFault.message : RequestFault → Text
  | .location fault => fault.message
  | .headerType typeName =>
    "Header value must be str or bytes, not <class '" ++ typeName ++ "'>"
  | .headerText bad => bad.message "ascii" "ordinal not in range(128)"
  | .notFinite => "Out of range float values are not JSON compliant"
  | .bodyText bad => bad.message "utf-8" "surrogates not allowed"

namespace Headers

/-- Whether two names of headers are equal up to case. -/
def sameName (a b : Text) : Bool := Internet.asciiLower a == Internet.asciiLower b

/-- Whether headers have one with a name. -/
def has (headers : List (Text × Text)) (name : Text) : Bool :=
  headers.any fun (key, _) => sameName key name

/-- The values of all headers with a name, with commas between them. -/
def get? (headers : List (Text × Text)) (name : Text) : Option Text :=
  match (headers.filter fun (key, _) => sameName key name).map (·.2) with
  | [] => none
  | values => some (Text.join ", " values)

/-- Headers without those of some names. -/
def without (headers : List (Text × Text)) (names : List Text) : List (Text × Text) :=
  headers.filter fun (key, _) => !names.any (sameName key)

/-- The headers that every request has if nothing else is said. -/
def standard : List (Text × Text) := Fields.named [("Accept", "*/*"), ("Connection", "keep-alive")]

/-- A header's name or value as it can go out. -/
def outgoing (t : Text) : Except RequestFault Text :=
  match t.unencodable? fun c => 128 ≤ c with
  | some bad => .error (.headerText bad)
  | none => .ok t

/-- Headers as they can go out. -/
def checked : List (Text × Value) → Except RequestFault (List (Text × Text))
  | [] => .ok []
  | (name, v) :: rest => do
    let name ← outgoing name
    match v with
    | .scalar (.text t) =>
      let t ← outgoing t
      return (name, t) :: (← checked rest)
    | v => throw (.headerType v.classPath)

/-- The headers of a call on top of configured ones. A name counts as the same only in the same
case. -/
def merged (defaults : List (Text × Text)) (headers : List (Text × Value)) :
    List (Text × Value) :=
  Fields.merge (defaults.map fun (name, t) => (name, .text t)) headers

end Headers

/-- The JSON text of a body. -/
def RequestBody.write (body : Value) : Except RequestFault Text :=
  if !body.isFinite then .error .notFinite
  else
    let t := body.toJson Json.Style.compact
    match t.unencodable? Text.isSurrogate with
    | some bad => .error (.bodyText bad)
    | none => .ok t

namespace Request

/-- The headers about a body. A method that carries one says so even if it is empty. -/
def bodyHeaders (verb body : Text) : List (Text × Text) :=
  if body.isEmpty then (if carriesBody verb then Fields.named [("Content-Length", "0")] else [])
  else
    Fields.named [("Content-Length", Text.ofNat body.utf8.length),
      ("Content-Type", "application/json")]

/-- The request of a call. -/
def make (options : RequestOptions) (call : RequestCall) : Except RequestFault Request := do
  let location ←
    match Location.ofReference call.address with
    | .ok l => pure l
    | .error fault => throw (.location fault)
  let own ← Headers.checked (Headers.merged options.defaultHeaders call.headers)
  let body ←
    match call.body with
    | .scalar .null => pure []
    | body => if carriesBody call.verb then RequestBody.write body else pure []
  let added :=
    Fields.named [("Host", location.place)] ++ Headers.standard ++ bodyHeaders call.verb body
  return ⟨call.verb, location, Headers.without added (own.map (·.1)) ++ own, body⟩

/-- The method that follows a redirection: some turn other methods into one without a body. -/
def redirectedVerb (status : Nat) (verb : Text) : Text :=
  let get := Text.ofString "GET"
  if (status = 302 ∨ status = 303) ∧ verb ≠ Text.ofString "HEAD" then get
  else if status = 301 ∧ verb = Text.ofString "POST" then get
  else verb

/-- The request that follows a redirection to another place. What is secret stays with its origin,
and what is about a body goes with it. -/
def redirected (r : Request) (status : Nat) (target : Text) : Except LocationFault Request := do
  let location ← r.location.resolve target
  let verb := redirectedVerb status r.verb
  let dropsBody := verb ≠ r.verb ∧ verb = Text.ofString "GET"
  let leaves := !location.sameOrigin r.location
  let secrets : List Text :=
    if leaves && !r.location.isSecured location then ["Authorization"] else []
  let headers := Headers.without r.headers (secrets ++ [Text.ofString "Cookie"])
  let headers :=
    if leaves then
      Headers.without headers ["Host"] ++ [(Text.ofString "Host", location.place)]
    else headers
  let headers :=
    if dropsBody then Headers.without headers ["Content-Length", "Transfer-Encoding"] else headers
  return ⟨verb, location, headers, if dropsBody then [] else r.body⟩

end Request

end Conform
