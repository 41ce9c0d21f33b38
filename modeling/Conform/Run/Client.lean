import Conform.Action
import Conform.Run.Response

/-!
# The client

A client makes a request, sends it, and follows redirections. What can go wrong on the way is told
apart: either no response came, or the request could not be made.

## Main definitions

- `RequestFailure` — why there is no response
- `Transport` — what carries requests
- `Client.follow` — sending a request and following redirections
- `Client.execute` — the response to a call
-/

namespace Conform

/-- Why there is no response. -/
inductive RequestFailure
  | noResponse
  /-- The request could not be made. -/
  | setup (detail : Text)
  deriving DecidableEq, Repr

/-- What carries requests over a network. -/
abbrev Transport (W : Type) := Request → Action W (Except RequestFailure Reply)

namespace Client

/-- How many redirections are followed. -/
def redirectionLimit : Nat := 20

/-- What a reply to a request comes to: an end, or a request that it redirects to. -/
def reaction (followRedirects : Bool) (request : Request) (reply : Reply) :
    Except RequestFailure Response ⊕ Request :=
  if reply.isPacked then .inl (.error .noResponse)
  else
    match reply.target? with
    | none => .inl (.ok reply.read)
    | some target =>
      match request.redirected reply.status target with
      | .error _ => .inl (.error .noResponse)
      | .ok next => if followRedirects then .inr next else .inl (.ok reply.read)

/-- Sends a request once. -/
def exchange {W : Type} (followRedirects : Bool) (transport : Transport W) (request : Request) :
    Action W (Except RequestFailure Response ⊕ Request) := do
  match ← transport request with
  | .error failure => return .inl (.error failure)
  | .ok reply => return reaction followRedirects request reply

/-- Sends a request and follows at most `limit` redirections. -/
def follow {W : Type} (followRedirects : Bool) (transport : Transport W) :
    (limit : Nat) → Request → Action W (Except RequestFailure Response)
  | 0, request => do
    match ← exchange followRedirects transport request with
    | .inl result => return result
    | .inr _ => return .error .noResponse
  | limit + 1, request => do
    match ← exchange followRedirects transport request with
    | .inl result => return result
    | .inr next => follow followRedirects transport limit next

/-- The response to a call. -/
def execute {W : Type} (options : RequestOptions) (transport : Transport W) (call : RequestCall) :
    Action W (Except RequestFailure Response) :=
  match Request.make options call with
  | .error fault => return .error (.setup fault.message)
  | .ok request => follow options.followRedirects transport redirectionLimit request

end Client

end Conform
