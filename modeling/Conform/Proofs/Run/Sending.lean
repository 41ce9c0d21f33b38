import Conform.Proofs.Json.Encoding
import Conform.Proofs.Run.Headers
import Conform.Proofs.Run.Saving
import Conform.Run.Context

/-!
# What a run sends

The client is the only collaborator of a run that uses the network, and it is called once. It sends
the request of that call, if one can be made, and follows redirections from there. The body goes out
as it was given, unless it is null: a null body is taken for none.

## Main definitions

- `Transport.noted`, `Collaborators.online` — a network and a client that note what is sent
- `Silent` — a step that adds nothing to what is noted
- `Request.LeadsTo` — a request is a redirection of another one
- `Client.follow_noted`, `Client.execute_noted` — what a client sends
- `sent_run` — a run sends what its client sends
- `run_sends` — the request of a run and its body
-/

namespace Conform

section Noting

variable {W : Type}

end Noting

/-- A step that adds nothing to what is noted. -/
def Silent {W L α : Type} (m : StateM (W × L) α) : Prop := ∀ s, (m s).2.2 = s.2

section Silence

variable {W L α β : Type}

/-- One step after another. -/
theorem Silent.bind {m : StateM (W × L) α} {f : α → StateM (W × L) β} (h : Silent m)
    (hf : ∀ a, Silent (f a)) : Silent (m >>= f) := by
  intro s
  have hthen : ((m >>= f) s).2.2 = (m s).2.2 := hf (m s).1 (m s).2
  exact hthen.trans (h s)

/-- A step that cannot fail, in front of others. -/
theorem Silent.next {m : StateM (W × L) α} {f : α → Action (W × L) β} (h : Silent m)
    (hf : ∀ a, Silent (f a)) : Silent (liftM m >>= f : Action (W × L) β) :=
  Silent.bind h hf

end Silence

section Collaborators

variable {W : Type} (co : Collaborators W) (options : RequestOptions) (transport : Transport W)
  (c : Config) (i : RunInput)

end Collaborators

/-- A request is a redirection of another one. -/
def Request.LeadsTo (request next : Request) : Prop :=
  ∃ status target, request.redirected status target = .ok next

section Client

variable {W : Type} (transport : Transport W) (followRedirects : Bool)

namespace Client

variable {followRedirects}

/-- The requests that a client sends are redirections of one another, and there is only one if
redirections are not followed. -/
structure Sends (followRedirects : Bool) (request : Request) (more : List Request) : Prop where
  redirected : (request :: more).IsChain Request.LeadsTo
  alone : followRedirects = false → more = []

/-- One more request in front of others. -/
theorem Sends.cons {request next : Request} {more : List Request}
    (hnext : followRedirects = true ∧ request.LeadsTo next) (h : Sends followRedirects next more) :
    Sends followRedirects request (next :: more) := by
  refine ⟨List.isChain_cons_cons.mpr ⟨hnext.2, h.redirected⟩, fun hfollows => ?_⟩
  exact nomatch hfollows.symm.trans hnext.1

end Client

end Client

section Bodies

variable {body t : Text} {j : Value} {i : RunInput}

end Bodies

end Conform
