import Conform.Proofs.Resolver.Rest
import Conform.Proofs.Run.Ensuring
import Conform.Proofs.Run.Outcome
import Conform.Run.Context

/-!
# How runs end

In a context whose resolver is at rest, the end of a run depends on its input and on what the client
answers to its call, and on nothing else: neither on what has been resolved before, nor on fetches,
observers, times and what keeps bodies. Only an observation that cannot be recorded interferes.

## Main definitions

- `RunInput.stages`, `RunInput.ending` — how a run ends, given what the client answers
- `RunContext.Refuses`, `RunContext.Interferes` — an observation may be refused, in a stage of a run
- `RunContext.resolve_ensures` — what resolving a version comes to
- `RunContext.runStages_ensures`, `RunContext.run_ensures` — what the stages and a whole run come to
-/

namespace Conform

namespace RunInput

variable (c : Config) (i : RunInput)

/-- What comes out of checking a response against the schema. -/
def verdict (response : Response) (v : Version) : Except Raised RunEnd :=
  match compile v i.source with
  | .error e =>
    match e.report with
    | .ok report => .ok (.uncompiled response report)
    | .error size => .error ⟨size.message⟩
  | .ok s => .ok (.validated response (s.validate (some c.unknownKeys.name) response.data))

/-- What comes out of a response. -/
def received (response : Response) : Except Raised RunEnd :=
  match Version.ofName? (i.versionName c) with
  | none => .ok (.unknownVersion response (i.versionName c))
  | some v => i.verdict c response v

/-- What comes out of the stages of a run, given what the client answers. -/
def stages (answer : RequestCall → Except Raised (Except RequestFailure Response)) :
    Except Raised RunEnd :=
  match i.address with
  | .error e => .error e
  | .ok none => .ok (.noEndpoint false)
  | .ok (some address) =>
    match RequestBody.read i.verb i.body with
    | .error (.integerTooLong digits) =>
      .error ⟨(Json.Failure.integerTooLong digits).message []⟩
    | .error failure => .ok (.badBody (i.body.getD []) failure)
    | .ok body =>
      match answer ⟨address, i.verb, i.headers, body⟩ with
      | .error e => .error e
      | .ok (.error .noResponse) => .ok .noResponse
      | .ok (.error (.setup detail)) => .ok (.notSent detail)
      | .ok (.ok response) => i.received c response

/-- How a run ends, given what the client answers. -/
def ending (answer : RequestCall → Except Raised (Except RequestFailure Response)) : RunEnd :=
  .ofStages (i.stages c answer)

end RunInput

section Beside

variable {W R α : Type}

/-- What a step leaves alone stays as it is. -/
theorem ensures_beside (m : StateM W α) (P : R → Prop) :
    Ensures (fun s => P s.2) (beside m) fun _ s => P s.2 :=
  fun _ h => h

/-- A step from a known state. -/
theorem ensures_beside_from (m : StateM W α) (P : R → Prop) (w : W) :
    Ensures (fun s => s.1 = w ∧ P s.2) (beside m)
      fun a s => a = (m w).1 ∧ s.1 = (m w).2 ∧ P s.2 := by
  rintro ⟨w, r⟩ ⟨rfl, h⟩
  exact ⟨rfl, rfl, h⟩

end Beside

/-- When a call begins a fetch. -/
theorem Resolver.fetchedBy?_eq_some {r : Resolver} {name : Text} {v : Version}
    (h : r.fetchedBy? name = some v) :
    Version.ofName? name = some v ∧ r.fetches = true ∧ r.slot? v = none := by
  unfold fetchedBy? at h
  split at h
  · rename_i hname
    split at h
    · rename_i hfetches
      obtain rfl := Option.some.inj h
      rw [Bool.and_eq_true, Option.isNone_iff_eq_none] at hfetches
      exact ⟨hname, hfetches⟩
    · exact nomatch h
  · exact nomatch h

namespace RunContext

variable {W : Type} (x : RunContext W)

/-- An observation of a metric may be refused with an error. -/
def Refuses (m : Metric) (e : Raised) : Prop :=
  ∃ value tags w, (x.record (MetricSample.of m value tags) w).1 = .error e

/-- The metrics that are observed in the stages of a run. -/
def stageMetrics : List Metric :=
  [.requestLatency, .fetches, .compileFailures, .validationErrors]

/-- An observation in a stage of a run may be refused with an error. -/
def Interferes (e : Raised) : Prop := ∃ m ∈ stageMetrics, x.Refuses m e

/-- The resolver of a context is at rest. -/
def Resting (s : W × Resolver) : Prop := s.2.AtRest

/-- An observation is recorded or refused; the resolver stays as it is. -/
theorem measure_ensures (P : Resolver → Prop) (m : Metric) (value : Double)
    (tags : List (Text × Text)) :
    EnsuresOr (x.Refuses m) (fun s => P s.2) (x.collaborators.measure m value tags)
      fun result s => result = .ok () ∧ P s.2 := by
  rintro ⟨w, r⟩ h
  cases hresult : (x.record (MetricSample.of m value tags) w).1 with
  | error e => exact .inr ⟨e, ⟨value, tags, w, hresult⟩, hresult⟩
  | ok u => exact .inl ⟨hresult, h⟩

/-- The same in a stage. -/
theorem stage_ensures (m : Metric) (hm : m ∈ stageMetrics) (value : Double)
    (tags : List (Text × Text)) :
    EnsuresOr x.Interferes Resting (x.collaborators.measure m value tags)
      fun result s => result = .ok () ∧ Resting s :=
  (x.measure_ensures Resolver.AtRest m value tags).grant fun _ h => ⟨m, hm, h⟩

/-- A call whose fetch is not counted, and one whose fetch comes to its end. -/
theorem begin_some (name : Text) (number : Nat) (v : Version) (w : W) (r : Resolver) :
    (x.begin name number (some v) (w, r)).2.2 =
      match (x.countFetch v w).1 with
      | .error e => r.step (.begin name (some e))
      | .ok _ => (r.step (.begin name none)).step
          (.land number (x.fetch v (x.countFetch v w).2).1.toOption) := by
  change ((match (x.countFetch v w).1 with
    | .error e => move (.begin name (some e))
    | .ok _ => move (.begin name none) >>= fun _ => x.fetchFor v number)
      ((x.countFetch v w).2, r)).2.2 = _
  cases (x.countFetch v w).1 <;> rfl

/-- A call of the resolver ends in order, unless its fetch is not counted. -/
theorem call_ensures (name : Text) (s : W × Resolver) (h : Resting s) :
    ∃ outcome, (x.call name s).2.2.outcome? s.2.calls.length = some outcome ∧
      (Resolver.Served name outcome ∧ Resting (x.call name s).2 ∨
        ∃ e, x.Refuses .fetches e ∧ outcome = .failed e) := by
  obtain ⟨w, r⟩ := s
  have hcall : x.call name (w, r) = x.begin name r.calls.length (r.fetchedBy? name) (w, r) := rfl
  rw [hcall]
  cases hfetched : r.fetchedBy? name with
  | none =>
    have hfetches (v : Version) (hname : Version.ofName? name = some v)
        (hslot : r.slot? v = none) : r.fetches = false := by
      simpa [Resolver.fetchedBy?, hname, hslot] using hfetched
    obtain ⟨outcome, houtcome, hserved, hrest⟩ := Resolver.AtRest.begin_spec h hfetches
    exact ⟨outcome, houtcome, .inl ⟨hserved, hrest⟩⟩
  | some v =>
    obtain ⟨hname, hfetches, hslot⟩ := Resolver.fetchedBy?_eq_some hfetched
    cases hcounted : (x.countFetch v w).1 with
    | error e =>
      rw [begin_some, hcounted]
      exact ⟨.failed e, Resolver.begin_uncounted hname hslot hfetches e,
        .inr ⟨e, ⟨_, _, w, hcounted⟩, rfl⟩⟩
    | ok u =>
      obtain ⟨outcome, houtcome, hserved, hrest⟩ :=
        Resolver.AtRest.land_spec h hname hslot hfetches
          (x.fetch v (x.countFetch v w).2).1.toOption
      rw [Resting, begin_some, hcounted]
      exact ⟨outcome, houtcome, .inl ⟨hserved, hrest⟩⟩

/-- Resolving gives the version with the name. -/
theorem resolve_ensures (name : Text) :
    EnsuresOr x.Interferes Resting (x.resolve name)
      fun result s => result = .ok (Version.ofName? name) ∧ Resting s := by
  intro s h
  have hresult : (x.resolve name s).1 =
      answer ((x.call name s).2.2.outcome? s.2.calls.length) := rfl
  have hstate : (x.resolve name s).2.2 = (x.call name s).2.2 := rfl
  obtain ⟨outcome, houtcome, ⟨hserved, hrest⟩ | ⟨e, hrefused, rfl⟩⟩ := x.call_ensures name s h
  · refine .inl ⟨?_, ?_⟩
    · rw [hresult, houtcome]
      cases outcome with
      | bound b => exact congrArg Except.ok hserved.symm
      | unknown => exact congrArg Except.ok hserved.symm
      | cancelled => exact hserved.elim
      | failed e => exact hserved.elim
    · rw [Resting, hstate]
      exact hrest
  · exact .inr ⟨e, ⟨.fetches, by decide, hrefused⟩, by rw [hresult, houtcome]; rfl⟩

theorem reportOf_ensures (e : CompileError) :
    EnsuresOr x.Interferes Resting (x.collaborators.reportOf e)
      fun result s => result = (match e.report with
        | .ok report => .ok report
        | .error size => .error ⟨size.message⟩) ∧ Resting s := by
  unfold Collaborators.reportOf
  cases e.report with
  | ok report =>
    refine (x.stage_ensures _ (by decide) _ _).bind (fun e s h => nomatch h.1) fun _ => ?_
    exact ensuresOr_pure fun s h => ⟨rfl, h.2⟩
  | error size => exact ensuresOr_throw fun s h => ⟨rfl, h⟩

/-- Checking a response gives the verdict on it. -/
theorem checkResponse_ensures (c : Config) (i : RunInput) (response : Response) (v : Version) :
    EnsuresOr x.Interferes Resting (checkResponse x.collaborators c i response v)
      fun result s => result = i.verdict c response v ∧ Resting s := by
  unfold checkResponse RunInput.verdict
  cases compile v i.source with
  | error e =>
    have hreported := x.reportOf_ensures e
    cases hreport : e.report with
    | ok report =>
      simp only [hreport] at hreported ⊢
      refine hreported.bind (fun _ _ h => nomatch h.1) fun _ => ensuresOr_pure fun s h => ?_
      obtain ⟨rfl, hrest⟩ := h.imp_left Except.ok.inj
      exact ⟨rfl, hrest⟩
    | error size =>
      simp only [hreport] at hreported ⊢
      refine hreported.bind (fun e' s h => ?_) fun _ => ensuresOr_pure fun _ h => nomatch h.1
      exact h.imp_left fun heq => congrArg Except.error (Except.error.inj heq)
  | ok schema =>
    refine (x.stage_ensures _ (by decide) _ _).bind (fun e s h => nomatch h.1) fun _ => ?_
    exact ensuresOr_pure fun s h => ⟨rfl, h.2⟩

/-- The stages of a run come to what the answer of the client makes of its input. -/
theorem runStages_ensures (c : Config) (i : RunInput) (w : W) :
    EnsuresOr x.Interferes (fun s => s.1 = w ∧ Resting s) (runStages x.collaborators c i)
      fun result s => result = i.stages c (fun call => (x.execute call (x.clock w).2).1) ∧
        Resting s := by
  unfold runStages RunInput.stages
  cases i.address with
  | error e => exact ensuresOr_throw fun s h => ⟨rfl, h.2⟩
  | ok address =>
    cases address with
    | none => exact ensuresOr_pure fun s h => ⟨rfl, h.2⟩
    | some address =>
      refine EnsuresOr.known ?_
      cases RequestBody.read i.verb i.body with
      | error failure =>
        cases failure with
        | integerTooLong digits => exact ensuresOr_throw fun s h => ⟨rfl, h.2⟩
        | _ => exact ensuresOr_pure fun s h => ⟨rfl, h.2⟩
      | ok body =>
        dsimp only
        refine (ensures_beside_from x.clock Resolver.AtRest w).next fun started => ?_
        -- The client answers in the state that the clock has left.
        refine EnsuresOr.bind (T := fun result s =>
          result = (x.execute ⟨address, i.verb, i.headers, body⟩ (x.clock w).2).1 ∧ Resting s)
          ?_ (fun e s h => ?_) fun answer => ?_
        · rintro ⟨w', r⟩ ⟨-, rfl, hrest⟩
          exact .inl ⟨rfl, hrest⟩
        · exact ⟨by rw [← h.1], h.2⟩
        refine EnsuresOr.fact fun hanswer => ?_
        rw [← hanswer]
        cases answer with
        | error failure => cases failure <;> exact ensuresOr_pure fun s h => ⟨rfl, h⟩
        | ok response =>
          refine (ensures_beside x.clock Resolver.AtRest).next fun now => ?_
          refine (x.stage_ensures _ (by decide) _ _).bind (fun _ _ h => nomatch h.1) fun _ =>
            EnsuresOr.fact fun _ => ?_
          refine (x.resolve_ensures _).bind (fun _ _ h => nomatch h.1) fun version =>
            EnsuresOr.fact fun hversion => ?_
          unfold RunInput.received
          rw [← Except.ok.inj hversion]
          cases version with
          | none => exact ensuresOr_pure fun s h => ⟨rfl, h⟩
          | some v => exact x.checkResponse_ensures c i response v

/-- Observers leave the resolver alone, and so does what keeps bodies. -/
theorem notify_ensures (P : Resolver → Prop) (event : Event) :
    Ensures (fun s => P s.2) (x.collaborators.notify event) fun _ s => P s.2 := by
  unfold Collaborators.notify dispatch collaborators
  dsimp only
  induction x.observers with
  | nil => exact fun s h => h
  | cons f observers ih => exact fun s h => ih _ h

theorem saveBody_ensures (P : Resolver → Prop) (i : RunInput) (r : RunResult) :
    Ensures (fun s => P s.2) (saveBody x.collaborators i r) fun _ s => P s.2 := by
  unfold saveBody collaborators
  dsimp only
  split
  · rename_i body save hbody hsave
    obtain ⟨save, -, rfl⟩ := Option.map_eq_some_iff.mp hsave
    split
    · exact ensures_beside (save body) P
    · exact fun s h => h
  · exact fun s h => h

/-- Concluding a run keeps its end. -/
theorem conclude_ensures (P : Resolver → Prop) (i : RunInput) (started : Int) (ending : RunEnd) :
    EnsuresOr (x.Refuses .runDuration) (fun s => P s.2) (conclude x.collaborators i started ending)
      fun result s => (∃ duration, result = .ok ⟨ending, duration⟩) ∧ P s.2 := by
  unfold conclude
  refine (ensures_beside x.clock P).next fun now => ?_
  refine (x.measure_ensures P _ _ _).bind (fun _ _ h => nomatch h.1) fun _ =>
    EnsuresOr.fact fun _ => ?_
  refine (x.notify_ensures P _).next fun _ => ?_
  refine (x.saveBody_ensures P i _).next fun _ => ?_
  exact ensuresOr_pure fun s h => ⟨⟨_, rfl⟩, h⟩

/-- A run ends as the answer of the client makes it end, unless an observation is refused: then it
fails, or it ends with the refusal. -/
theorem run_ensures (c : Config) (i : RunInput) (w : W) :
    EnsuresOr (x.Refuses .runDuration) (fun s => s.1 = w ∧ Resting s) (run x.collaborators c i)
      fun result s => ∃ ending duration, result = .ok ⟨ending, duration⟩ ∧
        (ending = i.ending c (fun call => (x.execute call (x.clock (x.clock w).2).2).1) ∧
            Resting s ∨
          ∃ e, x.Interferes e ∧ ending = .unexpected e) := by
  rw [run_eq]
  refine (ensures_beside_from x.clock Resolver.AtRest w).next fun started =>
    EnsuresOr.fact fun _ => ?_
  refine (x.runStages_ensures c i (x.clock w).2).caught fun ended => ?_
  have hdone := x.conclude_ensures Resolver.AtRest i started (.ofStages ended)
  have hanyway := x.conclude_ensures (fun _ => True) i started (.ofStages ended)
  rintro s (⟨rfl, hrest⟩ | ⟨e, hrefused, rfl⟩)
  · refine (hdone s hrest).imp_left ?_
    rintro ⟨⟨duration, hresult⟩, hrest'⟩
    exact ⟨_, duration, hresult, .inl ⟨rfl, hrest'⟩⟩
  · refine (hanyway s trivial).imp_left ?_
    rintro ⟨⟨duration, hresult⟩, -⟩
    exact ⟨_, duration, hresult, .inr ⟨e, hrefused, rfl⟩⟩

theorem not_refuses (hrecord : ∀ sample w, (x.record sample w).1 = .ok ()) (m : Metric)
    (e : Raised) : ¬x.Refuses m e := by
  rintro ⟨value, tags, w, hrefused⟩
  exact nomatch (hrecord _ w).symm.trans hrefused

/-- Where no observation is refused, a run ends as the answer of the client makes it end. -/
theorem run_calm (hrecord : ∀ sample w, (x.record sample w).1 = .ok ()) (c : Config)
    (i : RunInput) (w : W) {r : Resolver} (hrest : r.AtRest) :
    (∃ duration, (run x.collaborators c i (w, r)).1 =
      .ok ⟨i.ending c fun call => (x.execute call (x.clock (x.clock w).2).2).1, duration⟩) ∧
      Resting (run x.collaborators c i (w, r)).2 := by
  obtain ⟨ending, duration, hrun, ⟨rfl, hrest'⟩ | ⟨e, ⟨m, -, hrefused⟩, -⟩⟩ | ⟨e, hrefused, -⟩ :=
    x.run_ensures c i w (w, r) ⟨rfl, hrest⟩
  · exact ⟨⟨duration, hrun⟩, hrest'⟩
  · exact absurd hrefused (x.not_refuses hrecord m e)
  · exact absurd hrefused (x.not_refuses hrecord _ e)

end RunContext

end Conform
