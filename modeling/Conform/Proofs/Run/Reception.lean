import Conform.Proofs.Compile.Failures
import Conform.Proofs.Run.Endings
import Conform.Proofs.Schema.Fields

/-!
# Received responses

A response that has come stays with the result of the run, whether the version is unknown, the
source does not compile, or the response is checked. It is lost where the end of the run is an error
that nothing foresees: one of compiling that is no report, or an observation that is refused.

## Main definitions

- `RunResult.Carries` — a result has the status, the words, the headers and the data of a response
- `RunResult.carries_of_response`, `RunResult.not_carries` — it does if its end has the response
- `run_received` — when the result of a run carries the response that has come
-/

namespace Conform

namespace RunResult

variable (result : RunResult) {response : Response}

/-- The fields of a response stand in a result. -/
def Carries (response : Response) : Prop :=
  ∀ field ∈ response.toFields, Fields.get? result.toFields field.1 = some field.2

theorem keys_toFields : result.toFields.map (·.1) =
    ((["success", "message", "outcome"]
      ++ if result.ending.response?.isSome then
        ["responseStatus", "responseStatusText", "responseHeaders", "data"] else [])
      ++ ((if result.ending.issues?.isSome then ["validationResult"] else [])
        ++ ["durationMs"])).map Text.ofString := by
  obtain ⟨ending, duration⟩ := result
  cases ending <;> rfl

/-- No field of a result hides another one. -/
theorem distinct_toFields : Fields.Distinct result.toFields := by
  rw [Fields.Distinct, keys_toFields]
  generalize result.ending.response?.isSome = received
  generalize result.ending.issues?.isSome = checked
  revert received checked
  decide

/-- A result carries the response that its end has. -/
theorem carries_of_response (h : result.ending.response? = some response) :
    result.Carries response := by
  intro field hfield
  refine result.distinct_toFields.get?_eq_some ?_
  rw [toFields, h]
  exact List.mem_append_left _ (List.mem_append_right _ hfield)

/-- A result whose end has no response carries none. -/
theorem not_carries (h : result.ending.response? = none) : ¬result.Carries response := by
  intro hcarries
  have hstatus := hcarries (Text.ofString "responseStatus", _) List.mem_cons_self
  have hkey : Text.ofString "responseStatus" ∈ result.toFields.map (·.1) :=
    List.mem_map_of_mem (Fields.mem_of_get? hstatus)
  rw [keys_toFields, h] at hkey
  generalize result.ending.issues?.isSome = checked at hkey
  revert checked
  decide

end RunResult

namespace RunInput

variable {c : Config} {i : RunInput} {call : RequestCall} {response : Response}
  {answer : RequestCall → Except Raised (Except RequestFailure Response)}

/-- Where the call of an input is answered with a response, the stages come to what comes out of
the response. -/
theorem stages_of_call (hcall : i.call? = some call) (hanswer : answer call = .ok (.ok response)) :
    i.stages c answer = i.received c response := by
  unfold call? at hcall
  split at hcall
  · rename_i address body haddress hbody
    obtain rfl := Option.some.inj hcall
    simp only [stages, haddress, hbody, hanswer]
  · exact nomatch hcall

/-- A response for a supported version is checked. -/
theorem received_of_version {v : Version} (hname : Version.ofName? (i.versionName c) = some v)
    (response : Response) : i.received c response = i.verdict c response v := by
  unfold received
  rw [hname]

/-- Compiling that fails without a report is an error of the run. -/
theorem verdict_of_size (c : Config) (i : RunInput) (response : Response) {v : Version}
    {e : CompileError} {size : SizeError} (hcompile : compile v i.source = .error e)
    (hreport : e.report = .error size) :
    i.verdict c response v = .error ⟨size.message⟩ := by
  unfold verdict
  simp only [hcompile, hreport]

/-- The end that comes out of a response has it, unless compiling fails without a report. -/
theorem received_response (c : Config) (i : RunInput) (response : Response) :
    (∃ ending, i.received c response = .ok ending ∧ ending.response? = some response) ∨
      ∃ v e size, Version.ofName? (i.versionName c) = some v ∧ compile v i.source = .error e ∧
        e.report = .error size ∧ i.received c response = .error ⟨size.message⟩ := by
  cases hname : Version.ofName? (i.versionName c) with
  | none => exact .inl ⟨.unknownVersion response (i.versionName c), by rw [received, hname], rfl⟩
  | some v =>
    rw [received_of_version hname]
    cases hcompile : compile v i.source with
    | ok s =>
      refine .inl ⟨.validated response (s.validate (some c.unknownKeys.name) response.data), ?_,
        rfl⟩
      rw [verdict, hcompile]
    | error e =>
      cases hreport : e.report with
      | ok report =>
        refine .inl ⟨.uncompiled response report, ?_, rfl⟩
        simp only [verdict, hcompile, hreport]
      | error size =>
        exact .inr ⟨v, e, size, rfl, hcompile, hreport,
          i.verdict_of_size c response hcompile hreport⟩

end RunInput

/-- If the client answers the call of a run with a response, the result of the run carries it:
its status, its words, its headers and its data. The exceptions are these. Where the source holds
something too large, so that compiling it fails without a report, the run ends with this error, and
without the response. And an observation may be refused: then the run ends with the refusal, or it
fails with it. -/
theorem run_received {W : Type} (x : RunContext W) (c : Config) (i : RunInput) (w : W)
    {r : Resolver} (hrest : r.AtRest) {call : RequestCall} (hcall : i.call? = some call)
    {response : Response}
    (hanswer : (x.execute call (x.clock (x.clock w).2).2).1 = .ok (.ok response)) :
    (∃ result, (run x.collaborators c i (w, r)).1 = .ok result ∧ result.Carries response) ∨
      (∃ result v e size, (run x.collaborators c i (w, r)).1 = .ok result ∧
        ¬result.Carries response ∧ result.ending = .unexpected ⟨size.message⟩ ∧
        Version.ofName? (i.versionName c) = some v ∧ compile v i.source = .error e ∧
        e.report = .error size ∧ Oversized i.source size) ∨
      (∃ result e, (run x.collaborators c i (w, r)).1 = .ok result ∧
        result.ending = .unexpected e ∧ x.Interferes e) ∨
      ∃ e, (run x.collaborators c i (w, r)).1 = .error e ∧ x.Refuses .runDuration e := by
  obtain ⟨ending, duration, hrun, ⟨hending, -⟩ | ⟨e, hrefused, rfl⟩⟩ | ⟨e, hrefused, hrun⟩ :=
    x.run_ensures c i w (w, r) ⟨rfl, hrest⟩
  · rw [RunInput.ending, RunInput.stages_of_call hcall hanswer] at hending
    obtain ⟨ending', hreceived, hresponse⟩ | ⟨v, e, size, hname, hcompile, hreport, hreceived⟩ :=
      i.received_response c response
    · rw [hreceived] at hending
      exact .inl ⟨_, hrun, RunResult.carries_of_response _ (hending ▸ hresponse)⟩
    · rw [hreceived] at hending
      exact .inr (.inl ⟨_, v, e, size, hrun, RunResult.not_carries _ (by rw [hending]; rfl),
        hending, hname, hcompile, hreport, oversized_of_compile hcompile hreport⟩)
  · exact .inr (.inr (.inl ⟨_, e, hrun, rfl, hrefused⟩))
  · exact .inr (.inr (.inr ⟨e, hrun, hrefused⟩))

/-- A run that asks for a version that is not supported. -/
theorem run_received_unknown :
    let response : Response := ⟨503, "Service Unavailable", [("retry-after", "1")], .text "busy"⟩
    let x : RunContext Unit :=
      { execute := fun _ => pure (.ok response)
        fetch := fun _ => throw ⟨"unreachable"⟩
        record := fun _ => pure ()
        observers := [fun _ => throw ⟨"unheard"⟩]
        save := none
        clock := pure 7 }
    let i : RunInput := { source := "z.any(", version := some "2.0", endpoint := .text "http://a" }
    ∃ result, (run x.collaborators {} i ((), { fetches := true })).1 = .ok result ∧
      result.Carries response := by
  intro response x i
  have hrecord (sample : MetricSample) (w : Unit) : (x.record sample w).1 = .ok () := rfl
  have hunknown : Version.ofName? (i.versionName {}) = none := by decide
  have hcall : i.call? = some ⟨"http://a", "GET", [], .null⟩ := rfl
  have hanswer : (x.execute ⟨"http://a", "GET", [], .null⟩ ()).1 = .ok (.ok response) := rfl
  rcases run_received x {} i () (Resolver.atRest_new true) hcall hanswer with
    hcarried | hlost | hinterfered | hrefused
  · exact hcarried
  · obtain ⟨-, v, -, -, -, -, -, hname, -⟩ := hlost
    exact nomatch hunknown.symm.trans hname
  · obtain ⟨-, e, -, -, m, -, hrefused⟩ := hinterfered
    exact absurd hrefused (x.not_refuses hrecord m e)
  · obtain ⟨e, -, hrefused⟩ := hrefused
    exact absurd hrefused (x.not_refuses hrecord _ e)

/-- A response whose run compiles a length that is no double. -/
theorem run_received_lost :
    let response : Response := ⟨200, "OK", [], .bool true⟩
    let x : RunContext Unit :=
      { execute := fun _ => pure (.ok response)
        fetch := fun _ => pure []
        record := fun _ => pure ()
        observers := []
        save := none
        clock := pure 0 }
    let i : RunInput :=
      { source := Text.ofString "z.string().min(1" ++ List.replicate 400 '0'.toNat ++
          Text.ofString ")"
        endpoint := .text "http://a" }
    (∃ call, i.call? = some call ∧ (x.execute call ()).1 = .ok (.ok response)) ∧
      ∃ result, (run x.collaborators {} i ((), { fetches := false })).1 = .ok result ∧
        result.ending.outcome = Text.ofString "internal_error" ∧ ¬result.Carries response := by
  intro response x i
  have hcall : i.call? = some ⟨"http://a", "GET", [], .null⟩ := rfl
  have hanswer : (x.execute ⟨"http://a", "GET", [], .null⟩ ()).1 = .ok (.ok response) := rfl
  obtain ⟨⟨duration, hrun⟩, -⟩ :=
    x.run_calm (fun _ _ => rfl) {} i () (Resolver.atRest_new false)
  have hname : Version.ofName? (i.versionName {}) = some .v3_24_2 := by decide
  have hfailed : (match compile .v3_24_2 i.source with
      | .ok _ => false
      | .error e => decide (e.report = .error .integerTooLarge)) = true := by decide +kernel
  cases hcompile : compile .v3_24_2 i.source with
  | ok s =>
    rw [hcompile] at hfailed
    exact nomatch hfailed
  | error e =>
    rw [hcompile] at hfailed
    have hreceived := (i.received_of_version hname response).trans
      (i.verdict_of_size {} response hcompile (of_decide_eq_true hfailed))
    rw [RunInput.ending, RunInput.stages_of_call hcall hanswer, hreceived] at hrun
    exact ⟨⟨_, hcall, hanswer⟩, _, hrun, rfl, RunResult.not_carries _ rfl⟩

end Conform
