import Conform.Proofs.Run.Endings

/-!
# Disturbances of runs

Failures of the client and of fetches are ways for a run to end. Failures of observers and of what
keeps bodies leave no trace in its result. It is different with observations of metrics: one that is
refused in a stage takes the place of the end, and one that is refused behind the stages makes the
run fail.

## Main definitions

- `run_undisturbed` — a run compared with one in which nothing is refused
- `run_disturbed` — refused observations
-/

namespace Conform

/-- A run comes to the same end as one with the same client whose observations are all recorded,
whatever fetches, observers and what keeps bodies do in either of them and whatever has been
resolved before; and the latter run always comes to an end. The exceptions are these: an observation
in a stage may be refused, and then the run ends with the refusal; and the observation of how long
the run took may be refused, and then the run fails with it. -/
theorem run_undisturbed {W : Type} (x y : RunContext W) (hexecute : y.execute = x.execute)
    (hclock : y.clock = x.clock) (hrecord : ∀ sample w, (y.record sample w).1 = .ok ()) (c : Config)
    (i : RunInput) (w : W) {r r' : Resolver} (hrest : r.AtRest) (hrest' : r'.AtRest) :
    ∃ calm, (run y.collaborators c i (w, r')).1 = .ok calm ∧
      ((∃ result, (run x.collaborators c i (w, r)).1 = .ok result ∧ result.ending = calm.ending) ∨
        (∃ result e, (run x.collaborators c i (w, r)).1 = .ok result ∧
          result.ending = .unexpected e ∧ x.Interferes e) ∨
        ∃ e, (run x.collaborators c i (w, r)).1 = .error e ∧ x.Refuses .runDuration e) := by
  obtain ⟨⟨duration, hcalm⟩, -⟩ := y.run_calm hrecord c i w hrest'
  rw [hexecute, hclock] at hcalm
  refine ⟨_, hcalm, ?_⟩
  obtain ⟨ending, duration', hrun, ⟨hending, -⟩ | ⟨e, hrefused, rfl⟩⟩ | ⟨e, hrefused, hrun⟩ :=
    x.run_ensures c i w (w, r) ⟨rfl, hrest⟩
  · exact .inl ⟨_, hrun, hending⟩
  · exact .inr (.inl ⟨_, e, hrun, rfl, hrefused⟩)
  · exact .inr (.inr ⟨e, hrun, hrefused⟩)

/-- A run in which a fetch, an observer and what keeps the body fail. -/
theorem run_undisturbed_failing :
    let y : RunContext Unit :=
      { execute := fun _ => pure (.ok ⟨200, "OK", [], .bool true⟩)
        fetch := fun _ => pure "declare"
        record := fun _ => pure ()
        observers := []
        save := none
        clock := pure 0 }
    let x : RunContext Unit :=
      { y with
        fetch := fun _ => throw ⟨"unreachable"⟩
        observers := [fun _ => throw ⟨"unheard"⟩]
        save := some fun _ => throw ⟨"full"⟩ }
    let i : RunInput :=
      { source := "z.boolean()"
        endpoint := .text "http://a"
        method := "post"
        body := some "[1]" }
    ∃ calm result, (run y.collaborators {} i ((), { fetches := true })).1 = .ok calm ∧
      (run x.collaborators {} i ((), { fetches := true })).1 = .ok result ∧
      result.ending = calm.ending := by
  intro y x i
  have hrecord (sample : MetricSample) (w : Unit) : (x.record sample w).1 = .ok () := rfl
  obtain ⟨calm, hcalm, ⟨result, hrun, hending⟩ | ⟨-, e, -, -, m, -, hrefused⟩ | ⟨e, -, hrefused⟩⟩ :=
    run_undisturbed x y rfl rfl hrecord {} i () (Resolver.atRest_new true)
      (Resolver.atRest_new true)
  · exact ⟨calm, result, hcalm, hrun, hending⟩
  · exact absurd hrefused (x.not_refuses hrecord m e)
  · exact absurd hrefused (x.not_refuses hrecord _ e)

/-- The same run where nothing is refused, where the latency is, and where the duration is. -/
theorem run_disturbed :
    let x (refused : Option Metric) : RunContext Unit :=
      { execute := fun _ => pure (.ok ⟨200, "OK", [], .bool true⟩)
        fetch := fun _ => pure []
        record := fun sample =>
          if (refused.map Metric.name) = some sample.name then throw ⟨"no space left"⟩ else pure ()
        observers := []
        save := none
        clock := pure 0 }
    let i : RunInput := { source := "z.boolean()", endpoint := .text "http://a" }
    let result (refused : Option Metric) :=
      (run (x refused).collaborators {} i ((), { fetches := false })).1
    ((result none).map fun r => (r.ending.success, r.ending.outcome)) =
        .ok (true, Text.ofString "validated") ∧
      ((result (some .requestLatency)).map fun r => (r.ending.success, r.ending.outcome)) =
        .ok (false, Text.ofString "internal_error") ∧
      ((result (some .runDuration)).map fun r => (r.ending.success, r.ending.outcome)) =
        .error ⟨"no space left"⟩ := by
  decide +kernel

end Conform
