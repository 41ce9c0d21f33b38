import Conform.Proofs.Json.Reading
import Conform.Proofs.Run.Outcome

/-!
# Which bodies are saved

Whether a run saves its body is decided by the name of its end, when everything is over. A body is
saved if it was usable, and also if it was never read because something unforeseen came first.

## Main definitions

- `RunInput.Gives` — an input gives a body
- `RunInput.Usable`, `RunInput.Overlooked` — the two sorts of bodies that are saved
- `Keeping` — an action whose end keeps the body, whatever it is
- `run_saves` — which bodies are saved, and that nothing depends on it
-/

namespace Conform

namespace RunInput

/-- An input gives a body: its method carries one, and it is not blank. -/
structure Gives (i : RunInput) (body : Text) : Prop where
  carries : carriesBody i.verb = true
  given : i.body = some body
  notBlank : body.strip ≠ []

/-- An input has an address that is not blank. -/
def Addressed (i : RunInput) : Prop := ∃ t, i.endpoint = .scalar (.text t) ∧ t.strip ≠ []

/-- A body is usable: it is given together with an address, and it is JSON. -/
structure Usable (i : RunInput) (body : Text) : Prop extends i.Gives body where
  addressed : i.Addressed
  isJson : ∃ v, Value.ofJson body = .ok v

/-- A body is given that is not read, because the address is no text, or because there is an integer
in it that is too long to be converted. -/
structure Overlooked (i : RunInput) (body : Text) : Prop extends i.Gives body where
  unforeseen : (∃ e, i.address = .error e) ∨
    i.Addressed ∧ ∃ digits, Value.ofJson body = .error (.integerTooLong digits)

variable {i : RunInput} {body : Text}

theorem content?_eq_some : RequestBody.content? i.verb i.body = some body ↔ i.Gives body := by
  unfold RequestBody.content?
  constructor
  · intro h
    split at h
    · rename_i t hbody
      split at h
      · rename_i hgives
        obtain rfl := Option.some.inj h
        simp only [Bool.and_eq_true, Bool.not_eq_true', List.isEmpty_eq_false_iff] at hgives
        exact ⟨hgives.1, hbody, hgives.2⟩
      · exact nomatch h
    · exact nomatch h
  · rintro ⟨hcarries, hbody, hblank⟩
    simp [hcarries, hbody, hblank]

/-- A body that is given is what is read. -/
theorem Gives.read_eq (h : i.Gives body) : RequestBody.read i.verb i.body = Value.ofJson body := by
  rw [RequestBody.read, content?_eq_some.mpr h]

end RunInput

/-- A text that begins with something else than a blank is not blank. -/
theorem Text.strip_ne_nil {c : CodePoint} {cs : Text} (hc : Text.isBlank c = false) :
    Text.strip (c :: cs) ≠ [] := by
  rw [Text.strip, List.dropWhile_cons_of_neg (by simp [hc]), Text.dropRightWhile, Ne,
    List.reverse_eq_nil_iff, List.dropWhile_eq_nil_iff]
  intro hall
  exact absurd ((hall c (by simp)).symm.trans hc) (by decide)

section Applied

variable {W α β : Type}

/-- A step that cannot fail, in front of others. -/
theorem next_apply (s : StateM W α) (f : α → Action W β) (w : W) :
    (liftM s >>= f : Action W β) w = f (s w).1 (s w).2 := rfl

/-- An error that is given instead of failing, in front of others. -/
theorem attempt_apply (act : Action W α) (f : Except Raised α → Action W β) (w : W) :
    (act.attempt >>= f) w = f (act w).1 (act w).2 := rfl

/-- An error ends an action. -/
theorem bind_of_error {act : Action W α} {w : W} {e : Raised} (h : (act w).1 = .error e)
    (f : α → Action W β) : (act >>= f) w = (.error e, (act w).2) := by
  change (ExceptT.bindCont f (act w).1 : StateM W _) (act w).2 = _
  rw [h]
  rfl

/-- An action goes on with what comes out first. -/
theorem bind_of_ok {act : Action W α} {w : W} {a : α} (h : (act w).1 = .ok a)
    (f : α → Action W β) : (act >>= f) w = f a (act w).2 := by
  change (ExceptT.bindCont f (act w).1 : StateM W _) (act w).2 = _
  rw [h]
  rfl

end Applied

section Keeping

variable {W α : Type}

/-- However an action ends, its end keeps the body. An error is an end, too. -/
def Keeping (act : Action W RunEnd) : Prop :=
  ∀ w, (RunEnd.ofStages (act w).1).keepsBody = true

theorem keeping_pure {ending : RunEnd} (h : ending.keepsBody = true) :
    Keeping (pure ending : Action W RunEnd) :=
  fun _ => h

/-- What comes first does not matter. -/
theorem Keeping.behind {f : α → Action W RunEnd} (h : ∀ a, Keeping (f a)) (act : Action W α) :
    Keeping (act >>= f) := by
  intro w
  cases hfirst : (act w).1 with
  | error e =>
    rw [bind_of_error hfirst]
    rfl
  | ok a =>
    rw [bind_of_ok hfirst]
    exact h a _

/-- What is known already. -/
theorem Keeping.known {a : α} {f : α → Action W RunEnd} (h : Keeping (f a)) :
    Keeping (liftM (.ok a : Except Raised α) >>= f) := h

end Keeping

section Stages

variable {W : Type} (co : Collaborators W) (c : Config) {i : RunInput} {body : Text}

theorem keeping_checkResponse (i : RunInput) (response : Response) (v : Version) :
    Keeping (checkResponse co c i response v) := by
  unfold checkResponse
  split
  · exact Keeping.behind (fun _ => keeping_pure rfl) _
  · exact Keeping.behind (fun _ => keeping_pure rfl) _

/-- The stages of a run end so that a body that is given is kept, if it is usable or overlooked. -/
theorem keepsBody_runStages (hgives : i.Gives body) (w : W) :
    (RunEnd.ofStages (runStages co c i w).1).keepsBody = true ↔
      i.Usable body ∨ i.Overlooked body := by
  unfold runStages
  rw [hgives.read_eq]
  cases haddress : i.address with
  | error e =>
    have hover : i.Overlooked body := ⟨hgives, .inl ⟨e, haddress⟩⟩
    exact iff_of_true rfl (.inr hover)
  | ok address =>
    cases address with
    | none =>
      have hnone : ¬i.Addressed := by
        rw [RunInput.Addressed, ← i.address_isSome, haddress]
        simp
      refine iff_of_false Bool.false_ne_true ?_
      rintro (husable | ⟨-, ⟨e, he⟩ | ⟨hsome, -⟩⟩)
      · exact hnone husable.addressed
      · exact nomatch haddress.symm.trans he
      · exact hnone hsome
    | some address =>
      have haddressed : i.Addressed := i.address_isSome.mp ⟨address, haddress⟩
      cases hbody : Value.ofJson body with
      | error failure =>
        have hunusable : ¬i.Usable body := by
          rintro ⟨-, -, v, hv⟩
          exact nomatch hbody.symm.trans hv
        cases failure with
        | integerTooLong digits =>
          have hover : i.Overlooked body := ⟨hgives, .inr ⟨haddressed, digits, hbody⟩⟩
          exact iff_of_true rfl (.inr hover)
        | _ =>
          -- The end is called a bad body.
          refine iff_of_false Bool.false_ne_true ?_
          rintro (husable | ⟨-, ⟨e, he⟩ | ⟨-, digits, hdigits⟩⟩)
          · exact hunusable husable
          · exact nomatch haddress.symm.trans he
          · exact nomatch hbody.symm.trans hdigits
      | ok v =>
        refine iff_of_true ?_ (.inl ⟨hgives, haddressed, v, hbody⟩)
        -- No later end is one of those that do not keep the body.
        suffices h : Keeping _ from h w
        refine Keeping.known ?_
        dsimp only
        refine Keeping.behind (fun started => ?_) _
        refine Keeping.behind (fun answer => ?_) _
        split
        · exact keeping_pure rfl
        · exact keeping_pure rfl
        · refine Keeping.behind (fun now => ?_) _
          refine Keeping.behind (fun _ => ?_) _
          refine Keeping.behind (fun found => ?_) _
          split
          · exact keeping_pure rfl
          · exact keeping_checkResponse co c i _ _

end Stages

section Ends

variable {W : Type} (co : Collaborators W) (c : Config) (i : RunInput)

/-- What is made of the result of an action by steps that cannot fail. -/
theorem bind_apply {α β : Type} (act : Action W α) (f : α → Action W β) (b : β)
    (h : ∀ a w, (f a w).1 = .ok b) (w : W) :
    ((act >>= f) w).1 = (act w).1.map fun _ => b := by
  cases hfirst : (act w).1 with
  | error e =>
    rw [bind_of_error hfirst]
    rfl
  | ok a =>
    rw [bind_of_ok hfirst]
    exact h a _

/-- The result of concluding a run is there if the measurement is. -/
theorem conclude_result (started : Int) (ending : RunEnd) (w : W) :
    (conclude co i started ending w).1 =
      (co.measure .runDuration (Double.nearestInt ((co.clock w).1 - started))
        [(Text.ofString "outcome", ending.outcome)] (co.clock w).2).1.map
          fun _ => ⟨ending, (co.clock w).1 - started⟩ := by
  unfold conclude
  rw [next_apply, bind_apply]
  exact fun _ _ => rfl

/-- The result of a run is the one of concluding it behind its stages. -/
theorem run_result (w : W) :
    (run co c i w).1 =
      (conclude co i (co.clock w).1 (.ofStages (runStages co c i (co.clock w).2).1)
        (runStages co c i (co.clock w).2).2).1 := by
  rw [run_eq, next_apply, attempt_apply]

theorem ending_of_run {w : W} {r : RunResult} (h : (run co c i w).1 = .ok r) :
    r.ending = .ofStages (runStages co c i (co.clock w).2).1 := by
  rw [run_result, conclude_result] at h
  cases hmeasured : (co.measure .runDuration _ _ _).1 with
  | error e =>
    rw [hmeasured] at h
    exact nomatch h
  | ok u =>
    rw [hmeasured] at h
    cases h
    rfl

/-- The result of a run is the same, whatever saves its body. -/
theorem run_save (save : Option (Text → Action W Unit)) (w : W) :
    (run { co with save } c i w).1 = (run co c i w).1 := by
  rw [run_result, run_result, conclude_result, conclude_result]
  rfl

/-- The body that a run keeps, if it is given one, something saves bodies, and the run ends. -/
theorem keptBody_eq_some {r : RunResult} {w : W} (hsave : co.save.isSome = true)
    (h : (run co c i w).1 = .ok r) (body : Text) :
    keptBody co i r = some body ↔ i.Usable body ∨ i.Overlooked body := by
  have hkeeps (hgives : i.Gives body) :
      r.ending.keepsBody = true ↔ i.Usable body ∨ i.Overlooked body := by
    rw [ending_of_run co c i h]
    exact keepsBody_runStages co c hgives _
  unfold keptBody
  rw [hsave, Bool.true_and]
  constructor
  · intro hkept
    split at hkept
    · rename_i hends
      exact (hkeeps (RunInput.content?_eq_some.mp hkept)).mp hends
    · exact nomatch hkept
  · intro hsaved
    have hgives : i.Gives body := hsaved.elim (·.toGives) (·.toGives)
    rw [if_pos ((hkeeps hgives).mpr hsaved)]
    exact RunInput.content?_eq_some.mpr hgives

/-- The bodies in the log of a run that ends. -/
theorem Concludes.bodies {calls : List RequestCall} {r : RunResult} {log : List Contact}
    (h : Concludes co i calls (.ok r) log) :
    log.filterMap Contact.body? = (keptBody co i r).toList := by
  obtain ⟨before, hmade, ⟨e, hresult, -⟩ | ⟨r', hresult, rfl⟩⟩ := h
  · exact nomatch hresult
  · cases hresult
    rw [List.filterMap_append, hmade.bodies, List.nil_append, List.filterMap_cons_none rfl,
      List.filterMap_map]
    exact List.filterMap_some

end Ends

/-- A body is saved at most once and as it is. If a run comes to a result, a body is saved exactly
if it was usable or overlooked: given with a method that carries one and not blank, and either it is
JSON and the address is not blank, or it was not read because the address is no text or because an
integer in it is too long. A run whose measurement is refused comes to no result, and saves nothing.
The result is the same, whatever else saves bodies, or if nothing does. -/
theorem run_saves {W : Type} (co : Collaborators W) (c : Config) (i : RunInput) (w : W)
    (hsave : co.save.isSome = true) :
    (∃ log,
      run co.watched c i (w, []) = ((run co c i w).1, ((run co c i w).2, log)) ∧
      (log.filterMap Contact.body?).length ≤ 1 ∧
      (∀ r, (run co c i w).1 = .ok r → ∀ body,
        log.filterMap Contact.body? = [body] ↔ i.Usable body ∨ i.Overlooked body) ∧
      ∀ e, (run co c i w).1 = .error e → log.filterMap Contact.body? = [] ∧
        ∃ sample w', (co.record sample w').1 = .error e) ∧
      ∀ save, (run { co with save } c i w).1 = (run co c i w).1 := by
  obtain ⟨log, hrun, hconcludes⟩ := attempts_run co c i w []
  rw [List.nil_append] at hrun
  refine ⟨⟨log, hrun, ?_⟩, fun save => run_save co c i save w⟩
  cases hresult : (run co c i w).1 with
  | ok r =>
    rw [hresult] at hconcludes
    have hbodies := hconcludes.bodies
    refine ⟨?_, fun r' hr' body => ?_, fun e he => nomatch he⟩
    · rw [hbodies]
      exact Option.length_toList_le
    · cases hr'
      rw [hbodies, ← keptBody_eq_some co c i hsave hresult body]
      cases keptBody co i r <;> simp
  | error e =>
    rw [hresult] at hconcludes
    obtain ⟨before, hmade, ⟨e', he', rfl, hrefused⟩ | ⟨r, hr, -⟩⟩ := hconcludes
    · cases he'
      rw [hmade.bodies]
      refine ⟨Nat.zero_le 1, fun r hr => ?_, fun e' he' => ?_⟩
      · exact nomatch hr
      · cases he'
        exact ⟨rfl, hrefused⟩
    · exact nomatch hr

/-- A body that is saved once although saving it fails. -/
theorem run_saves_failing :
    let co : Collaborators Unit :=
      { execute := fun _ => pure (.error .noResponse)
        resolve := fun _ => pure none
        record := fun _ => pure ()
        observers := []
        save := some fun _ => throw ⟨"full"⟩
        clock := pure 7 }
    let i : RunInput :=
      { source := "z.any()", endpoint := .text " http://a ", method := "post", body := some " [1]" }
    co.save.isSome = true ∧
      ∃ r log, run co.watched {} i ((), []) = (.ok r, ((), log)) ∧
        r.ending.outcome = Text.ofString "no_response" ∧
        log.filterMap Contact.body? = [Text.ofString " [1]"] ∧
        (run { co with save := none } {} i ()).1 = .ok r := by
  intro co i
  have hresult : (run co {} i ()).1 = .ok ⟨.noResponse, 0⟩ := by with_unfolding_all rfl
  have hbody : Value.ofJson " [1]" = .ok (.array [.int 1]) := by with_unfolding_all rfl
  have husable : i.Usable " [1]" :=
    ⟨⟨by decide, rfl, by decide⟩, ⟨_, rfl, by decide⟩, _, hbody⟩
  obtain ⟨⟨log, hrun, -, hsaved, -⟩, hsame⟩ := run_saves co {} i () rfl
  refine ⟨rfl, _, log, ?_, ?_, (hsaved _ hresult _).mpr (.inl husable), (hsame none).trans hresult⟩
  · rw [hrun, hresult]
  · rfl

/-- A body that is saved although it cannot be read: an integer with too many digits. -/
theorem run_saves_unread :
    let body : Text := List.replicate 4301 '1'.toNat
    let co : Collaborators Unit :=
      { execute := fun _ => pure (.error .noResponse)
        resolve := fun _ => pure none
        record := fun _ => pure ()
        observers := []
        save := some fun _ => pure ()
        clock := pure 7 }
    let i : RunInput :=
      { source := "z.any()", endpoint := .text "http://a", method := "POST", body := some body }
    (∀ v, Value.ofJson body ≠ .ok v) ∧
      ∃ r log, run co.watched {} i ((), []) = (.ok r, ((), log)) ∧
        r.ending.outcome = Text.ofString "internal_error" ∧
        log.filterMap Contact.body? = [body] := by
  intro body co i
  have hlength : body.length = 4301 := List.length_replicate
  have hdigits : body.AreDigits := by
    intro c hc
    rw [List.eq_of_mem_replicate hc]
    decide
  have hread : Value.ofJson body = .error (.integerTooLong body.length) :=
    Json.ofJson_digits hdigits ⟨_, _, rfl, by decide⟩ (by rw [hlength]; decide)
  have hover : i.Overlooked body :=
    ⟨⟨by decide, rfl, Text.strip_ne_nil (c := '1'.toNat) (by decide)⟩,
      .inr ⟨⟨_, rfl, by decide⟩, _, hread⟩⟩
  have hstages : (runStages co {} i ()).1 =
      .error ⟨(Json.Failure.integerTooLong body.length).message []⟩ := by
    have haddress : i.address = .ok (some (Text.ofString "http://a")) := by decide
    unfold runStages
    rw [hover.read_eq, hread, haddress]
    rfl
  refine ⟨fun v hv => (nomatch hread.symm.trans hv), ?_⟩
  obtain ⟨log, hrun, hconcludes⟩ := attempts_run co {} i () []
  cases hresult : (run co {} i ()).1 with
  | error e =>
    rw [hresult] at hconcludes
    obtain ⟨before, -, ⟨e', -, -, sample, w, hrefused⟩ | ⟨r, hr, -⟩⟩ := hconcludes
    · exact nomatch hrefused
    · exact nomatch hr
  | ok r =>
    have hworld : (run co {} i ()).2 = () := Subsingleton.elim _ _
    rw [hresult, hworld, List.nil_append] at hrun
    rw [hresult] at hconcludes
    refine ⟨r, log, hrun, ?_, ?_⟩
    · rw [ending_of_run co {} i hresult, hstages]
      rfl
    · rw [hconcludes.bodies, (keptBody_eq_some co {} i rfl hresult body).mpr (.inr hover)]
      rfl

end Conform
