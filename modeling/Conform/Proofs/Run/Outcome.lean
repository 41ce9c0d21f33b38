import Conform.Proofs.Run.Contacts

/-!
# Outcomes of runs

However its collaborators behave, a run whose measurements can be recorded ends with a result. The
call of its input is executed, if the input has one; then the end of the run is announced, once, and
then a body may be kept.

## Main definitions

- `RunInput.call?` — the call of an input
- `Made` — the calls, the events and the bodies of a log
- `attempts_runStages`, `attempts_run` — what is asked in the stages of a run, and in a whole run
- `run_outcome` — the result of a run, and what its collaborators are asked
-/

namespace Conform

/-- The call of an input, if there is an address and the body can be read. -/
def RunInput.call? (i : RunInput) : Option RequestCall :=
  match i.address, RequestBody.read i.verb i.body with
  | .ok (some address), .ok body => some ⟨address, i.verb, i.headers, body⟩
  | _, _ => none

/-- The calls, the events and the bodies of a log, in order. -/
structure Made (calls : List RequestCall) (events : List Event) (bodies : List Text)
    (log : List Contact) : Prop where
  calls : log.filterMap Contact.call? = calls
  events : log.filterMap Contact.event? = events
  bodies : log.filterMap Contact.body? = bodies

section Made

variable {calls calls' : List RequestCall} {events events' : List Event}
  {bodies bodies' : List Text} {log log' : List Contact}

theorem made_nil : Made [] [] [] [] := ⟨rfl, rfl, rfl⟩

theorem Made.append (h : Made calls events bodies log) (h' : Made calls' events' bodies' log') :
    Made (calls ++ calls') (events ++ events') (bodies ++ bodies') (log ++ log') := by
  constructor
  · rw [List.filterMap_append, h.calls, h'.calls]
  · rw [List.filterMap_append, h.events, h'.events]
  · rw [List.filterMap_append, h.bodies, h'.bodies]

end Made

variable {W : Type} (co : Collaborators W) (c : Config) (i : RunInput)

section Stages

/-- An observation is recorded. -/
theorem attempts_measure (m : Metric) (value : Double) (tags : List (Text × Text)) :
    Attempts (co.watched.measure m value tags) (co.measure m value tags)
      fun _ new => Made [] [] [] new :=
  (watches_logged _ _).mono fun _ _ hnew => hnew ▸ ⟨rfl, rfl, rfl⟩

/-- A call is executed. -/
theorem attempts_execute (call : RequestCall) :
    Attempts (co.watched.execute call) (co.execute call) fun _ new => Made [call] [] [] new :=
  (watches_logged _ _).mono fun _ _ hnew => hnew ▸ ⟨rfl, rfl, rfl⟩

/-- A version is resolved. -/
theorem attempts_resolve (name : Text) :
    Attempts (co.watched.resolve name) (co.resolve name) fun _ new => Made [] [] [] new :=
  (watches_logged _ _).mono fun _ _ hnew => hnew ▸ ⟨rfl, rfl, rfl⟩

theorem attempts_reportOf (e : CompileError) :
    Attempts (co.watched.reportOf e) (co.reportOf e) fun _ new => Made [] [] [] new := by
  unfold Collaborators.reportOf
  split
  · refine (attempts_measure co _ _ _).bind (fun _ _ h => h) fun _ new hnew => attempts_pure ?_
    simpa using hnew
  · exact attempts_throw made_nil

theorem attempts_checkResponse (response : Response) (v : Version) :
    Attempts (checkResponse co.watched c i response v) (checkResponse co c i response v)
      fun _ new => Made [] [] [] new := by
  unfold checkResponse
  split
  · refine (attempts_reportOf co _).bind (fun _ _ h => h) fun _ new hnew => attempts_pure ?_
    simpa using hnew
  · refine (attempts_measure co _ _ _).bind (fun _ _ h => h) fun _ new hnew => attempts_pure ?_
    simpa using hnew

/-- The stages of a run execute the call of its input, if it has one. -/
theorem attempts_runStages :
    Attempts (runStages co.watched c i) (runStages co c i)
      fun _ new => Made i.call?.toList [] [] new := by
  unfold runStages RunInput.call?
  cases haddress : i.address with
  | error e => exact attempts_throw made_nil
  | ok address =>
    cases address with
    | none => exact attempts_pure made_nil
    | some address =>
      cases hbody : RequestBody.read i.verb i.body with
      | error failure =>
        cases failure with
        | integerTooLong digits => exact attempts_throw made_nil
        | _ => exact attempts_pure made_nil
      | ok body =>
        refine Attempts.known ?_
        dsimp only
        refine (watches_unlogged co.clock).next fun started new hnew => ?_
        subst hnew
        refine (attempts_execute co _).bind (fun _ _ h => h) fun answer new hnew => ?_
        -- The call is in the log; none of the later stages adds another one.
        refine Watches.mono (P := fun _ more => Made [] [] [] more) ?_ fun _ more hmore =>
          hnew.append hmore
        split
        · exact attempts_pure made_nil
        · exact attempts_pure made_nil
        · rename_i response
          refine (watches_unlogged co.clock).next fun now new hnew => ?_
          subst hnew
          refine (attempts_measure co _ _ _).bind (fun _ _ h => h) fun _ new hnew => ?_
          refine (attempts_resolve co _).bind (fun _ _ h => hnew.append h)
            fun version new' hnew' => ?_
          split
          · exact attempts_pure (hnew.append (hnew'.append made_nil))
          · exact (attempts_checkResponse co c i response _).mono fun _ _ hmore =>
              hnew.append (hnew'.append hmore)

end Stages

section Ending

/-- An event is announced once, whatever the functions do that are called with it. -/
theorem watches_notify (event : Event) :
    Watches (co.watched.notify event) (co.notify event) fun _ new => new = [.announced event] := by
  have hobservers (observers : List (Event → Action W Unit)) :
      Watches (dispatch (fun f e => f e) (observers.map fun f event => unlogged (f event)) event)
        (dispatch (fun f e => f e) observers event) fun _ new => new = [] := by
    induction observers with
    | nil => exact watches_pure rfl
    | cons f observers ih =>
      have hsettled : Watches (Action.settle (unlogged (f event))) (Action.settle (f event))
          fun _ new => new = [] := Attempts.settle (watches_unlogged (f event)) fun _ _ h => h
      refine hsettled.bind fun _ new hnew => ?_
      subst hnew
      exact ih
  intro w log
  obtain ⟨new, heq, rfl⟩ := hobservers co.observers w (log ++ [.announced event])
  rw [List.append_nil] at heq
  exact ⟨_, heq, rfl⟩

/-- The body that a run keeps, if it keeps one. -/
def keptBody (r : RunResult) : Option Text :=
  if co.save.isSome && r.ending.keepsBody then RequestBody.content? i.verb i.body else none

theorem watches_saveBody (r : RunResult) :
    Watches (saveBody co.watched i r) (saveBody co i r)
      fun _ new => new = (keptBody co i r).toList.map .saved := by
  unfold saveBody keptBody
  cases hbody : RequestBody.content? i.verb i.body with
  | none => exact watches_pure (by simp)
  | some body =>
    cases hsave : co.save with
    | none =>
      have hwatched : co.watched.save = none := by rw [Collaborators.watched, hsave]; rfl
      rw [hwatched]
      exact watches_pure rfl
    | some save =>
      have hwatched : co.watched.save = some fun body => logged (.saved body) (save body) := by
        rw [Collaborators.watched, hsave]
        rfl
      rw [hwatched]
      cases hkeeps : r.ending.keepsBody with
      | false => exact watches_pure rfl
      | true => exact Attempts.settle (watches_logged (.saved body) (save body)) fun _ _ h => h

end Ending

/-- The end that the stages of a run come to; an error is one, too. -/
def RunEnd.ofStages : Except Raised RunEnd → RunEnd
  | .ok ending => ending
  | .error error => .unexpected error

/-- What is left of a run when its end is known: it is measured and announced, and its body is
kept. -/
def conclude {W : Type} (co : Collaborators W) (i : RunInput) (started : Int) (ending : RunEnd) :
    Action W RunResult := do
  let result : RunResult := ⟨ending, (← co.clock) - started⟩
  co.measure .runDuration (Double.nearestInt result.duration)
    [(Text.ofString "outcome", ending.outcome)]
  co.notify (runCompleted i result)
  saveBody co i result
  return result

theorem run_eq :
    run co c i = (do
      let started ← co.clock
      let ended ← (runStages co c i).attempt
      conclude co i started (.ofStages ended)) := by
  unfold run
  congr 1
  funext started
  congr 1
  funext ended
  cases ended with
  | ok ending => rfl
  | error error => rfl

/-- The log of a run with some calls: if the measurement fails, the run fails and there is nothing
else; otherwise its end is announced and its body may be kept. -/
def Concludes (calls : List RequestCall) (result : Except Raised RunResult)
    (log : List Contact) : Prop :=
  ∃ before, Made calls [] [] before ∧
    ((∃ e, result = .error e ∧ log = before ∧ ∃ sample w, (co.record sample w).1 = .error e) ∨
      ∃ r, result = .ok r ∧
        log = before ++ .announced (runCompleted i r) :: (keptBody co i r).toList.map .saved)

/-- The calls of such a log: what is announced and kept is no call. -/
theorem Concludes.calls {calls : List RequestCall} {result : Except Raised RunResult}
    {log : List Contact} (h : Concludes co i calls result log) :
    log.filterMap Contact.call? = calls := by
  obtain ⟨before, hmade, ⟨e, -, rfl, -⟩ | ⟨r, -, rfl⟩⟩ := h
  · exact hmade.calls
  · have hkept : ((keptBody co i r).toList.map Contact.saved).filterMap Contact.call? = [] := by
      rw [List.filterMap_map]
      exact List.filterMap_eq_nil_iff.mpr fun _ _ => rfl
    rw [List.filterMap_append, hmade.calls, List.filterMap_cons_none rfl, hkept, List.append_nil]

theorem attempts_conclude (started : Int) (ending : RunEnd) :
    Attempts (conclude co.watched i started ending) (conclude co i started ending)
      (Concludes co i []) := by
  unfold conclude
  refine (watches_unlogged co.clock).next fun now new hnew => ?_
  subst hnew
  refine Attempts.bind (attempts_measure co _ _ _).result (fun e before h => ?_)
    fun _ before h => ?_
  · obtain ⟨hbefore, w, hfailed⟩ := h
    exact ⟨before, hbefore, .inl ⟨e, rfl, rfl, _, w, hfailed⟩⟩
  · refine (watches_notify co _).next fun _ new hnew => ?_
    subst hnew
    refine (watches_saveBody co i _).next fun _ new hnew => ?_
    subst hnew
    exact attempts_pure ⟨before, h.1, .inr ⟨_, rfl, by simp⟩⟩

/-- A run makes the call of its input, if it has one, and then concludes. -/
theorem attempts_run :
    Attempts (run co.watched c i) (run co c i) (Concludes co i i.call?.toList) := by
  rw [run_eq, run_eq]
  refine (watches_unlogged co.clock).next fun started new hnew => ?_
  subst hnew
  refine (attempts_runStages co c i).caught fun ended stages hstages => ?_
  refine (attempts_conclude co i started (.ofStages ended)).mono fun result new h => ?_
  obtain ⟨before, hbefore, h⟩ := h
  refine ⟨stages ++ before, by simpa using hstages.append hbefore, ?_⟩
  obtain ⟨e, hresult, rfl, hfailed⟩ | ⟨r, hresult, rfl⟩ := h
  · exact .inl ⟨e, hresult, rfl, hfailed⟩
  · exact .inr ⟨r, hresult, by simp⟩

section Ends

namespace RunEnd

variable (e : RunEnd)

theorem success_iff_outcome : e.success = true ↔ e.outcome = Text.ofString "validated" := by
  cases e <;> simp only [success, outcome] <;> decide

theorem success_iff_issues : e.success = true ↔ e.issues?.isSome = true := by
  cases e <;> simp [success, issues?]

/-- The message of a run that came to the end tells whether there are violations, and how many. -/
theorem message_of_issues {e : RunEnd} {issues : List Issue} (h : e.issues? = some issues) :
    (e.message = Text.ofString "Schema test passed" ↔ issues = []) ∧
      (issues ≠ [] → e.message =
        "Schema test failed: " ++ Text.ofNat issues.length ++ " error(s)") := by
  cases e with
  | validated response found =>
    obtain rfl : found = issues := Option.some.inj h
    cases found with
    | nil => exact ⟨iff_of_true rfl rfl, absurd rfl⟩
    | cons issue more =>
      refine ⟨iff_of_false (fun hpassed => ?_) (List.cons_ne_nil _ _), fun _ => rfl⟩
      -- The two messages differ where one says that the test has passed.
      have hpart := congrArg (List.take 13) hpassed
      rw [message, if_neg (by simp), List.append_assoc,
        List.take_append_of_le_length (by decide)] at hpart
      exact absurd hpart (by decide)
  | _ => exact nomatch h

end RunEnd

/-- There is an address if it is a text that is not blank. -/
theorem RunInput.address_isSome : (∃ address, i.address = .ok (some address)) ↔
    ∃ t, i.endpoint = .scalar (.text t) ∧ t.strip ≠ [] := by
  unfold address
  split
  · rename_i t hendpoint
    rw [hendpoint]
    cases hstrip : t.strip with
    | nil => simp [hstrip]
    | cons c cs => simp [hstrip]
  · rename_i v hother
    refine iff_of_false ?_ ?_
    · split <;> simp
    · rintro ⟨t, ht, -⟩
      exact hother t ht

/-- A body can be read if there is none to read or if it is JSON. -/
theorem RequestBody.read_isOk {verb : Text} {body : Option Text} :
    (∃ v, RequestBody.read verb body = .ok v) ↔ carriesBody verb = false ∨
      (∀ t ∈ body, t.strip = []) ∨ ∃ t ∈ body, ∃ v, Value.ofJson t = .ok v := by
  unfold read content?
  cases body with
  | none => simp
  | some t =>
    cases hcarries : carriesBody verb with
    | false => simp
    | true =>
      cases hstrip : t.strip with
      | nil => simp [hstrip]
      | cons c cs => simp [hstrip]

/-- An input has a call if its address is not blank and its body can be read. -/
theorem RunInput.call?_isSome : i.call?.isSome = true ↔
    (∃ t, i.endpoint = .scalar (.text t) ∧ t.strip ≠ []) ∧
      (carriesBody i.verb = false ∨ (∀ t ∈ i.body, t.strip = []) ∨
        ∃ t ∈ i.body, ∃ v, Value.ofJson t = .ok v) := by
  rw [← RequestBody.read_isOk, ← address_isSome]
  unfold call?
  split
  · rename_i address body haddress hbody
    exact iff_of_true rfl ⟨⟨address, haddress⟩, ⟨body, hbody⟩⟩
  · rename_i hother
    refine iff_of_false Bool.false_ne_true ?_
    rintro ⟨⟨address, haddress⟩, ⟨body, hbody⟩⟩
    exact hother address body haddress hbody

end Ends

/-- If observations can be recorded, a run returns a result, however its collaborators behave. It is
a success exactly if its outcome says that the response was validated, and exactly if it has the
violations; then the message says whether there are any, and how many. The client executes a call at
most once, and it does so exactly if the address is not blank and the method carries no body, the
body is blank, or it is JSON. The end of the run is announced once with its outcome and its success,
before a body is kept. -/
theorem run_outcome {W : Type} (co : Collaborators W) (c : Config) (i : RunInput)
    (hrecord : ∀ sample w, (co.record sample w).1 = .ok ()) (w : W) :
    ∃ r w' before after log,
      run co c i w = (.ok r, w') ∧
      run co.watched c i (w, []) = (.ok r, (w', log)) ∧
      (r.ending.success = true ↔ r.ending.outcome = Text.ofString "validated") ∧
      (r.ending.success = true ↔ r.ending.issues?.isSome = true) ∧
      (∀ issues, r.ending.issues? = some issues →
        (r.ending.message = Text.ofString "Schema test passed" ↔ issues = []) ∧
        (issues ≠ [] → r.ending.message =
          "Schema test failed: " ++ Text.ofNat issues.length ++ " error(s)")) ∧
      (log.filterMap Contact.call?).length ≤ 1 ∧
      ((log.filterMap Contact.call?).length = 1 ↔
        (∃ t, i.endpoint = .scalar (.text t) ∧ t.strip ≠ []) ∧
          (carriesBody i.verb = false ∨ (∀ t ∈ i.body, t.strip = []) ∨
            ∃ t ∈ i.body, ∃ v, Value.ofJson t = .ok v)) ∧
      log = before ++ .announced (runCompleted i r) :: after ∧
      (∀ contact ∈ before, contact.event? = none ∧ contact.body? = none) ∧
      (∀ contact ∈ after, contact.event? = none) ∧
      (runCompleted i r).name = Text.ofString "orchestrator.run.completed" ∧
      Fields.get? (runCompleted i r).payload "outcome" = some (.scalar (.text r.ending.outcome)) ∧
      Fields.get? (runCompleted i r).payload "success" =
        some (.scalar (.bool r.ending.success)) := by
  obtain ⟨log, hrun, hconcludes⟩ := attempts_run co c i w []
  have hcalls := hconcludes.calls
  rw [List.nil_append] at hrun
  obtain ⟨before, hmade, ⟨e, -, -, sample, w₀, hfailed⟩ | ⟨r, hok, hlog⟩⟩ := hconcludes
  · exact nomatch (hrecord sample w₀).symm.trans hfailed
  refine ⟨r, (run co c i w).2, before, (keptBody co i r).toList.map .saved, log, ?_, ?_,
    r.ending.success_iff_outcome, r.ending.success_iff_issues,
    fun issues => RunEnd.message_of_issues, ?_, ?_, hlog, fun contact hcontact => ⟨?_, ?_⟩, ?_,
    rfl, rfl, rfl⟩
  · exact Prod.ext hok rfl
  · rw [← hok]
    exact hrun
  · rw [hcalls]
    exact Option.length_toList_le
  · rw [hcalls, ← i.call?_isSome]
    cases i.call? <;> simp
  · exact List.filterMap_eq_nil_iff.mp hmade.events contact hcontact
  · exact List.filterMap_eq_nil_iff.mp hmade.bodies contact hcontact
  · intro contact hcontact
    obtain ⟨body, -, rfl⟩ := List.mem_map.mp hcontact
    rfl

/-- A run in which the client, an observer and what keeps the body fail. -/
theorem run_outcome_failing :
    let co : Collaborators Unit :=
      { execute := fun _ => throw ⟨"refused"⟩
        resolve := fun _ => pure none
        record := fun _ => pure ()
        observers := [fun _ => throw ⟨"unheard"⟩]
        save := some fun _ => throw ⟨"full"⟩
        clock := pure 7 }
    let i : RunInput :=
      { source := "z.any()", endpoint := .text " http://a ", method := "post", body := some "[1]" }
    (∀ sample w, (co.record sample w).1 = .ok ()) ∧
      ∃ r w' log, run co {} i () = (.ok r, w') ∧ run co.watched {} i ((), []) = (.ok r, (w', log)) ∧
        r.ending.outcome = Text.ofString "internal_error" ∧
        (log.filterMap Contact.call?).length = 1 ∧
        ∃ before after, log = before ++ .announced (runCompleted i r) :: after ∧
          ∀ contact ∈ before, contact.event? = none ∧ contact.body? = none := by
  intro co i
  have hrecord : ∀ sample w, (co.record sample w).1 = .ok () := fun _ _ => rfl
  obtain ⟨r, w', before, after, log, hrun, hlog, -, -, -, -, hcalls, hsplit, hbefore, -⟩ :=
    run_outcome co {} i hrecord ()
  have hresult : (run co {} i ()).1 = .ok ⟨.unexpected ⟨"refused"⟩, 0⟩ := by with_unfolding_all rfl
  have hbody : Value.ofJson "[1]" = .ok (.array [.int 1]) := by with_unfolding_all rfl
  rw [hrun] at hresult
  cases hresult
  exact ⟨hrecord, _, w', log, hrun, hlog, rfl, hcalls.mpr
    ⟨⟨_, rfl, by decide⟩, .inr (.inr ⟨_, rfl, _, hbody⟩)⟩, before, after, hsplit, hbefore⟩

end Conform
