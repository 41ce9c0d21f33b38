import Conform.Proofs.Schema.Fields
import Conform.Telemetry.Hooks
import Mathlib.Data.List.Count

/-!
# Registrations and their handles

What is left of the registrations for an event once some handles have been closed. A closed handle
takes away the earliest registration of its function that is left, so a function is called as often
as handles of it are open, but the calls that are left are the latest ones registered. They are
those of the open handles, in their order, as long as the handles of each function are closed from
the first one on.

## Main definitions

- `HookMove`, `HookBoard.afterAll` — registrations and closings, one after another
- `HookBoard.registered`, `HookBoard.closed`, `HookBoard.opened` — the functions of handles
- `HookBoard.Faithful` — the functions of an event are told by the handles
- `HookBoard.dispatch_afterAll` — which functions an event calls
-/

namespace Conform

section Dispatching

variable {W F : Type}

/-- Calls that are written down with their events, whether they fail or not. -/
def recorded (call : F → Event → Action W Unit) : F → Event → Action (W × List (F × Event)) Unit :=
  fun f event => ExceptT.mk fun (w, calls) =>
    let (result, w) := (call f event).run w
    (result, (w, calls ++ [(f, event)]))

/-- Every one of some functions is called once and in its turn, whichever of them fail. -/
theorem dispatch_recorded (call : F → Event → Action W Unit) (functions : List F) (event : Event)
    (w : W) (calls : List (F × Event)) :
    (dispatch (recorded call) functions event (w, calls)).2.2 =
      calls ++ functions.map fun f => (f, event) := by
  induction functions generalizing w calls with
  | nil => exact (List.append_nil calls).symm
  | cons f functions ih =>
    have hstep : dispatch (recorded call) (f :: functions) event (w, calls) =
        dispatch (recorded call) functions event
          (((call f event).run w).2, calls ++ [(f, event)]) := rfl
    rw [hstep, ih, List.map_cons, List.append_assoc, List.singleton_append]

end Dispatching

variable {F : Type}

namespace Hooks

variable (hooks : Hooks F) (name other : Text) (f : F)

theorem functions_add : functions (hooks.add name f) other =
    if other = name then functions hooks name ++ [f] else functions hooks other := by
  rw [add, functions, Fields.get?_insert]
  by_cases hother : other = name
  · simp [hother]
  · simp [hother, functions]

theorem functions_remove [DecidableEq F] : functions (hooks.remove name f) other =
    if other = name then (functions hooks name).erase f else functions hooks other := by
  unfold remove
  split
  · rename_i hlast
    rw [functions, Fields.get?_filter_ne]
    by_cases hother : other = name
    · simp [hother, hlast]
    · simp [hother, functions]
  · rw [functions, Fields.get?_insert]
    by_cases hother : other = name
    · simp [hother]
    · simp [hother, functions]

end Hooks

/-- A registration, or the closing of a handle. -/
inductive HookMove (F : Type)
  | register (name : Option Text) (function : Option F)
  | close (number : Nat)

namespace HookBoard

/-- The handles for an event, in the order of registration. -/
def handlesOf (board : HookBoard F) (name : Text) : List (HookHandle F) :=
  board.handles.filter fun handle => handle.name == name

/-- The functions that have been registered for an event. -/
def registered (board : HookBoard F) (name : Text) : List F :=
  (board.handlesOf name).map (·.function)

/-- The functions of the closed handles for an event. -/
def closed (board : HookBoard F) (name : Text) : List F :=
  ((board.handlesOf name).filter (·.closed)).map (·.function)

/-- The functions of the open handles for an event. -/
def opened (board : HookBoard F) (name : Text) : List F :=
  ((board.handlesOf name).filter fun handle => !handle.closed).map (·.function)

/-- No closed handle for an event stands behind an open one of the same function. -/
def IsOrderly (board : HookBoard F) (name : Text) : Prop :=
  (board.handlesOf name).Pairwise fun earlier later =>
    later.closed = true → earlier.function = later.function → earlier.closed = true

theorem closed_subperm (board : HookBoard F) (name : Text) :
    (board.closed name).Subperm (board.registered name) :=
  (List.filter_sublist.map _).subperm

variable [DecidableEq F]

/-- The board after a move. A registration that is refused changes nothing. -/
def after (board : HookBoard F) : HookMove F → HookBoard F
  | .register name function =>
    match board.register name function with
    | .ok (_, next) => next
    | .error _ => board
  | .close number => board.close number

/-- The board after some moves from the beginning on. -/
def afterAll (moves : List (HookMove F)) : HookBoard F := moves.foldl after {}

/-- The functions of every event are those registered for it without those of closed handles, each
of which has taken away the earliest one that was left. -/
def Faithful (board : HookBoard F) : Prop :=
  ∀ name, board.hooks.functions name = (board.registered name).diff (board.closed name)

section Removals

variable {l c : List F} {f : F}

/-- What is added behind a list is not reached by removals from it. -/
theorem diff_concat (h : c.Subperm l) (f : F) : (l ++ [f]).diff c = l.diff c ++ [f] := by
  induction c generalizing l with
  | nil => rfl
  | cons a c ih =>
    have ha : a ∈ l := h.subset List.mem_cons_self
    have hrest : c.Subperm (l.erase a) := by simpa using h.erase a
    rw [List.diff_cons, List.diff_cons, List.erase_append_left _ ha, ih hrest]

/-- The functions of open handles are left by removals in an orderly row of handles. -/
theorem diff_of_pairwise {handles : List (HookHandle F)}
    (h : handles.Pairwise fun earlier later =>
      later.closed = true → earlier.function = later.function → earlier.closed = true) :
    (handles.map (·.function)).diff ((handles.filter (·.closed)).map (·.function)) =
      (handles.filter fun handle => !handle.closed).map (·.function) := by
  induction handles with
  | nil => rfl
  | cons handle handles ih =>
    obtain ⟨hfirst, hrest⟩ := List.pairwise_cons.mp h
    cases hclosed : handle.closed with
    | true => simp [hclosed, ih hrest]
    | false =>
      -- The function of an open handle is not among those that are removed.
      have hkept : handle.function ∉ (handles.filter (·.closed)).map (·.function) := by
        intro hmem
        obtain ⟨later, hlater, hsame⟩ := List.mem_map.mp hmem
        obtain ⟨hlater, hlaterClosed⟩ := List.mem_filter.mp hlater
        exact absurd (hfirst later hlater hlaterClosed hsame.symm) (by simp [hclosed])
      simp [hclosed, List.cons_diff_of_not_mem hkept, ih hrest]

end Removals

variable {board : HookBoard F}

/-- As many calls of each function are left as there are open handles of it. -/
theorem diff_perm_opened (board : HookBoard F) (name : Text) :
    ((board.registered name).diff (board.closed name)).Perm (board.opened name) := by
  refine List.perm_iff_count.mpr fun f => ?_
  have hall : (board.closed name ++ board.opened name).Perm (board.registered name) := by
    rw [closed, opened, registered, ← List.map_append]
    exact (List.filter_append_perm _ _).map _
  have hcount := hall.count_eq f
  rw [List.count_append] at hcount
  rw [List.count_diff]
  omega

/-- The handle of a new registration is open, and its function is the last one of its event. -/
theorem Faithful.register (h : board.Faithful) (name : Text) (f : F) :
    Faithful ⟨board.hooks.add name f, board.handles ++ [⟨name, f, false⟩]⟩ := by
  intro other
  rw [Hooks.functions_add]
  by_cases hother : other = name
  · subst hother
    simp only [if_true, h other]
    rw [← diff_concat (board.closed_subperm other)]
    simp [registered, closed, handlesOf]
  · have hname : (name == other) = false := beq_eq_false_iff_ne.mpr (Ne.symm hother)
    rw [if_neg hother, h other]
    simp [registered, closed, handlesOf, hname]

/-- Closing does nothing, or it closes an open handle and removes its function. -/
theorem close_cases (board : HookBoard F) (number : Nat) :
    board.close number = board ∨
      ∃ before handle behind, board.handles = before ++ handle :: behind ∧
        handle.closed = false ∧
        board.close number = ⟨board.hooks.remove handle.name handle.function,
          before ++ { handle with closed := true } :: behind⟩ := by
  unfold HookBoard.close
  cases hhandle : board.handles[number]? with
  | none => exact .inl rfl
  | some handle =>
    cases hclosed : handle.closed with
    | true => exact .inl (if_pos hclosed)
    | false =>
      obtain ⟨hlt, hget⟩ := List.getElem?_eq_some_iff.mp hhandle
      obtain ⟨before, behind, hhandles, -, hset⟩ : ∃ before behind,
          board.handles = before ++ board.handles[number] :: behind ∧ before.length = number ∧
            board.handles.set number { handle with closed := true } =
              before ++ { handle with closed := true } :: behind := List.exists_of_set hlt
      rw [hget] at hhandles
      refine .inr ⟨before, handle, behind, hhandles, hclosed, ?_⟩
      simp only [hclosed, Bool.false_eq_true, if_false, hset]

/-- Closing a handle takes away the earliest registration of its function that is left. -/
theorem Faithful.close (h : board.Faithful) (number : Nat) : (board.close number).Faithful := by
  obtain hsame | ⟨before, handle, behind, hhandles, hopen, hclose⟩ := board.close_cases number
  · rwa [hsame]
  · intro other
    have hbefore := h other
    simp only [registered, closed, handlesOf, hhandles] at hbefore
    simp only [hclose, registered, closed, handlesOf, Hooks.functions_remove]
    by_cases hother : other = handle.name
    · subst hother
      simp only [List.filter_append, List.filter_cons, beq_self_eq_true, if_true, hopen,
        Bool.false_eq_true, if_false, List.map_append, List.map_cons] at hbefore ⊢
      -- In the row of handles the closed one may stand between others.
      rw [hbefore, ← List.diff_cons_right]
      exact List.Perm.diff_left _ List.perm_middle.symm
    · have hname : (handle.name == other) = false := beq_eq_false_iff_ne.mpr (Ne.symm hother)
      simp only [List.filter_append, List.filter_cons, hname, Bool.false_eq_true, if_false]
        at hbefore ⊢
      rw [if_neg hother, hbefore]

theorem Faithful.after (h : board.Faithful) (move : HookMove F) : (board.after move).Faithful := by
  cases move with
  | register name function =>
    rw [HookBoard.after]
    cases hregister : board.register name function with
    | error fault => exact h
    | ok found =>
      unfold HookBoard.register at hregister
      split at hregister
      · cases hregister
      · cases hregister
      · cases hregister
      · obtain rfl := Except.ok.inj hregister
        exact h.register _ _
  | close number => exact h.close number

/-- Whatever has been registered and closed, the handles tell which functions are left. -/
theorem faithful_afterAll (moves : List (HookMove F)) : (afterAll moves).Faithful := by
  have hrun (board : HookBoard F) (h : board.Faithful) : (moves.foldl after board).Faithful := by
    induction moves generalizing board with
    | nil => exact h
    | cons move moves ih => exact ih _ (h.after move)
  exact hrun {} fun _ => rfl

/-- **Handles remove the earliest registration of their function**: after any registrations and
closings an event calls, whichever of the functions fail, each function as often as handles of it
are open for the event. The calls are those registered without the first ones of each function, as
many as handles of it are closed, in the order of registration. If no closed handle stands behind an
open one of the same function, they are the functions of the open handles in their order. -/
theorem dispatch_afterAll {W : Type} (moves : List (HookMove F))
    (call : F → Event → Action W Unit) (event : Event) (w : W) :
    let board := afterAll moves
    ∃ called : List F,
      (dispatch (recorded call) (board.hooks.functions event.name) event (w, [])).2.2 =
        called.map (fun f => (f, event)) ∧
      called = (board.registered event.name).diff (board.closed event.name) ∧
      called.Perm (board.opened event.name) ∧
      (board.IsOrderly event.name → called = board.opened event.name) := by
  intro board
  have hfaithful := faithful_afterAll moves event.name
  refine ⟨board.hooks.functions event.name, ?_, hfaithful, ?_, ?_⟩
  · rw [dispatch_recorded, List.nil_append]
  · rw [hfaithful]
    exact board.diff_perm_opened event.name
  · intro horderly
    rw [hfaithful]
    exact diff_of_pairwise horderly

/-- Two registrations of one function, the first of which is closed twice, with functions that all
fail. -/
theorem dispatch_afterAll_closedTwice :
    let board : HookBoard Nat := afterAll [.register (some "e") (some 7),
      .register (some "e") (some 8), .register (some "e") (some 7), .close 0, .close 0]
    let event : Event := ⟨"e", []⟩
    board.IsOrderly "e" ∧
      ∃ called : List Nat,
        (dispatch (recorded fun _ _ => throw ⟨"broken"⟩) (board.hooks.functions "e") event
            ((), [])).2.2 = called.map (fun f => (f, event)) ∧
          called = board.opened "e" := by
  intro board event
  have horderly : board.IsOrderly "e" := by
    unfold IsOrderly
    decide
  obtain ⟨called, hcalls, -, -, hopened⟩ := dispatch_afterAll [.register (some "e") (some 7),
    .register (some "e") (some 8), .register (some "e") (some 7), .close 0, .close 0]
    (fun _ _ => throw ⟨"broken"⟩) event ()
  exact ⟨horderly, called, hcalls, hopened horderly⟩

/-- A closed handle takes away an earlier registration of its function: the first registration is
the one that is gone, though its handle is open. -/
theorem dispatch_earlierGone :
    let board : HookBoard Nat := afterAll [.register (some "e") (some 7),
      .register (some "e") (some 8), .register (some "e") (some 7), .close 2]
    let calls := (dispatch (recorded fun _ _ => pure ()) (board.hooks.functions "e") ⟨"e", []⟩
      ((), [])).2.2
    board.opened "e" = [7, 8] ∧ calls.map (·.1) = [8, 7] := by
  decide

end HookBoard

end Conform
