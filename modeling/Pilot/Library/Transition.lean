import Mathlib.Logic.Basic

/-!
Runs of a labelled step relation. A run records the labels it took, so a
condition on every step is a condition on the relation the run is over.
-/
namespace Pilot.Transition
variable {State Label : Type*}

inductive Run (step : State → Label → State → Prop) : State → List Label → State → Prop where
  | start (s : State) : Run step s [] s
  | next {s t u : State} {labels : List Label} {l : Label}
      (run : Run step s labels t) (taken : step t l u) : Run step s (labels ++ [l]) u

theorem run_invariant (inv : State → Prop) (keep : ∀ s l t, inv s → step s l t → inv t)
    (run : Run step s labels t) (first : inv s) : inv t := by
  induction run with
  | start => exact first
  | next _ taken ih => exact keep _ _ _ ih taken

/-- A fact that only steps out of invariant states keep is kept along runs
    that begin in one. -/
theorem run_preserves (inv keepsFact : State → Prop) (keep : ∀ s l t, inv s → step s l t → inv t)
    (fact : ∀ s l t, inv s → step s l t → keepsFact s → keepsFact t) (run : Run step s labels t)
    (first : inv s) (holds : keepsFact s) : keepsFact t := by
  have both : inv t ∧ keepsFact t := by
    apply run_invariant (fun s => inv s ∧ keepsFact s) _ run ⟨first,holds⟩
    intro s l t h taken
    exact ⟨keep s l t h.1 taken,fact s l t h.1 taken h.2⟩
  exact both.2

theorem run_append (first : Run step s front t) (second : Run step t back u) :
    Run step s (front ++ back) u := by
  induction second with
  | start => simpa using first
  | next _ taken ih => simpa using Run.next ih taken

/-- The steps of a total action function, taken when the guard allows them. -/
def guarded (allowed : State → Label → Prop) (act : State → Label → State) :
    State → Label → State → Prop :=
  fun s l t => allowed s l ∧ t = act s l

/-- Every step of a schedule is allowed in the state it is taken in. -/
def Meets (allowed : State → Label → Prop) (act : State → Label → State) : State → List Label → Prop
  | _, [] => True
  | s, l :: rest => allowed s l ∧ Meets allowed act (act s l) rest

theorem meets_invariant {allowed : State → Label → Prop} {act : State → Label → State} (inv : State → Prop)
    (keep : ∀ s l, inv s → allowed s l → inv (act s l)) (meets : Meets allowed act s labels)
    (first : inv s) : inv (labels.foldl act s) := by
  induction labels generalizing s with
  | nil => exact first
  | cons l rest ih => exact ih meets.2 (keep s l first meets.1)

end Pilot.Transition
