import Mathlib.Data.List.Basic

/-!
Programs over a state that may fail or be cut off. A run lists the state
after each of its operations, so a run that is cut off leaves one of the
listed states or the one it began in. The state a run ends in is the last one
listed and is therefore among those it reaches.
-/
namespace Pilot.Interrupt

variable {σ ε α β : Type}

/-- The states after each operation, and how the run ended. -/
def Prog (σ ε α : Type) := σ → List σ × Except ε α

namespace Prog

def visited (p : Prog σ ε α) (s : σ) : List σ := (p s).1

def result (p : Prog σ ε α) (s : σ) : Except ε α := (p s).2

def final (p : Prog σ ε α) (s : σ) : σ := (p s).1.getLastD s

def pure (a : α) : Prog σ ε α := fun _ => ([],.ok a)

def bind (p : Prog σ ε α) (f : α → Prog σ ε β) : Prog σ ε β := fun s =>
  match p.result s with
  | .error e => (p.visited s,.error e)
  | .ok a => (p.visited s ++ (f a).visited (p.final s),(f a).result (p.final s))

instance : Monad (Prog σ ε) where
  pure := Prog.pure
  bind := Prog.bind

def read (f : σ → Except ε α) : Prog σ ε α := fun s => ([],f s)

def fail (e : ε) : Prog σ ε α := fun _ => ([],.error e)

def act (f : σ → Except ε α × σ) : Prog σ ε α := fun s => ([(f s).2],(f s).1)

/-- Runs a program and returns its error as a value. -/
def attempt {ε' : Type} (p : Prog σ ε' α) : Prog σ ε (Except ε' α) := fun s =>
  (p.visited s,.ok (p.result s))

end Prog

open Prog

/-- The states a run of the program can be cut off in. -/
def Reaches (p : Prog σ ε α) (s t : σ) : Prop := t = s ∨ t ∈ p.visited s

theorem final_reaches (p : Prog σ ε α) (s : σ) : Reaches p s (p.final s) := by
  unfold Prog.final Reaches Prog.visited
  cases same : (p s).1 with
  | nil => exact Or.inl rfl
  | cons t rest =>
    right
    rw [List.getLastD_cons]
    exact List.getLastD_mem_cons

variable {s : σ} {p : Prog σ ε α}

theorem result_bind_ok (ok : (p >>= f).result s = .ok b) :
    ∃ a, p.result s = .ok a ∧ (f a).result (p.final s) = .ok b := by
  change (Prog.bind p f s).2 = .ok b at ok
  unfold Prog.bind at ok
  split at ok
  · cases ok
  · rename_i a first
    exact ⟨a,first,ok⟩

theorem bind_of_ok (first : p.result s = .ok a) :
    (p >>= f) s = (p.visited s ++ (f a).visited (p.final s),(f a).result (p.final s)) := by
  change Prog.bind p f s = _
  unfold Prog.bind
  rw [first]

theorem bind_of_error (first : p.result s = .error e) : (p >>= f) s = (p.visited s,.error e) := by
  change Prog.bind p f s = _
  unfold Prog.bind
  rw [first]

theorem result_bind_of_ok (first : p.result s = .ok a) : (p >>= f).result s = (f a).result (p.final s) := by
  rw [Prog.result,bind_of_ok first]

theorem result_bind_of_error (first : p.result s = .error e) : (p >>= f).result s = .error e := by
  rw [Prog.result,bind_of_error first]

theorem getLastD_append (xs ys : List σ) (s : σ) : (xs ++ ys).getLastD s = ys.getLastD (xs.getLastD s) := by
  induction xs generalizing s with
  | nil => rfl
  | cons x xs ih => simp only [List.cons_append,List.getLastD_cons,ih]

theorem final_bind_of_ok (first : p.result s = .ok a) : (p >>= f).final s = (f a).final (p.final s) := by
  unfold Prog.final
  rw [bind_of_ok first]
  exact getLastD_append _ _ _

theorem final_bind_of_error (first : p.result s = .error e) : (p >>= f).final s = p.final s := by
  unfold Prog.final
  rw [bind_of_error first]
  rfl

theorem result_attempt {ε' : Type} (p : Prog σ ε' α) (s : σ) :
    (Prog.attempt p : Prog σ ε (Except ε' α)).result s = .ok (p.result s) := rfl

theorem final_attempt {ε' : Type} (p : Prog σ ε' α) (s : σ) :
    (Prog.attempt p : Prog σ ε (Except ε' α)).final s = p.final s := rfl

@[simp]
theorem reaches_read {f : σ → Except ε α} : Reaches (Prog.read f) s t ↔ t = s := by
  simp [Reaches,Prog.visited,Prog.read]

@[simp]
theorem reaches_pure {t : σ} : Reaches (Pure.pure a : Prog σ ε α) s t ↔ t = s :=
  reaches_read

/-- A composed program is cut off in its first part, or in its second after
    the first has ended well. -/
theorem reaches_bind : Reaches (p >>= f) s t ↔
      Reaches p s t ∨ ∃ a, p.result s = .ok a ∧ Reaches (f a) (p.final s) t := by
  cases first : p.result s with
  | error e =>
    unfold Reaches Prog.visited
    rw [bind_of_error first]
    simp [Prog.visited]
  | ok a =>
    have whole : Reaches (p >>= f) s t ↔ t = s ∨ t ∈ p.visited s ∨ t ∈ (f a).visited (p.final s) := by
      unfold Reaches
      rw [show (p >>= f).visited s = _ from congrArg Prod.fst (bind_of_ok first),List.mem_append]
    rw [whole]
    constructor
    · rintro (start | early | late)
      · exact Or.inl (Or.inl start)
      · exact Or.inl (Or.inr early)
      · exact Or.inr ⟨a,rfl,Or.inr late⟩
    · rintro (early | ⟨b,same,late⟩)
      · exact early.imp_right Or.inl
      cases same
      rcases late with rfl | late
      · exact (final_reaches p s).imp_right Or.inl
      · exact Or.inr (Or.inr late)

/-- A fact no operation of the program breaks. -/
def Keeps (I : σ → Prop) (p : Prog σ ε α) : Prop := ∀ s t, I s → Reaches p s t → I t

theorem keeps_read (f : σ → Except ε α) : Keeps I (Prog.read f) := by
  rintro s t holds (rfl | mem)
  · exact holds
  · cases mem

theorem keeps_bind (first : Keeps I p) (second : ∀ a, Keeps I (f a)) : Keeps I (p >>= f) := by
  intro s t holds reached
  rcases reaches_bind.mp reached with early | ⟨a,_,late⟩
  · exact first s t holds early
  · exact second a _ t (first s _ holds (final_reaches p s)) late

end Pilot.Interrupt
