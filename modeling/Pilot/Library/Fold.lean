import Mathlib.Data.List.Basic
import Mathlib.Order.Basic
import Pilot.Library.Table

/-!
Rules for loops written as folds. An invariant is carried through a fold, a
fact is established by one step and kept by the others, and in a list sorted
by rank a step may rely on what a step of lower rank established. The last
part is about one object that steps create or edit.
-/
namespace Pilot.Fold
open List

variable {σ α β ε : Type}

theorem bind_ok {x : Except ε α} (ok : (x >>= f) = .ok b) : ∃ a, x = .ok a ∧ f a = .ok b := by
  cases x with
  | error err => cases ok
  | ok a => exact ⟨a,rfl,ok⟩

theorem map_ok {x : Except ε α} {f : α → β} (ok : x.map f = .ok b) : ∃ a, x = .ok a ∧ f a = b := by
  cases x with
  | error err => cases ok
  | ok a =>
    cases ok
    exact ⟨a,rfl,rfl⟩

variable {rest : Unit → Except ε β}

theorem guard_ok [Decidable c] (ok : (if c then throw e >>= rest else rest ()) = .ok b) :
    ¬ c ∧ rest () = .ok b := by
  split at ok
  · cases ok
  · rename_i passed
    exact ⟨passed,ok⟩

theorem bind_error {x : Except ε α} (err : (x >>= f) = .error e) :
    x = .error e ∨ ∃ a, x = .ok a ∧ f a = .error e := by
  cases x with
  | error e' =>
    cases err
    exact .inl rfl
  | ok a => exact .inr ⟨a,rfl,err⟩

theorem guard_error [Decidable c] (err : (if c then throw e >>= rest else rest ()) = .error e') :
    e = e' ∨ rest () = .error e' := by
  split at err
  · cases err
    exact .inl rfl
  · exact .inr err

theorem mapM_total {f : α → Except ε β} {xs : List α} (total : ∀ x ∈ xs, ∃ y, f x = .ok y) :
    ∃ ys, xs.mapM f = .ok ys := by
  induction xs with
  | nil => exact ⟨[],rfl⟩
  | cons x xs ih =>
    obtain ⟨y,first⟩ := total x (by simp)
    obtain ⟨ys,rest⟩ := ih (fun z mem => total z (by simp [mem]))
    refine ⟨y :: ys,?_⟩
    rw [mapM_cons,first,rest]
    rfl

variable {ys : List β}

theorem mapM_related {f : α → Except ε β} (each : ∀ x y, f x = .ok y → R x y) {xs : List α}
    (ok : xs.mapM f = .ok ys) : Forall₂ R xs ys := by
  induction xs generalizing ys with
  | nil =>
    cases ok
    exact .nil
  | cons x xs ih =>
    rw [mapM_cons] at ok
    obtain ⟨y,here,ok⟩ := bind_ok ok
    obtain ⟨rest,later,ok⟩ := bind_ok ok
    cases ok
    exact .cons (each x y here) (ih later)

theorem mapM_ok_at {f : α → Except ε β} {xs : List α} (ok : xs.mapM f = .ok ys) {x : α}
    (mem : x ∈ xs) : ∃ y, f x = .ok y := by
  obtain ⟨y,-,here⟩ := Table.related_of_mem (mapM_related (fun _ _ => id) ok) mem
  exact ⟨y,here⟩

theorem mem_mapM {f : α → Except ε β} {xs : List α} (ok : xs.mapM f = .ok ys)
    {y : β} : y ∈ ys ↔ ∃ x ∈ xs, f x = .ok y := by
  have related := mapM_related (fun _ _ => id) ok
  constructor
  · exact Table.related_of_mem related.flip
  · rintro ⟨x,mem,here⟩
    obtain ⟨y',inside,here'⟩ := Table.related_of_mem related mem
    rw [here] at here'
    cases here'
    exact inside

theorem foldl_invariant {I : σ → Prop} {xs : List α} {s : σ} (start : I s)
    (keep : ∀ s, ∀ x ∈ xs, I s → I (step s x)) : I (xs.foldl step s) :=
  foldlRecOn xs step start fun s holds x mem => keep s x mem holds

theorem foldlM_invariant {I : σ → Prop} {step : σ → α → Except ε σ} {xs : List α} {s s' : σ}
    (start : I s) (keep : ∀ s x s', x ∈ xs → I s → step s x = .ok s' → I s')
    (ok : xs.foldlM step s = .ok s') : I s' := by
  induction xs generalizing s with
  | nil =>
    cases ok
    exact start
  | cons x xs ih =>
    rw [foldlM_cons] at ok
    obtain ⟨mid,first,rest⟩ := bind_ok ok
    refine ih (keep s x mid (by simp) start first) ?_ rest
    intro s y s' mem
    exact keep s y s' (by simp [mem])

theorem foldlM_total {I : σ → Prop} {step : σ → α → Except ε σ} {xs : List α} {s : σ} (start : I s)
    (keep : ∀ s, ∀ x ∈ xs, I s → ∃ t, step s x = .ok t ∧ I t) : ∃ t, xs.foldlM step s = .ok t := by
  induction xs generalizing s with
  | nil => exact ⟨s,rfl⟩
  | cons x xs ih =>
    obtain ⟨mid,first,holds⟩ := keep s x (by simp) start
    obtain ⟨t,rest⟩ := ih holds (fun s y mem => keep s y (by simp [mem]))
    refine ⟨t,?_⟩
    rw [foldlM_cons,first]
    exact rest

theorem foldlM_error {step : σ → α → Except ε σ} {xs : List α} {s : σ} {e : ε}
    (err : xs.foldlM step s = .error e) : ∃ t, ∃ x ∈ xs, step t x = .error e := by
  induction xs generalizing s with
  | nil => cases err
  | cons x xs ih =>
    rw [foldlM_cons] at err
    cases first : step s x with
    | error e' =>
      rw [first] at err
      cases err
      exact ⟨s,x,by simp,first⟩
    | ok mid =>
      rw [first] at err
      obtain ⟨t,y,mem,found⟩ := ih err
      exact ⟨t,y,by simp [mem],found⟩

theorem foldl_establish {I : σ → Prop} {xs : List α} {s : σ} {x : α} (mem : x ∈ xs)
    (make : ∀ s, I (step s x)) (keep : ∀ s, ∀ y ∈ xs, I s → I (step s y)) :
    I (xs.foldl step s) := by
  obtain ⟨before,after,rfl⟩ := append_of_mem mem
  rw [foldl_append,foldl_cons]
  exact foldl_invariant (make _) (fun s y memAfter => keep s y (by simp [memAfter]))

section
variable {rank : α → Nat} {xs : List α}

theorem split_of_rank (sorted : xs.Pairwise (fun a b => rank a ≤ rank b)) (mem : y ∈ xs) :
    ∃ before after, xs = before ++ y :: after ∧ (∀ z ∈ after, rank y ≤ rank z) ∧
      ∀ x ∈ xs, rank x < rank y → x ∈ before := by
  obtain ⟨before,after,rfl⟩ := append_of_mem mem
  have order := pairwise_cons.mp (pairwise_append.mp sorted).2.1
  refine ⟨before,after,rfl,order.1,?_⟩
  intro x memX less
  rcases mem_append.mp memX with early | late
  · exact early
  · rcases mem_cons.mp late with rfl | later
    · exact absurd less (Nat.lt_irrefl _)
    · exact absurd (order.1 x later) (Nat.not_le.mpr less)

/-- In a list sorted by rank, a step makes a fact true in the states of `Q`;
    the steps from its rank on keep the fact. `Q` is kept by every step and
    holds at the start or is made true by a step of lower rank. -/
theorem foldl_establish_ranked {I Q : σ → Prop} {s : σ} {y : α}
    (sorted : xs.Pairwise (fun a b => rank a ≤ rank b)) (mem : y ∈ xs)
    (ready : Q s ∨ ∃ x ∈ xs, rank x < rank y ∧ ∀ s, Q (step s x))
    (keepQ : ∀ s, ∀ z ∈ xs, Q s → Q (step s z)) (make : ∀ s, Q s → I (step s y))
    (keep : ∀ s, ∀ z ∈ xs, rank y ≤ rank z → I s → I (step s z)) : I (xs.foldl step s) := by
  obtain ⟨before,after,rfl,later,earlier⟩ := split_of_rank sorted mem
  rw [foldl_append,foldl_cons]
  have keepBefore : ∀ s, ∀ z ∈ before, Q s → Q (step s z) :=
    fun s z memZ => keepQ s z (by simp [memZ])
  have reached : Q (before.foldl step s) := by
    rcases ready with start | ⟨x,memX,less,makeQ⟩
    · exact foldl_invariant start keepBefore
    · exact foldl_establish (earlier x memX less) makeQ keepBefore
  exact foldl_invariant (make _ reached)
    (fun s z memZ => keep s z (by simp [memZ]) (later z memZ))

end

def Holds (p : α → Prop) (s : Option α) : Prop := ∃ x, s = some x ∧ p x

theorem holds_map (holds : Holds p s) (step : ∀ x, p x → q (f x)) : Holds q (s.map f) := by
  obtain ⟨x,rfl,fact⟩ := holds
  exact ⟨f x,rfl,step x fact⟩

/-- Steps on one object: the creation, which is there exactly when the object
    is missing at the start, and edits that are moves. -/
structure Touches (effect : Option α → β → Option α) (ops : List β) (start : Option α)
    (creation : β) (made : α) (Move : α → α → Prop) : Prop where
  create : ∀ s, effect s creation = some made
  creates : start = none → creation ∈ ops
  step : ∀ op ∈ ops, (start = none ∧ op = creation) ∨
    ∃ f, (∀ x, Move x (f x)) ∧ ∀ s, effect s op = s.map f

namespace Touches
variable {effect : Option α → β → Option α} {ops : List β} {start : Option α} {creation op : β}
  {made : α} {Move : α → α → Prop} {I Q : α → Prop}
  (touches : Touches effect ops start creation made Move)
include touches

theorem keeps (closed : ∀ x y, Move x y → I x → I y) (mem : op ∈ ops)
    (created : start = none → op = creation → I made) (holds : Holds I s) :
    Holds I (effect s op) := by
  rcases touches.step op mem with ⟨missing,rfl⟩ | ⟨f,moves,acts⟩
  · exact ⟨made,touches.create s,created missing rfl⟩
  · rw [acts]
    exact holds_map holds (fun x => closed x (f x) (moves x))

/-- A fact that holds of the object as it is or as it is created, and that no
    move breaks. -/
theorem settles (closed : ∀ x y, Move x y → I x → I y) (created : start = none → I made)
    (initial : ∀ x, start = some x → I x) : Holds I (ops.foldl effect start) := by
  have keep : ∀ s, ∀ op ∈ ops, Holds I s → Holds I (effect s op) :=
    fun s op mem => touches.keeps closed mem (fun missing _ => created missing)
  cases found : start with
  | none =>
    refine foldl_establish (touches.creates found) ?_ keep
    intro s
    exact ⟨made,touches.create s,created found⟩
  | some x => exact foldl_invariant ⟨x,rfl,initial x found⟩ keep

section
variable {rank : β → Nat} {f : α → α} (sorted : ops.Pairwise (fun a b => rank a ≤ rank b))
  (later : rank creation < rank op) (mem : op ∈ ops) (acts : ∀ s, effect s op = s.map f)
include sorted later mem acts

/-- A fact that one operation makes true of every object with the property
    `Q`, and that no later operation breaks. The creation is never later. -/
theorem settles_by (make : ∀ x, Q x → I (f x))
    (closed : ∀ x y, Move x y → I x → I y) (closedQ : ∀ x y, Move x y → Q x → Q y)
    (created : start = none → Q made) (initial : ∀ x, start = some x → Q x) :
    Holds I (ops.foldl effect start) := by
  have ready : Holds Q start ∨ ∃ z ∈ ops, rank z < rank op ∧ ∀ s, Holds Q (effect s z) := by
    cases found : start with
    | none =>
      refine .inr ⟨creation,touches.creates found,later,?_⟩
      intro s
      exact ⟨made,touches.create s,created found⟩
    | some x => exact .inl ⟨x,rfl,initial x found⟩
  refine foldl_establish_ranked sorted mem ready ?_ ?_ ?_
  · intro s z memZ
    exact touches.keeps closedQ memZ (fun missing _ => created missing)
  · intro s holds
    rw [acts]
    exact holds_map holds make
  · intro s z memZ above
    refine touches.keeps closed memZ ?_
    rintro - rfl
    exact absurd (Nat.lt_of_lt_of_le later above) (Nat.lt_irrefl _)

theorem settles_made (make : ∀ x, I (f x))
    (closed : ∀ x y, Move x y → I x → I y) : Holds I (ops.foldl effect start) :=
  touches.settles_by sorted later mem acts (fun x _ => make x) closed
    (fun _ _ _ _ => trivial) (fun _ => trivial) (fun _ _ => trivial)

end

end Touches

end Pilot.Fold
