import Mathlib.Data.List.Nodup
import Mathlib.Data.List.Perm.Subperm

/-!
Two depth-first walks over a graph of names. The first collects along every
path and refuses to enter a node of the current path again; the second marks
the nodes it has seen. Fuel that exceeds the number of nodes is never used up,
and both reach exactly what can be reached.
-/
namespace Pilot.Reach
open List

variable {α β : Type}

/-- A route through known nodes that stays off the given ones. -/
inductive Route (next : α → Option (List α)) (avoid : List α) : α → α → Prop
  | here {x : α} {ys : List α} (free : x ∉ avoid) (known : next x = some ys) :
      Route next avoid x x
  | step {x y z : α} {ys : List α} (free : x ∉ avoid) (known : next x = some ys) (mem : y ∈ ys)
      (rest : Route next avoid y z) : Route next avoid x z

section
variable {next : α → Option (List α)} {path : List α} {x z : α}

theorem Route.start_free (route : Route next path x z) : x ∉ path := by
  cases route with
  | here free => exact free
  | step free => exact free

theorem Route.weaken (route : Route next path x z) (fewer : avoid ⊆ path) : Route next avoid x z := by
  induction route with
  | here free known => exact .here (fun met => free (fewer met)) known
  | step free known mem _ ih => exact .step (fun met => free (fewer met)) known mem ih

theorem Route.start_known (route : Route next path x z) : ∃ ys, next x = some ys := by
  cases route with
  | here _ known | step _ known => exact ⟨_,known⟩

end

section
variable {next : α → List α} {nodes seen r s xs : List α} {x : α}

/-- What a walk from some nodes makes of the seen ones: it enters every start,
    and what it adds is reached from a start and has its successors marked. -/
structure Marks (next : α → List α) (nodes seen xs r : List α) : Prop where
  kept : seen ⊆ r
  distinct : r.Nodup
  inside : r ⊆ nodes
  starts : xs ⊆ r
  added : ∀ y ∈ r, y ∈ seen ∨
    next y ⊆ r ∧ ∃ x ∈ xs, Relation.ReflTransGen (fun a b => b ∈ next a) x y

theorem Marks.met (distinct : seen.Nodup) (inside : seen ⊆ nodes) (mem : x ∈ seen) :
    Marks next nodes seen [x] seen :=
  ⟨Subset.refl _,distinct,inside,by simpa using mem,fun _ old => .inl old⟩

theorem Marks.cons (first : Marks next nodes seen [x] s) (rest : Marks next nodes s xs r) :
    Marks next nodes seen (x :: xs) r where
  kept := List.Subset.trans first.kept rest.kept
  distinct := rest.distinct
  inside := rest.inside
  starts := cons_subset.mpr ⟨rest.kept (first.starts mem_cons_self),rest.starts⟩
  added y mem := by
    rcases rest.added y mem with old | ⟨closed,x',start,reached⟩
    · rcases first.added y old with old | ⟨closed,x',start,reached⟩
      · exact .inl old
      · exact .inr ⟨fun z child => rest.kept (closed child),x',by simp_all,reached⟩
    · exact .inr ⟨closed,x',mem_cons_of_mem _ start,reached⟩

/-- A fold that can run out of fuel does not, if no step does. -/
theorem marks_foldlM {f : List α → α → Option (List α)}
    (one : ∀ s x, seen ⊆ s → s.Nodup → s ⊆ nodes → x ∈ nodes →
      ∃ r, f s x = some r ∧ Marks next nodes s [x] r)
    (distinct : seen.Nodup) (inside : seen ⊆ nodes) (starts : xs ⊆ nodes) :
    ∃ r, xs.foldlM f seen = some r ∧ Marks next nodes seen xs r := by
  induction xs generalizing seen with
  | nil => exact ⟨seen,rfl,Subset.refl _,distinct,inside,nil_subset _,fun y mem => .inl mem⟩
  | cons x xs ih =>
    obtain ⟨start,later⟩ := cons_subset.mp starts
    obtain ⟨s,ran,first⟩ := one seen x (Subset.refl _) distinct inside start
    obtain ⟨r,rest,marks⟩ := ih (fun s y grown => one s y (List.Subset.trans first.kept grown))
      first.distinct first.inside later
    exact ⟨r,by simp [ran,rest],first.cons marks⟩

end

/-- Parts that all end can be put together. -/
theorem mapM_ends {f : α → Option (List β)} {P : α → β → Prop} {xs : List α}
    (each : ∀ x ∈ xs, ∃ r, f x = some r ∧ ∀ b, b ∈ r ↔ P x b) :
    ∃ rs, xs.mapM f = some rs ∧ ∀ b, b ∈ rs.flatten ↔ ∃ x ∈ xs, P x b := by
  induction xs with
  | nil => exact ⟨[],rfl,by simp⟩
  | cons x xs ih =>
    obtain ⟨r,ran,mem⟩ := each x mem_cons_self
    obtain ⟨rs,rest,mems⟩ := ih fun y later => each y (mem_cons_of_mem _ later)
    exact ⟨r :: rs,by simp [ran,rest],by simp [mem,mems]⟩

section
variable {f : α → Option (Option β)} {xs : List α}

theorem findSomeM_ends (each : ∀ x ∈ xs, ∃ r, f x = some r) : ∃ r, xs.findSomeM? f = some r := by
  induction xs with
  | nil => exact ⟨none,rfl⟩
  | cons x xs ih =>
    obtain ⟨r,ran⟩ := each x mem_cons_self
    cases r with
    | none =>
      obtain ⟨r,rest⟩ := ih fun y later => each y (mem_cons_of_mem _ later)
      exact ⟨r,by simp [findSomeM?,ran,rest]⟩
    | some b => exact ⟨some b,by simp [findSomeM?,ran]⟩

theorem findSomeM_none (nothing : xs.findSomeM? f = some none) : ∀ x ∈ xs, f x = some none := by
  induction xs with
  | nil => simp
  | cons x xs ih =>
    cases ran : f x with
    | none => simp [findSomeM?,ran] at nothing
    | some r =>
      cases r with
      | none =>
        simp only [findSomeM?,ran,Option.bind_eq_bind,Option.bind_some] at nothing
        simpa [ran] using ih nothing
      | some b => simp [findSomeM?,ran] at nothing

theorem findSomeM_some (found : xs.findSomeM? f = some (some b)) : ∃ x ∈ xs, f x = some (some b) := by
  induction xs with
  | nil => simp [findSomeM?] at found
  | cons x xs ih =>
    cases ran : f x with
    | none => simp [findSomeM?,ran] at found
    | some r =>
      cases r with
      | none =>
        simp only [findSomeM?,ran,Option.bind_eq_bind,Option.bind_some] at found
        obtain ⟨y,later,found⟩ := ih found
        exact ⟨y,mem_cons_of_mem _ later,found⟩
      | some c =>
        simp only [findSomeM?,ran,Option.bind_eq_bind,Option.bind_some,Option.pure_def,
          Option.some.injEq] at found
        exact ⟨x,mem_cons_self,found ▸ ran⟩

end

/-- A path that repeats no node fits into the nodes. -/
theorem length_of_path {path nodes : List α} (distinct : path.Nodup) (inside : path ⊆ nodes) :
    path.length ≤ nodes.length :=
  (Nodup.subperm distinct inside).length_le

variable [DecidableEq α]

/-- `none` says that the fuel did not suffice. -/
def along (next : α → Option (List α)) (collect : α → List β) :
    Nat → List α → α → Option (List β)
  | 0, _, _ => none
  | fuel + 1, path, x =>
    if x ∈ path then some []
    else match next x with
      | none => some []
      | some ys => do
        let parts ← ys.mapM (along next collect fuel (x :: path))
        return collect x ++ parts.flatten

section
variable {next : α → Option (List α)} {path nodes : List α} {x z : α} {b : β}

/-- A route to another node either stays off `y` or can start behind its last
    visit to `y`. -/
theorem Route.avoid_more (route : Route next path a z) (y : α) (other : z ≠ y) :
    Route next (y :: path) a z ∨ ∃ ys c, next y = some ys ∧ c ∈ ys ∧ Route next (y :: path) c z := by
  induction route with
  | here free known =>
    refine .inl (.here ?_ known)
    simp [other,free]
  | @step a c z ys free known mem rest ih =>
    rcases ih other with clear | later
    · by_cases same : a = y
      · subst same
        exact .inr ⟨ys,c,known,mem,clear⟩
      · exact .inl (.step (by simp [same,free]) known mem clear)
    · exact .inr later

variable {fuel : Nat}

/-- From a node the path has not met, a route is the node itself or goes on
    from a successor without coming back. -/
theorem Route.split (free : x ∉ path) (known : next x = some ys) :
    Route next path x z ↔ z = x ∨ ∃ y ∈ ys, Route next (x :: path) y z := by
  constructor
  · intro route
    refine or_iff_not_imp_left.mpr fun other => ?_
    rcases route.avoid_more x other with stuck | ⟨ys',y,known',child,rest⟩
    · exact absurd mem_cons_self stuck.start_free
    · rw [known,Option.some.injEq] at known'
      exact ⟨y,known' ▸ child,rest⟩
  · rintro (rfl | ⟨y,child,rest⟩)
    · exact .here free known
    · exact .step free known child (rest.weaken fun _ => mem_cons_of_mem _)

/-- The walk never runs out of fuel that exceeds the room left on the path, and
    collects along every route off the path. -/
theorem along_ends (all : ∀ y ys, next y = some ys → y ∈ nodes) (distinct : path.Nodup)
    (inside : path ⊆ nodes) (enough : nodes.length < path.length + fuel) :
    ∃ r, along next collect fuel path x = some r ∧
      ∀ b, b ∈ r ↔ ∃ z, Route next path x z ∧ b ∈ collect z := by
  induction fuel generalizing path x with
  | zero =>
    have fits := length_of_path distinct inside
    omega
  | succ fuel ih =>
    by_cases met : x ∈ path
    · refine ⟨[],by simp [along,met],fun b => ?_⟩
      simp only [not_mem_nil,false_iff]
      rintro ⟨z,route,-⟩
      exact route.start_free met
    cases known : next x with
    | none =>
      refine ⟨[],by simp [along,met,known],fun b => ?_⟩
      simp only [not_mem_nil,false_iff]
      rintro ⟨z,route,-⟩
      obtain ⟨ys,known'⟩ := route.start_known
      rw [known] at known'
      cases known'
    | some ys =>
      have each : ∀ y ∈ ys, ∃ r, along next collect fuel (x :: path) y = some r ∧
          ∀ b, b ∈ r ↔ ∃ z, Route next (x :: path) y z ∧ b ∈ collect z := by
        intro y _
        refine ih (nodup_cons.mpr ⟨met,distinct⟩) (cons_subset.mpr ⟨all x ys known,inside⟩) ?_
        simp only [length_cons]
        omega
      obtain ⟨parts,ran,mem⟩ := mapM_ends each
      refine ⟨collect x ++ parts.flatten,by simp [along,met,known,ran],fun b => ?_⟩
      simp only [mem_append,mem,Route.split met known]
      grind

theorem mem_along (all : ∀ y ys, next y = some ys → y ∈ nodes) (enough : nodes.length < fuel) :
    ∃ r, along next collect fuel [] x = some r ∧
      ∀ b, b ∈ r ↔ ∃ z, Route next [] x z ∧ b ∈ collect z :=
  along_ends all nodup_nil (nil_subset _) (by simpa using enough)

end

/-- Again `none` says that the fuel did not suffice. -/
def marked (next : α → List α) : Nat → List α → α → Option (List α)
  | 0, _, _ => none
  | fuel + 1, seen, x =>
    if x ∈ seen then some seen else (next x).foldlM (marked next fuel) (x :: seen)

section
variable {next : α → List α} {nodes seen : List α} {x y : α}

theorem marks_marked (closed : ∀ y ∈ nodes, next y ⊆ nodes) (distinct : seen.Nodup)
    (inside : seen ⊆ nodes) (start : x ∈ nodes) (enough : nodes.length < seen.length + fuel) :
    ∃ r, marked next fuel seen x = some r ∧ Marks next nodes seen [x] r := by
  induction fuel generalizing seen x with
  | zero =>
    have fits := length_of_path distinct inside
    omega
  | succ fuel ih =>
    unfold marked
    split
    · exact ⟨seen,rfl,.met distinct inside ‹_›⟩
    rename_i fresh
    have distinct' : (x :: seen).Nodup := nodup_cons.mpr ⟨fresh,distinct⟩
    have one : ∀ s y, x :: seen ⊆ s → s.Nodup → s ⊆ nodes → y ∈ nodes →
        ∃ r, marked next fuel s y = some r ∧ Marks next nodes s [y] r := by
      intro s y grown unique within known
      have longer := length_of_path distinct' grown
      simp only [length_cons] at longer
      exact ih unique within known (by omega)
    obtain ⟨r,ran,walk⟩ := marks_foldlM one distinct' (cons_subset.mpr ⟨start,inside⟩) (closed x start)
    obtain ⟨own,kept⟩ := cons_subset.mp walk.kept
    refine ⟨r,ran,kept,walk.distinct,walk.inside,by simpa using own,fun y mem => ?_⟩
    rcases walk.added y mem with old | ⟨done,c,child,reached⟩
    · rcases mem_cons.mp old with rfl | old
      · exact .inr ⟨walk.starts,y,mem_cons_self,.refl⟩
      · exact .inl old
    · exact .inr ⟨done,x,mem_cons_self,.head child reached⟩

theorem mem_marked (closed : ∀ y ∈ nodes, next y ⊆ nodes) (start : x ∈ nodes)
    (enough : nodes.length < fuel) :
    ∃ r, marked next fuel [] x = some r ∧
      ∀ y, y ∈ r ↔ Relation.ReflTransGen (fun a b => b ∈ next a) x y := by
  obtain ⟨r,ran,walk⟩ := marks_marked closed nodup_nil (nil_subset _) start (by simpa using enough)
  refine ⟨r,ran,fun y => ⟨fun mem => ?_,fun reached => ?_⟩⟩
  · rcases walk.added y mem with old | ⟨-,x',same,reached⟩
    · cases old
    · exact mem_singleton.mp same ▸ reached
  · induction reached with
    | refl => exact walk.starts mem_cons_self
    | tail _ child ih =>
      rcases walk.added _ ih with old | ⟨done,-⟩
      · cases old
      · exact done child

end

end Pilot.Reach
