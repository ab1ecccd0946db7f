import Mathlib.Data.List.Perm.Subperm
import Pilot.Decommission.Planner

/-!
The order of a teardown. The search goes depth first through what the selected
components need of each other, and a component is done when all it needs is
done. So every done component stands behind what it needs, and a search that
comes back to its own path has found a cycle.
-/
namespace Pilot.Decommission
open Roster Relation List

def Needs (catalog : Catalog) (selected : List String) (a b : String) : Prop :=
  a ∈ selected ∧ b ∈ selected ∧ ∃ c, catalog.component a = some c ∧ b ∈ c.dependencies

inductive Built (needs : String → String → Prop) : List String → Prop
  | nil : Built needs []
  | snoc {done : List String} {x : String} (built : Built needs done) (fresh : x ∉ done)
      (ready : ∀ y, needs x y → y ∈ done) : Built needs (done ++ [x])

section
variable {needs : String → String → Prop} {done : List String} {a b : String}

theorem Built.nodup (built : Built needs done) : done.Nodup := by
  induction built with
  | nil => exact nodup_nil
  | snoc _ fresh _ ih =>
    rw [← concat_eq_append]
    exact ih.concat fresh

section
variable (built : Built needs done) (mem : a ∈ done)
include built mem

theorem Built.before (need : needs a b) : [b,a].Sublist done := by
  induction built with
  | nil => cases mem
  | snoc _ _ ready ih =>
    obtain old | new := mem_append.mp mem
    · exact (ih old).trans (sublist_append_left _ _)
    · rw [mem_singleton.mp new] at need ⊢
      exact (singleton_sublist.mpr (ready b need)).append_right _

theorem Built.closed (reach : ReflTransGen needs a b) : b ∈ done := by
  induction reach with
  | refl => exact mem
  | tail _ need ih => exact (built.before ih need).subset (by simp)

theorem Built.acyclic : ¬ TransGen needs a a := by
  intro cycle
  induction built with
  | nil => cases mem
  | snoc built fresh ready ih =>
    obtain old | new := mem_append.mp mem
    · exact ih old
    rw [mem_singleton.mp new] at cycle
    -- the first step leads into what is done, and nothing leads out of it
    obtain ⟨y,need,rest⟩ := TransGen.head'_iff.mp cycle
    exact fresh (built.closed (ready y need) rest)

end

/-- What a search answers: more is done than before, the goals among it, or there
    is a cycle. -/
def Yields (keeps : List String → Prop) (cyclic : Prop) (done goals : List String) :
    Except SearchError (List String) → Prop
  | .error err => err ≠ .outOfFuel ∧ cyclic
  | .ok done' => keeps done' ∧ done ⊆ done' ∧ goals ⊆ done'

theorem Yields.fold (ids : List String)
    (each : ∀ id ∈ ids, ∀ done, keeps done → Yields keeps cyclic done [id] (step done id))
    (kept : keeps done) : Yields keeps cyclic done ids (ids.foldlM step done) := by
  induction ids generalizing done with
  | nil => exact ⟨kept,Subset.refl done,nil_subset done⟩
  | cons id ids ih =>
    have first := each id mem_cons_self done kept
    rw [foldlM_cons]
    cases answer : step done id with
    | error e =>
      rw [answer] at first
      exact first
    | ok middle =>
      rw [answer] at first
      obtain ⟨kept,more,found⟩ := first
      have rest := ih (fun id mem => each id (mem_cons_of_mem _ mem)) kept
      change Yields keeps cyclic done (id :: ids) (ids.foldlM step middle)
      cases final : ids.foldlM step middle with
      | error e =>
        rw [final] at rest
        exact rest
      | ok done' =>
        rw [final] at rest
        obtain ⟨kept,later,goals⟩ := rest
        exact ⟨kept,Subset.trans more later,cons_subset.mpr ⟨later (found mem_cons_self),goals⟩⟩

end

variable {S : Setup} {catalog catalog' : Catalog} {selected path done : List String} {id : String}

structure OnTheWay (catalog : Catalog) (selected path : List String) (id : String) : Prop where
  distinct : path.Nodup
  inside : path ⊆ selected
  chosen : id ∈ selected
  leads : ∀ x ∈ path, TransGen (Needs catalog selected) x id

structure Searched (catalog : Catalog) (selected path done : List String) : Prop where
  built : Built (Needs catalog selected) done
  inside : done ⊆ selected
  off : ∀ x ∈ path, x ∉ done

def selectedDependencies (catalog : Catalog) (selected : List String) (id : String) : List String :=
  match catalog.component id with
  | some c => (sortStrings c.dependencies).filter (fun d => selected.contains d)
  | none => []

theorem needs_iff (chosen : id ∈ selected) (d : String) :
    Needs catalog selected id d ↔ d ∈ selectedDependencies catalog selected id := by
  unfold Needs selectedDependencies
  cases catalog.component id with
  | none => simp
  | some c => simp [chosen,and_comm]

theorem OnTheWay.next (way : OnTheWay catalog selected path id) (off : id ∉ path)
    (need : d ∈ selectedDependencies catalog selected id) :
    OnTheWay catalog selected (id :: path) d := by
  have step := (needs_iff way.chosen d).mpr need
  constructor
  · exact nodup_cons.mpr ⟨off,way.distinct⟩
  · exact cons_subset.mpr ⟨way.chosen,way.inside⟩
  · exact step.2.1
  intro x mem
  obtain rfl | old := mem_cons.mp mem
  · exact .single step
  · exact (way.leads x old).tail step

theorem OnTheWay.short (way : OnTheWay catalog selected path id) : path.length ≤ selected.length :=
  (way.distinct.subperm way.inside).length_le

theorem visit_succ (fuel : Nat) : visit S catalog selected (fuel+1) path done id =
    if id ∈ path then .error (.cycle s!"dependency cycle at component {S.quote id}")
    else if id ∈ done then .ok done
    else (selectedDependencies catalog selected id).foldlM (visit S catalog selected fuel (id :: path)) done >>=
      fun done => .ok (done ++ [id]) := rfl

theorem visit_spec (way : OnTheWay catalog selected path id) (enough : selected.length < fuel + path.length)
    (searched : Searched catalog selected path done) :
    Yields (Searched catalog selected path) (∃ a, TransGen (Needs catalog selected) a a) done [id]
      (visit S catalog selected fuel path done id) := by
  induction fuel generalizing path done id with
  | zero =>
    have short := way.short
    omega
  | succ fuel ih =>
    rw [visit_succ]
    split
    · rename_i again
      exact ⟨by simp,id,way.leads id again⟩
    rename_i off
    split
    · rename_i known
      exact ⟨searched,Subset.refl done,by simpa using known⟩
    rename_i fresh
    have inner : Searched catalog selected (id :: path) done :=
      ⟨searched.built,searched.inside,forall_mem_cons.mpr ⟨fresh,searched.off⟩⟩
    have fold := Yields.fold (selectedDependencies catalog selected id)
      (fun d need done kept => ih (way.next off need) (by rw [length_cons]; omega) kept) inner
    cases answer : (selectedDependencies catalog selected id).foldlM
        (visit S catalog selected fuel (id :: path)) done with
    | error e =>
      rw [answer] at fold
      exact fold
    | ok done' =>
      rw [answer] at fold
      obtain ⟨⟨built,inside,off'⟩,more,goals⟩ := fold
      refine ⟨⟨?_,?_,?_⟩,?_,?_⟩
      · apply built.snoc (off' id mem_cons_self)
        intro d need
        exact goals ((needs_iff way.chosen d).mp need)
      · exact append_subset.mpr ⟨inside,by simpa using way.chosen⟩
      · intro x mem back
        obtain old | new := mem_append.mp back
        · exact off' x (mem_cons_of_mem _ mem) old
        · exact off (mem_singleton.mp new ▸ mem)
      · exact Subset.trans more (subset_append_left _ _)
      · exact subset_append_right _ _

theorem foldlM_congr {f g : List String → String → Except SearchError (List String)} {ids : List String}
    (same : ∀ id ∈ ids, ∀ done, f done id = g done id) : ids.foldlM f done = ids.foldlM g done := by
  induction ids generalizing done with
  | nil => rfl
  | cons id ids ih =>
    rw [foldlM_cons,foldlM_cons,same id mem_cons_self]
    congr 1
    funext done
    exact ih (fun id mem => same id (mem_cons_of_mem _ mem))

def SameDependencies (catalog catalog' : Catalog) : Prop :=
  ∀ id, Option.Rel (fun c c' => c.dependencies.Perm c'.dependencies) (catalog.component id)
    (catalog'.component id)

theorem sortStrings_perm (perm : names.Perm names') : sortStrings names = sortStrings names' :=
  Perm.eq_of_pairwise' (pairwise_insertionSort _ _) (pairwise_insertionSort _ _)
    ((perm_insertionSort _ _).trans (perm.trans (perm_insertionSort _ _).symm))

theorem selectedDependencies_perm (same : SameDependencies catalog catalog')
    (perm : selected.Perm selected') (id : String) :
    selectedDependencies catalog selected id = selectedDependencies catalog' selected' id := by
  have chosen : (fun d => selected.contains d) = fun d => selected'.contains d := by
    funext d
    rw [Bool.eq_iff_iff,contains_iff_mem,contains_iff_mem,perm.mem_iff]
  unfold selectedDependencies
  rw [chosen]
  have listed := same id
  generalize catalog.component id = c,catalog'.component id = c' at listed ⊢
  cases listed with
  | none => rfl
  | some perm => exact congrArg _ (sortStrings_perm perm)

theorem visit_perm (same : SameDependencies catalog catalog') (perm : selected.Perm selected')
    (fuel : Nat) (path done : List String) (id : String) :
    visit S catalog selected fuel path done id = visit S catalog' selected' fuel path done id := by
  induction fuel generalizing path done id with
  | zero => rfl
  | succ fuel ih =>
    rw [visit_succ,visit_succ,selectedDependencies_perm same perm,foldlM_congr]
    intro d _ done
    exact ih _ _ d

theorem start_way (mem : id ∈ sortStrings selected) : OnTheWay catalog selected [] id :=
  ⟨nodup_nil,nil_subset _,mem_sortStrings.mp mem,by simp⟩

/-- What the search from all the selected components answers. -/
theorem search_spec (S : Setup) (catalog : Catalog) (ids : List String) :
    Yields (Searched catalog ids []) (∃ a, TransGen (Needs catalog ids) a a) [] (sortStrings ids)
      ((sortStrings ids).foldlM (visit S catalog ids (ids.length+1) []) []) := by
  apply Yields.fold
  · intro id mem done kept
    exact visit_spec (start_way mem) (by simp) kept
  · exact ⟨.nil,nil_subset _,by simp⟩

/-- The search ends at a cycle, or with all the selected components. -/
theorem resolve_cases (S : Setup) (catalog : Catalog) (ids : List String) :
    (∃ detail, resolveTeardownOrder S ids catalog = .error (.cycle detail) ∧
      ∃ a, TransGen (Needs catalog ids) a a) ∨
    ∃ done, resolveTeardownOrder S ids catalog = .ok done.reverse ∧ Searched catalog ids [] done ∧
      ids ⊆ done := by
  have spec := search_spec S catalog ids
  unfold resolveTeardownOrder
  cases answer : (sortStrings ids).foldlM (visit S catalog ids (ids.length+1) []) [] with
  | error err =>
    rw [answer] at spec
    cases err with
    | outOfFuel => exact absurd rfl spec.1
    | cycle detail => exact .inl ⟨detail,rfl,spec.2⟩
  | ok done =>
    rw [answer] at spec
    obtain ⟨searched,_,all⟩ := spec
    exact .inr ⟨done,rfl,searched,fun id mem => all (mem_sortStrings.mpr mem)⟩

theorem resolve_perm (S : Setup) (perm : ids'.Perm ids) (same : SameDependencies catalog' catalog) :
    resolveTeardownOrder S ids' catalog' = resolveTeardownOrder S ids catalog := by
  unfold resolveTeardownOrder
  rw [sortStrings_perm perm,perm.length_eq,foldlM_congr]
  intro id _ done
  exact visit_perm same perm _ _ _ _

/-- The search never runs out of fuel. It finds a cycle exactly when the selected
    components have one. Otherwise each of them is in the order once,
    before what it depends on; and the order in which components and
    dependencies are listed does not matter. -/
theorem teardown_order_correct (S : Setup) (catalog : Catalog) (ids : List String) :
    resolveTeardownOrder S ids catalog ≠ .error .outOfFuel ∧
    ((∃ detail, resolveTeardownOrder S ids catalog = .error (.cycle detail)) ↔
      ∃ a, TransGen (Needs catalog ids) a a) ∧
    (∀ order, resolveTeardownOrder S ids catalog = .ok order →
      order.Perm ids.dedup ∧ ∀ a b, Needs catalog ids a b → [a,b].Sublist order) ∧
    ∀ ids' catalog', ids'.Perm ids → SameDependencies catalog' catalog →
      resolveTeardownOrder S ids' catalog' = resolveTeardownOrder S ids catalog := by
  rcases resolve_cases S catalog ids with ⟨detail,is,cycle⟩ | ⟨done,is,searched,all⟩
  · refine ⟨by simp [is],iff_of_true ⟨detail,is⟩ cycle,?_,fun _ _ => resolve_perm S⟩
    intro order ok
    cases is.symm.trans ok
  · have acyclic : ¬ ∃ a, TransGen (Needs catalog ids) a a := by
      rintro ⟨a,cycle⟩
      obtain ⟨_,need,_⟩ := TransGen.head'_iff.mp cycle
      exact searched.built.acyclic (all need.1) cycle
    refine ⟨by simp [is],iff_of_false (by simp [is]) acyclic,?_,fun _ _ => resolve_perm S⟩
    intro order ok
    cases is.symm.trans ok
    constructor
    · apply (perm_ext_iff_of_nodup (nodup_reverse.mpr searched.built.nodup) ids.nodup_dedup).mpr
      intro a
      rw [mem_reverse,mem_dedup]
      exact ⟨fun mem => searched.inside mem,fun mem => all mem⟩
    · intro a b need
      exact reverse_sublist.mpr (searched.built.before (all need.1) need)

end Pilot.Decommission
