import Mathlib.Data.List.Induction
import Mathlib.Data.List.Nodup

/-!
Relational tables as lists of rows. An UPDATE rewrites the rows a WHERE
clause selects and leaves every other row in its place. The last part is
about sets that are collected under keys.
-/
namespace Pilot.Table
open Prod
variable {Row Key : Type*}

def updateWhere (p : Row → Bool) (f : Row → Row) (rows : List Row) : List Row :=
  rows.map (fun r => if p r then f r else r)

variable {r : Row} {rows : List Row} {f : Row → Row}

theorem mem_updateWhere : r ∈ updateWhere p f rows ↔
      (∃ old ∈ rows, p old = true ∧ f old = r) ∨ (r ∈ rows ∧ p r = false) := by
  simp only [updateWhere,List.mem_map]
  constructor
  · rintro ⟨old,mem,eq⟩
    by_cases h : p old = true
    · exact Or.inl ⟨old,mem,h,by simpa [h] using eq⟩
    · have same : old = r := by simpa [h] using eq
      subst same
      exact Or.inr ⟨mem,by simpa using h⟩
  · rintro (⟨old,mem,h,eq⟩ | ⟨mem,h⟩)
    · exact ⟨old,mem,by simp [h,eq]⟩
    · exact ⟨r,mem,by simp [h]⟩

theorem mem_updateWhere_of_not (mem : r ∈ rows) (skip : p r = false) : r ∈ updateWhere p f rows :=
  mem_updateWhere.mpr (Or.inr ⟨mem,skip⟩)

theorem column_comp {column : Row → Key} {p : Row → Bool} (same : ∀ r, column (f r) = column r) :
    (column ∘ fun r => if p r then f r else r) = column := by
  funext r
  simp only [Function.comp]
  split
  · exact same r
  · rfl

theorem column_updateWhere (column : Row → Key) (same : ∀ r, column (f r) = column r) (rows : List Row) :
    (updateWhere p f rows).map column = rows.map column := by
  rw [updateWhere,List.map_map,column_comp same]

theorem filter_updateWhere (same : ∀ r, q (f r) = q r) (rows : List Row) :
    (updateWhere p f rows).filter q = updateWhere p f (rows.filter q) := by
  rw [updateWhere,List.filter_map,column_comp same,updateWhere]

theorem find?_updateWhere (same : ∀ r, q (f r) = q r) (rows : List Row) :
    (updateWhere p f rows).find? q = (rows.find? q).map (fun r => if p r then f r else r) := by
  rw [updateWhere,List.find?_map,column_comp same]

theorem updateWhere_none (skip : ∀ r ∈ rows, p r = false) : updateWhere p f rows = rows := by
  conv => rhs; rw [← List.map_id rows]
  apply List.map_congr_left
  intro r mem
  simp [skip r mem]

/-- A loop of UPDATE statements whose rewrite takes a row out of every WHERE
    clause of the loop is one UPDATE over their union. -/
theorem foldl_updateWhere {p : Key → Row → Bool}
    (done : ∀ k r, p k (f r) = false) (keys : List Key) (rows : List Row) :
    keys.foldl (fun rows k => updateWhere (p k) f rows) rows =
      updateWhere (fun r => keys.any (fun k => p k r)) f rows := by
  induction keys generalizing rows with
  | nil => exact (updateWhere_none (by simp)).symm
  | cons k keys ih =>
    rw [List.foldl_cons,ih]
    simp only [updateWhere,List.map_map]
    apply List.map_congr_left
    intro r _
    simp only [Function.comp,List.any_cons]
    by_cases h : p k r = true
    · have skip : keys.any (fun k => p k (f r)) = false := by simp [done]
      simp [h,skip]
    · simp [h]

theorem unique_row (unique : (rows.map key).Nodup) (hr : r ∈ rows) (hs : s ∈ rows)
    (same : key r = key s) : r = s :=
  List.inj_on_of_nodup_map unique hr hs same

theorem nodup_insert {new : Row} (unique : (rows.map key).Nodup) (fresh : ∀ r ∈ rows, key r ≠ key new) :
    ((rows ++ [new]).map key).Nodup := by
  rw [List.map_append,List.map_singleton]
  exact unique.append (List.nodup_singleton _) (List.disjoint_singleton.mpr (by simpa using fresh))

theorem filterMap_single {Out : Type*} {g : Row → Option Out} {x : Out}
    (distinct : rows.Nodup) (mem : r ∈ rows) (hit : g r = some x)
    (miss : ∀ s ∈ rows, s ≠ r → g s = none) : rows.filterMap g = [x] := by
  obtain ⟨before,after,rfl⟩ := List.append_of_mem mem
  obtain ⟨fresh,-⟩ := List.nodup_cons.mp (List.nodup_middle.mp distinct)
  have rest : (before ++ after).filterMap g = [] := by
    rw [List.filterMap_eq_nil_iff]
    intro s inRest
    exact miss s (List.perm_middle.mem_iff.mpr (List.mem_cons_of_mem r inRest)) (fun same => fresh (same ▸ inRest))
  rw [List.filterMap_append,List.append_eq_nil_iff] at rest
  simp [hit,rest]

theorem filter_key [BEq Key] [LawfulBEq Key] {key : Row → Key}
    (unique : (rows.map key).Nodup) (mem : r ∈ rows) :
    rows.filter (fun s => key s == key r) = [r] := by
  rw [← List.filterMap_eq_filter]
  refine filterMap_single (unique.of_map key) mem (by simp) ?_
  intro s inRows other
  have apart : key s ≠ key r := fun same => other (unique_row unique inRows mem same)
  simpa [Option.guard] using apart

theorem filterMap_inj {Out : Type*} {g : Row → Option Out} (once : (rows.filterMap g).Nodup)
    {x : Out} (hr : r ∈ rows) (hs : s ∈ rows) (isR : g r = some x) (isS : g s = some x) :
    r = s := by
  have unique : ((rows.filter (fun r => (g r).isSome)).map g).Nodup := by
    have once := once.map (fun _ _ => Option.some.inj)
    rwa [List.map_filterMap_some_eq_filter_map_isSome,List.filter_map] at once
  exact unique_row unique (List.mem_filter.mpr ⟨hr,by simp [isR]⟩)
    (List.mem_filter.mpr ⟨hs,by simp [isS]⟩) (isR.trans isS.symm)

theorem related_comp {A B C : Type*} {R : A → B → Prop} {S : B → C → Prop} {T : A → C → Prop}
    {as : List A} {bs : List B} {cs : List C} (first : List.Forall₂ R as bs)
    (second : List.Forall₂ S bs cs) (comp : ∀ {a b c}, R a b → S b c → T a c) :
    List.Forall₂ T as cs := by
  induction first generalizing cs with
  | nil => cases second; exact .nil
  | cons head _ ih =>
    cases second with
    | cons next rest => exact .cons (comp head next) (ih rest)

theorem related_of_mem {A B : Type*} {R : A → B → Prop} {as : List A} {bs : List B}
    (related : List.Forall₂ R as bs) {a : A} (mem : a ∈ as) : ∃ b ∈ bs, R a b := by
  induction related with
  | nil => cases mem
  | cons head _ ih =>
    rcases List.mem_cons.mp mem with rfl | later
    · exact ⟨_,List.mem_cons_self,head⟩
    · obtain ⟨b,inRest,rel⟩ := ih later
      exact ⟨b,List.mem_cons_of_mem _ inRest,rel⟩

section
variable {Value : Type*} [DecidableEq Key]

/-- Add values to the set under a key, which is made if it is missing. -/
def addUnder (sets : List (Key × List Value)) (entry : Key × List Value) :
    List (Key × List Value) :=
  match sets with
  | [] => [entry]
  | (k, set) :: rest =>
    if k = entry.1 then (k, set ++ entry.2) :: rest else (k, set) :: addUnder rest entry

/-- The sets hold what the entries add, each key once. -/
structure Gathers (entries sets : List (Key × List Value)) : Prop where
  distinct : (sets.map fst).Nodup
  keys : ∀ k, k ∈ sets.map fst ↔ k ∈ entries.map fst
  values : ∀ k set, (k, set) ∈ sets → ∀ v, v ∈ set ↔ ∃ vs, (k, vs) ∈ entries ∧ v ∈ vs

theorem keys_addUnder (sets : List (Key × List Value)) (entry : Key × List Value) (k : Key) :
    k ∈ (addUnder sets entry).map fst ↔ k ∈ sets.map fst ∨ k = entry.1 := by
  induction sets with
  | nil => simp [addUnder]
  | cons head rest ih =>
    obtain ⟨k',set⟩ := head
    by_cases same : k' = entry.1
    · subst same
      simp only [addUnder,if_true,List.map_cons,List.mem_cons]
      tauto
    · simp only [addUnder,same,if_false,List.map_cons,List.mem_cons,ih]
      tauto

variable {sets : List (Key × List Value)}

theorem nodup_addUnder (entry : Key × List Value)
    (distinct : (sets.map fst).Nodup) : ((addUnder sets entry).map fst).Nodup := by
  induction sets with
  | nil => simp [addUnder]
  | cons head rest ih =>
    obtain ⟨k',set⟩ := head
    obtain ⟨fresh,distinct'⟩ := List.nodup_cons.mp distinct
    by_cases same : k' = entry.1
    · simpa [addUnder,same] using distinct
    simp only [addUnder,same,if_false,List.map_cons,List.nodup_cons]
    refine ⟨?_,ih distinct'⟩
    rw [keys_addUnder]
    exact fun mem => mem.elim fresh same

theorem mem_addUnder {set : List Value} (distinct : (sets.map fst).Nodup)
    (mem : (k, set) ∈ addUnder sets entry) :
    (k ≠ entry.1 ∧ (k, set) ∈ sets) ∨
      (k = entry.1 ∧ ((∃ old, (k, old) ∈ sets ∧ set = old ++ entry.2) ∨
        (k ∉ sets.map fst ∧ set = entry.2))) := by
  induction sets with
  | nil =>
    obtain rfl : (k, set) = entry := by simpa [addUnder] using mem
    exact .inr ⟨rfl,.inr ⟨by simp,rfl⟩⟩
  | cons head rest ih =>
    obtain ⟨k',set'⟩ := head
    obtain ⟨fresh,distinct'⟩ := List.nodup_cons.mp distinct
    by_cases same : k' = entry.1
    · simp only [addUnder,same,if_true,List.mem_cons,mk.injEq] at mem
      rcases mem with ⟨rfl,rfl⟩ | later
      · exact .inr ⟨rfl,.inl ⟨set',by simp [same],rfl⟩⟩
      refine .inl ⟨?_,by simp [later]⟩
      rintro rfl
      have inRest : entry.1 ∈ rest.map fst := List.mem_map.mpr ⟨_,later,rfl⟩
      exact fresh (same ▸ inRest)
    · simp only [addUnder,same,if_false,List.mem_cons,mk.injEq] at mem
      rcases mem with ⟨rfl,rfl⟩ | later
      · exact .inl ⟨same,by simp⟩
      rcases ih distinct' later with ⟨other,old⟩ | ⟨rfl,⟨old,memOld,eq⟩ | ⟨new,eq⟩⟩
      · exact .inl ⟨other,by simp [old]⟩
      · exact .inr ⟨rfl,.inl ⟨old,by simp [memOld],eq⟩⟩
      · refine .inr ⟨rfl,.inr ⟨?_,eq⟩⟩
        simp only [List.map_cons,List.mem_cons,not_or]
        exact ⟨fun eq => same eq.symm,new⟩

theorem gathers_addUnder {entries : List (Key × List Value)} (gathers : Gathers entries sets)
    (entry : Key × List Value) : Gathers (entries ++ [entry]) (addUnder sets entry) := by
  refine ⟨nodup_addUnder entry gathers.distinct,?_,?_⟩
  · intro k
    rw [keys_addUnder,gathers.keys]
    simp
  intro k set mem v
  have split : (∃ vs, (k, vs) ∈ entries ++ [entry] ∧ v ∈ vs) ↔
      (∃ vs, (k, vs) ∈ entries ∧ v ∈ vs) ∨ (k = entry.1 ∧ v ∈ entry.2) := by
    obtain ⟨k',vs'⟩ := entry
    simp only [List.mem_append,List.mem_singleton,mk.injEq,or_and_right,exists_or]
    refine or_congr_right ⟨?_,?_⟩
    · rintro ⟨vs,⟨rfl,rfl⟩,memV⟩
      exact ⟨rfl,memV⟩
    · rintro ⟨rfl,memV⟩
      exact ⟨vs',⟨rfl,rfl⟩,memV⟩
  rw [split]
  rcases mem_addUnder gathers.distinct mem with ⟨other,old⟩ | ⟨rfl,⟨old,memOld,rfl⟩ | ⟨new,rfl⟩⟩
  · rw [gathers.values k set old v]
    simp [other]
  · rw [List.mem_append,gathers.values _ old memOld v]
    simp
  have none : ¬ ∃ vs, (entry.1, vs) ∈ entries ∧ v ∈ vs := by
    rintro ⟨vs,memVs,-⟩
    exact new ((gathers.keys _).mpr (List.mem_map.mpr ⟨_,memVs,rfl⟩))
  simp [none]

theorem gathers_foldl (entries : List (Key × List Value)) :
    Gathers entries (entries.foldl addUnder []) := by
  induction entries using List.reverseRecOn with
  | nil => exact ⟨by simp,by simp,by simp⟩
  | append_singleton entries entry ih =>
    rw [List.foldl_append,List.foldl_cons,List.foldl_nil]
    exact gathers_addUnder ih entry

end

section
variable {Key Value : Type*}

def tagged (f : Key → List Value) (keys : List Key) : List (Key × Value) :=
  keys.flatMap (fun k => (f k).map (mk k))

theorem tagged_cons (f : Key → List Value) (k : Key) (keys : List Key) :
    tagged f (k :: keys) = (f k).map (mk k) ++ tagged f keys :=
  List.flatMap_cons

theorem countP_tagged [DecidableEq Key] (f : Key → List Value) (keys : List Key) (k : Key) :
    (tagged f keys).countP (fun e => e.1 = k) = keys.count k * (f k).length := by
  induction keys with
  | nil => simp [tagged]
  | cons key rest ih =>
    rw [tagged_cons,List.countP_append,ih,List.countP_map]
    by_cases same : key = k
    · subst same
      have whole : (f key).countP ((fun e => decide (e.1 = key)) ∘ mk key) = (f key).length := by
        simp [Function.comp_def]
      rw [whole,List.count_cons_self,Nat.succ_mul]
      omega
    · have none : (f key).countP ((fun e => decide (e.1 = k)) ∘ mk key) = 0 := by
        simp [Function.comp_def,same]
      rw [none,List.count_cons_of_ne same,Nat.zero_add]

theorem tagged_eq_iff [DecidableEq Key] {f g : Key → List Value} :
    tagged f keys = tagged g keys ↔ ∀ k ∈ keys, f k = g k := by
  constructor
  · intro same
    have lengths : ∀ k ∈ keys, (f k).length = (g k).length := by
      intro k mem
      have counts := congrArg (List.countP (fun e => decide (e.1 = k))) same
      rw [countP_tagged,countP_tagged] at counts
      exact Nat.eq_of_mul_eq_mul_left (List.count_pos_iff.mpr mem) counts
    induction keys with
    | nil => simp
    | cons key rest ih =>
      rw [tagged_cons,tagged_cons] at same
      obtain ⟨first,later⟩ := List.append_inj same (by simp [lengths key List.mem_cons_self])
      have here : f key = g key :=
        List.map_injective_iff.mpr (fun _ _ pair => congrArg snd pair) first
      have others := ih later (fun k mem => lengths k (List.mem_cons_of_mem key mem))
      exact List.forall_mem_cons.mpr ⟨here,others⟩
  · intro each
    exact List.flatMap_congr fun k mem => by rw [each k mem]

end

end Pilot.Table
