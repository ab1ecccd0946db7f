import Mathlib.Data.List.Nodup
import Mathlib.Order.Basic

/-!
Dictionaries with distinct keys, in the order in which the keys were first set.
-/
namespace Pilot
open List

structure Dict (Key Value : Type) where
  entries : List (Key × Value)
  distinct : (entries.map Prod.fst).Nodup
  deriving DecidableEq

namespace Dict
variable {Key Value State : Type} [DecidableEq Key] {k l : Key} {v : Value}

def empty : Dict Key Value := ⟨[],nodup_nil⟩

def get? (d : Dict Key Value) (k : Key) : Option Value := d.entries.lookup k

def has (d : Dict Key Value) (k : Key) : Bool := (d.get? k).isSome

theorem lookup_cons_ite : ((k,u) :: rest).lookup l = if l = k then some u else rest.lookup l := by
  by_cases same : l = k
  · simp [same]
  · have skip : (l == k) = false := by simpa using same
    simp [lookup_cons,skip,same]

def setEntry (k : Key) (v : Value) : List (Key × Value) → List (Key × Value)
  | [] => [(k,v)]
  | (l,u) :: rest => if l = k then (k,v) :: rest else (l,u) :: setEntry k v rest

variable {entries : List (Key × Value)}

theorem mem_keys_setEntry : l ∈ (setEntry k v entries).map Prod.fst ↔ l = k ∨ l ∈ entries.map Prod.fst := by
  induction entries with
  | nil => simp [setEntry]
  | cons head rest ih =>
    obtain ⟨m,u⟩ := head
    by_cases same : m = k
    · subst same
      simp [setEntry]
    · simp only [setEntry,same,if_false,map_cons,mem_cons,ih]
      tauto

theorem distinct_setEntry (distinct : (entries.map Prod.fst).Nodup) :
    ((setEntry k v entries).map Prod.fst).Nodup := by
  induction entries with
  | nil => simp [setEntry]
  | cons head rest ih =>
    obtain ⟨m,u⟩ := head
    obtain ⟨fresh,distinct⟩ := nodup_cons.mp distinct
    by_cases same : m = k
    · subst same
      simpa [setEntry] using ⟨by simpa using fresh,distinct⟩
    · rw [setEntry,if_neg same,map_cons,nodup_cons,mem_keys_setEntry]
      exact ⟨not_or.mpr ⟨same,fresh⟩,ih distinct⟩

def set (d : Dict Key Value) (k : Key) (v : Value) : Dict Key Value :=
  ⟨setEntry k v d.entries,distinct_setEntry d.distinct⟩

def filter (p : Key × Value → Bool) (d : Dict Key Value) : Dict Key Value :=
  ⟨d.entries.filter p,d.distinct.sublist (filter_sublist.map Prod.fst)⟩

theorem get?_set (d : Dict Key Value) : (d.set k v).get? l = if l = k then some v else d.get? l := by
  obtain ⟨entries,distinct⟩ := d
  simp only [get?,set]
  clear distinct
  induction entries with
  | nil => simp [setEntry,lookup_cons_ite]
  | cons head rest ih =>
    obtain ⟨m,u⟩ := head
    by_cases here : m = k
    · subst here
      by_cases same : l = m <;> simp [setEntry,lookup_cons_ite,same]
    simp only [setEntry,here,if_false,lookup_cons_ite,ih]
    by_cases same : l = m
    · subst same
      simp [here]
    · simp [same]

theorem has_set (d : Dict Key Value) : (d.set k v).has l = (decide (l = k) || d.has l) := by
  by_cases same : l = k <;> simp [has,get?_set,same]

variable {d : Dict Key Value}

theorem has_iff : d.has k = true ↔ ∃ v, d.get? k = some v :=
  Option.isSome_iff_exists

theorem has_false : d.has k = false ↔ d.get? k = none :=
  Option.isSome_eq_false_iff.trans Option.isNone_iff_eq_none

theorem mem_entries : (k,v) ∈ d.entries ↔ d.get? k = some v := by
  obtain ⟨entries,distinct⟩ := d
  simp only [get?]
  induction entries with
  | nil => simp
  | cons head rest ih =>
    obtain ⟨m,u⟩ := head
    obtain ⟨fresh,later⟩ := nodup_cons.mp distinct
    rw [mem_cons,lookup_cons_ite,ih later]
    by_cases same : k = m
    · subst same
      have absent : rest.lookup k ≠ some v := by
        intro found
        exact fresh (mem_map.mpr ⟨(k,v),(ih later).mpr found,rfl⟩)
      simp [absent,eq_comm]
    · simp [same]

theorem mem_keys : k ∈ d.entries.map Prod.fst ↔ d.has k = true := by
  rw [has_iff,mem_map]
  constructor
  · rintro ⟨⟨_,v⟩,mem,rfl⟩
    exact ⟨v,mem_entries.mp mem⟩
  · intro ⟨v,found⟩
    exact ⟨(k,v),mem_entries.mpr found,rfl⟩

def mapEntries (f : State → Value → Value × State) :
    List (Key × Value) → State → List (Key × Value) × State
  | [], s => ([], s)
  | (k,v) :: rest, s =>
    ((k,(f s v).1) :: (mapEntries f rest (f s v).2).1, (mapEntries f rest (f s v).2).2)

omit [DecidableEq Key] in
theorem keys_mapEntries : (mapEntries f entries s).1.map Prod.fst = entries.map Prod.fst := by
  induction entries generalizing s with
  | nil => rfl
  | cons head rest ih => simp [mapEntries,ih]

def mapAccum (f : State → Value → Value × State) (d : Dict Key Value) (s : State) :
    Dict Key Value × State :=
  (⟨(mapEntries f d.entries s).1,by rw [keys_mapEntries]; exact d.distinct⟩,
    (mapEntries f d.entries s).2)

section
variable [Preorder State]

omit [DecidableEq Key] in
theorem le_mapAccum (grows : ∀ s v, s ≤ (f s v).2) (d : Dict Key Value) (s : State) :
    s ≤ (d.mapAccum f s).2 := by
  obtain ⟨entries,distinct⟩ := d
  simp only [mapAccum]
  clear distinct
  induction entries generalizing s with
  | nil => exact le_refl s
  | cons head rest ih => exact (grows s head.2).trans (ih _)

theorem get?_mapAccum (grows : ∀ s v, s ≤ (f s v).2) (d : Dict Key Value) (s : State) (k : Key) :
    (d.get? k = none ∧ (d.mapAccum f s).1.get? k = none) ∨
      ∃ v t, d.get? k = some v ∧ s ≤ t ∧ (f t v).2 ≤ (d.mapAccum f s).2 ∧
        (d.mapAccum f s).1.get? k = some (f t v).1 := by
  obtain ⟨entries,distinct⟩ := d
  induction entries generalizing s with
  | nil => exact .inl ⟨rfl,rfl⟩
  | cons head rest ih =>
    obtain ⟨m,u⟩ := head
    have distinct' := (nodup_cons.mp distinct).2
    simp only [get?,mapAccum,mapEntries,lookup_cons_ite]
    by_cases same : k = m
    · refine .inr ⟨u,s,if_pos same,le_refl s,?_,if_pos same⟩
      exact le_mapAccum grows ⟨rest,distinct'⟩ _
    simp only [if_neg same]
    rcases ih (f s u).2 distinct' with missing | ⟨v,t,found,first,last,now⟩
    · exact .inl missing
    · exact .inr ⟨v,t,found,(grows s u).trans first,last,now⟩

end

end Dict
end Pilot
