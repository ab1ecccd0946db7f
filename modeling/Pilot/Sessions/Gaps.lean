import Mathlib.Data.UInt

/-!
Missing sequence numbers. `detectGaps` walks the sorted numbers with the next
expected one in hand, in the 64 bits of the source, so that the successor of
the largest number wraps to zero. The ranges it returns are exactly the
numbers below the maximum that are not there.
-/
namespace Pilot.Sessions
open List UInt64

structure GapRange where
  (fromSeq toSeq : UInt64)
  deriving DecidableEq, Repr

def maxSeq (seqs : List UInt64) : UInt64 := seqs.foldl max 0

def gapStep (state : UInt64 × List GapRange) (seq : UInt64) : UInt64 × List GapRange :=
  (if state.1 ≤ seq then seq + 1 else state.1,
    if state.1 < seq then state.2 ++ [⟨state.1,seq - 1⟩] else state.2)

def detectGaps (seqs : List UInt64) : List GapRange :=
  ((seqs.insertionSort (· ≤ ·)).foldl gapStep (1,[])).2

def gapsUpTo (seqs : List UInt64) (lastSeq : UInt64) : List GapRange :=
  if maxSeq seqs < lastSeq then detectGaps seqs ++ [⟨maxSeq seqs + 1,lastSeq⟩]
  else detectGaps seqs

def Covers (gaps : List GapRange) (n : Nat) : Prop :=
  ∃ g ∈ gaps, g.fromSeq.toNat ≤ n ∧ n ≤ g.toSeq.toNat

theorem covers_append : Covers (first ++ second) n ↔ Covers first n ∨ Covers second n := by
  simp only [Covers,mem_append]
  constructor
  · rintro ⟨g,left | right,range⟩
    · exact Or.inl ⟨g,left,range⟩
    · exact Or.inr ⟨g,right,range⟩
  · rintro (⟨g,left,range⟩ | ⟨g,right,range⟩)
    · exact ⟨g,Or.inl left,range⟩
    · exact ⟨g,Or.inr right,range⟩

theorem covers_single : Covers [g] n ↔ g.fromSeq.toNat ≤ n ∧ n ≤ g.toSeq.toNat := by
  simp [Covers]

theorem covers_gapStep (reached : expected.toNat ≤ s.toNat) (gaps : List GapRange) (n : Nat) :
    Covers (gapStep (expected,gaps) s).2 n ↔ Covers gaps n ∨ (expected.toNat ≤ n ∧ n < s.toNat) := by
  by_cases below : expected < s
  · have lt := lt_iff_toNat_lt.mp below
    have one : (1 : UInt64) ≤ s := by
      rw [le_iff_toNat_le]
      have : (1 : UInt64).toNat = 1 := rfl
      omega
    have top : (s - 1).toNat = s.toNat - 1 := UInt64.toNat_sub_of_le _ _ one
    simp only [gapStep,if_pos below,covers_append,covers_single,top]
    apply or_congr_right
    omega
  · have ge : s.toNat ≤ expected.toNat := by
      rw [lt_iff_toNat_lt] at below
      omega
    have empty : ¬ (expected.toNat ≤ n ∧ n < s.toNat) := by omega
    simp [gapStep,if_neg below,empty]

variable {seqs : List UInt64}

/-- The walk from an expected number on adds exactly what is missing between
    it and the last number. -/
theorem covers_foldl (sorted : seqs.Pairwise (· < ·)) (expected : UInt64) (gaps : List GapRange) (n : Nat) :
    Covers (seqs.foldl gapStep (expected,gaps)).2 n ↔ Covers gaps n ∨
      (expected.toNat ≤ n ∧ (∀ s ∈ seqs, s.toNat ≠ n) ∧ ∃ s ∈ seqs, n < s.toNat) := by
  induction seqs generalizing expected gaps with
  | nil => simp
  | cons s rest ih =>
    obtain ⟨above,sortedRest⟩ := pairwise_cons.mp sorted
    have larger : ∀ t ∈ rest, s.toNat < t.toNat :=
      fun t mem => lt_iff_toNat_lt.mp (above t mem)
    rw [foldl_cons]
    by_cases reached : expected ≤ s
    · have le := le_iff_toNat_le.mp reached
      have step := covers_gapStep le gaps n
      have split : (gapStep (expected,gaps) s).1 = s + 1 := by simp [gapStep,reached]
      cases rest with
      | nil =>
        simp only [foldl_nil,step,mem_singleton,forall_eq,exists_eq_left]
        apply or_congr_right
        omega
      | cons t more =>
        -- another number follows, so the successor of this one does not wrap
        have next : (s + 1).toNat = s.toNat + 1 := by
          have small := larger t mem_cons_self
          have bound := t.toNat_lt
          rw [UInt64.toNat_add]
          exact Nat.mod_eq_of_lt (by
            have : (1 : UInt64).toNat = 1 := rfl
            omega)
        generalize t :: more = rest at ih larger sortedRest
        rw [show gapStep (expected,gaps) s = ((gapStep (expected,gaps) s).1,(gapStep (expected,gaps) s).2) from rfl,
          ih sortedRest,split,step,next,or_assoc,forall_mem_cons,exists_mem_cons_iff]
        apply or_congr_right
        by_cases before : n < s.toNat
        · have absent : ∀ u ∈ rest, u.toNat ≠ n := fun u later same => by
            have := larger u later
            omega
          have notS : s.toNat ≠ n := by omega
          have past : ¬ s.toNat + 1 ≤ n := by omega
          tauto
        · have low : s.toNat + 1 ≤ n ↔ expected.toNat ≤ n ∧ s.toNat ≠ n := by omega
          rw [low]
          tauto
    · have lt : s.toNat < expected.toNat := by
        rw [le_iff_toNat_le] at reached
        omega
      have notBelow : ¬ expected < s := by
        rw [lt_iff_toNat_lt]
        omega
      have same : gapStep (expected,gaps) s = (expected,gaps) := by
        simp [gapStep,reached,notBelow]
      rw [same,ih sortedRest,forall_mem_cons,exists_mem_cons_iff]
      apply or_congr_right
      apply and_congr_right
      intro low
      have past : s.toNat ≠ n ∧ ¬ n < s.toNat := by omega
      tauto

theorem sorted_insertionSort (distinct : seqs.Nodup) : (seqs.insertionSort (· ≤ ·)).Pairwise (· < ·) := by
  have sorted := pairwise_insertionSort (· ≤ ·) seqs
  have distinct' : (seqs.insertionSort (· ≤ ·)).Nodup :=
    (perm_insertionSort (· ≤ ·) seqs).nodup_iff.mpr distinct
  exact (sorted.and distinct').imp (fun both => UInt64.lt_of_le_of_ne both.1 both.2)

theorem covers_detectGaps (distinct : seqs.Nodup) (n : Nat) :
    Covers (detectGaps seqs) n ↔ 1 ≤ n ∧ (∀ s ∈ seqs, s.toNat ≠ n) ∧ ∃ s ∈ seqs, n < s.toNat := by
  have one : (1 : UInt64).toNat = 1 := rfl
  have none_ : ¬ Covers [] n := by simp [Covers]
  rw [detectGaps,covers_foldl (sorted_insertionSort distinct),one]
  simp [none_]

instance lawfulMaxUInt64 : Std.LawfulOrderLeftLeaningMax UInt64 where
  max_eq_left a b le := by
    by_cases other : a ≤ b
    · exact (if_pos other).trans (UInt64.le_antisymm le other)
    · exact if_neg other
  max_eq_right a b less := if_pos (Std.le_of_not_ge less)

theorem foldl_max_spec (seqs : List UInt64) (start : UInt64) :
    seqs.foldl max start ∈ start :: seqs ∧ ∀ s ∈ start :: seqs, s ≤ seqs.foldl max start :=
  max?_eq_some_iff.mp rfl

theorem le_maxSeq (mem : s ∈ seqs) : s ≤ maxSeq seqs :=
  (foldl_max_spec seqs 0).2 s (mem_cons_of_mem 0 mem)

theorem maxSeq_mem (positive : 0 < (maxSeq seqs).toNat) : maxSeq seqs ∈ seqs := by
  rcases mem_cons.mp (foldl_max_spec seqs 0).1 with isZero | mem
  · rw [maxSeq,isZero] at positive
    exact absurd positive (by decide)
  · exact mem

theorem all_stored_of_no_gaps (distinct : seqs.Nodup) (top : maxSeq seqs = lastSeq)
    (none_ : gapsUpTo seqs lastSeq = []) (n : Nat) (low : 1 ≤ n) (high : n ≤ lastSeq.toNat) :
    ∃ s ∈ seqs, s.toNat = n := by
  by_contra missing
  have absent : ∀ s ∈ seqs, s.toNat ≠ n := fun s mem same => missing ⟨s,mem,same⟩
  have there : maxSeq seqs ∈ seqs := maxSeq_mem (by rw [top]; omega)
  have below : n < (maxSeq seqs).toNat := by
    have other := absent _ there
    rw [top] at other ⊢
    omega
  have covered := (covers_detectGaps distinct n).mpr ⟨low,absent,_,there,below⟩
  have noGaps : detectGaps seqs = [] := by
    unfold gapsUpTo at none_
    split at none_
    · simp at none_
    · exact none_
  rw [noGaps] at covered
  simp [Covers] at covered

end Pilot.Sessions
