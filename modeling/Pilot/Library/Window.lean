import Mathlib.Data.List.Basic
import Mathlib.Data.List.Count
import Mathlib.Data.Nat.Basic

/-!
Sliding windows: the last entries of a growing list, and how many of them pass
a test.
-/
namespace Pilot.Window
open List
variable {α : Type*}

def lastN (n : Nat) (xs : List α) : List α := xs.drop (xs.length - n)

theorem lastN_of_length_le (short : xs.length ≤ n) : lastN n xs = xs := by
  rw [lastN,Nat.sub_eq_zero_of_le short,drop_zero]

theorem lastN_append (n : Nat) (xs ys : List α) :
    lastN n (xs ++ ys) = lastN (n - ys.length) xs ++ lastN n ys := by
  unfold lastN
  rw [drop_append,length_append]
  have front : xs.length + ys.length - n = xs.length - (n - ys.length) ∨
      (xs.length + ys.length - n ≥ xs.length ∧ xs.length - (n - ys.length) = xs.length) := by
    omega
  have back : xs.length + ys.length - n - xs.length = ys.length - n := by omega
  rw [back]
  rcases front with same | ⟨all,rest⟩
  · rw [same]
  · rw [drop_eq_nil_of_le all,rest,drop_length]

theorem lastN_lastN_append (n : Nat) (xs ys : List α) :
    lastN n (lastN n xs ++ ys) = lastN n (xs ++ ys) := by
  rw [lastN_append,lastN_append]
  congr 1
  unfold lastN
  rw [drop_drop,length_drop]
  congr 1
  omega

theorem countP_lastN_le (n : Nat) (xs : List α) : (lastN n xs).countP p ≤ n := by
  refine Nat.le_trans countP_le_length ?_
  rw [lastN,length_drop]
  omega

theorem countP_lastN_le_countP (n : Nat) (xs : List α) : (lastN n xs).countP p ≤ xs.countP p :=
  (drop_sublist _ _).countP_le

theorem countP_lastN_append_failing (fail : ∀ y ∈ ys, p y = false) :
    (lastN n (xs ++ ys)).countP p ≤ n - ys.length := by
  have none : (lastN n ys).countP p = 0 := by
    rw [countP_eq_zero]
    intro y mem
    simp [fail y (mem_of_mem_drop mem)]
  rw [lastN_append,countP_append,none]
  exact countP_lastN_le _ _

theorem countP_lastN_concat_failing (fail : p y = false) :
    (lastN n (xs ++ [y])).countP p ≤ (lastN n xs).countP p := by
  have shrink : (lastN (n - 1) xs).countP p ≤ (lastN n xs).countP p := by
    have sub : (lastN (n - 1) xs).Sublist (lastN n xs) := by
      exact drop_sublist_drop_left xs (by omega)
    exact sub.countP_le
  have none : (lastN n [y]).countP p = 0 := by
    rw [countP_eq_zero]
    intro z mem
    rw [mem_singleton.mp (mem_of_mem_drop mem)]
    simp [fail]
  rw [lastN_append,countP_append,none]
  simpa using shrink

end Pilot.Window
