import Mathlib.Data.List.Rotate
import Mathlib.Data.List.TakeWhile
import Pilot.Detection.Agreement
import Pilot.Detection.Cycle
import Pilot.Detection.Truncation

/-!
What a cycle can see of the order in which Go iterates over its maps. The scores of
the features, their sorted contributors and the history buckets do not depend on it.
The site and the cohort of a host do: each is overwritten by every series of the host,
so the last one visited stays. So does the log detector: it reports the first template
with a critical line, and it sorts its contributors by their score only.
-/
namespace Pilot.Detection
open List Score Contributor Baselines Gathered

section
variable {α : Type}

def lastBatch (batches : List (List α)) : List α :=
  ((batches.filter (!·.isEmpty)).getLast?).getD []

theorem lastBatch_concat (batches : List (List α)) (batch : List α) :
    lastBatch (batches ++ [batch]) = if batch = [] then lastBatch batches else batch := by
  cases batch with
  | nil | cons head tail => simp [lastBatch,filter_append]

theorem mem_of_lastBatch {batches : List (List α)} {x : α} (mem : x ∈ lastBatch batches) :
    ∃ batch ∈ batches, x ∈ batch := by
  unfold lastBatch at mem
  cases last : (batches.filter (!·.isEmpty)).getLast? with
  | none => simp [last] at mem
  | some batch =>
    rw [last] at mem
    exact ⟨batch,mem_of_mem_filter (mem_of_getLast? last),mem⟩

variable {Entry : Type}

theorem overwrite_eq (write : Entry → Option α) (entries : List Entry) (old : Option α) :
    entries.foldl (fun old entry => (write entry).or old) old =
      (entries.filterMap write).getLast?.or old := by
  induction entries generalizing old with
  | nil => rfl
  | cons head tail ih =>
    rw [foldl_cons,ih]
    cases written : write head with
    | none => simp [written]
    | some value =>
      rw [filterMap_cons_some written,getLast?_cons]
      cases (tail.filterMap write).getLast? <;> simp

structure Batch (Entry α : Type) where
  entries : List Entry
  write : Entry → Option α

def Batch.writes (batch : Batch Entry α) : List α := batch.entries.filterMap batch.write

def settled (order : Order) (batches : List (Batch Entry α)) : Option α :=
  batches.zipIdx.foldl (fun old batch =>
    (order.pick (.grouped batch.2) batch.1.entries).foldl
      (fun old entry => (batch.1.write entry).or old) old) none

variable {order : Order} {batches : List (Batch Entry α)} {x : α}

theorem settled_concat (order : Order) (batches : List (Batch Entry α)) (batch : Batch Entry α) :
    settled order (batches ++ [batch]) =
      ((order.pick (.grouped batches.length) batch.entries).filterMap batch.write).getLast?.or
        (settled order batches) := by
  simp only [settled,zipIdx_append,foldl_append,Nat.zero_add]
  exact overwrite_eq batch.write _ _

theorem picked_writes (order : Order) (loop : Loop) (batch : Batch Entry α) :
    ((order.pick loop batch.entries).filterMap batch.write).Perm batch.writes :=
  (order.perm loop batch.entries).filterMap batch.write

theorem settled_mem (stays : settled order batches = some x) :
    x ∈ lastBatch (batches.map Batch.writes) := by
  induction batches using reverseRecOn with
  | nil => simp [settled] at stays
  | append_singleton batches batch ih =>
    rw [map_append,map_singleton,lastBatch_concat]
    rw [settled_concat] at stays
    have perm := picked_writes order (.grouped batches.length) batch
    generalize (order.pick _ batch.entries).filterMap batch.write = picked at stays perm
    cases last : picked.getLast? with
    | none =>
      rw [getLast?_eq_none_iff] at last
      subst last
      rw [if_pos perm.symm.eq_nil]
      exact ih (by simpa using stays)
    | some value =>
      have mem := perm.mem_iff.mp (mem_of_getLast? last)
      rw [if_neg (ne_nil_of_mem mem)]
      rw [last,Option.some_or,Option.some.injEq] at stays
      exact stays ▸ mem

theorem settled_none (stays : settled order batches = none) :
    lastBatch (batches.map Batch.writes) = [] := by
  induction batches using reverseRecOn with
  | nil => rfl
  | append_singleton batches batch ih =>
    rw [map_append,map_singleton,lastBatch_concat]
    rw [settled_concat,Option.or_eq_none_iff,getLast?_eq_none_iff] at stays
    have perm := picked_writes order (.grouped batches.length) batch
    rw [stays.1] at perm
    rw [if_pos perm.symm.eq_nil]
    exact ih stays.2

def turned (loop : Loop) (n : Nat) : Order where
  pick := fun l entries => if l = loop then entries.rotate n else entries
  perm := by
    intro α l entries
    split
    · exact entries.rotate_perm n
    · exact .refl entries

theorem last_of_turned {batch : Batch Entry α} (mem : x ∈ batch.writes) :
    ∃ n, ((batch.entries.rotate n).filterMap batch.write).getLast? = some x := by
  obtain ⟨entry,inside,written⟩ := mem_filterMap.mp mem
  obtain ⟨before,after,split⟩ := append_of_mem inside
  refine ⟨before.length + 1,?_⟩
  have turn : batch.entries.rotate (before.length + 1) = after ++ (before ++ [entry]) := by
    rw [split,append_cons,← rotate_append_length_eq (before ++ [entry]) after, length_append]
    rfl
  simp [turn,filterMap_append,written]

theorem settled_reachable (mem : x ∈ lastBatch (batches.map Batch.writes)) :
    ∃ order : Order, settled order batches = some x := by
  induction batches using reverseRecOn with
  | nil => simp [lastBatch] at mem
  | append_singleton batches batch ih =>
    rw [map_append,map_singleton,lastBatch_concat] at mem
    by_cases empty : batch.writes = []
    · rw [if_pos empty] at mem
      obtain ⟨order,stays⟩ := ih mem
      have perm := picked_writes order (.grouped batches.length) batch
      rw [empty] at perm
      exact ⟨order,by rw [settled_concat,perm.eq_nil,stays]; rfl⟩
    · rw [if_neg empty] at mem
      obtain ⟨n,last⟩ := last_of_turned mem
      exact ⟨turned (.grouped batches.length) n,by simp [settled_concat,turned,last]⟩

def OneWrite (batches : List (Batch Entry α)) : Prop :=
  ∀ x ∈ lastBatch (batches.map Batch.writes), ∀ y ∈ lastBatch (batches.map Batch.writes), x = y

theorem settled_same_iff :
    (∀ order other : Order, settled order batches = settled other batches) ↔ OneWrite batches := by
  constructor
  · intro same x memX y memY
    obtain ⟨order,first⟩ := settled_reachable memX
    obtain ⟨other,second⟩ := settled_reachable memY
    rw [same order other,second] at first
    exact (Option.some.inj first).symm
  intro one order other
  cases first : settled order batches with
  | none =>
    cases second : settled other batches with
    | none => rfl
    | some y =>
      have mem := settled_mem second
      rw [settled_none first] at mem
      cases mem
  | some x =>
    cases second : settled other batches with
    | none =>
      have mem := settled_mem first
      rw [settled_none second] at mem
      cases mem
    | some y => rw [one x (settled_mem first) y (settled_mem second)]

end

section
variable {α : Type} {r : α → α → Prop} [DecidableRel r] [Std.Total r] [IsTrans α r]

theorem insertionSort_eq_of_perm {xs ys : List α} (perm : xs.Perm ys)
    (antisymm : ∀ a ∈ xs, ∀ b ∈ xs, r a b → r b a → a = b) :
    xs.insertionSort r = ys.insertionSort r := by
  apply Perm.eq_of_pairwise _ (pairwise_insertionSort r xs)
    (pairwise_insertionSort r ys)
    ((perm_insertionSort r xs).trans (perm.trans (perm_insertionSort r ys).symm))
  intro a b memA memB
  exact antisymm a ((mem_insertionSort r).mp memA) b
    (perm.mem_iff.mpr ((mem_insertionSort r).mp memB))

variable (r) in
/-- Entries that tie within the first `n` places are equal. -/
def Untied (n : Nat) (xs : List α) : Prop :=
  ∀ a ∈ xs, ∀ b ∈ xs, r a b → r b a → xs.countP (fun c => !decide (r a c)) < n → a = b

omit [IsTrans α r] in
theorem take_eq_of_sorted {xs ys : List α} (first : xs.Pairwise r) (second : ys.Pairwise r)
    (perm : xs.Perm ys) (settled : Untied r n xs) : xs.take n = ys.take n := by
  induction n generalizing xs ys with
  | zero => rw [take_zero,take_zero]
  | succ n ih =>
    cases xs with
    | nil => rw [perm.symm.eq_nil]
    | cons a xs =>
      cases ys with
      | nil => cases perm.eq_nil
      | cons b ys =>
        have least : ∀ c ∈ a :: xs, r a c :=
          forall_mem_cons.mpr ⟨(Std.Total.total a a).elim id id,(pairwise_cons.mp first).1⟩
        have below : ∀ c ∈ b :: ys, r b c :=
          forall_mem_cons.mpr ⟨(Std.Total.total b b).elim id id,(pairwise_cons.mp second).1⟩
        have memB := perm.mem_iff.mpr (mem_cons_self (l := ys))
        have memA := perm.mem_iff.mp (mem_cons_self (l := xs))
        have none : (a :: xs).countP (fun c => !decide (r a c)) = 0 :=
          countP_eq_zero.mpr (by simpa using least)
        obtain rfl := settled a mem_cons_self b memB (least b memB) (below a memA) (by omega)
        rw [take_succ_cons,take_succ_cons,
          ih (pairwise_cons.mp first).2 (pairwise_cons.mp second).2 perm.cons_inv]
        intro c memC d memD left right few
        refine settled c (mem_cons_of_mem a memC) d (mem_cons_of_mem a memD) left right ?_
        rw [countP_cons]
        split <;> omega

omit [IsTrans α r] in
theorem first_of_ties {a : α} {l : List α} (few : (a :: l).countP (fun c => !decide (r a c)) < n) :
    (((a :: l).insertionSort r).take n).find? (fun c => decide (r a c)) = some a := by
  have self : r a a := (Std.Total.total a a).elim id id
  have short : ((l.insertionSort r).takeWhile fun c => decide ¬r a c).length < n := by
    refine lt_of_le_of_lt ?_ few
    rw [countP_cons_of_neg (by simpa using self),← (perm_insertionSort r l).countP_eq,countP_eq_length_filter]
    refine (Sublist.filter (fun c => !decide (r a c)) (takeWhile_sublist (fun c => decide ¬r a c))).length_le.trans' ?_
    rw [filter_eq_self.mpr fun c mem => by simpa using mem_takeWhile_imp mem]
  rw [insertionSort_cons_eq_take_drop,take_append,take_of_length_le short.le,find?_append,
    find?_eq_none.mpr fun c mem => by simpa using mem_takeWhile_imp mem]
  obtain ⟨k,room⟩ := Nat.exists_eq_add_of_lt short
  rw [show n - ((l.insertionSort r).takeWhile fun c => decide ¬r a c).length = k + 1 by omega,
    take_succ_cons]
  simp [self]

theorem take_insertionSort_perm {xs ys : List α} (perm : ys.Perm xs) (settled : Untied r n xs) :
    (ys.insertionSort r).take n = (xs.insertionSort r).take n := by
  have sorted : Untied r n (xs.insertionSort r) := by
    intro a memA b memB left right few
    rw [(perm_insertionSort r xs).countP_eq] at few
    exact settled a ((mem_insertionSort r).mp memA) b ((mem_insertionSort r).mp memB) left right few
  exact (take_eq_of_sorted (pairwise_insertionSort r xs) (pairwise_insertionSort r ys)
    ((perm_insertionSort r xs).trans (perm.symm.trans (perm_insertionSort r ys).symm)) sorted).symm

theorem untied_of_turns {xs : List α}
    (same : ∀ k, ((xs.rotate k).insertionSort r).take n = (xs.insertionSort r).take n) :
    Untied r n xs := by
  intro a memA b memB left right few
  have found {c : α} (mem : c ∈ xs) (few : xs.countP (fun d => !decide (r c d)) < n) :
      ((xs.insertionSort r).take n).find? (fun d => decide (r c d)) = some c := by
    obtain ⟨before,after,rfl⟩ := append_of_mem mem
    rw [← (rotate_perm _ before.length).countP_eq,rotate_append_length_eq,cons_append] at few
    rw [← same before.length,rotate_append_length_eq,cons_append]
    exact first_of_ties few
  have alike (c : α) : r a c ↔ r b c := ⟨IsTrans.trans _ _ _ right,IsTrans.trans _ _ _ left⟩
  have first := found memA few
  simp only [alike] at first few
  exact Option.some.inj (first.symm.trans (found memB few))

end

instance : Std.Total (fun a b : Contributor => a.outscores b = true) :=
  ⟨fun a b => sortLE_total b.score a.score⟩

instance : IsTrans Contributor (fun a b => a.outscores b = true) :=
  ⟨fun _ _ _ first second => sortLE_trans second first⟩

instance : Std.Total (fun a b : Score => a.sortLE b = true) := ⟨sortLE_total⟩
instance : IsTrans Score (fun a b => a.sortLE b = true) := ⟨fun _ _ _ => sortLE_trans⟩

section
variable (round : ℚ → Score) {xs ys : List Score}

theorem median_perm (perm : xs.Perm ys) : median round xs = median round ys := by
  have sorted : xs.insertionSort (fun a b => a.sortLE b = true) = ys.insertionSort _ :=
    insertionSort_eq_of_perm perm fun a _ b _ => sortLE_antisymm
  simp only [median,sorted,perm.length_eq]

theorem computeDistanceScore_perm (perm : xs.Perm ys) (feature : Feature) (current : Score) :
    computeDistanceScore round feature xs current = computeDistanceScore round feature ys current := by
  have deviation (m : Score) :
      medianAbsoluteDeviation round xs m = medianAbsoluteDeviation round ys m :=
    median_perm round (perm.map _)
  simp only [computeDistanceScore,median_perm round perm,deviation]

theorem computeRobustBaseline_perm (perm : xs.Perm ys) (feature : Feature) (current : Score) :
    computeRobustBaseline round feature xs current = computeRobustBaseline round feature ys current := by
  simp only [computeRobustBaseline,perm.length_eq,computeDistanceScore_perm round perm]

end

variable (keep : List Contributor → List Contributor)

section
variable {scored other : List Contributor}

theorem Contributor.eq_of_before {a b : Contributor} (first : a.before b = true)
    (second : b.before a = true) : a.feature = b.feature := by
  have score : a.score = b.score :=
    sortLE_antisymm (score_of_before second) (score_of_before first)
  simp only [before,score,if_true,decide_eq_true_eq] at first second
  exact le_antisymm first second

theorem positiveContributors_perm (perm : scored.Perm other) (distinct : (scored.map feature).Nodup) :
    positiveContributors scored = positiveContributors other := by
  apply insertionSort_eq_of_perm (perm.filter _)
  intro a memA b memB first second
  exact inj_on_of_nodup_map distinct (mem_of_mem_filter memA) (mem_of_mem_filter memB)
    (eq_of_before first second)

theorem aggregateWith_perm (perm : scored.Perm other) (distinct : (scored.map feature).Nodup) :
    aggregateWith keep scored = aggregateWith keep other := by
  have empty : scored = [] ↔ other = [] := by
    rw [← length_eq_zero_iff,← length_eq_zero_iff,perm.length_eq]
  simp only [aggregateWith,maxScore_perm perm,positiveContributors_perm perm distinct,empty]

end

section
variable {p : DetectorProfile} {current reordered : List (String × Score)}

theorem scoreReadings_distinct (detector : Feature → Score → Option Score)
    (distinct : (current.map Prod.fst).Nodup) :
    ((scoreReadings p detector current).map feature).Nodup := by
  apply Nodup.sublist _ distinct
  induction current with
  | nil => exact .slnil
  | cons head rest ih =>
    have tail := ih (nodup_cons.mp distinct).2
    rw [scoreReadings,filterMap_cons]
    split
    · exact tail.cons _
    rename_i c scored
    simp only [Option.bind_eq_bind,Option.bind_eq_some_iff] at scored
    obtain ⟨feature,-,score,-,same⟩ := scored
    cases same
    exact tail.cons_cons _

theorem aggregate_readings_perm (detector : Feature → Score → Option Score) (perm : reordered.Perm current)
    (distinct : (current.map Prod.fst).Nodup) :
    aggregateWith keep (scoreReadings p detector reordered) =
      aggregateWith keep (scoreReadings p detector current) := by
  apply aggregateWith_perm keep (perm.filterMap _)
  exact scoreReadings_distinct detector ((perm.map Prod.fst).nodup_iff.mpr distinct)

end

section
variable (b : Baselines) (host : String) {current reordered : List (String × Score)}

theorem Baselines.edit_swap {feature other : String} (apart : feature ≠ other)
    (f g : Dict Int Score → Dict Int Score) :
    (b.edit host feature f).edit host other g = (b.edit host other g).edit host feature f := by
  funext h n
  by_cases same : h = host
  · subst same
    by_cases first : n = feature
    · subst first
      simp [edit,apart]
    by_cases second : n = other
    · subst second
      simp [edit,first]
    · simp [edit,first,second]
  · simp [edit,same]

theorem Baselines.edits_perm (f : Score → Dict Int Score → Dict Int Score)
    (perm : reordered.Perm current) (distinct : (current.map Prod.fst).Nodup) :
    reordered.foldl (fun b reading => b.edit host reading.1 (f reading.2)) b =
      current.foldl (fun b reading => b.edit host reading.1 (f reading.2)) b := by
  apply perm.foldl_eq'
  intro x memX y memY z
  by_cases same : x.1 = y.1
  · rw [inj_on_of_nodup_map distinct (perm.mem_iff.mp memX) (perm.mem_iff.mp memY) same]
  · exact edit_swap z host same _ _

end

section
variable (round : ℚ → Score) (T : LogText) (host : String) {logs : HostLogs}

/-- Templates with a critical line share the name they are reported under, and
    without one the contributors within the first five places do not tie. -/
structure OneReport (logs : HostLogs) : Prop where
  trigger : ∀ first ∈ logs.current.templates.entries, ∀ second ∈ logs.current.templates.entries,
    triggers T first = true → triggers T second = true →
      shortTemplateID first.1 = shortTemplateID second.1
  ties : (∀ entry ∈ logs.current.templates.entries, triggers T entry = false) →
    Untied (fun a b => a.outscores b = true) 5 (logs.contributors round logs.current.templates.entries)

theorem contributors_perm (order : Order) :
    (logs.contributors round (order.pick (.templates host) logs.current.templates.entries)).Perm
      (logs.contributors round logs.current.templates.entries) :=
  ((order.perm _ _).filterMap _).append_right _

theorem leading_spec (contributors : List Contributor) :
    (maxScore contributors = .value 0 ∧ (leading contributors).2 = "") ∨
      ∃ c ∈ contributors, c.score = maxScore contributors ∧ (value 0).lt c.score = true ∧
        c.category = (leading contributors).2 := by
  induction contributors using reverseRecOn with
  | nil => exact .inl ⟨rfl,rfl⟩
  | append_singleton contributors c ih =>
    have step : leading (contributors ++ [c]) =
        if (maxScore contributors).lt c.score then (c.score,c.category) else leading contributors := by
      rw [← leading_score,leading,foldl_append]
      rfl
    rw [maxScore_concat,step]
    by_cases high : (maxScore contributors).lt c.score = true
    · rw [if_pos high,if_pos high]
      exact .inr ⟨c,by simp,rfl,positive_of_lt (maxScore_upper contributors).1 high,rfl⟩
    rw [if_neg high,if_neg high]
    rcases ih with none | ⟨d,mem,spec⟩
    · exact .inl none
    · exact .inr ⟨d,mem_append_left _ mem,spec⟩

theorem leading_perm {first second : List Contributor} (perm : first.Perm second)
    (settled : Untied (fun a b => a.outscores b = true) 5 first) : leading first = leading second := by
  have score := maxScore_perm perm
  refine Prod.ext (by rw [leading_score,leading_score,score]) ?_
  rcases leading_spec first with ⟨zero,none⟩ | ⟨c,memC,top,positive,category⟩
  · rcases leading_spec second with ⟨-,none'⟩ | ⟨d,-,top,positive,-⟩
    · rw [none,none']
    · rw [top,← score,zero] at positive
      cases positive
  rcases leading_spec second with ⟨zero,-⟩ | ⟨d,memD,top',-,category'⟩
  · rw [top,score,zero] at positive
    cases positive
  have same : c.score = d.score := by rw [top,top',score]
  have self (s : Score) : s.sortLE s = true := (sortLE_total s s).elim id id
  -- nothing outscores the best contributor, so the tie is within the first five
  have none : first.countP (fun e => !decide (c.outscores e = true)) = 0 := by
    rw [countP_eq_zero]
    intro e mem
    simpa [outscores,top] using (maxScore_upper first).2 e mem
  have equal := settled c memC d (perm.mem_iff.mpr memD) (by simp [outscores,same,self])
    (by simp [outscores,same,self]) (lt_of_eq_of_lt none (by decide))
  rw [← category,← category',equal]

theorem find?_turned {α : Type} {p : α → Bool} {entries : List α} {x : α} (loop : Loop) (mem : x ∈ entries)
    (hit : p x = true) : ∃ order : Order, (order.pick loop entries).find? p = some x := by
  obtain ⟨before,after,rfl⟩ := append_of_mem mem
  refine ⟨turned loop before.length,?_⟩
  simp [turned,rotate_append_length_eq,hit]

theorem log_order (one : OneReport round T logs) (order other : Order) :
    computeLogHostScore round T (take 5) order host logs =
      computeLogHostScore round T (take 5) other host logs := by
  unfold computeLogHostScore
  split
  · rfl
  have hits (order : Order) (entry : String × LogTemplateBucket)
      (found : (order.pick (.trigger host) logs.current.templates.entries).find? (triggers T) = some entry) :=
    And.intro ((order.perm _ _).mem_iff.mp (mem_of_find?_eq_some found)) (find?_some found)
  have misses (order : Order)
      (found : (order.pick (.trigger host) logs.current.templates.entries).find? (triggers T) = none) :
      ∀ entry ∈ logs.current.templates.entries, triggers T entry = false := by
    intro entry mem
    simpa using find?_eq_none.mp found entry ((order.perm _ _).mem_iff.mpr mem)
  cases first : (order.pick (.trigger host) logs.current.templates.entries).find? (triggers T) with
  | some entry =>
    obtain ⟨mem,hit⟩ := hits order entry first
    cases second : (other.pick (.trigger host) logs.current.templates.entries).find? (triggers T) with
    | none => exact absurd hit (by simp [misses other second entry mem])
    | some entry' =>
      obtain ⟨mem',hit'⟩ := hits other entry' second
      simp only [one.trigger entry mem entry' mem' hit hit']
  | none =>
    have quiet := misses order first
    cases second : (other.pick (.trigger host) logs.current.templates.entries).find? (triggers T) with
    | some entry' =>
      obtain ⟨mem',hit'⟩ := hits other entry' second
      exact absurd hit' (by simp [quiet entry' mem'])
    | none =>
      have settled := one.ties quiet
      have ranked (order : Order) := take_insertionSort_perm
        ((order.perm (.ties host) _).trans (contributors_perm round host order)) settled
      have best (order : Order) := leading_perm (contributors_perm round host order).symm settled
      simp only [HostLogs.ranked,ranked,← best]

theorem log_same_iff : (∀ order other : Order, computeLogHostScore round T (take 5) order host logs =
      computeLogHostScore round T (take 5) other host logs) ↔
    (logs.current.totalCount ≠ 0 → OneReport round T logs) := by
  constructor
  · intro same some
    constructor
    · intro first mem second mem' hit hit'
      obtain ⟨order,found⟩ := find?_turned (.trigger host) mem hit
      obtain ⟨other,found'⟩ := find?_turned (.trigger host) mem' hit'
      have names := same order other
      simpa [computeLogHostScore,some,found,found'] using names
    · intro quiet
      refine untied_of_turns fun k => ?_
      have none : logs.current.templates.entries.find? (triggers T) = none :=
        find?_eq_none.mpr fun entry mem => by simp [quiet entry mem]
      have kept (k : Nat) : (computeLogHostScore round T (take 5) (turned (.ties host) k) host
          logs).contributors = (((logs.contributors round logs.current.templates.entries).rotate
            k).insertionSort (fun a b => a.outscores b)).take 5 := by
        simp [computeLogHostScore,HostLogs.ranked,some,turned,none]
      have turn := congrArg HostFeatureScoreResult.contributors
        (same (turned (.ties host) k) (turned (.ties host) 0))
      simpa only [kept,rotate_zero] using turn
  · intro one order other
    by_cases empty : logs.current.totalCount = 0
    · simp [computeLogHostScore,empty]
    · exact log_order round T host (one empty) order other

end

section
variable {round : ℚ → Score} {order : Order} {p : DetectorProfile} {input : CycleInput}
  {b : Baselines} {snap : HostCycleSnapshot} (distinct : (snap.current.map Prod.fst).Nodup)
include distinct

theorem evict_order (loop : Loop) :
    (order.pick loop snap.current).foldl
        (fun b reading => b.evict snap.host reading.1 input.evaluationTime) b =
      snap.current.foldl (fun b reading => b.evict snap.host reading.1 input.evaluationTime) b :=
  edits_perm b snap.host (fun _ buckets => buckets.filter fun bucket =>
    decide (input.evaluationTime - baselineWindowSeconds ≤ bucket.1)) (order.perm loop snap.current)
    distinct

theorem observe_order (loop : Loop) :
    (order.pick loop snap.current).foldl
        (fun b reading => b.observe snap.host reading.1 input.evaluationTime reading.2) b =
      snap.current.foldl
        (fun b reading => b.observe snap.host reading.1 input.evaluationTime reading.2) b :=
  edits_perm b snap.host (fun value buckets => buckets.set (bucketOf input.evaluationTime) value)
    (order.perm loop snap.current) distinct

theorem learn_order (other : Order) (state : LifecycleState) (score : Score) :
    b.learn order input state score snap = b.learn other input state score snap := by
  simp only [learn,evict_order distinct,observe_order distinct]

theorem localScoreOf_order (other : Order) (snapshots : List HostCycleSnapshot)
    (log : input.logScore round order snap.host = input.logScore round other snap.host) :
    localScoreOf round order p input b snapshots snap =
      localScoreOf round other p input b snapshots snap := by
  have history (feature : Feature) (value : Score) :
      computeRobustBaseline round feature (b.history order snap.host feature.name) value =
        computeRobustBaseline round feature (b.history other snap.host feature.name) value := by
    apply computeRobustBaseline_perm
    apply Perm.map
    exact (order.perm _ _).trans (other.perm _ _).symm
  simp [localScoreOf,computeBaselineHostScore,computeCohortHostScore,history,log,
    aggregate_readings_perm _ _ (order.perm _ _) distinct,aggregate_readings_perm _ _ (other.perm _ _) distinct]

end

section
variable (parseSeconds : String → Option Int) (p : DetectorProfile) (input : CycleInput)
  (host : String)

def siteBatch (q : Feature × Grouping) : Batch (SeriesKey × List RawSample) String where
  entries := q.2.samples.entries
  write := fun entry => if entry.1.pilotHost = host then some entry.1.site else none

def cohortBatch (q : Feature × Grouping) : Batch (SeriesKey × List RawSample) String where
  entries := q.2.samples.entries
  write := fun entry => if entry.1.pilotHost = host then q.2.cohorts.get? entry.1 else none

section
variable (order : Order) (queried : List (Feature × Grouping))

theorem gather_concat (q : Feature × Grouping) :
    gather parseSeconds order p input (queried ++ [q]) =
      (order.pick (.grouped queried.length) q.2.samples.entries).foldl
        (gatherKey parseSeconds p input q.1 q.2.cohorts)
        (gather parseSeconds order p input queried) := by
  simp [gather,zipIdx_append]

theorem gather_site :
    (gather parseSeconds order p input queried).siteByHost.get? host =
      settled order (queried.map (siteBatch host)) := by
  induction queried using reverseRecOn with
  | nil => rfl
  | append_singleton queried q ih =>
    rw [gather_concat,map_append,map_singleton,settled_concat,length_map,← overwrite_eq,← ih]
    symm
    apply foldl_hom (fun g : Gathered => g.siteByHost.get? host)
    intro g entry
    by_cases same : entry.1.pilotHost = host
    · simp [gatherKey,siteBatch,Dict.get?_set,same]
    · simp [gatherKey,siteBatch,Dict.get?_set,same,Ne.symm same]

theorem gather_cohort :
    (gather parseSeconds order p input queried).cohortByHost.get? host =
      settled order (queried.map (cohortBatch host)) := by
  induction queried using reverseRecOn with
  | nil => rfl
  | append_singleton queried q ih =>
    rw [gather_concat,map_append,map_singleton,settled_concat,length_map,← overwrite_eq,← ih]
    symm
    apply foldl_hom (fun g : Gathered => g.cohortByHost.get? host)
    intro g entry
    cases labelled : q.2.cohorts.get? entry.1 with
    | none => simp [gatherKey,cohortBatch,labelled]
    | some cohort =>
      by_cases same : entry.1.pilotHost = host
      · simp [gatherKey,cohortBatch,labelled,Dict.get?_set,same]
      · simp [gatherKey,cohortBatch,labelled,Dict.get?_set,same,Ne.symm same]

end

theorem gather_perHost (order other : Order) (queried : List (Feature × Grouping)) :
    (gather parseSeconds order p input queried).perHost =
      (gather parseSeconds other p input queried).perHost := by
  induction queried using reverseRecOn with
  | nil => rfl
  | append_singleton queried q ih =>
    let step (perHost : SeriesKey → Dict String FeatureSampleResult)
        (entry : SeriesKey × List RawSample) :=
      (gatherKey parseSeconds p input q.1 q.2.cohorts ⟨perHost,.empty,.empty⟩ entry).perHost
    have project (entries : List (SeriesKey × List RawSample)) (g : Gathered) :
        (entries.foldl (gatherKey parseSeconds p input q.1 q.2.cohorts) g).perHost =
          entries.foldl step g.perHost :=
      (foldl_hom perHost (fun _ _ => rfl)).symm
    rw [gather_concat,gather_concat,project,project,ih]
    apply Perm.foldl_eq' ((order.perm _ _).trans (other.perm _ _).symm)
    intro first memFirst second memSecond perHost
    by_cases same : first.1 = second.1
    · rw [inj_on_of_nodup_map q.2.samples.distinct ((order.perm _ _).mem_iff.mp memFirst)
        ((order.perm _ _).mem_iff.mp memSecond) same]
    · funext key
      simp only [step,gatherKey,Function.update_apply,same,Ne.symm same,if_false]
      split_ifs <;> simp_all

end

/-- No host carries two sites, or two cohorts, among the series that decide. -/
structure OneLabel (queried : List (Feature × Grouping)) : Prop where
  site : ∀ host, OneWrite (queried.map (siteBatch host))
  cohort : ∀ host, OneWrite (queried.map (cohortBatch host))

/-- Some series of the cycle names the host. -/
def Listed (queried : List (Feature × Grouping)) (host : String) : Prop :=
  ∃ q ∈ queried, ∃ entry ∈ q.2.samples.entries, entry.1.pilotHost = host

/-- The log lines of a host leave one report, whatever the order of its templates. -/
structure Unambiguous (round : ℚ → Score) (input : CycleInput) (queried : List (Feature × Grouping)) :
    Prop extends OneLabel queried where
  log : ∀ host, Listed queried host → (input.logs host).current.totalCount ≠ 0 →
    OneReport round input.logText (input.logs host)

structure SameGathering (g h : Gathered) : Prop where
  perHost : g.perHost = h.perHost
  site : ∀ host, g.siteByHost.get? host = h.siteByHost.get? host
  cohort : ∀ host, g.cohortByHost.get? host = h.cohortByHost.get? host

variable {queried : List (Feature × Grouping)}

theorem gather_same (parseSeconds : String → Option Int) (p : DetectorProfile)
    (input : CycleInput) (order other : Order) (single : OneLabel queried) :
    SameGathering (gather parseSeconds order p input queried)
      (gather parseSeconds other p input queried) where
  perHost := gather_perHost parseSeconds p input order other queried
  site := by
    intro host
    rw [gather_site,gather_site]
    exact settled_same_iff.mpr (single.site host) order other
  cohort := by
    intro host
    rw [gather_cohort,gather_cohort]
    exact settled_same_iff.mpr (single.cohort host) order other

section
variable {p : DetectorProfile} {input : CycleInput} {g h : Gathered} (same : SameGathering g h)
include same

theorem SameGathering.results (host : String) : g.results host = h.results host := by
  simp only [Gathered.results,Gathered.site,same.perHost,same.site]

theorem SameGathering.hosts (order other : Order) : g.hosts order = h.hosts other := by
  have keys : (g.siteByHost.entries.map Prod.fst).Perm (h.siteByHost.entries.map Prod.fst) := by
    apply (perm_ext_iff_of_nodup g.siteByHost.distinct h.siteByHost.distinct).mpr
    intro host
    rw [Dict.mem_keys,Dict.mem_keys,Dict.has,Dict.has,same.site]
  apply insertionSort_eq_of_perm ((order.perm _ _).trans (keys.trans (other.perm _ _).symm))
  intro a _ b _ first second
  exact le_antisymm first second

theorem SameGathering.snapshots (order other : Order) :
    g.snapshots order p input = h.snapshots other p input := by
  have each (host : String) : g.snapshot p input host = h.snapshot p input host := by
    simp only [snapshot,same.results,same.cohort]
  simp only [Gathered.snapshots,same.hosts order other]
  exact map_congr_left fun host _ => each host

end

theorem snapshot_distinct {g : Gathered} {order : Order} {p : DetectorProfile}
    (mem : snap ∈ g.snapshots order p input) : (snap.current.map Prod.fst).Nodup := by
  obtain ⟨host,-,rfl⟩ := mem_map.mp mem
  simp only [snapshot,validCurrentValues,map_map]
  exact (g.results host).distinct.sublist (filter_sublist.map Prod.fst)

section
variable (parseSeconds : String → Option Int) (round : ℚ → Score) {p : DetectorProfile}
  {input : CycleInput}

theorem scoreHost_order (same : SameGathering g h) (order other : Order)
    (log : input.logScore round order snap.host = input.logScore round other snap.host)
    (e : Engine) (s : Scored) (distinct : (snap.current.map Prod.fst).Nodup) :
    scoreHost round order p input e g s snap = scoreHost round other p input e h s snap := by
  simp [scoreHost,same.results,same.snapshots order other,evict_order distinct,
    localScoreOf_order distinct other _ log,learn_order distinct other,site,same.site]

variable {ph : PendingScore} {e : Engine}

theorem scoreHost_pending (mem : ph ∈ (scoreHost round order p input e g s snap).pending) :
    ph ∈ s.pending ∨ ph.snap = snap := by
  unfold scoreHost at mem
  dsimp only at mem
  split_ifs at mem with invalid normal
  all_goals first
    | exact .inl mem
    | rcases mem_append.mp mem with earlier | new
      · exact .inl earlier
      · exact .inr (by rw [mem_singleton.mp new])

theorem foldl_pending {g : Gathered} {snapshots : List HostCycleSnapshot} {s : Scored}
    (mem : ph ∈ (snapshots.foldl (scoreHost round order p input e g) s).pending) :
    ph ∈ s.pending ∨ ph.snap ∈ snapshots := by
  induction snapshots generalizing s with
  | nil => exact .inl mem
  | cons snap rest ih =>
    rcases ih mem with earlier | later
    · rcases scoreHost_pending round earlier with before | here
      · exact .inl before
      · exact .inr (here ▸ mem_cons_self)
    · exact .inr (mem_cons_of_mem snap later)

theorem persistedHosts_subset (finish : CycleEnd) (pending : List PendingScore) :
    persistedHosts finish pending ⊆ pending := by
  unfold persistedHosts
  split
  · exact takeWhile_subset _
  · exact Subset.refl pending

theorem snapshot_listed {order other : Order}
    (mem : snap ∈ (gather parseSeconds order p input queried).snapshots other p input) :
    Listed queried snap.host := by
  obtain ⟨host,inside,rfl⟩ := mem_map.mp mem
  rw [hosts,mem_insertionSort,(other.perm _ _).mem_iff,Dict.mem_keys,Dict.has_iff] at inside
  obtain ⟨site,found⟩ := inside
  rw [gather_site] at found
  obtain ⟨writes,batch,written⟩ := mem_of_lastBatch (settled_mem found)
  obtain ⟨_,inside,rfl⟩ := mem_map.mp batch
  obtain ⟨q,listed,rfl⟩ := mem_map.mp inside
  obtain ⟨entry,series,write⟩ := mem_filterMap.mp written
  exact ⟨q,listed,entry,series,by_contra fun apart => by
    simp [siteBatch,show entry.1.pilotHost ≠ host from apart] at write⟩

theorem scoreHosts_order (order other : Order) (e : Engine) (b : Baselines)
    (single : Unambiguous round input queried) :
    scoreHosts parseSeconds round order p input e b queried =
      scoreHosts parseSeconds round other p input e b queried := by
  have same := gather_same parseSeconds p input order other single.toOneLabel
  unfold scoreHosts
  dsimp only
  rw [same.snapshots order other]
  apply foldl_ext
  intro s snap mem
  have log := (log_same_iff round input.logText snap.host).mpr
    (single.log snap.host (snapshot_listed parseSeconds mem)) order other
  exact scoreHost_order round same order other log e s (snapshot_distinct mem)

theorem scoreHosts_distinct {order : Order}
    (mem : ph ∈ (scoreHosts parseSeconds round order p input e b queried).pending) :
    (ph.snap.current.map Prod.fst).Nodup := by
  rcases foldl_pending round mem with never | snapshot
  · cases never
  · exact snapshot_distinct snapshot

theorem finishCycle_order (order other : Order) (P : Platform) (e : Engine)
    (distinct : ∀ ph ∈ scored.pending, (ph.snap.current.map Prod.fst).Nodup) :
    finishCycle round order p input P e scored = finishCycle round other p input P e scored := by
  unfold finishCycle
  generalize runCycle P e (cycleOf round p input scored) = result
  obtain ⟨after,finish⟩ := result
  dsimp only
  congr 1
  apply foldl_ext
  intro learned ph mem
  exact learn_order (distinct ph (persistedHosts_subset finish scored.pending mem)) other _ _

theorem runCycleOnSamples_order
    (single : ∀ queried, queryFeatures p input = .ok queried → Unambiguous round input queried)
    (order other : Order) (P : Platform) (e : Engine) (b : Baselines) :
    runCycleOnSamples parseSeconds round order p input P e b =
      runCycleOnSamples parseSeconds round other p input P e b := by
  unfold runCycleOnSamples
  cases queries : queryFeatures p input with
  | error err => simp only [bind,Except.bind]
  | ok queried =>
    simp only [bind,Except.bind]
    rw [scoreHosts_order parseSeconds round order other e b (single queried queries),
      finishCycle_order round order other P e fun ph => scoreHosts_distinct parseSeconds round]

end

def oneFeature : DetectorProfile :=
  { sixFeatures with lifecycle := ⟨0,0,1,0⟩, features := [sixthFeature "cpu" none] }

def twoSites : CycleInput where
  evaluationTime := 7260
  wall := 7260 * second
  cohorts := fun _ => ""
  query := fun _ => .ok [⟨[("pilot_host","web-1"),("site","taipei")],⟨7260,.value 10⟩⟩,
    ⟨[("pilot_host","web-1"),("site","tokyo")],⟨7260,.value 10⟩⟩]
  logText := noText
  currentLog := fun _ => []
  baselineLog := fun _ => []
  logScale := .value 0
  provider := none
  writeFails := fun _ => false
  refreshFails := fun _ => false

def digestTaipei : String := "097ddab986afe855841eaac0ab8d857967363ec2269949fe775eaab7b9ddabd5"
def digestTokyo : String := "7db6457805aec1362bd92f3c7f42c70838a53fe4bbb7786ba46cd102cda05056"

def twoSitesPlatform : Platform :=
  { samplePlatform with
    rfc3339 := fun t =>
      if t = 7260 * second then "1970-01-01T02:01:00Z" else "1970-01-01T02:04:00Z"
    sha256Hex := fun text =>
      if text = fingerprintPayload "web-1" "managed_host" "taipei" "linux-host" 1 then digestTaipei
      else if text = fingerprintPayload "web-1" "managed_host" "tokyo" "linux-host" 1 then digestTokyo
      else text }

def quietBuckets : Baselines := fun _ _ =>
  (range 120).foldl (fun buckets minute => buckets.set (60 * minute) (.value 0)) .empty

def oneSiteSeries : List Series :=
  [⟨[("pilot_host","web-1"),("site","taipei")],⟨7260,.value 10⟩⟩,
    ⟨[("pilot_host","web-2"),("site","tokyo")],⟨7260,.value 10⟩⟩]

def oneSite : CycleInput :=
  { twoSites with
    query := fun _ => .ok oneSiteSeries
    logText := ⟨fun pattern line => pattern == "(?i)segfault" && line == "segfault at 0",id⟩
    currentLog := fun _ => [⟨"error","segfault at 0","a1"⟩,⟨"info","started","b2"⟩] }

theorem oneSite_unambiguous (queried : List (Feature × Grouping))
    (queries : queryFeatures oneFeature oneSite = .ok queried) :
    Unambiguous value oneSite queried := by
  obtain rfl : queried = [(sixthFeature "cpu" none,groupSamplesByKey oneFeature oneSiteSeries)] :=
    (Except.ok.inj queries).symm
  have sites : ∀ a ∈ (groupSamplesByKey oneFeature oneSiteSeries).samples.entries,
      ∀ b ∈ (groupSamplesByKey oneFeature oneSiteSeries).samples.entries,
      a.1.pilotHost = b.1.pilotHost → a.1.site = b.1.site := by decide +kernel
  have cohorts (key : SeriesKey) :
      (groupSamplesByKey oneFeature oneSiteSeries).cohorts.get? key = none := rfl
  have trigger : ∀ a ∈ (oneSite.logs "").current.templates.entries,
      ∀ b ∈ (oneSite.logs "").current.templates.entries, triggers oneSite.logText a = true →
      triggers oneSite.logText b = true → shortTemplateID a.1 = shortTemplateID b.1 := by
    decide +kernel
  have loud : ∃ entry ∈ (oneSite.logs "").current.templates.entries,
      triggers oneSite.logText entry = true := by decide +kernel
  refine ⟨⟨fun host x memX y memY => ?_,fun host x memX => ?_⟩,fun host _ _ => ⟨trigger,fun quiet => ?_⟩⟩
  · obtain ⟨_,first,memX⟩ := mem_of_lastBatch memX
    obtain ⟨_,second,memY⟩ := mem_of_lastBatch memY
    simp only [map_cons,map_nil,mem_singleton] at first second
    subst first second
    obtain ⟨a,memA,writtenA⟩ := mem_filterMap.mp memX
    obtain ⟨b,memB,writtenB⟩ := mem_filterMap.mp memY
    simp only [siteBatch,Option.ite_none_right_eq_some,Option.some.injEq] at writtenA writtenB
    rw [← writtenA.2,← writtenB.2,sites a memA b memB (writtenA.1.trans writtenB.1.symm)]
  · obtain ⟨_,first,memX⟩ := mem_of_lastBatch memX
    simp only [map_cons,map_nil,mem_singleton] at first
    subst first
    obtain ⟨a,-,written⟩ := mem_filterMap.mp memX
    simp [cohortBatch,cohorts] at written
  · obtain ⟨entry,mem,loud⟩ := loud
    rw [quiet entry mem] at loud
    cases loud

end Pilot.Detection
