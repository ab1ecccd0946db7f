import Mathlib.Tactic.NormNum
import Mathlib.Data.List.Induction
import Pilot.Detection.Lifecycle
import Pilot.Library.Window

/-!
The evidence behind a warning. The warning window of the machine outlives an
episode: right after a resolve it may still hold warnings of the old episode.
Whether they can open the next one depends on how the window, the required
count and the recovery length of the policy relate.
-/
namespace Pilot.Detection
open Window List HostLifecycle

def isWarning (s : Score) : Bool := s.atLeast warningThreshold

def feed (h : HostLifecycle) (scores : List Score) : HostLifecycle := (runScores h scores).1

def sinceResolve (h : HostLifecycle) (scores : List Score) : List Score :=
  (scores.foldl (fun (seen : HostLifecycle × List Score) s =>
    ((seen.1.advance s).1,
      if (seen.1.advance s).2.action = .resolve then [] else seen.2 ++ [s])) (h, [])).2

/-- Whenever a cycle opens a warning episode, its score is a warning and the
    window holds the required number of warnings from after the last resolve. -/
def FreshEvidence (policy : LifecyclePolicy) : Prop :=
  ∀ (before : List Score) (s : Score),
    ((feed (newHostLifecycleWithPolicy policy) before).advance s).2.action = .createWarning →
      isWarning s = true ∧
      policy.effective.warningRequiredCycles ≤
        (lastN policy.effective.warningWindowCycles.toNat
          (sinceResolve (newHostLifecycleWithPolicy policy) before ++ [s])).countP isWarning

/-- What `Validate` leaves of a policy. -/
structure LifecyclePolicy.Sound (p : LifecyclePolicy) : Prop where
  window : 1 ≤ p.warningWindowCycles
  required : 1 ≤ p.warningRequiredCycles
  critical : 1 ≤ p.criticalConsecutiveCycles
  recovery : 1 ≤ p.recoveryConsecutiveCycles
  fits : p.warningRequiredCycles ≤ p.warningWindowCycles

theorem sound_of_validate {p : LifecyclePolicy} (valid : p.validate = .ok ()) : p.effective.Sound := by
  unfold LifecyclePolicy.validate at valid
  split at valid
  · cases valid
  rename_i signs
  split at valid
  · cases valid
  rename_i fits
  have positive {value fallback : Int} (sign : ¬ value < 0) (default : 1 ≤ fallback) :
      1 ≤ orDefault value fallback := by
    unfold orDefault
    split
    · exact default
    · omega
  simp only [not_or] at signs
  exact ⟨positive signs.1 (by decide),positive signs.2.1 (by decide),
    positive signs.2.2.1 (by decide),positive signs.2.2.2 (by decide),by omega⟩

section
variable {h : HostLifecycle} {scores : List Score} {s : Score}

theorem feed_feed (h : HostLifecycle) (xs ys : List Score) : feed h (xs ++ ys) = feed (feed h xs) ys := by
  induction xs generalizing h with
  | nil => rfl
  | cons s xs ih => exact ih (h.advance s).1

@[simp] theorem feed_append : feed h (scores ++ [s]) = ((feed h scores).advance s).1 :=
  feed_feed h scores [s]

theorem sinceResolve_append : sinceResolve h (scores ++ [s]) =
    if ((feed h scores).advance s).2.action = .resolve then [] else sinceResolve h scores ++ [s] := by
  have host (seen : List Score) : (scores.foldl (fun (seen : HostLifecycle × List Score) s =>
      ((seen.1.advance s).1,
        if (seen.1.advance s).2.action = .resolve then [] else seen.2 ++ [s])) (h, seen)).1 =
      feed h scores := by
    unfold feed
    induction scores generalizing h seen with
    | nil => rfl
    | cons s scores ih => exact ih _
  simp [sinceResolve,host]

@[simp] theorem observe_policy : (h.observe s).policy = h.policy := rfl

@[simp] theorem advance_policy : (h.advance s).1.policy = h.policy := by
  have outcome := advance_outcome h s
  generalize h.advance s = result at outcome
  obtain ⟨after,t⟩ := result
  cases outcome <;> rfl

@[simp] theorem advance_history : (h.advance s).1.warningHistory = (h.observe s).warningHistory := by
  have outcome := advance_outcome h s
  generalize h.advance s = result at outcome
  obtain ⟨after,t⟩ := result
  cases outcome <;> rfl

theorem advance_streak_le : (h.advance s).1.recoveryStreak ≤ (h.observe s).recoveryStreak := by
  have outcome := advance_outcome h s
  generalize h.advance s = result at outcome
  obtain ⟨after,t⟩ := result
  cases outcome <;> first | exact le_rfl | exact Nat.zero_le _

theorem observe_history (window : 0 ≤ h.policy.warningWindowCycles) :
    (h.observe s).warningHistory =
      lastN h.policy.warningWindowCycles.toNat (h.warningHistory ++ [isWarning s]) := by
  simp only [observe,isWarning]
  split
  · rfl
  · rename_i short
    rw [lastN_of_length_le (by omega)]

theorem feed_policy : (feed h scores).policy = h.policy := by
  induction scores using reverseRecOn with
  | nil => rfl
  | append_singleton scores s ih => rw [feed_append,advance_policy,ih]

theorem feed_history (fresh : h.warningHistory = []) (window : 0 ≤ h.policy.warningWindowCycles) :
    (feed h scores).warningHistory = lastN h.policy.warningWindowCycles.toNat (scores.map isWarning) := by
  induction scores using reverseRecOn with
  | nil => simp [feed,runScores,fresh,lastN]
  | append_singleton scores s ih =>
    rw [feed_append,advance_history,observe_history (by rwa [feed_policy]),feed_policy,ih,
      lastN_lastN_append,map_append]
    rfl

end

def Quiet (k : Nat) (scores : List Score) : Prop :=
  ∃ older tail, scores = older ++ tail ∧ k ≤ tail.length ∧ ∀ s ∈ tail, isWarning s = false

section
variable {scores : List Score} {s : Score}

theorem quiet_zero : Quiet 0 scores := ⟨scores,[],by simp,Nat.zero_le _,by simp⟩

theorem Quiet.mono (quiet : Quiet k scores) (less : j ≤ k) : Quiet j scores := by
  obtain ⟨older,tail,split,long,none⟩ := quiet
  exact ⟨older,tail,split,Nat.le_trans less long,none⟩

theorem Quiet.concat (quiet : Quiet k scores) (level : isWarning s = false) :
    Quiet (k + 1) (scores ++ [s]) := by
  obtain ⟨older,tail,rfl,long,none⟩ := quiet
  refine ⟨older,tail ++ [s],by simp,by simpa using long,?_⟩
  rw [forall_mem_append,forall_mem_singleton]
  exact ⟨none,level⟩

theorem under_recovery_is_no_warning (under : s.atLeast recoveryThreshold = false) :
    isWarning s = false := by
  cases s with
  | nan => rfl
  | negInf => rfl
  | posInf => cases under
  | value q =>
    have less : q < recoveryThreshold := by simpa [Score.atLeast] using under
    have order : recoveryThreshold < warningThreshold := by
      norm_num [recoveryThreshold,warningThreshold]
    simpa [isWarning,Score.atLeast] using less.trans order

theorem below_recovery_is_no_warning (below : s.below recoveryThreshold = true) : isWarning s = false := by
  apply under_recovery_is_no_warning
  cases s with
  | nan => rfl
  | negInf => rfl
  | posInf => cases below
  | value q => simpa [Score.atLeast,Score.below] using below

end

/-- What is known of a host that was fed the scores: the scores split into old
    ones that end quietly and the ones since the last resolve, and an idle host
    that has looked at its window did not find the required warnings in it. -/
structure Remembers (h : HostLifecycle) (scores fresh : List Score) : Prop where
  split : ∃ old, scores = old ++ fresh ∧
    (old = [] ∨ Quiet (max h.policy.recoveryConsecutiveCycles.toNat 2) old)
  streak : Quiet h.recoveryStreak scores
  recovering : h.state = .recovering → Quiet 1 scores
  unfired : h.state.active = false → fresh ≠ [] →
    countTrue h.warningHistory < h.policy.warningRequiredCycles

section
variable {h : HostLifecycle} {scores fresh : List Score} {s : Score}

theorem observe_streak_quiet (quiet : Quiet h.recoveryStreak scores) :
    Quiet (h.observe s).recoveryStreak (scores ++ [s]) := by
  simp only [observe]
  split
  · rename_i below
    exact quiet.concat (below_recovery_is_no_warning below)
  · exact quiet_zero

theorem below_of_streak (streak : 1 ≤ (h.observe s).recoveryStreak) : s.below recoveryThreshold = true := by
  simp only [observe] at streak
  split at streak
  · assumption
  · omega

theorem unfired_count {g : HostLifecycle} (unfired : g.checkFiringTrigger = none) :
    countTrue g.warningHistory < g.policy.warningRequiredCycles := by
  unfold checkFiringTrigger at unfired
  split at unfired
  · cases unfired
  split at unfired
  · cases unfired
  · rename_i few
    exact Int.not_le.mp few

theorem remembers_advance (sound : h.policy.Sound) (remembers : Remembers h scores fresh) :
    Remembers (h.advance s).1 (scores ++ [s])
      (if (h.advance s).2.action = .resolve then [] else fresh ++ [s]) := by
  have streak := observe_streak_quiet (s := s) remembers.streak
  have outcome := advance_outcome h s
  obtain ⟨old,rfl,quiet⟩ := remembers.split
  have kept : ∃ old', old ++ fresh ++ [s] = old' ++ (fresh ++ [s]) ∧
      (old' = [] ∨ Quiet (max h.policy.recoveryConsecutiveCycles.toNat 2) old') :=
    ⟨old,by simp,quiet⟩
  generalize h.advance s = result at outcome ⊢
  obtain ⟨after,t⟩ := result
  dsimp only at outcome ⊢
  cases outcome with
  | @create action sev idle fired =>
    have opens : action ≠ .resolve := by
      rintro rfl
      cases checkFiringTrigger_opens fired
    rw [if_neg opens]
    exact ⟨kept,streak,nofun,nofun⟩
  | quiet idle still unfired =>
    refine ⟨kept,streak,?_,fun _ _ => unfired_count unfired⟩
    rintro rfl
    cases still
  | escalate firing =>
    refine ⟨kept,streak,fun recovering => ?_,fun idle => ?_⟩
    · cases firing.symm.trans recovering
    · rw [firing] at idle
      cases idle
  | enter firing high =>
    exact ⟨kept,streak,fun _ => streak.mono high,nofun⟩
  | stay firing =>
    refine ⟨kept,streak,fun recovering => ?_,fun idle => ?_⟩
    · cases firing.symm.trans recovering
    · rw [firing] at idle
      cases idle
  | resolve recovering long =>
    have high : h.policy.recoveryConsecutiveCycles ≤ (h.observe s).recoveryStreak := long
    have recovery := sound.recovery
    have below : s.below recoveryThreshold = true := below_of_streak (h := h) (by omega)
    -- the cycle that entered recovery was quiet too, so even a recovery length
    -- of one leaves two quiet scores
    have two := (remembers.recovering recovering).concat (below_recovery_is_no_warning below)
    have quietEnd : Quiet (max h.policy.recoveryConsecutiveCycles.toNat 2) (old ++ fresh ++ [s]) := by
      rcases Nat.le_total h.policy.recoveryConsecutiveCycles.toNat 2 with small | large
      · exact two.mono (max_le small le_rfl)
      · exact streak.mono (max_le (by omega) (by omega))
    exact ⟨⟨_,by simp,.inr quietEnd⟩,quiet_zero,nofun,fun _ none => absurd rfl none⟩
  | back recovering => exact ⟨kept,quiet_zero,nofun,nofun⟩
  | wait recovering short under =>
    refine ⟨kept,streak,fun _ => ?_,fun idle => ?_⟩
    · exact quiet_zero.concat (under_recovery_is_no_warning under)
    · rw [recovering] at idle
      cases idle

theorem create_warning_cases (created : (h.advance s).2.action = .createWarning) :
    h.state.active = false ∧ h.policy.warningRequiredCycles ≤ countTrue (h.observe s).warningHistory := by
  have outcome := advance_outcome h s
  generalize h.advance s = result at outcome created
  obtain ⟨after,t⟩ := result
  cases outcome with
  | create idle fired =>
    subst created
    unfold checkFiringTrigger at fired
    split at fired
    · cases fired
    split at fired
    · rename_i enough
      exact ⟨idle,enough⟩
    · cases fired
  | quiet | escalate | enter | stay | resolve | back | wait => cases created

theorem advance_idle (idle : h.state.active = false)
    (calm : ((h.observe s).criticalStreak : Int) < h.policy.criticalConsecutiveCycles) :
    if h.policy.warningRequiredCycles ≤ countTrue (h.observe s).warningHistory then
      (h.advance s).2.action = .createWarning ∧
        (h.advance s).1.state = .firing ∧ (h.advance s).1.severity = .warning
    else (h.advance s).1.state.active = false := by
  have trigger : (h.observe s).checkFiringTrigger =
      if h.policy.warningRequiredCycles ≤ countTrue (h.observe s).warningHistory then
        some (.createWarning,.warning) else none := by
    unfold checkFiringTrigger
    rw [observe_policy,if_neg (Int.not_le.mpr calm)]
  have outcome := advance_outcome h s
  generalize h.advance s = result at outcome
  obtain ⟨after,t⟩ := result
  have active {state : LifecycleState} (same : (h.observe s).state = state)
      (busy : state.active = true) : False := by
    rw [← same,observe_state,idle] at busy
    cases busy
  cases outcome with
  | create _ fired =>
    rw [fired] at trigger
    split at trigger
    · rename_i enough
      cases trigger
      rw [if_pos enough]
      exact ⟨rfl,rfl,rfl⟩
    · cases trigger
  | quiet _ still unfired =>
    rw [unfired] at trigger
    split at trigger
    · cases trigger
    · rename_i few
      rw [if_neg few]
      exact still
  | escalate firing | enter firing | stay firing => exact (active firing rfl).elim
  | resolve recovering | back recovering | wait recovering => exact (active recovering rfl).elim

end

section
variable {policy : LifecyclePolicy} {before : List Score} {s : Score}

theorem countTrue_window (n : Nat) (scores : List Score) :
    countTrue (lastN n (scores.map isWarning)) = (lastN n scores).countP isWarning := by
  simp [countTrue,lastN,← map_drop,countP_map]

theorem stale_le (quiet : old = [] ∨ Quiet k old) : (lastN n old).countP isWarning ≤ n - k := by
  rcases quiet with rfl | ⟨older,tail,rfl,long,none⟩
  · simp [lastN]
  · exact (countP_lastN_append_failing none).trans (Nat.sub_le_sub_left long n)

variable (sound : policy.effective.Sound)
include sound

theorem remembers_feed (scores : List Score) :
    Remembers (feed (newHostLifecycleWithPolicy policy) scores) scores
      (sinceResolve (newHostLifecycleWithPolicy policy) scores) := by
  induction scores using reverseRecOn with
  | nil => exact ⟨⟨[],rfl,.inl rfl⟩,quiet_zero,nofun,fun _ none => absurd rfl none⟩
  | append_singleton scores s ih =>
    rw [feed_append,sinceResolve_append]
    exact remembers_advance (by rwa [feed_policy]) ih

theorem feed_count (scores : List Score) :
    countTrue (feed (newHostLifecycleWithPolicy policy) scores).warningHistory =
      (lastN policy.effective.warningWindowCycles.toNat scores).countP isWarning := by
  have window := sound.window
  rw [feed_history rfl (show 0 ≤ policy.effective.warningWindowCycles by omega)]
  exact countTrue_window _ _

theorem observe_count (before : List Score) (s : Score) :
    countTrue ((feed (newHostLifecycleWithPolicy policy) before).observe s).warningHistory =
      (lastN policy.effective.warningWindowCycles.toNat (before ++ [s])).countP isWarning := by
  rw [← advance_history,← feed_append,feed_count sound]

theorem fresh_of_narrow_window
    (narrow : policy.effective.warningWindowCycles < max policy.effective.recoveryConsecutiveCycles 2 +
        max policy.effective.warningRequiredCycles 2) : FreshEvidence policy := by
  intro before s created
  obtain ⟨idle,enough⟩ := create_warning_cases created
  obtain ⟨⟨old,split,quiet⟩,-,-,unfired⟩ := remembers_feed sound before
  rw [feed_policy,observe_count sound] at enough
  rw [feed_policy] at quiet
  rw [feed_count sound,feed_policy] at unfired
  change _ → _ → _ < policy.effective.warningRequiredCycles at unfired
  change policy.effective.warningRequiredCycles ≤ _ at enough
  change old = [] ∨ Quiet (max policy.effective.recoveryConsecutiveCycles.toNat 2) old at quiet
  generalize sinceResolve (newHostLifecycleWithPolicy policy) before = fresh at split unfired ⊢
  have ⟨window,required,_,recovery,fits⟩ := sound
  have total := enough
  rw [split,append_assoc,lastN_append,countP_append,length_append,length_singleton] at total
  have stale := stale_le (n := policy.effective.warningWindowCycles.toNat - (fresh.length + 1)) quiet
  have few : (lastN policy.effective.warningWindowCycles.toNat (fresh ++ [s])).countP isWarning ≤
      fresh.length + 1 := by
    refine (countP_lastN_le_countP _ _).trans (countP_le_length.trans ?_)
    simp
  refine ⟨?_,by omega⟩
  by_contra level
  have level : isWarning s = false := by simpa using level
  have drop : (lastN policy.effective.warningWindowCycles.toNat (before ++ [s])).countP isWarning ≤
      (lastN policy.effective.warningWindowCycles.toNat before).countP isWarning :=
    countP_lastN_concat_failing level
  by_cases none : fresh = []
  · subst none
    have zero : (lastN policy.effective.warningWindowCycles.toNat ([] ++ [s])).countP isWarning = 0 :=
      Nat.le_zero.mp ((countP_lastN_le_countP _ _).trans (by simp [level]))
    omega
  · have := unfired idle none
    omega

end

def warm : Score := .value (17 / 20)
def cold : Score := .value 0

theorem warm_levels : isWarning warm = true ∧ warm.atLeast criticalThreshold = false ∧
    warm.below recoveryThreshold = false := by decide +kernel

theorem cold_levels : isWarning cold = false ∧ cold.atLeast criticalThreshold = false ∧
    cold.below recoveryThreshold = true ∧ cold.atLeast recoveryThreshold = false := by
  decide +kernel

def Warm (h : HostLifecycle) : Prop :=
  h.state.active = false ∨ (h.state = .firing ∧ h.severity = .warning)

section
variable {h : HostLifecycle} {s : Score}

theorem calm_streak (sound : h.policy.Sound) (calm : s.atLeast criticalThreshold = false) :
    ((h.observe s).criticalStreak : Int) < h.policy.criticalConsecutiveCycles := by
  have critical := sound.critical
  have zero : (h.observe s).criticalStreak = 0 := by simp [observe,calm]
  omega

theorem advance_firing (sound : h.policy.Sound) (calm : s.atLeast criticalThreshold = false)
    (firing : h.state = .firing) (warning : h.severity = .warning) :
    (h.advance s).1 = if s.below recoveryThreshold then
        { h.observe s with priorSeverity := .warning, state := .recovering }
      else h.observe s := by
  have streak := calm_streak sound calm
  have rated : (h.observe s).severity = .warning := warning
  simp only [advance,observe_state,firing,advanceFiring]
  rw [if_pos rated,observe_policy,if_neg (Int.not_le.mpr streak)]
  cases below : s.below recoveryThreshold with
  | true | false => simp [observe,below]

theorem observe_cold_streak : (h.observe cold).recoveryStreak = h.recoveryStreak + 1 := by
  simp [observe,cold_levels.2.2.1]

theorem advance_cold_waits (recovering : h.state = .recovering)
    (short : (h.recoveryStreak : Int) + 1 < h.policy.recoveryConsecutiveCycles) :
    (h.advance cold).1 = h.observe cold := by
  simp only [advance,observe_state,recovering,advanceRecovering]
  rw [observe_policy,observe_cold_streak,if_neg (by omega),cold_levels.2.2.2]
  rfl

theorem advance_cold_resolves (recovering : h.state = .recovering)
    (long : h.policy.recoveryConsecutiveCycles ≤ (h.recoveryStreak : Int) + 1) :
    (h.advance cold).2.action = .resolve ∧ (h.advance cold).1.state = .normal := by
  simp only [advance,observe_state,recovering,advanceRecovering]
  rw [observe_policy,observe_cold_streak,if_pos (by omega)]
  exact ⟨rfl,rfl⟩

theorem warm_advance (sound : h.policy.Sound) (start : Warm h) :
    Warm (h.advance warm).1 ∧
      (h.policy.warningRequiredCycles ≤ countTrue (h.observe warm).warningHistory →
        (h.advance warm).1.state = .firing ∧ (h.advance warm).1.severity = .warning) := by
  obtain ⟨-,calm,high⟩ := warm_levels
  rcases start with idle | ⟨firing,warning⟩
  · have next := advance_idle idle (calm_streak sound calm)
    split at next
    · exact ⟨.inr next.2,fun _ => next.2⟩
    · rename_i few
      exact ⟨.inl next,fun enough => absurd enough few⟩
  · rw [advance_firing sound calm firing warning,high]
    exact ⟨.inr ⟨firing,warning⟩,fun _ => ⟨firing,warning⟩⟩

end

section
variable {policy : LifecyclePolicy}

theorem feed_warm (sound : policy.effective.Sound) (n : Nat) :
    Warm (feed (newHostLifecycleWithPolicy policy) (replicate n warm)) := by
  induction n with
  | zero => exact .inl rfl
  | succ n ih =>
    rw [replicate_succ',feed_append]
    exact (warm_advance (by rwa [feed_policy]) ih).1

theorem countP_warm (n m : Nat) : (lastN n (replicate m warm)).countP isWarning = min n m := by
  rw [lastN,drop_replicate,countP_replicate,if_pos warm_levels.1,length_replicate]
  omega

theorem full_window_fires (sound : policy.effective.Sound) :
    let h := feed (newHostLifecycleWithPolicy policy)
      (replicate policy.effective.warningWindowCycles.toNat warm)
    h.state = .firing ∧ h.severity = .warning ∧ h.recoveryStreak = 0 := by
  have ⟨window,required,_,_,fits⟩ := sound
  obtain ⟨n,size⟩ : ∃ n, policy.effective.warningWindowCycles.toNat = n + 1 :=
    ⟨policy.effective.warningWindowCycles.toNat - 1,by omega⟩
  simp only [size,replicate_succ',feed_append]
  have fires := (warm_advance (by rwa [feed_policy]) (feed_warm sound n)).2
  rw [feed_policy,observe_count sound,← replicate_succ',countP_warm,size] at fires
  change policy.effective.warningRequiredCycles ≤ _ → _ at fires
  obtain ⟨firing,warning⟩ := fires (by omega)
  refine ⟨firing,warning,Nat.le_zero.mp (advance_streak_le.trans ?_)⟩
  simp [observe,warm_levels.2.2]

end

section
variable {h : HostLifecycle} (sound : h.policy.Sound) (firing : h.state = .firing)
  (warning : h.severity = .warning) (fresh : h.recoveryStreak = 0)
include sound firing warning fresh

theorem cold_recovers (short : n + 1 < max h.policy.recoveryConsecutiveCycles.toNat 2) :
    (feed h (replicate (n + 1) cold)).state = .recovering ∧
      (feed h (replicate (n + 1) cold)).recoveryStreak = n + 1 := by
  induction n with
  | zero =>
    have entered := advance_firing sound cold_levels.2.1 firing warning
    rw [if_pos cold_levels.2.2.1] at entered
    change (h.advance cold).1.state = _ ∧ (h.advance cold).1.recoveryStreak = _
    rw [entered]
    exact ⟨rfl,by rw [← fresh]; exact observe_cold_streak⟩
  | succ n ih =>
    obtain ⟨recovering,streak⟩ := ih (by omega)
    rw [replicate_succ',feed_append]
    have waits := advance_cold_waits recovering (by rw [streak,feed_policy]; omega)
    rw [waits]
    exact ⟨recovering,by rw [observe_cold_streak,streak]⟩

theorem cold_resolves :
    ∃ n, n + 1 = max h.policy.recoveryConsecutiveCycles.toNat 2 ∧
      ((feed h (replicate n cold)).advance cold).2.action = .resolve ∧
      ((feed h (replicate n cold)).advance cold).1.state = .normal := by
  obtain ⟨n,size⟩ : ∃ n, n + 2 = max h.policy.recoveryConsecutiveCycles.toNat 2 :=
    ⟨max h.policy.recoveryConsecutiveCycles.toNat 2 - 2,by omega⟩
  obtain ⟨recovering,streak⟩ := cold_recovers sound firing warning fresh (n := n) (by omega)
  exact ⟨n + 1,by omega,advance_cold_resolves recovering (by rw [streak,feed_policy]; omega)⟩

end

theorem countP_after_recovery (n m : Nat) (s : Score) :
    (lastN n (replicate n warm ++ replicate m cold ++ [s])).countP isWarning =
      n - 1 - m + (lastN n [s]).countP isWarning := by
  have healthy (k : Nat) : (lastN k (replicate m cold)).countP isWarning = 0 := by
    rw [lastN,drop_replicate,countP_replicate,if_neg (by simp [cold_levels.1])]
  rw [lastN_append,lastN_append,countP_append,countP_append,healthy,countP_warm]
  simp only [length_singleton,length_replicate]
  omega

/-- A window that outlasts the recovery by the required count opens a warning
    on old evidence: fill it with warnings, recover, and take one more cycle. -/
theorem stale_of_wide_window {policy : LifecyclePolicy} (sound : policy.effective.Sound)
    (wide : max policy.effective.recoveryConsecutiveCycles 2 +
      max policy.effective.warningRequiredCycles 2 ≤ policy.effective.warningWindowCycles) :
    ¬ FreshEvidence policy := by
  intro evidence
  have ⟨window,required,critical,recovery,fits⟩ := sound
  obtain ⟨firing,warning,streak⟩ := full_window_fires sound
  obtain ⟨n,size,resolves,normal⟩ := cold_resolves (by rwa [feed_policy]) firing warning streak
  rw [feed_policy] at size
  change n + 1 = max policy.effective.recoveryConsecutiveCycles.toNat 2 at size
  rw [← feed_feed] at resolves normal
  have restart : sinceResolve (newHostLifecycleWithPolicy policy)
      (replicate policy.effective.warningWindowCycles.toNat warm ++ replicate n cold ++ [cold]) = [] := by
    rw [sinceResolve_append,if_pos resolves]
  rw [← feed_append] at normal
  rw [append_assoc,← replicate_succ'] at restart normal
  have opens (s : Score) (mild : s.atLeast criticalThreshold = false)
      (enough : policy.effective.warningRequiredCycles ≤
        (policy.effective.warningWindowCycles.toNat - 1 - (n + 1) +
          (lastN policy.effective.warningWindowCycles.toNat [s]).countP isWarning : Nat)) := by
    have next := advance_idle (by rw [normal]; rfl) (calm_streak (by rwa [feed_policy]) mild)
    rw [feed_policy,observe_count sound,countP_after_recovery] at next
    have fires := (if_pos enough).mp next
    exact evidence _ s fires.1
  rw [restart] at opens
  by_cases lone : policy.effective.warningRequiredCycles = 1
  · have healthy := (opens cold cold_levels.2.1 (by omega)).1
    rw [cold_levels.1] at healthy
    cases healthy
  have one : (lastN policy.effective.warningWindowCycles.toNat [warm]).countP isWarning = 1 := by
    rw [lastN_of_length_le (by simp; omega)]
    simp [warm_levels.1]
  have many := (opens warm warm_levels.2.1 (by omega)).2
  rw [nil_append,one] at many
  omega

/-- Warnings rest on fresh evidence exactly when the window is too short to
    carry the required warnings across a recovery. -/
theorem warning_evidence_is_fresh_iff (policy : LifecyclePolicy) (valid : policy.validate = .ok ()) :
    FreshEvidence policy ↔ policy.effective.warningWindowCycles <
        max policy.effective.recoveryConsecutiveCycles 2 +
          max policy.effective.warningRequiredCycles 2 := by
  have sound := sound_of_validate valid
  constructor
  · intro evidence
    by_contra wide
    exact stale_of_wide_window sound (Int.not_lt.mp wide) evidence
  · exact fresh_of_narrow_window sound

theorem shipped_policies_need_fresh_evidence : FreshEvidence ⟨4,3,2,4⟩ ∧ FreshEvidence ⟨8,6,4,8⟩ :=
  ⟨(warning_evidence_is_fresh_iff _ rfl).mpr (by decide),
    (warning_evidence_is_fresh_iff _ rfl).mpr (by decide)⟩

/-- Five warnings, two healthy cycles that resolve the episode, and a third
    healthy cycle opens the next one. -/
theorem healthy_score_opens_warning :
    let policy : LifecyclePolicy := ⟨10,3,2,2⟩
    let before := replicate 5 warm ++ replicate 2 cold
    policy.validate = .ok () ∧
      sinceResolve (newHostLifecycleWithPolicy policy) before = [] ∧
      ((feed (newHostLifecycleWithPolicy policy) before).advance cold).2.action = .createWarning ∧
      isWarning cold = false ∧ ¬ FreshEvidence policy := by
  refine ⟨rfl,by decide +kernel,by decide +kernel,cold_levels.1,fun evidence => ?_⟩
  have healthy := (evidence (replicate 5 warm ++ replicate 2 cold) cold (by decide +kernel)).1
  rw [cold_levels.1] at healthy
  cases healthy

end Pilot.Detection
