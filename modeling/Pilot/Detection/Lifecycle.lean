import Mathlib.Algebra.Order.Ring.Rat

/-!
The per-host anomaly state machine of `internal/detection/lifecycle.go`. A
score is a float64: a rational, an infinity or NaN, where NaN satisfies no
comparison. The thresholds are the float64 values of the source's decimals.
-/
namespace Pilot.Detection

inductive Score where
  | nan
  | negInf
  | value (q : ℚ)
  | posInf
  deriving DecidableEq

def Score.atLeast (s : Score) (threshold : ℚ) : Bool :=
  match s with
  | nan | negInf => false
  | value q => decide (threshold ≤ q)
  | posInf => true

def Score.below (s : Score) (threshold : ℚ) : Bool :=
  match s with
  | nan | posInf => false
  | value q => decide (q < threshold)
  | negInf => true

/-- 0.65, 0.80, 0.95 and 0.60 rounded to the nearest float64. -/
def candidateThreshold : ℚ := 5854679515581645 / 9007199254740992
def warningThreshold : ℚ := 3602879701896397 / 4503599627370496
def criticalThreshold : ℚ := 4278419646001971 / 4503599627370496
def recoveryThreshold : ℚ := 5404319552844595 / 9007199254740992

inductive LifecycleState where
  | normal | candidate | firing | recovering
  deriving DecidableEq, Repr

inductive Severity where
  | none | warning | critical
  deriving DecidableEq, Repr

structure LifecyclePolicy where
  (warningWindowCycles warningRequiredCycles criticalConsecutiveCycles recoveryConsecutiveCycles : Int)
  deriving DecidableEq, Repr

def orDefault (value fallback : Int) : Int := if value = 0 then fallback else value

def LifecyclePolicy.effective (p : LifecyclePolicy) : LifecyclePolicy :=
  ⟨orDefault p.warningWindowCycles 4,orDefault p.warningRequiredCycles 3,
    orDefault p.criticalConsecutiveCycles 2,orDefault p.recoveryConsecutiveCycles 4⟩

def LifecyclePolicy.validate (p : LifecyclePolicy) : Except String Unit :=
  if p.warningWindowCycles < 0 ∨ p.warningRequiredCycles < 0 ∨
      p.criticalConsecutiveCycles < 0 ∨ p.recoveryConsecutiveCycles < 0 then
    .error "cycle counts must not be negative"
  else if p.effective.warningRequiredCycles > p.effective.warningWindowCycles then
    .error "warningRequiredCycles must not exceed warningWindowCycles"
  else .ok ()

inductive LifecycleAction where
  | none | createWarning | createCritical | escalateCritical
  | enterRecovering | returnToFiring | resolve
  deriving DecidableEq, Repr

structure Transition where
  action : LifecycleAction
  (fromState toState : LifecycleState)
  severity : Severity
  deriving DecidableEq, Repr

structure HostLifecycle where
  policy : LifecyclePolicy
  state : LifecycleState
  (severity priorSeverity : Severity)
  warningHistory : List Bool
  (criticalStreak recoveryStreak candidateClearStreak : Nat)
  deriving DecidableEq, Repr

def newHostLifecycleWithPolicy (policy : LifecyclePolicy) : HostLifecycle where
  policy := policy.effective
  state := .normal
  severity := .none
  priorSeverity := .none
  warningHistory := []
  criticalStreak := 0
  recoveryStreak := 0
  candidateClearStreak := 0

def countTrue (bs : List Bool) : Nat := bs.countP id

/-- The counters every valid cycle updates before the state is looked at. -/
def HostLifecycle.observe (h : HostLifecycle) (score : Score) : HostLifecycle :=
  let history := h.warningHistory ++ [score.atLeast warningThreshold]
  { h with
    warningHistory :=
      if h.policy.warningWindowCycles < history.length then
        history.drop (history.length - h.policy.warningWindowCycles.toNat)
      else history
    criticalStreak := if score.atLeast criticalThreshold then h.criticalStreak + 1 else 0
    recoveryStreak := if score.below recoveryThreshold then h.recoveryStreak + 1 else 0 }

def HostLifecycle.checkFiringTrigger (h : HostLifecycle) : Option (LifecycleAction × Severity) :=
  if h.policy.criticalConsecutiveCycles ≤ h.criticalStreak then some (.createCritical,.critical)
  else if h.policy.warningRequiredCycles ≤ countTrue h.warningHistory then
    some (.createWarning,.warning)
  else none

def HostLifecycle.advanceNormal (h : HostLifecycle) (score : Score) : HostLifecycle × Transition :=
  match h.checkFiringTrigger with
  | some (action,sev) =>
    ({ h with state := .firing, severity := sev }, ⟨action,h.state,.firing,sev⟩)
  | none =>
    if score.atLeast candidateThreshold then
      ({ h with state := .candidate, candidateClearStreak := 0 }, ⟨.none,h.state,.candidate,.none⟩)
    else (h, ⟨.none,h.state,h.state,.none⟩)

def HostLifecycle.advanceCandidate (h : HostLifecycle) (score : Score) :
    HostLifecycle × Transition :=
  match h.checkFiringTrigger with
  | some (action,sev) =>
    ({ h with state := .firing, severity := sev }, ⟨action,h.state,.firing,sev⟩)
  | none =>
    let streak := if score.below candidateThreshold then h.candidateClearStreak + 1 else 0
    if 2 ≤ streak then
      ({ h with state := .normal, candidateClearStreak := 0 }, ⟨.none,h.state,.normal,.none⟩)
    else ({ h with candidateClearStreak := streak }, ⟨.none,h.state,h.state,.none⟩)

def HostLifecycle.advanceFiring (h : HostLifecycle) : HostLifecycle × Transition :=
  if h.severity = .warning then
    if h.policy.criticalConsecutiveCycles ≤ h.criticalStreak then
      ({ h with severity := .critical }, ⟨.escalateCritical,h.state,h.state,.critical⟩)
    else if 1 ≤ h.recoveryStreak then
      ({ h with priorSeverity := .warning, state := .recovering },
        ⟨.enterRecovering,h.state,.recovering,.warning⟩)
    else (h, ⟨.none,h.state,h.state,h.severity⟩)
  else if 1 ≤ h.recoveryStreak then
    ({ h with priorSeverity := .critical, state := .recovering },
      ⟨.enterRecovering,h.state,.recovering,.critical⟩)
  else (h, ⟨.none,h.state,h.state,h.severity⟩)

def HostLifecycle.advanceRecovering (h : HostLifecycle) (score : Score) :
    HostLifecycle × Transition :=
  if h.policy.recoveryConsecutiveCycles ≤ h.recoveryStreak then
    ({ h with state := .normal, severity := .none, priorSeverity := .none, recoveryStreak := 0 },
      ⟨.resolve,h.state,.normal,h.priorSeverity⟩)
  else if score.atLeast recoveryThreshold then
    ({ h with state := .firing, severity := h.priorSeverity, recoveryStreak := 0 },
      ⟨.returnToFiring,h.state,.firing,h.priorSeverity⟩)
  else (h, ⟨.none,h.state,h.state,h.priorSeverity⟩)

def HostLifecycle.advance (h : HostLifecycle) (score : Score) : HostLifecycle × Transition :=
  let h := h.observe score
  match h.state with
  | .normal => h.advanceNormal score
  | .candidate => h.advanceCandidate score
  | .firing => h.advanceFiring
  | .recovering => h.advanceRecovering score

def LifecycleState.active : LifecycleState → Bool
  | firing | recovering => true
  | normal | candidate => false

/-- What a transition does to the episode: open it, close it or leave it. -/
inductive Boundary where
  | opens | closes | stays
  deriving DecidableEq, Repr

def LifecycleAction.boundary : LifecycleAction → Boundary
  | createWarning | createCritical => .opens
  | resolve => .closes
  | none | escalateCritical | enterRecovering | returnToFiring => .stays

theorem checkFiringTrigger_opens {h : HostLifecycle}
    (fired : h.checkFiringTrigger = some (action,sev)) : action.boundary = .opens := by
  unfold HostLifecycle.checkFiringTrigger at fired
  split at fired
  · cases fired; rfl
  · split at fired
    · cases fired; rfl
    · cases fired

variable (h : HostLifecycle)

@[simp] theorem observe_state (score : Score) : (h.observe score).state = h.state := rfl

/-- An episode is opened only by an inactive host, closed only by an active
    one, and otherwise the host stays on its side. -/
def Boundary.Crosses : Boundary → (before after : Bool) → Prop
  | opens, before, after => before = false ∧ after = true
  | closes, before, after => before = true ∧ after = false
  | stays, before, after => after = before

inductive Outcome (g : HostLifecycle) (score : Score) : HostLifecycle → Transition → Prop where
  | create {action : LifecycleAction} {sev : Severity} (idle : g.state.active = false)
      (fired : g.checkFiringTrigger = some (action,sev)) :
      Outcome g score { g with state := .firing, severity := sev } ⟨action,g.state,.firing,sev⟩
  | quiet {state : LifecycleState} {streak : Nat} (idle : g.state.active = false)
      (still : state.active = false) (unfired : g.checkFiringTrigger = none) :
      Outcome g score { g with state := state, candidateClearStreak := streak }
        ⟨.none,g.state,state,.none⟩
  | escalate (firing : g.state = .firing) (warning : g.severity = .warning)
      (streak : g.policy.criticalConsecutiveCycles ≤ g.criticalStreak) :
      Outcome g score { g with severity := .critical } ⟨.escalateCritical,g.state,g.state,.critical⟩
  | enter {sev : Severity} (firing : g.state = .firing) (streak : 1 ≤ g.recoveryStreak)
      (rated : sev = if g.severity = .warning then .warning else .critical) :
      Outcome g score { g with priorSeverity := sev, state := .recovering }
        ⟨.enterRecovering,g.state,.recovering,sev⟩
  | stay (firing : g.state = .firing) : Outcome g score g ⟨.none,g.state,g.state,g.severity⟩
  | resolve (recovering : g.state = .recovering)
      (streak : g.policy.recoveryConsecutiveCycles ≤ g.recoveryStreak) :
      Outcome g score
        { g with state := .normal, severity := .none, priorSeverity := .none, recoveryStreak := 0 }
        ⟨.resolve,g.state,.normal,g.priorSeverity⟩
  | back (recovering : g.state = .recovering)
      (streak : g.recoveryStreak < g.policy.recoveryConsecutiveCycles)
      (above : score.atLeast recoveryThreshold = true) :
      Outcome g score { g with state := .firing, severity := g.priorSeverity, recoveryStreak := 0 }
        ⟨.returnToFiring,g.state,.firing,g.priorSeverity⟩
  | wait (recovering : g.state = .recovering)
      (streak : g.recoveryStreak < g.policy.recoveryConsecutiveCycles)
      (under : score.atLeast recoveryThreshold = false) :
      Outcome g score g ⟨.none,g.state,g.state,g.priorSeverity⟩

theorem advanceFiring_outcome (score : Score) (firing : g.state = .firing) :
    Outcome g score g.advanceFiring.1 g.advanceFiring.2 := by
  unfold HostLifecycle.advanceFiring
  split
  · rename_i warning
    split
    · rename_i streak
      exact .escalate firing warning streak
    split
    · rename_i streak
      exact .enter firing streak (by simp [warning])
    · exact .stay firing
  · rename_i other
    split
    · rename_i streak
      exact .enter firing streak (by simp [other])
    · exact .stay firing

theorem advanceRecovering_outcome (score : Score) (recovering : g.state = .recovering) :
    Outcome g score (g.advanceRecovering score).1 (g.advanceRecovering score).2 := by
  unfold HostLifecycle.advanceRecovering
  split
  · rename_i streak
    exact .resolve recovering streak
  rename_i short
  split
  · rename_i above
    exact .back recovering (Int.not_le.mp short) above
  · rename_i under
    exact .wait recovering (Int.not_le.mp short) (by simpa using under)

theorem advanceIdle_outcome (score : Score) (idle : g.state.active = false) :
    Outcome g score (g.advanceNormal score).1 (g.advanceNormal score).2 ∧
      Outcome g score (g.advanceCandidate score).1 (g.advanceCandidate score).2 := by
  unfold HostLifecycle.advanceNormal HostLifecycle.advanceCandidate
  cases trigger : g.checkFiringTrigger with
  | some fired => exact ⟨.create idle trigger,.create idle trigger⟩
  | none =>
    refine ⟨?_,?_⟩
    · dsimp only
      split
      · exact .quiet idle rfl trigger
      · exact .quiet idle idle trigger
    · dsimp only
      generalize (if score.below candidateThreshold = true then g.candidateClearStreak + 1 else 0) = streak
      split
      · exact .quiet idle rfl trigger
      · exact .quiet idle idle trigger

theorem advance_outcome (score : Score) :
    Outcome (h.observe score) score (h.advance score).1 (h.advance score).2 := by
  unfold HostLifecycle.advance
  generalize h.observe score = g
  cases state : g.state with
  | normal => simpa only [state] using (advanceIdle_outcome score (by rw [state]; rfl)).1
  | candidate => simpa only [state] using (advanceIdle_outcome score (by rw [state]; rfl)).2
  | firing => simpa only [state] using advanceFiring_outcome score state
  | recovering => simpa only [state] using advanceRecovering_outcome score state

theorem advance_crosses (score : Score) :
    (h.advance score).2.action.boundary.Crosses h.state.active (h.advance score).1.state.active := by
  rw [← observe_state h score]
  have outcome := advance_outcome h score
  generalize h.advance score = result at outcome
  obtain ⟨after,t⟩ := result
  cases outcome with
  | create idle fired =>
    rw [checkFiringTrigger_opens fired]
    exact ⟨idle,rfl⟩
  | quiet idle still => exact still.trans idle.symm
  | escalate => rfl
  | enter firing =>
    rw [firing]
    rfl
  | stay => rfl
  | resolve recovering =>
    rw [recovering]
    exact ⟨rfl,rfl⟩
  | back recovering =>
    rw [recovering]
    rfl
  | wait => rfl

def runScores (h : HostLifecycle) : List Score → HostLifecycle × List Transition
  | [] => (h, [])
  | s :: scores => ((runScores (h.advance s).1 scores).1,
      (h.advance s).2 :: (runScores (h.advance s).1 scores).2)

end Pilot.Detection
