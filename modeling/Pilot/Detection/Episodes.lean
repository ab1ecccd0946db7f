import Mathlib.Data.List.Basic
import Pilot.Detection.Lifecycle

/-!
Episodes in the actions of the lifecycle machine. A phase is what an observer
of the actions knows about the host: no episode, a firing one or a recovering
one, with its severity. Every action is a step between phases, and the steps
make the actions of a run bracketed episodes.
-/
namespace Pilot.Detection
open List HostLifecycle

inductive Phase where
  | closed
  | firing (severity : Severity)
  | recovering (severity : Severity)
  deriving DecidableEq, Repr

def HostLifecycle.phase (h : HostLifecycle) : Phase :=
  match h.state with
  | .normal | .candidate => .closed
  | .firing => .firing h.severity
  | .recovering => .recovering h.priorSeverity

inductive EpisodeStep : Phase → LifecycleAction → Severity → Phase → Prop where
  | createWarning : EpisodeStep .closed .createWarning .warning (.firing .warning)
  | createCritical : EpisodeStep .closed .createCritical .critical (.firing .critical)
  | escalate : EpisodeStep (.firing .warning) .escalateCritical .critical (.firing .critical)
  | enter (s : Severity) : EpisodeStep (.firing s) .enterRecovering s (.recovering s)
  | back (s : Severity) : EpisodeStep (.recovering s) .returnToFiring s (.firing s)
  | resolve (s : Severity) : EpisodeStep (.recovering s) .resolve s .closed

variable {action : LifecycleAction}

theorem EpisodeStep.acts {before after : Phase} (step : EpisodeStep before action s after) :
    action ≠ .none := by
  rintro rfl
  cases step

def Phase.Rated : Phase → Prop
  | .closed => True
  | .firing s | .recovering s => s ≠ .none

/-- One advance is a step of the episode, or no action in the same phase. -/
def Follows (before : Phase) (t : Transition) (after : Phase) : Prop :=
  EpisodeStep before t.action t.severity after ∨ (t.action = .none ∧ after = before)

section
variable {h : HostLifecycle}

theorem trigger_step (fired : h.checkFiringTrigger = some (action,sev)) :
    EpisodeStep .closed action sev (.firing sev) := by
  unfold checkFiringTrigger at fired
  split at fired
  · cases fired
    exact .createCritical
  split at fired
  · cases fired
    exact .createWarning
  · cases fired

@[simp] theorem observe_phase (h : HostLifecycle) (score : Score) : (h.observe score).phase = h.phase := rfl

theorem phase_idle (idle : h.state.active = false) : h.phase = .closed := by
  cases state : h.state with
  | normal | candidate => simp [phase,state]
  | firing | recovering => simp [state,LifecycleState.active] at idle

theorem phase_firing (firing : h.state = .firing) : h.phase = .firing h.severity := by
  simp [phase,firing]

theorem phase_recovering (recovering : h.state = .recovering) : h.phase = .recovering h.priorSeverity := by
  simp [phase,recovering]

theorem advance_follows (score : Score) (rated : h.phase.Rated) :
    Follows h.phase (h.advance score).2 (h.advance score).1.phase := by
  rw [← observe_phase h score] at rated ⊢
  have outcome := advance_outcome h score
  generalize h.advance score = result at outcome ⊢
  generalize h.observe score = g at outcome rated ⊢
  obtain ⟨after,t⟩ := result
  dsimp only at outcome ⊢
  cases outcome with
  | create idle fired =>
    rw [phase_idle idle]
    exact .inl (trigger_step fired)
  | quiet idle still =>
    rw [phase_idle idle]
    exact .inr ⟨rfl,phase_idle still⟩
  | escalate firing warning =>
    rw [phase_firing firing,warning]
    exact .inl (by simpa [phase,firing] using EpisodeStep.escalate)
  | @enter sev firing streak rating =>
    rw [phase_firing firing] at rated ⊢
    have same : sev = g.severity := by
      cases severity : g.severity with
      | none => exact absurd severity rated
      | warning | critical => simpa [severity] using rating
    rw [← same]
    exact .inl (.enter sev)
  | stay => exact .inr ⟨rfl,rfl⟩
  | resolve recovering =>
    rw [phase_recovering recovering]
    exact .inl (.resolve _)
  | back recovering =>
    rw [phase_recovering recovering]
    exact .inl (.back _)
  | wait => exact .inr ⟨rfl,rfl⟩

theorem rated_of_follows {before after : Phase} (follows : Follows before t after)
    (rated : before.Rated) : after.Rated := by
  obtain ⟨action,source,target,sev⟩ := t
  rcases follows with step | ⟨-,same⟩
  · cases step with
    | createWarning => exact nofun
    | createCritical => exact nofun
    | escalate => exact nofun
    | enter => exact rated
    | back => exact rated
    | resolve => trivial
  · exact same ▸ rated

end

def actions (trace : List Transition) : List Transition :=
  trace.filter (fun t => decide (t.action ≠ .none))

def currentEpisode (trace : List Transition) : Option (List Transition) :=
  trace.foldl (fun episode t =>
    match t.action.boundary with
    | .opens => some [t]
    | .closes => none
    | .stays => episode.map (· ++ [t])) none

def Severity.rank : Severity → Nat
  | none => 0
  | warning => 1
  | critical => 2

def reportedSeverity (episode : List Transition) : Severity :=
  (episode.getLast?.map (·.severity)).getD .none

def isRecovering (episode : List Transition) : Bool :=
  episode.foldl (fun recovering t =>
    match t.action with
    | .enterRecovering => true
    | .returnToFiring => false
    | _ => recovering) false

/-- An action after the actions of a trace keeps the discipline of episodes. -/
structure Admissible (before : List Transition) (t : Transition) : Prop where
  creates : t.action.boundary = .opens → currentEpisode before = none
  inside : t.action.boundary ≠ .opens → ∃ episode, currentEpisode before = some episode ∧
    (reportedSeverity episode).rank ≤ t.severity.rank ∧
    (t.action = .escalateCritical → (∀ u ∈ episode, u.action ≠ .escalateCritical) ∧
      reportedSeverity episode = .warning ∧ t.severity = .critical) ∧
    (t.action = .enterRecovering → isRecovering episode = false) ∧
    (t.action = .returnToFiring → isRecovering episode = true) ∧
    (t.action = .resolve → isRecovering episode = true ∧ t.severity = reportedSeverity episode)
  closes : t.action = .resolve → currentEpisode (before ++ [t]) = none

inductive Tracks (trace : List Transition) : Phase → Prop where
  | closed (idle : currentEpisode trace = none) : Tracks trace .closed
  | firing {episode : List Transition} {s : Severity} (some : currentEpisode trace = some episode)
      (severity : reportedSeverity episode = s) (firing : isRecovering episode = false)
      (first : s = .warning → ∀ u ∈ episode, u.action ≠ .escalateCritical) : Tracks trace (.firing s)
  | recovering {episode : List Transition} {s : Severity} (some : currentEpisode trace = some episode)
      (severity : reportedSeverity episode = s) (recovering : isRecovering episode = true)
      (first : s = .warning → ∀ u ∈ episode, u.action ≠ .escalateCritical) :
      Tracks trace (.recovering s)

section
variable {t : Transition}

theorem currentEpisode_append : currentEpisode (trace ++ [t]) =
    match t.action.boundary with
    | .opens => some [t]
    | .closes => none
    | .stays => (currentEpisode trace).map (· ++ [t]) := by
  simp [currentEpisode]

@[simp] theorem reportedSeverity_append : reportedSeverity (episode ++ [t]) = t.severity := by
  simp [reportedSeverity]

theorem isRecovering_append : isRecovering (episode ++ [t]) =
    match t.action with
    | .enterRecovering => true
    | .returnToFiring => false
    | _ => isRecovering episode := by
  simp [isRecovering]

theorem step_admissible {before after : Phase} (tracks : Tracks trace before)
    (step : EpisodeStep before t.action t.severity after) :
    Admissible trace t ∧ Tracks (trace ++ [t]) after := by
  obtain ⟨action,source,target,sev⟩ := t
  cases step with
  | createWarning =>
    obtain ⟨idle⟩ := tracks
    refine ⟨⟨fun _ => idle,nofun,nofun⟩,?_⟩
    refine .firing (currentEpisode_append.trans rfl) rfl rfl ?_
    simp
  | createCritical =>
    obtain ⟨idle⟩ := tracks
    refine ⟨⟨fun _ => idle,nofun,nofun⟩,?_⟩
    exact .firing (currentEpisode_append.trans rfl) rfl rfl nofun
  | escalate =>
    cases tracks with
    | firing some severity firing first =>
    refine ⟨⟨nofun,fun _ => ⟨_,some,?_⟩,nofun⟩,?_⟩
    · exact ⟨by rw [severity]; exact Nat.le_succ 1,fun _ => ⟨first rfl,severity,rfl⟩,nofun,nofun,nofun⟩
    · refine .firing (currentEpisode_append.trans (by rw [some]; rfl)) reportedSeverity_append ?_ nofun
      rw [isRecovering_append]
      exact firing
  | enter s =>
    cases tracks with
    | firing some severity firing first =>
    refine ⟨⟨nofun,fun _ => ⟨_,some,?_⟩,nofun⟩,?_⟩
    · exact ⟨by rw [severity],nofun,fun _ => firing,nofun,nofun⟩
    exact .recovering (currentEpisode_append.trans (by rw [some]; rfl)) reportedSeverity_append
      isRecovering_append fun warning => forall_mem_append.mpr ⟨first warning,by simp⟩
  | back s =>
    cases tracks with
    | recovering some severity recovering first =>
    refine ⟨⟨nofun,fun _ => ⟨_,some,?_⟩,nofun⟩,?_⟩
    · exact ⟨by rw [severity],nofun,nofun,fun _ => recovering,nofun⟩
    exact .firing (currentEpisode_append.trans (by rw [some]; rfl)) reportedSeverity_append
      isRecovering_append fun warning => forall_mem_append.mpr ⟨first warning,by simp⟩
  | resolve s =>
    cases tracks with
    | recovering some severity recovering first =>
    refine ⟨⟨nofun,fun _ => ⟨_,some,?_⟩,fun _ => currentEpisode_append⟩,?_⟩
    · exact ⟨by rw [severity],nofun,nofun,nofun,fun _ => ⟨recovering,severity.symm⟩⟩
    · exact .closed currentEpisode_append

theorem run_admissible {h : HostLifecycle} (scores : List Score) (rated : h.phase.Rated)
    (tracks : Tracks trace h.phase)
    (so_far : ∀ before t, before ++ [t] <+: trace → Admissible before t) :
    ∀ before t, before ++ [t] <+: trace ++ actions (runScores h scores).2 → Admissible before t := by
  induction scores generalizing h trace with
  | nil => simpa [runScores,actions] using so_far
  | cons s scores ih =>
    have follows := advance_follows s rated
    have next := rated_of_follows follows rated
    rcases follows with step | ⟨idle,same⟩
    · obtain ⟨admissible,tracks'⟩ := step_admissible tracks step
      have acts := step.acts
      have longer := ih next tracks' ?_
      · simpa [runScores,actions,acts] using longer
      intro before t earlier
      rcases prefix_concat_iff.mp earlier with last | early
      · obtain ⟨rfl,same⟩ := append_inj' last rfl
        obtain rfl := singleton_inj.mp same
        exact admissible
      · exact so_far before t early
    · rw [← same] at tracks
      simpa [runScores,actions,idle] using ih next tracks so_far

end

/-- The actions of a host that starts in the normal state are bracketed
    episodes, for every policy and every sequence of scores. -/
theorem actions_form_episodes (policy : LifecyclePolicy) (scores : List Score) :
    ∀ before t, before ++ [t] <+: actions (runScores (newHostLifecycleWithPolicy policy) scores).2 →
        Admissible before t := by
  have start : Tracks [] (newHostLifecycleWithPolicy policy).phase := .closed rfl
  have rated : (newHostLifecycleWithPolicy policy).phase.Rated := trivial
  simpa using run_admissible scores rated start (by simp)

theorem warning_then_recovering :
    let opened : Transition := ⟨.createWarning,.normal,.firing,.warning⟩
    let recovering : Transition := ⟨.enterRecovering,.firing,.recovering,.warning⟩
    [opened] ++ [recovering] <+:
        actions (runScores (newHostLifecycleWithPolicy ⟨1,1,2,1⟩) [.value 1,.value 0]).2 ∧
      Admissible [opened] recovering :=
  ⟨by decide +kernel,actions_form_episodes ⟨1,1,2,1⟩ [.value 1,.value 0] _ _ (by decide +kernel)⟩

end Pilot.Detection
