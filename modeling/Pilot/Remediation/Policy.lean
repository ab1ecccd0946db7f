import Mathlib.Data.List.Basic

/-!
The autonomy policy of `internal/policy/policy.go`: a pure function of facts
its caller has gathered. Instants and durations are nanoseconds. The guards
are asked in the order of the source and the first one that is hit decides.
-/
namespace Pilot.Remediation

inductive Decision where
  | allowAuto | requireHuman | deny
  deriving DecidableEq, Repr

inductive Mode where
  | disabled | shadow | enforced
  deriving DecidableEq, Repr

inductive EnvironmentPolicy where
  | allowR1 | humanOnly
  deriving DecidableEq, Repr

def minute : Int := 60 * 1000000000
def hour : Int := 60 * minute

structure ConfigDefaults where
  (cooldown hostBudgetCount hostBudgetWindow componentBudgetCount componentBudgetWindow : Int)
  deriving DecidableEq, Repr

structure Config where
  autonomyMode : Mode
  defaults : ConfigDefaults
  environments : List (String × EnvironmentPolicy)
  deriving DecidableEq, Repr

def defaultConfig : Config where
  autonomyMode := .disabled
  defaults := ⟨30 * minute,2,6 * hour,5,hour⟩
  environments := [("sandbox",.allowR1),("staging",.allowR1),("prod",.humanOnly)]

/-- One action's opt-in per environment, as the contract texts have it. -/
structure ComponentAutonomy where
  (sandbox staging prod : String)
  deriving DecidableEq, Repr

def ComponentAutonomy.allowed (a : ComponentAutonomy) (env : String) : Bool :=
  if env = "sandbox" then a.sandbox == "allowed"
  else if env = "staging" then a.staging == "allowed"
  else if env = "prod" then a.prod == "allowed"
  else false

structure PolicyInput where
  (risk environment : String)
  alertStillFiring : Bool
  (priorActionsHostWindow priorActionsComponentWindow priorFailuresIncident : Int)
  lastActionAt : Option Int
  (maintenanceMode globalKillSwitch componentKillSwitch planFresh noHumanRejection auditWritable : Bool)
  (repairInfraHealthy globalBreakerOpen componentBreakerOpen hostBreakerOpen : Bool)
  deriving DecidableEq, Repr

structure PolicyDecision where
  decision : Decision
  (policyID policyVersion : String)
  reasons : List String
  evaluatedAt : Int
  deriving DecidableEq, Repr

/-- A configured value that is not positive stands for the built-in one. -/
def orDefault (configured builtIn : Int) : Int := if configured ≤ 0 then builtIn else configured

def ConfigDefaults.effectiveCooldown (d : ConfigDefaults) : Int :=
  orDefault d.cooldown (30 * minute)

def ConfigDefaults.hostBudget (d : ConfigDefaults) : Int := orDefault d.hostBudgetCount 2

def ConfigDefaults.componentBudget (d : ConfigDefaults) : Int := orDefault d.componentBudgetCount 5

def ConfigDefaults.hostWindow (d : ConfigDefaults) : Int := orDefault d.hostBudgetWindow (6 * hour)

def ConfigDefaults.componentWindow (d : ConfigDefaults) : Int :=
  orDefault d.componentBudgetWindow hour

def coolingDown (d : ConfigDefaults) (lastActionAt : Option Int) (now : Int) : Bool :=
  match lastActionAt with
  | none => false
  | some last => decide (now - last < d.effectiveCooldown)

structure Guard where
  hit : Bool
  decision : Decision
  reason : String

def deny (hit : Bool) (reason : String) : Guard := ⟨hit,.deny,reason⟩

def human (hit : Bool) (reason : String) : Guard := ⟨hit,.requireHuman,reason⟩

/-- The early returns of EvaluatePolicy, in the order they are tried. -/
def policyGuards (cfg : Config) (autonomy : ComponentAutonomy) (facts : PolicyInput)
    (now : Int) : List Guard :=
  let env := cfg.environments.lookup facts.environment
  [human (cfg.autonomyMode == .disabled) "autonomy_mode is disabled",
    deny (facts.risk != "R1") "plan risk is not R1 — autonomy never covers R2/R3/R4",
    human (env == none) ("unknown environment " ++ facts.environment),
    human (env == some .humanOnly)
      ("environment " ++ facts.environment ++ " is human-only by default policy"),
    human (!autonomy.allowed facts.environment)
      ("component action has no autonomy opt-in for " ++ facts.environment),
    deny facts.globalKillSwitch "global kill switch is engaged",
    deny facts.componentKillSwitch "component kill switch is engaged",
    human facts.maintenanceMode "maintenance mode is active",
    deny facts.globalBreakerOpen "global circuit breaker is open",
    deny facts.componentBreakerOpen "component circuit breaker is open",
    deny facts.hostBreakerOpen "host circuit breaker is open",
    human (coolingDown cfg.defaults facts.lastActionAt now)
      "cooldown active for this host/component/action",
    deny (decide (facts.priorActionsHostWindow ≥ cfg.defaults.hostBudget))
      "host auto-repair budget exhausted for this window",
    deny (decide (facts.priorActionsComponentWindow ≥ cfg.defaults.componentBudget))
      "component auto-repair budget exhausted for this window",
    human (decide (facts.priorFailuresIncident > 0))
      "incident episode already had a prior autonomous repair attempt",
    deny (!facts.alertStillFiring) "source alert is no longer firing",
    human (!facts.noHumanRejection) "a human has already rejected this exact plan",
    deny (!facts.planFresh) "plan is stale — contract or inventory changed since it was built",
    deny (!facts.auditWritable) "audit/change-journal persistence is not writable",
    deny (!facts.repairInfraHealthy) "repair MCP infrastructure is not healthy"]

def evaluatePolicy (cfg : Config) (autonomy : ComponentAutonomy) (facts : PolicyInput)
    (now : Int) : PolicyDecision :=
  match (policyGuards cfg autonomy facts now).find? Guard.hit with
  | some g => ⟨g.decision,"agent-monitoring-r1-autonomy","1",[g.reason],now⟩
  | none => ⟨.allowAuto,"agent-monitoring-r1-autonomy","1",["all autonomy guards passed"],now⟩

/-- Everything autonomy depends on. -/
structure Guards (cfg : Config) (autonomy : ComponentAutonomy) (facts : PolicyInput)
    (now : Int) : Prop where
  enabled : cfg.autonomyMode ≠ .disabled
  risk : facts.risk = "R1"
  environment : cfg.environments.lookup facts.environment = some .allowR1
  optedIn : autonomy.allowed facts.environment = true
  noKill : facts.globalKillSwitch = false ∧ facts.componentKillSwitch = false
  noMaintenance : facts.maintenanceMode = false
  closed : facts.globalBreakerOpen = false ∧ facts.componentBreakerOpen = false ∧
    facts.hostBreakerOpen = false
  cooled : coolingDown cfg.defaults facts.lastActionAt now = false
  hostBudget : facts.priorActionsHostWindow < cfg.defaults.hostBudget
  componentBudget : facts.priorActionsComponentWindow < cfg.defaults.componentBudget
  firstAttempt : facts.priorFailuresIncident ≤ 0
  firing : facts.alertStillFiring = true
  notRejected : facts.noHumanRejection = true
  fresh : facts.planFresh = true
  writable : facts.auditWritable = true
  healthy : facts.repairInfraHealthy = true

theorem guard_never_allows : ∀ g ∈ policyGuards cfg autonomy facts now, g.decision ≠ .allowAuto := by
  simp [policyGuards,human,deny]

theorem evaluatePolicy_allows_iff :
    (evaluatePolicy cfg autonomy facts now).decision = .allowAuto ↔
      ∀ g ∈ policyGuards cfg autonomy facts now, g.hit = false := by
  unfold evaluatePolicy
  cases found : (policyGuards cfg autonomy facts now).find? Guard.hit with
  | none =>
    rw [List.find?_eq_none] at found
    simpa using found
  | some g =>
    have mem := List.mem_of_find?_eq_some found
    constructor
    · intro allowed
      exact absurd allowed (guard_never_allows g mem)
    · intro quiet
      have hit := List.find?_some found
      simp [quiet g mem] at hit

theorem evaluatePolicy_guards (allowed : (evaluatePolicy cfg autonomy facts now).decision = .allowAuto) :
    Guards cfg autonomy facts now := by
  have quiet := evaluatePolicy_allows_iff.mp allowed
  simp only [policyGuards,human,deny,List.forall_mem_cons,List.not_mem_nil,false_implies,
    implies_true,and_true] at quiet
  obtain ⟨mode,risk,known,open_,optIn,kill,componentKill,maintenance,breaker,componentBreaker,
    hostBreaker,cooldown,host,component,attempts,firing,rejected,fresh,writable,healthy⟩ := quiet
  refine ⟨by simpa using mode,by simpa using risk,?_,by simpa using optIn,⟨kill,componentKill⟩,
    maintenance,⟨breaker,componentBreaker,hostBreaker⟩,cooldown,by simpa using host,
    by simpa using component,by simpa using attempts,by simpa using firing,by simpa using rejected,
    by simpa using fresh,by simpa using writable,by simpa using healthy⟩
  cases env : cfg.environments.lookup facts.environment with
  | none => simp [env] at known
  | some policy =>
    cases policy with
    | allowR1 => rfl
    | humanOnly => simp [env] at open_

end Pilot.Remediation
