import Mathlib.Data.String.Basic
import Pilot.Incidents.Store
import Pilot.Library.Concurrent
import Pilot.Remediation.Policy

/-!
The remediation tables of `internal/agentcontroller` and the calls its store
makes on them. A call is one SQL statement or one transaction; the store's
functions are programs of such calls, so that other processes may get in
between. The incidents table and the repair tools are answered by the
environment. Row ids that nothing reads are left out.
-/
namespace Pilot.Remediation
open Pilot.Table Pilot.Concurrent Prog
open Pilot.Incidents (IncidentStatus)

/-- `time.Format` and `time.Parse` at RFC3339. Nothing is assumed of them. -/
structure Clock where
  rfc3339 : Int → String
  parse : String → Option Int

/-- Go's zero time, which is what a failed parse leaves in a plan. -/
def zeroTime : Int := -62135596800 * 1000000000

def Clock.parseOrZero (C : Clock) (text : String) : Int := (C.parse text).getD zeroTime

/-- What one execution can end with: the results of the repair tool. `FinishRun`
    takes any text; that the tool answers with one of these is assumed. -/
inductive Outcome where
  | appliedVerified | appliedAlertStillFiring | executionFailed
  | verificationFailed | verificationInconclusive | planStale
  deriving DecidableEq, Repr

inductive PlanState where
  | proposed | approved | rejected | expired | executing
  | finished (result : Outcome)
  deriving DecidableEq, Repr

def Outcome.text : Outcome → String
  | appliedVerified => "APPLIED_VERIFIED"
  | appliedAlertStillFiring => "APPLIED_ALERT_STILL_FIRING"
  | executionFailed => "EXECUTION_FAILED"
  | verificationFailed => "VERIFICATION_FAILED"
  | verificationInconclusive => "VERIFICATION_INCONCLUSIVE"
  | planStale => "PLAN_STALE"

def PlanState.text : PlanState → String
  | proposed => "PROPOSED"
  | approved => "APPROVED"
  | rejected => "REJECTED"
  | expired => "EXPIRED"
  | executing => "EXECUTING"
  | finished result => result.text

structure Plan where
  (id incidentID host component action risk executorKind executorTarget verificationSpec : String)
  (inventoryRevision contractHash planHash : String)
  state : PlanState
  (createdAt expiresAt : String)
  deriving DecidableEq, Repr

inductive ApprovalDecision where
  | approved | rejected
  deriving DecidableEq, Repr

structure Approval where
  (planID planHash : String)
  decision : ApprovalDecision
  (actor reason createdAt : String)
  deriving DecidableEq, Repr

structure RemediationRun where
  (planID startedAt finishedAt : String)
  result : Outcome
  (auditRef verifyRef : String)
  deriving DecidableEq, Repr

structure PolicyDecisionRow where
  (incidentID planID planHash : String)
  decision : Decision
  (policyID policyVersion : String)
  reasons : List String
  mode : Mode
  createdAt : String
  deriving DecidableEq, Repr

inductive BreakerState where
  | closed | opened
  deriving DecidableEq, Repr

structure Breaker where
  scope : String
  state : BreakerState
  reason : String
  (trippedAt resetAt resetActor : Option String)
  deriving DecidableEq, Repr

structure DB where
  plans : List Plan
  approvals : List Approval
  runs : List RemediationRun
  decisions : List PolicyDecisionRow
  breakers : List Breaker
  mode : Mode
  deriving DecidableEq, Repr

/-- What the policy reads of a plan that is resolved again. -/
structure WirePlan where
  planHash : String
  autonomy : ComponentAutonomy
  deriving DecidableEq, Repr

structure ApplyResult where
  result : Option Outcome
  auditDirectory : String
  deriving DecidableEq, Repr

inductive Op where
  | insertPlan (p : Plan)
  | selectPlan (id : String)
  | expirePlan (id : String) (seen : PlanState)
  | startPlan (id : String)
  | recordDecision (a : Approval) (next : PlanState)
  | recordRun (r : RemediationRun)
  | selectExecuting
  | lastApproval (host component action : String)
  | countHostApprovals (host since : String)
  | countComponentApprovals (component since : String)
  | countPolicyRuns (incidentID : String)
  | countHumanRejections (host component action : String)
  | selectBreaker (scope : String)
  | tripBreaker (scope reason now : String)
  | resetBreaker (scope actor reason now : String)
  | integrityCheck
  | selectMode
  | updateMode (mode : Mode)
  | insertDecision (d : PolicyDecisionRow)
  | selectIncident (id : String)
  | repairPlan (incidentID host component action : String)
  | repairApply (p : Plan)
  deriving DecidableEq, Repr

@[reducible] def Ans : Op → Type
  | .insertPlan _ | .expirePlan _ _ | .recordRun _ | .tripBreaker _ _ _ | .updateMode _
  | .insertDecision _ => Unit
  | .selectPlan _ => Option Plan
  | .startPlan _ | .recordDecision _ _ | .countHostApprovals _ _ | .countComponentApprovals _ _
  | .countPolicyRuns _ | .countHumanRejections _ _ _ | .resetBreaker _ _ _ _ => Nat
  | .selectExecuting => List String
  | .lastApproval _ _ _ => Option String
  | .selectBreaker _ => Option Breaker
  | .integrityCheck => String
  | .selectMode => Mode
  | .selectIncident _ => Option IncidentStatus
  | .repairPlan _ _ _ _ => WirePlan
  | .repairApply _ => ApplyResult

def ofPlan (id : String) (p : Plan) : Bool := p.id == id

def inState (id : String) (state : PlanState) (p : Plan) : Bool := p.id == id && p.state == state

def setState (state : PlanState) (p : Plan) : Plan := { p with state := state }

/-- The compare-and-set every state change of a plan is. -/
def moveState (db : DB) (id : String) (seen next : PlanState) : DB :=
  { db with plans := updateWhere (inState id seen) (setState next) db.plans }

def recordDecision (db : DB) (a : Approval) (next : PlanState) : Except String Nat × DB :=
  if !db.plans.any (ofPlan a.planID) then
    (.error "insert approval: FOREIGN KEY constraint failed",db)
  else
    let hit := db.plans.countP (inState a.planID .proposed)
    if hit = 0 then (.ok 0,db)
    else (.ok hit,{ moveState db a.planID .proposed next with approvals := db.approvals ++ [a] })

/-- The unique index on the plan refuses a second run; the UPDATE may hit no row. -/
def recordRun (db : DB) (r : RemediationRun) : Except String Unit × DB :=
  if db.runs.any (fun old => old.planID == r.planID) then
    (.error "insert remediation_run: UNIQUE constraint failed: remediation_runs.plan_id",db)
  else if !db.plans.any (ofPlan r.planID) then
    (.error "insert remediation_run: FOREIGN KEY constraint failed",db)
  else (.ok (),{ moveState db r.planID .executing (.finished r.result) with runs := db.runs ++ [r] })

def joined (db : DB) : List (Approval × Plan) :=
  db.approvals.flatMap (fun a => (db.plans.filter (ofPlan a.planID)).map (fun p => (a,p)))

/-- LIKE 'policy:%', which ignores the case of ASCII letters. -/
def isPolicyActor (actor : String) : Bool :=
  ((actor.toList.take 7).map Char.toLower) == "policy:".toList

def targets (host component action : String) (p : Plan) : Bool :=
  p.host == host && p.component == component && p.action == action

def lastApproval (db : DB) (host component action : String) : Option String :=
  (((joined db).filter (fun ap => targets host component action ap.2 &&
    ap.1.decision == .approved)).map (fun ap => ap.1.createdAt)).max?

def countHostApprovals (db : DB) (host since : String) : Nat :=
  (joined db).countP (fun ap => ap.2.host == host && ap.1.decision == .approved &&
    decide (since ≤ ap.1.createdAt))

def countComponentApprovals (db : DB) (component since : String) : Nat :=
  (joined db).countP (fun ap => ap.2.component == component && ap.1.decision == .approved &&
    decide (since ≤ ap.1.createdAt))

def countPolicyRuns (db : DB) (incidentID : String) : Nat :=
  (db.runs.flatMap (fun r => (joined db).filter (fun ap => ap.2.id == r.planID))).countP
    (fun ap => ap.1.decision == .approved && ap.2.incidentID == incidentID &&
      isPolicyActor ap.1.actor)

def countHumanRejections (db : DB) (host component action : String) : Nat :=
  (joined db).countP (fun ap => targets host component action ap.2 &&
    ap.1.decision == .rejected && !isPolicyActor ap.1.actor)

def ofScope (scope : String) (b : Breaker) : Bool := b.scope == scope

def trippedBreaker (reason now : String) (b : Breaker) : Breaker :=
  { b with
    state := .opened, reason := reason, trippedAt := some now, resetAt := none, resetActor := none }

def tripBreaker (db : DB) (scope reason now : String) : DB :=
  if db.breakers.any (ofScope scope) then
    { db with breakers := updateWhere (ofScope scope) (trippedBreaker reason now) db.breakers }
  else { db with breakers := db.breakers ++ [⟨scope,.opened,reason,some now,none,none⟩] }

def isOpen (scope : String) (b : Breaker) : Bool := b.scope == scope && b.state == .opened

def closedBreaker (actor reason now : String) (b : Breaker) : Breaker :=
  { b with
    state := .closed, resetAt := some now, resetActor := some actor, reason := reason }

def resetBreaker (db : DB) (scope actor reason now : String) : DB :=
  { db with breakers := updateWhere (isOpen scope) (closedBreaker actor reason now) db.breakers }

/-- The environment's part in an answer: it may make any statement fail, and
    it answers for what is not in the database. -/
inductive Choice where
  | proceed
  | fault (err : String)
  | toolError (err : String)
  | incident (status : Option IncidentStatus)
  | wire (plan : WirePlan)
  | applied (result : ApplyResult)
  | integrity (text : String)

def serve (op : Op) (choice : Choice) (db : DB) : Option (Except String (Ans op) × DB) :=
  match choice with
  | .fault err =>
    match op with
    | .repairPlan _ _ _ _ | .repairApply _ => none
    | _ => some (.error err,db)
  | .toolError err =>
    match op with
    | .repairPlan _ _ _ _ | .repairApply _ => some (.error err,db)
    | _ => none
  | .incident status =>
    match op with
    | .selectIncident _ => some (.ok status,db)
    | _ => none
  | .wire plan =>
    match op with
    | .repairPlan _ _ _ _ => some (.ok plan,db)
    | _ => none
  | .applied result =>
    match op with
    | .repairApply _ => some (.ok result,db)
    | _ => none
  | .integrity text =>
    match op with
    | .integrityCheck => some (.ok text,db)
    | _ => none
  | .proceed =>
    match op with
    | .insertPlan p =>
      if db.plans.any (ofPlan p.id) then
        some (.error "UNIQUE constraint failed: remediation_plans.id",db)
      else some (.ok (),{ db with plans := db.plans ++ [p] })
    | .selectPlan id => some (.ok (db.plans.find? (ofPlan id)),db)
    | .expirePlan id seen => some (.ok (),moveState db id seen .expired)
    | .startPlan id =>
      some (.ok (db.plans.countP (inState id .approved)),moveState db id .approved .executing)
    | .recordDecision a next => some (recordDecision db a next)
    | .recordRun r => some (recordRun db r)
    | .selectExecuting =>
      some (.ok ((db.plans.filter (fun p => p.state == .executing)).map Plan.id),db)
    | .lastApproval host component action => some (.ok (lastApproval db host component action),db)
    | .countHostApprovals host since => some (.ok (countHostApprovals db host since),db)
    | .countComponentApprovals component since =>
      some (.ok (countComponentApprovals db component since),db)
    | .countPolicyRuns incidentID => some (.ok (countPolicyRuns db incidentID),db)
    | .countHumanRejections host component action =>
      some (.ok (countHumanRejections db host component action),db)
    | .selectBreaker scope => some (.ok (db.breakers.find? (ofScope scope)),db)
    | .tripBreaker scope reason now => some (.ok (),tripBreaker db scope reason now)
    | .resetBreaker scope actor reason now =>
      some (.ok (db.breakers.countP (isOpen scope)),resetBreaker db scope actor reason now)
    | .selectMode => some (.ok db.mode,db)
    | .updateMode mode => some (.ok (),{ db with mode := mode })
    | .insertDecision d => some (.ok (),{ db with decisions := db.decisions ++ [d] })
    | .integrityCheck | .selectIncident _ | .repairPlan _ _ _ _ | .repairApply _ => none

abbrev StoreProg (α : Type) := Prog Ans α

structure ProposedPlan where
  plan : Plan
  (createdAt expiresAt : Int)

variable (C : Clock)

def createPlan (p : ProposedPlan) : StoreProg Unit :=
  let row := { p.plan with
    state := .proposed, createdAt := C.rfc3339 p.createdAt, expiresAt := C.rfc3339 p.expiresAt }
  query (Op.insertPlan row)
    (fun err => s!"create remediation plan: {err}")

def getPlan (id : String) : StoreProg (Option Plan) :=
  query (Op.selectPlan id) (fun err => s!"get plan {id}: {err}")

def Plan.expired (p : Plan) (now : Int) : Bool := decide (C.parseOrZero p.expiresAt < now)

def expireIfPastDeadline (p : Plan) (now : Int) : StoreProg Plan :=
  if p.state ≠ .proposed ∧ p.state ≠ .approved then .done p
  else if !p.expired C now then .done p
  else do
    query (Op.expirePlan p.id p.state) (fun err => s!"expire plan {p.id}: {err}")
    .done { p with state := .expired }

def markExecuting (planID : String) (now : Int) : StoreProg Plan := do
  match ← getPlan planID with
  | none => .fail s!"plan {planID} not found"
  | some found =>
    let p ← expireIfPastDeadline C found now
    if p.state ≠ .approved then
      .fail s!"plan {planID} is {p.state.text}, not APPROVED — cannot execute"
    else
      let hit ← query (Op.startPlan planID) (fun err => s!"mark plan {planID} executing: {err}")
      if hit = 0 then
        .fail s!"plan {planID} state changed concurrently — refusing to execute"
      else .done { p with state := .executing }

def finishRun (planID : String) (result : Outcome) (auditRef verifyRef : String)
    (startedAt finishedAt : Int) : StoreProg Unit :=
  query (Op.recordRun ⟨planID,C.rfc3339 startedAt,C.rfc3339 finishedAt,result,auditRef,verifyRef⟩)
    id

/-- The loop of RecoverOrphanedExecutingPlans; it stops at the first error. -/
def recoverEach (now : Int) : List String → Nat → StoreProg Nat
  | [], recovered => .done recovered
  | id :: rest, recovered => do
    wrapError (fun err => s!"recover orphaned plan {id}: {err}")
      (finishRun C id .executionFailed ""
        "recovered: orphaned EXECUTING plan after unclean shutdown — outcome unknown" now now)
    recoverEach now rest (recovered + 1)

def recoverOrphanedExecutingPlans (now : Int) : StoreProg Nat := do
  let ids ← query Op.selectExecuting (fun err => s!"query executing plans: {err}")
  recoverEach C now ids 0

structure DecisionRequest where
  (planID planHash actor reason : String)
  deriving DecidableEq, Repr

def recordApprovalDecision (r : DecisionRequest) (decision : ApprovalDecision)
    (nextState : PlanState) (now : Int) : StoreProg Approval :=
  if r.actor = "" then
    .fail "actor is required — approval must come from trusted operator context"
  else do
    match ← getPlan r.planID with
    | none => .fail s!"plan {r.planID} not found"
    | some found =>
      let p ← expireIfPastDeadline C found now
      if p.state ≠ .proposed then
        .fail s!"plan {r.planID} is {p.state.text}, not PROPOSED — cannot record a decision"
      else if p.planHash ≠ r.planHash then
        .fail (s!"plan hash mismatch for {r.planID} — approval must bind to the exact current plan hash (got " ++
          s!"{r.planHash}, plan is {p.planHash})")
      else
        let a : Approval := ⟨r.planID,r.planHash,decision,r.actor,r.reason,C.rfc3339 now⟩
        let hit ← query (Op.recordDecision a nextState) id
        if hit = 0 then
          .fail s!"plan {r.planID} state changed concurrently — refusing to record decision"
        else .done a

def approve (r : DecisionRequest) (now : Int) : StoreProg Approval :=
  recordApprovalDecision C r .approved .approved now

def reject (r : DecisionRequest) (now : Int) : StoreProg Approval :=
  recordApprovalDecision C r .rejected .rejected now

def breakerScopeGlobal : String := "global"
def breakerScopeComponent (component : String) : String := "component:" ++ component
def breakerScopeHost (host : String) : String := "host:" ++ host

/-- A scope that never tripped is closed. -/
def breakerState (scope : String) : StoreProg BreakerState := do
  match ← query (Op.selectBreaker scope) (fun err => s!"read breaker {scope}: {err}") with
  | none => .done .closed
  | some b => .done b.state

def tripBreakerCall (scope reason : String) (now : Int) : StoreProg Unit :=
  query (Op.tripBreaker scope reason (C.rfc3339 now)) (fun err => s!"trip breaker {scope}: {err}")

def BreakerState.text : BreakerState → String
  | closed => "CLOSED"
  | opened => "OPEN"

def resetBreakerCall (scope actor reason : String) (now : Int) : StoreProg Unit :=
  if actor = "" then
    .fail "actor is required — breaker reset must come from trusted operator context"
  else do
    let current ← breakerState scope
    if current ≠ .opened then
      .fail s!"breaker {scope} is {current.text}, not OPEN — nothing to reset"
    else
      let hit ← query (Op.resetBreaker scope actor reason (C.rfc3339 now))
        (fun err => s!"reset breaker {scope}: {err}")
      if hit = 0 then .fail s!"breaker {scope} state changed concurrently — refusing to reset"
      else .done ()

def policyActor (policyID decisionID : String) : String :=
  "policy:" ++ policyID ++ ":" ++ decisionID

def lastActionAt (host component action : String) : StoreProg (Option Int) := do
  match ← query (Op.lastApproval host component action)
      (fun err => s!"last action at for {host}/{component}/{action}: {err}") with
  | none => .done none
  | some text =>
    match C.parse text with
    | none => .fail s!"parse last action time: {text}"
    | some t => .done (some t)

def healthCheck : StoreProg Bool :=
  .call .integrityCheck (fun answer => match answer with
    | .ok text => .done (text == "ok")
    | .error _ => .done false)

/-- The facts in the order GatherPolicyInput reads them. The plan is resolved
    again through the repair tool, whose failure is itself a fact. -/
def gatherPolicyInput (defaults : ConfigDefaults) (p : Plan) (environment : String) (now : Int) :
    StoreProg (PolicyInput × ComponentAutonomy) := do
  match ← query (Op.selectIncident p.incidentID)
      (fun err => s!"reload incident {p.incidentID}: {err}") with
  | none => .fail s!"incident {p.incidentID} no longer exists"
  | some status =>
    let wire ← (query (Op.repairPlan p.incidentID p.host p.component p.action) id).attempt
    let last ← lastActionAt C p.host p.component p.action
    let hostCount ← query
      (.countHostApprovals p.host (C.rfc3339 (now - defaults.hostWindow)))
      (fun err => s!"count approved actions for host {p.host}: {err}")
    let componentCount ← query
      (.countComponentApprovals p.component (C.rfc3339 (now - defaults.componentWindow)))
      (fun err => s!"count approved actions for component {p.component}: {err}")
    let priorRuns ← query (Op.countPolicyRuns p.incidentID)
      (fun err => s!"count policy runs for incident {p.incidentID}: {err}")
    let rejections ← query (Op.countHumanRejections p.host p.component p.action)
      (fun err => s!"check human rejection for {p.host}/{p.component}/{p.action}: {err}")
    let globalBreaker ← breakerState breakerScopeGlobal
    let componentBreaker ← breakerState (breakerScopeComponent p.component)
    let hostBreaker ← breakerState (breakerScopeHost p.host)
    let writable ← healthCheck
    .done ({
      risk := p.risk
      environment := environment
      alertStillFiring := !status.isTerminal
      priorActionsHostWindow := hostCount
      priorActionsComponentWindow := componentCount
      priorFailuresIncident := priorRuns
      lastActionAt := last
      maintenanceMode := false
      globalKillSwitch := globalBreaker == .opened
      componentKillSwitch := false
      planFresh := match wire with
        | .ok plan => plan.planHash == p.planHash
        | .error _ => false
      noHumanRejection := rejections == 0
      auditWritable := writable
      repairInfraHealthy := match wire with
        | .ok _ => true
        | .error _ => false
      globalBreakerOpen := globalBreaker == .opened
      componentBreakerOpen := componentBreaker == .opened
      hostBreakerOpen := hostBreaker == .opened },
      match wire with
      | .ok plan => plan.autonomy
      | .error _ => ⟨"","",""⟩)

def evaluateAndRecord (cfg : Config) (autonomy : ComponentAutonomy) (facts : PolicyInput)
    (p : Plan) (now : Int) : StoreProg PolicyDecision := do
  let d := evaluatePolicy cfg autonomy facts now
  query (Op.insertDecision ⟨p.incidentID,p.id,p.planHash,d.decision,d.policyID,d.policyVersion,
    d.reasons,cfg.autonomyMode,C.rfc3339 now⟩)
    (fun err => s!"persist policy decision: record policy decision: {err}")
  .done d

def sampleClock : Clock where
  rfc3339 t := if t = 0 then "1970-01-01T00:00:00Z" else "1970-01-01T00:10:00Z"
  parse text := if text = "1970-01-01T00:00:00Z" then some 0 else some (10 * minute)

def samplePlan (id : String) : Plan :=
  ⟨id,"inc-1","web-1","nginx","restart","R1","service","nginx","","rev","contract",
    "hash-" ++ id,.proposed,"",""⟩

end Pilot.Remediation
