import Pilot.Remediation.Discipline

/-!
The operator commands of `pilot-agent-controller` over the remediation
tables, among them the policy-gated `auto-execute`. One pass over each
command says what it has done when it records a decision or a run, and when
it returns. What a command prints is left out, and `propose` starts from the
plan the repair tool resolved.
-/
namespace Pilot.Remediation
open Concurrent.Rule (safe_attempt safe_bind safe_query safe_wrapError)
open Pilot.Table Pilot.Concurrent Pilot.Transition Prog

structure AutoArgs where
  (planID environment : String)
  defaults : ConfigDefaults
  (now started finished : Int)

inductive Command where
  | propose (p : ProposedPlan)
  | approve (r : DecisionRequest) (now : Int)
  | reject (r : DecisionRequest) (now : Int)
  | execute (planID : String) (started finished : Int)
  | autoExecute (args : AutoArgs)
  | setMode (mode : Mode) (actor : String)
  | kill (scope reason : String) (now : Int)
  | resetBreaker (scope actor reason : String) (now : Int)

inductive Exit where
  | success | status1
  deriving DecidableEq, Repr

/-- The result that is recorded: a tool error counts as a failed execution,
    an empty result as inconclusive. -/
def finalResult : Except String ApplyResult → Outcome
  | .error _ => .executionFailed
  | .ok applied => applied.result.getD .verificationInconclusive

def auditDirectory : Except String ApplyResult → String
  | .error _ => ""
  | .ok applied => applied.auditDirectory

variable (C : Clock)

/-- What both executing commands do once the plan is EXECUTING. -/
def applyAndRecord (p : Plan) (started finished : Int) :
    StoreProg (Except String ApplyResult) := do
  let applied ← (query (Op.repairApply p) id).attempt
  wrapError (fun err => s!"record run outcome: {err}")
    (finishRun C p.id (finalResult applied) (auditDirectory applied) "" started finished)
  .done applied

def executeCommand (planID : String) (started finished : Int) : StoreProg Exit := do
  let p ← wrapError (fun err => s!"cannot execute: {err}") (markExecuting C planID started)
  match ← applyAndRecord C p started finished with
  | .error err => .fail s!"repair apply: {err}"
  | .ok applied => .done (if applied.result = some .appliedVerified then .success else .status1)

def tripBoth (p : Plan) (result : Outcome) (finished : Int) : StoreProg Unit := do
  let reason := s!"autonomous execution result={result.text} plan={p.id}"
  let _ ← (tripBreakerCall C (breakerScopeComponent p.component) reason finished).attempt
  let _ ← (tripBreakerCall C (breakerScopeHost p.host) reason finished).attempt
  .done ()

def listText (texts : List String) : String := "[" ++ " ".intercalate texts ++ "]"

def autoApprove (args : AutoArgs) (p : Plan) (d : PolicyDecision) : StoreProg Approval :=
  wrapError (fun err => s!"policy auto-approve: {err}")
    (approve C ⟨p.id,p.planHash,policyActor d.policyID d.policyVersion,
      "policy allow_auto: " ++ listText d.reasons⟩ args.now)

def autoExecuteCommand (args : AutoArgs) : StoreProg Exit := do
  let _ ← wrapError (fun err => s!"recover orphaned plans: {err}")
    (recoverOrphanedExecutingPlans C args.now)
  match ← getPlan args.planID with
  | none => .fail s!"no such plan: {args.planID}"
  | some p =>
    if p.state ≠ .proposed then
      .fail s!"plan {p.id} is {p.state.text}, not PROPOSED — auto-execute only evaluates a freshly proposed plan"
    else
      let mode ← query Op.selectMode (fun err => s!"read autonomy_state: {err}")
      let cfg : Config := { defaultConfig with autonomyMode := mode, defaults := args.defaults }
      let gathered ← wrapError (fun err => s!"gather policy facts: {err}")
        (gatherPolicyInput C args.defaults p args.environment args.now)
      let d ← evaluateAndRecord C cfg gathered.2 gathered.1 p args.now
      if mode = .disabled then .done .success
      else if mode = .shadow then .done .success
      else if d.decision ≠ .allowAuto then .done .success
      else
        let _ ← autoApprove C args p d
        let executing ← wrapError (fun err => s!"cannot execute: {err}")
          (markExecuting C p.id args.started)
        let applied ← applyAndRecord C executing args.started args.finished
        if finalResult applied = .appliedVerified then .done .success
        else
          tripBoth C executing (finalResult applied) args.finished
          match applied with
          | .error err => .fail s!"repair apply: {err}"
          | .ok _ => .done .status1

def setAutonomyMode (mode : Mode) (actor : String) : StoreProg Unit :=
  if actor = "" then
    .fail "actor is required — autonomy mode changes must come from trusted operator context"
  else query (Op.updateMode mode) (fun err => s!"set autonomy mode: {err}")

def plainly {α : Type} (m : StoreProg α) : StoreProg Exit := m >>= fun _ => .done .success

def commandProgram : Command → StoreProg Exit
  | .propose p => plainly (createPlan C p)
  | .approve r now => plainly (approve C r now)
  | .reject r now => plainly (reject C r now)
  | .execute planID started finished => executeCommand C planID started finished
  | .autoExecute args => autoExecuteCommand C args
  | .setMode mode actor => plainly (setAutonomyMode mode actor)
  | .kill scope reason now => plainly (tripBreakerCall C scope reason now)
  | .resetBreaker scope actor reason now => plainly (resetBreakerCall C scope actor reason now)

def work (pid n : Nat) (p : Plan) (answer : Except String ApplyResult) : List (Event Ans) :=
  [⟨pid,.startPlan p.id,.ok n⟩,⟨pid,.repairApply p,answer⟩]

/-- The run is about the plan this process has executed, with what it obtained. -/
def Executed (pid : Nat) (log : List (Event Ans)) (r : RemediationRun) : Prop :=
  ∃ quiet n p answer, own pid log = quiet ++ work pid n p answer ∧ n ≠ 0 ∧
    quiet.filterMap started = [] ∧ p.id = r.planID ∧ finalResult answer = r.result

def Recovers (cmd : Command) (pid : Nat) (log : List (Event Ans)) (r : RemediationRun) : Prop :=
  (∃ args, cmd = .autoExecute args) ∧ (own pid log).filterMap started = [] ∧
    r.result = .executionFailed ∧ Selected pid log r.planID

/-- What a process has read, and found within bounds, before a policy approval. -/
structure Admitted (args : AutoArgs) (pid : Nat) (a : Approval) (s : Shared Ans DB)
    (p : Plan) (hostCount componentCount : Nat) : Prop where
  isID : p.id = args.planID
  ofPlan : a.planID = args.planID
  approved : a.decision = .approved
  actor : isPolicyActor a.actor = true
  known : Known p s
  readHost : ⟨pid,.countHostApprovals p.host (C.rfc3339 (args.now - args.defaults.hostWindow)),
    .ok hostCount⟩ ∈ own pid s.log
  inHostBudget : (hostCount : Int) < args.defaults.hostBudget
  readComponent : ⟨pid,.countComponentApprovals p.component
    (C.rfc3339 (args.now - args.defaults.componentWindow)),.ok componentCount⟩ ∈ own pid s.log
  inComponentBudget : (componentCount : Int) < args.defaults.componentBudget
  readRuns : ⟨pid,.countPolicyRuns p.incidentID,.ok (0 : Nat)⟩ ∈ own pid s.log

def commandExtra (cmd : Command) (pid : Nat) (op : Op) (s : Shared Ans DB) : Prop :=
  match op with
  | .recordRun r => Decided r.planID s.state ∧ (Executed pid s.log r ∨ Recovers cmd pid s.log r)
  | .recordDecision a next => ∀ args, cmd = .autoExecute args → next = .approved ∧
      ∃ p hostCount componentCount, Admitted C args pid a s p hostCount componentCount
  | _ => True

/-- How the calls of a command end that has returned. -/
inductive Tail (cmd : Command) (pid : Nat) (s : Shared Ans DB) : List (Event Ans) → Prop where
  | idle : Tail cmd pid s []
  | unrecorded (n : Nat) (p : Plan) (answer : Except String ApplyResult) (r : RemediationRun)
      (err : String) (hit : n ≠ 0) (ofPlan : r.planID = p.id) (result : r.result = finalResult answer) :
      Tail cmd pid s (work pid n p answer ++ [⟨pid,.recordRun r,.error err⟩])
  | recorded (n : Nat) (p : Plan) (answer : Except String ApplyResult) (r : RemediationRun)
      (hit : n ≠ 0) (ofPlan : r.planID = p.id) (result : r.result = finalResult answer)
      (good : (∃ args, cmd = .autoExecute args) → r.result = .appliedVerified) :
      Tail cmd pid s (work pid n p answer ++ [⟨pid,.recordRun r,.ok ()⟩])
  | tripped (n : Nat) (p : Plan) (answer : Except String ApplyResult) (r : RemediationRun)
      (hit : n ≠ 0) (ofPlan : r.planID = p.id) (result : r.result = finalResult answer)
      (known : Known p s) (reason now : String) (first second : Except String Unit) :
      Tail cmd pid s (work pid n p answer ++ [⟨pid,.recordRun r,.ok ()⟩,
        ⟨pid,.tripBreaker (breakerScopeComponent p.component) reason now,first⟩,
        ⟨pid,.tripBreaker (breakerScopeHost p.host) reason now,second⟩])

def Ended (cmd : Command) (pid : Nat) (s : Shared Ans DB) : Prop :=
  ∃ quiet tail, own pid s.log = quiet ++ tail ∧ quiet.filterMap started = [] ∧ Tail cmd pid s tail

def Command.target : Command → Option (String × Int)
  | .execute planID started _ => some (planID,started)
  | .autoExecute args => some (args.planID,args.started)
  | _ => none

def commandPool : Pool Command Exit where
  clock := C
  program := commandProgram C
  target := Command.target
  extra := commandExtra C
  post cmd pid _ s := Ended cmd pid s

/-- A process that has not moved a plan, and where it then stands. -/
def Idle (pid : Nat) (s : Shared Ans DB) : Prop := (own pid s.log).filterMap started = []

theorem Idle.extends (idle : Idle pid s) (ext : Extends pid s t) : Idle pid t :=
  ext.started.trans idle

theorem Idle.ended (idle : Idle pid s) (cmd : Command) : Ended cmd pid s :=
  ⟨own pid s.log,[],by simp,idle,.idle⟩

theorem ended_stable (cmd : Command) (pid : Nat) (result : Except String Exit) :
    (commandPool C).rule.Stable pid ((commandPool C).rule.post cmd pid result) := by
  intro s t ended later _
  obtain ⟨quiet,tail,ownLog,none_,shape⟩ := ended
  refine ⟨quiet,tail,later.own.trans ownLog,none_,?_⟩
  cases shape with
  | idle => exact .idle
  | unrecorded n p answer r err hit ofPlan result =>
    exact .unrecorded n p answer r err hit ofPlan result
  | recorded n p answer r hit ofPlan result good =>
    exact .recorded n p answer r hit ofPlan result good
  | tripped n p answer r hit ofPlan result known reason now first second =>
    exact .tripped n p answer r hit ofPlan result (known.extends (extends_later later)) reason now
      first second

section Pass
variable {C} {pid : Nat}

structure At (pid : Nat) (quiet tail : List (Event Ans)) (p : Plan) (s : Shared Ans DB) : Prop where
  own : own pid s.log = quiet ++ tail
  none_ : quiet.filterMap started = []
  known : Known p s
  lawful : Lawful s

variable {s : Shared Ans DB} {p : Plan}

theorem decided_of_started (lawful : Lawful s) {id : String}
    (entered : id ∈ (own pid s.log).filterMap started) : Decided id s.state := by
  have among : id ∈ s.log.filterMap started := by
    obtain ⟨e,mem,isStart⟩ := List.mem_filterMap.mp entered
    exact List.mem_filterMap.mpr ⟨e,List.mem_of_mem_filter mem,isStart⟩
  obtain ⟨p,mem,isID,ran⟩ := lawful.running id among
  have needs : p.state.needsApproval = true := by
    cases state : p.state <;> rw [state] at ran <;> first | rfl | cases ran
  obtain ⟨a,memA,ofP,approved⟩ := lawful.backed p mem needs
  exact ⟨a,memA,ofP.trans isID,approved⟩

theorem At.push (place : At pid quiet tail p s) (later : (commandPool C).rule.Later pid s t)
    (grows : Grows t.state db) (kept : Lawful (t.push pid op answer db)) :
    At pid quiet (tail ++ [⟨pid,op,answer⟩]) p (t.push pid op answer db) where
  own := by
    rw [own_push,later.own,place.own,List.append_assoc]
  none_ := place.none_
  known := by
    obtain ⟨q,mem,same⟩ := place.known.extends (extends_later later)
    obtain ⟨r,memR,again⟩ := grows.plans q mem
    exact ⟨r,memR,again.trans same⟩
  lawful := kept

theorem safe_applyAndRecord {quiet : List (Event Ans)} {n : Nat}
    (hit : n ≠ 0) (place : At pid quiet [⟨pid,.startPlan p.id,.ok n⟩] p s)
    (value : ∀ t answer r, r.planID = p.id → r.result = finalResult answer →
      At pid quiet (work pid n p answer ++ [⟨pid,.recordRun r,.ok ()⟩]) p t → post (.ok answer) t)
    (failed : ∀ t answer r err text, r.planID = p.id → r.result = finalResult answer →
      At pid quiet (work pid n p answer ++ [⟨pid,.recordRun r,.error err⟩]) p t →
      post (.error text) t) :
    (commandPool C).rule.Safe cmd pid (applyAndRecord C p started_ finished) post s := by
  have record : ∀ answer u, At pid quiet (work pid n p answer) p u →
      (commandPool C).rule.Safe cmd pid (do
        wrapError (fun err => s!"record run outcome: {err}") (finishRun C p.id
          (finalResult answer) (auditDirectory answer) "" started_ finished)
        .done answer) post u := by
    intro answer u applied
    apply safe_bind
    apply safe_wrapError
    apply safe_query
    intro v later lawful
    refine ⟨⟨trivial,fun _ => ⟨?_,Or.inl ⟨quiet,n,p,answer,later.own.trans applied.own,hit,
      applied.none_,rfl,rfl⟩⟩⟩,?_⟩
    · have entered : p.id ∈ (own pid v.log).filterMap started := by
        rw [later.own,applied.own]
        simp [work,started,hit]
      exact decided_of_started lawful entered
    · intro choice outcome db served grows kept
      have ended := applied.push later grows kept
      cases outcome with
      | ok _ => exact value _ answer _ rfl rfl ended
      | error err => exact failed _ answer _ err _ rfl rfl ended
  apply safe_bind
  apply safe_attempt
  apply safe_query
  intro t later _
  refine ⟨⟨trivial,fun marked => by cases marked⟩,?_⟩
  intro choice answer db served grows kept
  have applied := place.push later grows kept
  cases answer with
  | ok result | error err => exact record _ _ applied

theorem safe_attempt_at {op : Op} {post : Except String (Except String (Ans op)) → Shared Ans DB → Prop}
    (aside : op.aside = true) (place : At pid quiet tail p s)
    (value : ∀ t answer result, At pid quiet (tail ++ [⟨pid,op,answer⟩]) p t → post (.ok result) t) :
    (commandPool C).rule.Safe cmd pid (query op wrap).attempt post s := by
  apply safe_attempt
  apply safe_query
  intro t later _
  refine ⟨pre_of_aside aside,?_⟩
  intro choice answer db served grows kept
  have next := place.push later grows kept
  cases answer with
  | ok v | error err => exact value _ _ _ next

theorem safe_tripBoth {result : Outcome} {finished : Int} {post : Except String Unit → Shared Ans DB → Prop}
    (place : At pid quiet tail p s)
    (value : ∀ t reason now first second, At pid quiet (tail ++
      [⟨pid,.tripBreaker (breakerScopeComponent p.component) reason now,first⟩,
        ⟨pid,.tripBreaker (breakerScopeHost p.host) reason now,second⟩]) p t → post (.ok ()) t) :
    (commandPool C).rule.Safe cmd pid (tripBoth C p result finished) post s := by
  apply safe_bind
  refine safe_attempt_at rfl place ?_
  intro t first _ once
  apply safe_bind
  refine safe_attempt_at rfl once ?_
  intro u second _ twice
  rw [List.append_assoc] at twice
  exact value u _ _ first second twice

theorem safe_execute (idle : Idle pid s) :
    (commandPool C).rule.Safe (.execute planID started_ finished) pid
      (executeCommand C planID started_ finished)
      (fun _ t => Ended (.execute planID started_ finished) pid t) s := by
  apply safe_bind
  apply safe_wrapError
  refine safe_markExecuting rfl ?_ (fun t err ext _ => (idle.extends ext).ended _)
  intro t p lawful _ isID entered
  obtain ⟨quiet,n,hit,ownLog,none_⟩ := entered.own
  have place : At pid quiet [⟨pid,.startPlan p.id,.ok n⟩] p t :=
    ⟨ownLog,none_.trans idle,entered.known,lawful⟩
  apply safe_bind
  refine safe_applyAndRecord hit place ?_ ?_
  · intro u answer r ofPlan result ended
    have shape : Ended (.execute planID started_ finished) pid u := by
      refine ⟨quiet,_,ended.own,ended.none_,.recorded n p answer r hit ofPlan result ?_⟩
      rintro ⟨args,other⟩
      cases other
    cases answer with
    | ok applied => exact shape
    | error err => exact shape
  · intro u answer r err text ofPlan result ended
    exact ⟨quiet,_,ended.own,ended.none_,.unrecorded n p answer r err hit ofPlan result⟩

structure Gathered (C : Clock) (pid : Nat) (defaults : ConfigDefaults) (p : Plan) (now : Int)
    (s : Shared Ans DB) (facts : PolicyInput) : Prop where
  host : ∃ c : Nat, facts.priorActionsHostWindow = c ∧ ⟨pid,.countHostApprovals p.host
    (C.rfc3339 (now - defaults.hostWindow)),.ok c⟩ ∈ own pid s.log
  component : ∃ c : Nat, facts.priorActionsComponentWindow = c ∧ ⟨pid,.countComponentApprovals
    p.component (C.rfc3339 (now - defaults.componentWindow)),.ok c⟩ ∈ own pid s.log
  runs : ∃ c : Nat, facts.priorFailuresIncident = c ∧
    ⟨pid,.countPolicyRuns p.incidentID,.ok c⟩ ∈ own pid s.log

theorem safe_breakerState (value : ∀ t state, Extends pid s t → post (.ok state) t)
    (failed : ∀ t err, Extends pid s t → post (.error err) t) :
    (commandPool C).rule.Safe cmd pid (breakerState scope) post s := by
  apply safe_bind
  refine safe_read rfl ?_ (fun t err ext _ => failed t _ ext)
  intro t found ext _ _ _
  cases found with
  | none | some b => exact value t _ ext

theorem safe_lastActionAt (value : ∀ t last, Extends pid s t → post (.ok last) t)
    (failed : ∀ t err, Extends pid s t → post (.error err) t) :
    (commandPool C).rule.Safe cmd pid (lastActionAt C host component action) post s := by
  apply safe_bind
  refine safe_read rfl ?_ (fun t err ext _ => failed t _ ext)
  intro t found ext _ _ _
  cases found with
  | none => exact value t _ ext
  | some text =>
    dsimp only
    split
    · exact failed t _ ext
    · exact value t _ ext

theorem safe_healthCheck (value : ∀ t healthy, Extends pid s t → Lawful t → post (.ok healthy) t) :
    (commandPool C).rule.Safe cmd pid healthCheck post s := by
  intro t later _
  refine ⟨pre_of_aside rfl,?_⟩
  intro choice answer db served grows kept
  have ext : Extends pid s (t.push pid .integrityCheck answer db) :=
    (extends_later later).trans (extends_push rfl grows)
  cases answer with
  | ok text | error err => exact value _ _ ext kept

theorem safe_attempt_read {post : Except String (Except String (Ans op)) → Shared Ans DB → Prop}
    (aside : op.aside = true) (value : ∀ t result, Extends pid s t → post (.ok result) t) :
    (commandPool C).rule.Safe cmd pid (query op wrap).attempt post s := by
  apply safe_attempt
  exact safe_read aside (fun t v ext _ _ _ => value t _ ext) (fun t err ext _ => value t _ ext)

theorem safe_gather {environment : String} {now : Int}
    {post : Except String (PolicyInput × ComponentAutonomy) → Shared Ans DB → Prop}
    (value : ∀ t facts autonomy, Extends pid s t → Lawful t →
      Gathered C pid defaults p now t facts → post (.ok (facts,autonomy)) t)
    (failed : ∀ t err, Extends pid s t → post (.error err) t) :
    (commandPool C).rule.Safe cmd pid (gatherPolicyInput C defaults p environment now) post s := by
  apply safe_bind
  refine safe_read rfl ?_ (fun t err ext _ => failed t _ ext)
  intro a incident extA _ _ _
  cases incident with
  | none => exact failed a _ extA
  | some status =>
    -- what the repair tool answers does not matter for the counts
    apply safe_bind
    refine safe_attempt_read rfl ?_
    intro b wire moreB
    have extB := extA.trans moreB
    apply safe_bind
    refine safe_lastActionAt ?_ (fun t err more => failed t _ (extB.trans more))
    intro c last more
    have extC := extB.trans more
    apply safe_bind
    refine safe_read rfl ?_ (fun t err more _ => failed t _ (extC.trans more))
    intro d hostCount moreD _ readHost _
    have extD := extC.trans moreD
    apply safe_bind
    refine safe_read rfl ?_ (fun t err more _ => failed t _ (extD.trans more))
    intro e componentCount moreE _ readComponent _
    have extE := extD.trans moreE
    apply safe_bind
    refine safe_read rfl ?_ (fun t err more _ => failed t _ (extE.trans more))
    intro f priorRuns moreF _ readRuns _
    have extF := extE.trans moreF
    apply safe_bind
    refine safe_read rfl ?_ (fun t err more _ => failed t _ (extF.trans more))
    intro g rejections moreG _ _ _
    have extG := extF.trans moreG
    apply safe_bind
    refine safe_breakerState ?_ (fun t err more => failed t _ (extG.trans more))
    intro h globalBreaker moreH
    have extH := extG.trans moreH
    apply safe_bind
    refine safe_breakerState ?_ (fun t err more => failed t _ (extH.trans more))
    intro i componentBreaker moreI
    have extI := extH.trans moreI
    apply safe_bind
    refine safe_breakerState ?_ (fun t err more => failed t _ (extI.trans more))
    intro j hostBreaker moreJ
    have extJ := extI.trans moreJ
    apply safe_bind
    refine safe_healthCheck ?_
    intro k writable moreK lawful
    have sinceF := moreG.trans (moreH.trans (moreI.trans (moreJ.trans moreK)))
    have sinceE := moreF.trans sinceF
    exact value k _ _ (extJ.trans moreK) lawful
      ⟨⟨hostCount,rfl,(moreE.trans sinceE).mem readHost⟩,
        ⟨componentCount,rfl,sinceE.mem readComponent⟩,⟨priorRuns,rfl,sinceF.mem readRuns⟩⟩

theorem isPolicyActor_policyActor (policyID decisionID : String) :
    isPolicyActor (policyActor policyID decisionID) = true := by
  have front : (policyActor policyID decisionID).toList =
      "policy:".toList ++ (policyID ++ ":" ++ decisionID).toList := by
    simp [policyActor,String.toList_append]
  have seven : ((policyActor policyID decisionID).toList.take 7) = "policy:".toList := by
    rw [front]
    exact List.take_left' (by decide)
  rw [isPolicyActor,seven]
  decide

theorem safe_autoApprove (lawful : Lawful s) (isID : p.id = args.planID) (known : Known p s)
    (gathered : Gathered C pid args.defaults p args.now s facts)
    (allowed : (evaluatePolicy { defaultConfig with
      autonomyMode := mode, defaults := args.defaults } autonomy facts args.now).decision = .allowAuto)
    (value : ∀ t a, Extends pid s t → post (.ok a) t)
    (failed : ∀ t err, Extends pid s t → post (.error err) t) :
    (commandPool C).rule.Safe (.autoExecute args) pid (autoApprove C args p (evaluatePolicy
      { defaultConfig with autonomyMode := mode, defaults := args.defaults } autonomy facts
      args.now)) post s := by
  apply safe_wrapError
  refine safe_recordApprovalDecision (Or.inl ⟨rfl,rfl⟩) lawful ?_ (fun t a ext _ => value t a ext)
    (fun t err ext _ => failed t _ ext)
  intro t ext _ other same
  cases same
  have guards := evaluatePolicy_guards allowed
  obtain ⟨hostCount,isHost,readHost⟩ := gathered.host
  obtain ⟨componentCount,isComponent,readComponent⟩ := gathered.component
  obtain ⟨runs,isRuns,readRuns⟩ := gathered.runs
  have noRuns : runs = 0 := by
    have none_ := guards.firstAttempt
    omega
  subst noRuns
  exact ⟨rfl,p,hostCount,componentCount,isID,isID,rfl,isPolicyActor_policyActor _ _,
    known.extends ext,ext.mem readHost,isHost ▸ guards.hostBudget,ext.mem readComponent,
    isComponent ▸ guards.componentBudget,ext.mem readRuns⟩

theorem safe_autoExecute (idle : Idle pid s) :
    (commandPool C).rule.Safe (.autoExecute args) pid (autoExecuteCommand C args)
      (fun _ t => Ended (.autoExecute args) pid t) s := by
  have stopped : ∀ t, Extends pid s t → Ended (.autoExecute args) pid t :=
    fun t ext => (idle.extends ext).ended _
  apply safe_bind
  apply safe_wrapError
  refine safe_recover ?_ ?_ (fun t err ext _ => stopped t ext)
  · intro t r ext lawful result decided selected
    exact ⟨decided,Or.inr ⟨⟨args,rfl⟩,idle.extends ext,result,selected⟩⟩
  intro a _ extA _
  apply safe_bind
  refine safe_getPlan (fun t more _ => stopped t (extA.trans more)) ?_
    (fun t err more _ => stopped t (extA.trans more))
  intro b p moreB lawfulB isID known
  have extB := extA.trans moreB
  dsimp only
  split
  · exact stopped b extB
  apply safe_bind
  refine safe_read rfl ?_ (fun t err more _ => stopped t (extB.trans more))
  intro c mode moreC _ _ _
  have extC := extB.trans moreC
  apply safe_bind
  apply safe_wrapError
  refine safe_gather ?_ (fun t err more => stopped t (extC.trans more))
  intro d facts autonomy moreD _ gathered
  have extD := extC.trans moreD
  apply safe_bind
  apply safe_bind
  refine safe_read rfl ?_ (fun t err more _ => stopped t (extD.trans more))
  intro e _ moreE lawfulE _ _
  have extE := extD.trans moreE
  dsimp only [Rule.Safe]
  split
  · exact stopped e extE
  split
  · exact stopped e extE
  split
  · exact stopped e extE
  rename_i enabled _ notDenied
  have allowed := not_not.mp notDenied
  apply safe_bind
  have gatheredE : Gathered C pid args.defaults p args.now e facts := by
    obtain ⟨⟨h,isH,readH⟩,⟨k,isK,readK⟩,⟨r,isR,readR⟩⟩ := gathered
    exact ⟨⟨h,isH,moreE.mem readH⟩,⟨k,isK,moreE.mem readK⟩,⟨r,isR,moreE.mem readR⟩⟩
  refine safe_autoApprove lawfulE isID (known.extends (moreC.trans (moreD.trans moreE))) gatheredE
    allowed ?_ (fun t err more => stopped t (extE.trans more))
  intro f _ moreF
  have extF := extE.trans moreF
  apply safe_bind
  apply safe_wrapError
  refine safe_markExecuting (by rw [isID]; rfl) ?_ (fun t err more _ => stopped t (extF.trans more))
  intro t executing lawful _ idExecuting entered
  obtain ⟨quiet,n,hit,ownLog,none_⟩ := entered.own
  have place : At pid quiet [⟨pid,.startPlan executing.id,.ok n⟩] executing t :=
    ⟨ownLog,none_.trans (idle.extends extF),entered.known,lawful⟩
  apply safe_bind
  refine safe_applyAndRecord hit place ?_ ?_
  · intro u answer r ofPlan result ended
    dsimp only
    split
    · rename_i good
      exact ⟨quiet,_,ended.own,ended.none_,.recorded n executing answer r hit ofPlan result
        (fun _ => result.trans good)⟩
    apply safe_bind
    refine safe_tripBoth ended ?_
    intro v reason now first second both
    have shape : Ended (.autoExecute args) pid v := by
      refine ⟨quiet,_,both.own,both.none_,?_⟩
      rw [List.append_assoc]
      exact .tripped n executing answer r hit ofPlan result both.known reason now first second
    cases answer with
    | ok applied => exact shape
    | error err => exact shape
  · intro u answer r err text ofPlan result ended
    exact ⟨quiet,_,ended.own,ended.none_,.unrecorded n executing answer r err hit ofPlan result⟩

theorem safe_plainly {α : Type} {m : StoreProg α}
    (quiet : (commandPool C).rule.Safe cmd pid m (fun _ t => Idle pid t) s) :
    (commandPool C).rule.Safe cmd pid (plainly m) (fun _ t => Ended cmd pid t) s := by
  apply safe_bind
  refine quiet.mono _ ?_
  intro result t idle
  cases result with
  | ok value | error err => exact idle.ended cmd

theorem safe_decision (human : ∀ args, cmd ≠ .autoExecute args)
    (kind : decision = .approved ∧ next = .approved ∨ decision = .rejected ∧ next = .rejected)
    (lawful : Lawful s) (idle : Idle pid s) :
    (commandPool C).rule.Safe cmd pid (recordApprovalDecision C r decision next now)
      (fun _ t => Idle pid t) s := by
  refine safe_recordApprovalDecision kind lawful ?_ (fun t a ext _ => idle.extends ext)
    (fun t err ext _ => idle.extends ext)
  intro t _ _ args isAuto
  exact absurd isAuto (human args)

theorem safe_resetBreaker (idle : Idle pid s) :
    (commandPool C).rule.Safe cmd pid (resetBreakerCall C scope actor reason now)
      (fun _ t => Idle pid t) s := by
  unfold resetBreakerCall
  split
  · exact idle
  apply safe_bind
  refine safe_breakerState ?_ (fun t err ext => idle.extends ext)
  intro t state ext
  dsimp only
  split
  · exact idle.extends ext
  apply safe_bind
  refine safe_read rfl ?_ (fun u err more _ => idle.extends (ext.trans more))
  intro u hit more _ _ _
  dsimp only
  split
  · exact idle.extends (ext.trans more)
  · exact idle.extends (ext.trans more)

theorem safe_command (lawful : Lawful s) (idle : Idle pid s) :
    (commandPool C).rule.Safe cmd pid (commandProgram C cmd) (fun _ t => Ended cmd pid t) s := by
  cases cmd with
  | propose p =>
    apply safe_plainly
    refine safe_quiet (by intro id same; cases same) ?_ (fun t _ ext _ _ _ => idle.extends ext)
      (fun t _ ext _ => idle.extends ext)
    intro t _ _
    exact ⟨rfl,fun marked => by cases marked⟩
  | approve r now =>
    apply safe_plainly
    exact safe_decision (by intro args same; cases same) (Or.inl ⟨rfl,rfl⟩) lawful idle
  | reject r now =>
    apply safe_plainly
    exact safe_decision (by intro args same; cases same) (Or.inr ⟨rfl,rfl⟩) lawful idle
  | execute planID started_ finished => exact safe_execute idle
  | autoExecute args => exact safe_autoExecute idle
  | setMode mode actor =>
    apply safe_plainly
    unfold setAutonomyMode
    split
    · exact idle
    · exact safe_read rfl (fun t _ ext _ _ _ => idle.extends ext) (fun t _ ext _ => idle.extends ext)
  | kill scope reason now =>
    apply safe_plainly
    exact safe_read rfl (fun t _ ext _ _ _ => idle.extends ext) (fun t _ ext _ => idle.extends ext)
  | resetBreaker scope actor reason now =>
    apply safe_plainly
    exact safe_resetBreaker idle

end Pass

theorem commandPool_obeyed : (commandPool C).rule.Obeyed := by
  refine ⟨ended_stable C,?_⟩
  intro cmd pid s lawful fresh
  refine safe_command lawful ?_
  rw [Idle,fresh]
  rfl

theorem commands_hold (run : (commandPool C).machine.Reachable emptyDB labels w) :
    (commandPool C).rule.Holds w :=
  (commandPool C).rule.holds_run (commandPool_obeyed C) lawful_empty run

end Pilot.Remediation
