import Pilot.Decommission.Finalize

/-!
What `Apply` of `internal/decommission/execute.go` asks for and runs: the
approval of a plan's hash, and the steps of every component in the order of
the teardown, run by the executor of `executor.go`. Each call makes new steps
that are all pending. The steps that ran are returned where the source drops
them.
-/
namespace Pilot.Decommission
open Roster Interrupt

inductive StepState where
  | pending | running | completed | skippedAttested | failedRetryable | failedTerminal
  deriving DecidableEq, Repr

structure ExecStep (L : Type) where
  (id provider action : String)
  state : StepState
  attempts : Nat
  err : String
  exec : StepExecutor L

variable {L : Type}

def newExecStep (id provider action : String) (exec : StepExecutor L) : ExecStep L :=
  ⟨id,provider,action,.pending,0,"",exec⟩

def ExecStep.label (s : ExecStep L) : String := s!"{s.id} ({s.provider}/{s.action})"

/-- One turn of the loop of `Executor.Run`: the step after it, and the error
    that ends the loop. -/
def ExecStep.run (s : ExecStep L) : Prog (Site L) Err (ExecStep L × Option Err) :=
  match s.state with
  | .completed | .skippedAttested => pure (s,none)
  | .failedTerminal =>
    pure (s,some ⟨none,s!"decommission: step {s.label} previously failed terminally and cannot be retried"⟩)
  | .pending | .running | .failedRetryable => do
    match ← Prog.read (fun site => .ok (s.exec.inspect site)) with
    | .error err =>
      return ({ s with attempts := s.attempts + 1, state := .failedRetryable, err := err },
        some ⟨none,s!"decommission: inspect step {s.label}: {err}"⟩)
    | .ok true => return ({ s with state := .completed, err := "" },none)
    | .ok false =>
      match ← Prog.attempt s.exec.execute with
      | .error err =>
        return ({ s with attempts := s.attempts + 1, state := .failedRetryable, err := err },
          some ⟨none,s!"decommission: execute step {s.label}: {err}"⟩)
      | .ok () =>
        return ({ s with attempts := s.attempts + 1, state := .completed, err := "" },none)

/-- `Executor.Run`: all steps after it, and the error. -/
def runSteps : List (ExecStep L) → Prog (Site L) Err (List (ExecStep L) × Option Err)
  | [] => pure ([],none)
  | s :: rest => do
    let ran ← s.run
    match ran.2 with
    | some err => return (ran.1 :: rest,some err)
    | none =>
      let others ← runSteps rest
      return (ran.1 :: others.1,others.2)

def componentByID (plan : Plan) (id : String) : Option ComponentPlan :=
  if id = "" then none else plan.components.reverse.find? (fun c => c.componentID == id)

def executionOrder (plan : Plan) : List String :=
  if plan.teardownOrder = [] then
    (plan.components.map ComponentPlan.componentID).filter (fun id => id ≠ "")
  else plan.teardownOrder

/-- The local cleanup of a lost host is attested and never attempted. -/
def ComponentPlan.attempts (c : ComponentPlan) (step : Step) : Bool :=
  !(step.phase == .localCleanup && c.localCleanupStatus == .unavailableAttested)

def ComponentPlan.attempted (c : ComponentPlan) : List (Step × Nat) :=
  c.steps.zipIdx.filter (fun s => c.attempts s.1)

section
variable (S : Setup)

def execStep (id : String) (runner : Step → Except String (StepExecutor L)) (s : Step × Nat) :
    Except Err (ExecStep L) :=
  match runner s.1 with
  | .error err =>
    .error (newError .cleanupFailedTerminal
      s!"component {id}: build step executor for {s.1.action}: {err}")
  | .ok exec => .ok (newExecStep s!"{id}:{s.2}:{s.1.action}" s.1.provider s.1.action exec)

def execSteps (providers : Registry L) (id : String) (c : ComponentPlan) :
    Except Err (List (ExecStep L)) :=
  match providers id with
  | none =>
    .error (newError .cleanupFailedTerminal
      s!"component {id} has planned steps but no provider is registered to execute them")
  | some provider =>
    match provider.executorForStep with
    | none =>
      .error (newError .cleanupFailedTerminal
        (s!"component {id} provider {S.quote provider.id} does not implement StepRunner — cannot execute its " ++
          "planned steps"))
    | some runner => c.attempted.mapM (execStep id runner)

def executeComponent (providers : Registry L) (plan : Plan) (id : String) :
    Prog (Site L) Err (List (ExecStep L)) :=
  match componentByID plan id with
  | none => pure []
  | some c =>
    if c.steps = [] then pure []
    else do
      let steps ← Prog.read (fun _ => execSteps S providers id c)
      let ran ← runSteps steps
      match ran.2 with
      | some err => Prog.fail err
      | none => return ran.1

def executeAll (providers : Registry L) (plan : Plan) :
    List String → Prog (Site L) Err (List (ExecStep L))
  | [] => pure []
  | id :: rest => do
    let here ← executeComponent S providers plan id
    let others ← executeAll providers plan rest
    return here ++ others

def executeComponents (providers : Registry L) (plan : Plan) :
    Prog (Site L) Err (List (ExecStep L)) :=
  executeAll S providers plan (executionOrder plan)

end

def shortHash (h : String) : String := String.ofList (h.toList.take 12)

def requireApproval (S : Setup) (planID planHash environment : String) (store : Store) :
    Except Err Unit :=
  if store.approvedForHash planID planHash then .ok ()
  else
    .error (newError .approvalRequired
      (s!"host decommission requires explicit human approval for plan {planID} " ++
        s!"(environment={S.quote environment}) bound to plan_hash {shortHash planHash} — none found; there is no " ++
        "autonomous exception in any environment (INV-4)"))

end Pilot.Decommission
