import Pilot.Decommission.Planner

/-!
`Finalize` of `internal/decommission/finalizer.go`, with the snapshot of the
files it may change (`workspace.go`) and the records it stores (`store.go`).
Up to the first change it only reads. The operations that may fail are given
by a pattern of faults; a write that fails leaves any text in the file. Files
are told apart by their path, and the lock file is left out.
-/
namespace Pilot.Decommission
open Roster Interrupt

structure RetiredHost where
  (host fqdn decommissionID reason retiredAt finalInventoryRevision : String)
  deriving DecidableEq, Repr

structure Approval where
  (id planID planHash decision createdAt : String)
  deriving DecidableEq, Repr

structure Store where
  plans : List Plan
  retired : List RetiredHost
  approvals : List Approval
  deriving DecidableEq, Repr

structure World (L : Type) where
  site : Site L
  store : Store

variable {L : Type}

def World.setFile (path : String) (content : Option String) (w : World L) : World L :=
  { w with site := { w.site with files := Function.update w.site.files path content } }

@[simp]
theorem files_setFile (path : String) (content : Option String) (w : World L) :
    (w.setFile path content).site.files = Function.update w.site.files path content := rfl

def upsert {α : Type} (key : α → String) (row : α) (rows : List α) : List α :=
  rows.filter (fun r => key r ≠ key row) ++ [row]

theorem mem_upsert {α : Type} (key : α → String) (row : α) (rows : List α) : row ∈ upsert key row rows :=
  List.mem_append_right _ List.mem_cons_self

structure Faults where
  lock : Option Err
  hostsRead : Option String
  snapshotRead : String → Option String
  hostVarsKept : Bool
  (hostsWrite inventoryWrite : Option (String × Option String))
  restore : String → Option String
  (savePlan saveRetiredHost : Option String)

structure FinalizeInput (L : Type) where
  plan : Option Plan
  planInput : PlanInput L
  verifications : List Verification
  (decommissionID reason : String)
  (startedAt now : Int)
  hasStore : Bool

inductive FinalizeStatus where
  | completed | blocked | alreadyCompleted
  deriving DecidableEq, Repr

structure FinalizeResult where
  status : FinalizeStatus
  blockers : List String
  receipt : Option Receipt
  plan : Plan
  deriving DecidableEq, Repr

def HostsFile.removeHost (hostName : String) (hf : HostsFile) : HostsFile :=
  { hf with hosts := hf.hosts.filter (fun h => h.name ≠ hostName) }

def blockerDetails (plan : Plan) : List String :=
  plan.blockers.map (fun b => s!"[{b.code.code}] {b.detail}") ++
    plan.components.flatMap (fun c =>
      c.blockers.map (fun b => s!"[{b.code.code}] component {c.role}: {b.detail}"))

def VerificationStatus.clean : VerificationStatus → Bool
  | pass | notApplicable | historicalOnly => true
  | _ => false

structure VerificationOutcome where
  passed : Bool
  (activeResidueCount unknownOwnershipCount : Nat)
  (otherBlocking results : List Verification)

def evaluateVerifications (results : List Verification) : VerificationOutcome :=
  let residue := results.countP (fun r => r.status == .activeResidue)
  let unknown := results.countP (fun r => r.status == .unknownOwnership)
  let other := results.filter (fun r =>
    !r.status.clean && r.status != .activeResidue && r.status != .unknownOwnership)
  ⟨residue == 0 && unknown == 0 && other.isEmpty,residue,unknown,other,results⟩

section
variable (S : Setup)

def VerificationOutcome.blockerDetails (o : VerificationOutcome) : List String :=
  (o.results.filter (fun r => !r.status.clean)).map fun r =>
    s!"{r.provider}/{r.kind} {S.quote r.identity}: {r.status.text} ({r.detail})"

/-- The refusal to store a host with a variable that looks like a secret. -/
def encodePlan (plan : Plan) : Except Err Plan :=
  match plan.host.extra.find? (fun e => S.looksSecretLike e.1) with
  | some (key,_) =>
    .error ⟨none,s!"decommission: refusing to persist a secret-shaped field: host Extra key {S.quote key}"⟩
  | none => .ok { plan with fqdn := planFQDN S plan }

def Store.savePlan (fault : Option String) (plan : Plan) (store : Store) : Except Err Unit × Store :=
  match encodePlan S plan with
  | .error err => (.error err,store)
  | .ok stored =>
    match fault with
    | some err => (.error ⟨none,err⟩,store)
    | none => (.ok (),{ store with plans := upsert Plan.id stored store.plans })

def Store.saveRetiredHost (fault : Option String) (row : RetiredHost) (store : Store) :
    Except Err Unit × Store :=
  match fault with
  | some err => (.error ⟨none,err⟩,store)
  | none => (.ok (),{ store with retired := upsert RetiredHost.host row store.retired })

/-- The most recent approval of exactly this plan and hash. -/
def Store.approvedForHash (planID planHash : String) (store : Store) : Bool :=
  let rows := (store.approvals.filter (fun a => a.planID == planID && a.planHash == planHash)).insertionSort
    (fun a b => b.createdAt < a.createdAt ∨ (a.createdAt = b.createdAt ∧ b.id ≤ a.id))
  rows.head?.any (fun a => a.decision == "approve")

def onStore {α : Type} (f : Store → Except Err α × Store) : Prog (World L) Err α :=
  Prog.act fun w => ((f w.store).1,{ w with store := (f w.store).2 })

def wrapped {ε α : Type} (message : ε → Err) (p : Prog (World L) ε α) : Prog (World L) Err α :=
  fun w => (p.visited w,(p.result w).mapError message)

/-- `os.WriteFile` empties the file before it writes. -/
def writeFile (fault : Option (String × Option String)) (path content : String) :
    Prog (World L) String Unit := fun w =>
  match fault with
  | some (err,left) => ([w.setFile path left],.error err)
  | none => ([w.setFile path (some ""),w.setFile path (some content)],.ok ())

structure FileEntry where
  rel : String
  content : Option String

def finalizeManagedRelPaths (hostName : String) : List String :=
  ["hosts.yml","inventory.yml",hostVarsRel S hostName]

def snapshotFile (F : Faults) (dir : String) (files : String → Option String) (rel : String) :
    Except Err FileEntry :=
  match F.snapshotRead rel with
  | some err => .error ⟨none,s!"snapshot {rel}: {err}"⟩
  | none => .ok ⟨rel,files (S.join dir rel)⟩

def snapshotWorkspaceFiles (F : Faults) (dir hostName : String) (files : String → Option String) :
    Except Err (List FileEntry) :=
  (finalizeManagedRelPaths S hostName).mapM (snapshotFile S F dir files)

def restoreFile (F : Faults) (dir : String) (e : FileEntry) : Prog (World L) String Unit :=
  match F.restore e.rel, e.content with
  | some err, none => Prog.fail s!"rollback: remove {e.rel}: {err}"
  | some err, some _ => Prog.fail s!"rollback: restore {e.rel}: {err}"
  | none, none => Prog.act fun w => (.ok (),w.setFile (S.join dir e.rel) none)
  | none, some content => writeFile none (S.join dir e.rel) content

def restoreWorkspaceFiles (F : Faults) (dir : String) : List FileEntry → Prog (World L) String Unit
  | [] => pure ()
  | e :: rest => do
    restoreFile S F dir e
    restoreWorkspaceFiles F dir rest

def hostVarsPath (dir hostName : String) : String := S.join dir (hostVarsRel S hostName)

def removeHostVarsFileIfPresent (F : Faults) (dir hostName : String) : Prog (World L) Err Bool := do
  let present ← Prog.read fun w => .ok (w.site.files (hostVarsPath S dir hostName)).isSome
  if !present || F.hostVarsKept then return false
  else Prog.act fun w => (.ok true,w.setFile (hostVarsPath S dir hostName) none)

def writeFinalizedWorkspace (F : Faults) (dir : String) (hf : HostsFile) :
    Prog (World L) String Unit :=
  if hasErrors (S.lint hf) then
    Prog.fail s!"post-removal hosts.yml failed lint: {S.issuesText (S.lint hf)}"
  else do
    let rendered ← Prog.read fun _ => (S.render hf).mapError (fun e => s!"render hosts.yml: {e}")
    writeFile (F.hostsWrite.map fun f => (s!"write hosts.yml: {f.1}",f.2)) (hostsPath S dir) rendered
    let generated ← Prog.read fun _ =>
      (S.generate hf).mapError (fun e => s!"regenerate inventory.yml: {e}")
    writeFile (F.inventoryWrite.map fun f => (s!"write inventory.yml: {f.1}",f.2))
      (S.join dir "inventory.yml") generated

structure Cleared where
  fresh : Plan
  hf : HostsFile
  snapshot : List FileEntry

def freshInput (input : FinalizeInput L) (plan : Plan) : PlanInput L :=
  { input.planInput with previousPlan := some plan }

def gates (F : Faults) (input : FinalizeInput L) (plan : Plan) (w : World L) :
    Except Err (FinalizeResult ⊕ Cleared) := do
  let dir := input.planInput.workspaceDir
  let derived ← checkFreshness S (freshInput input plan) plan.planHash w.site
  if derived.blocked then return .inl ⟨.blocked,blockerDetails derived,none,derived⟩
  let fresh := retainPlanFQDN S derived plan
  let outcome := evaluateVerifications input.verifications
  if !outcome.passed then return .inl ⟨.blocked,outcome.blockerDetails S,none,fresh⟩
  match F.hostsRead with
  | some err => throw (newError .workspaceMalformed s!"read {hostsPath S dir}: {err}")
  | none =>
    let hf ← loadHostsFile S w.site.files (hostsPath S dir)
    let snapshot ← snapshotWorkspaceFiles S F dir fresh.host.name w.site.files
    if !hf.hosts.any (fun h => h.name == fresh.host.name) then
      throw (newError .finalizationFailed
        s!"host {S.quote fresh.host.name} vanished from hosts.yml between freshness check and mutation")
    return .inr ⟨fresh,hf,snapshot⟩

def settleWorkspace (F : Faults) (input : FinalizeInput L) (c : Cleared) (hostVarsRemoved : Bool) :
    Except String Unit → Prog (World L) Err Bool
  | .ok () => pure hostVarsRemoved
  | .error mutateErr => do
    wrapped (fun restoreErr => ⟨none,s!"finalize failed ({mutateErr}) and rollback also failed: {restoreErr}"⟩)
      (restoreWorkspaceFiles S F input.planInput.workspaceDir c.snapshot)
    Prog.fail (newError .finalizationFailed ("workspace restored to its pre-finalize state; decommission " ++
      s!"{input.decommissionID} remains resumable at finalization (no already-completed control-plane cleanup was " ++
      s!"undone): {mutateErr}"))

def rewriteWorkspace (F : Faults) (input : FinalizeInput L) (c : Cleared) :
    Prog (World L) Err Bool := do
  let dir := input.planInput.workspaceDir
  let hostVarsRemoved ← removeHostVarsFileIfPresent S F dir c.fresh.host.name
  let mutated ← Prog.attempt
    (writeFinalizedWorkspace S F dir (c.hf.removeHost c.fresh.host.name))
  settleWorkspace S F input c hostVarsRemoved mutated

def finalRevision (c : Cleared) : String :=
  canonicalInventoryHash S (c.hf.removeHost c.fresh.host.name)

def completionReceipt (input : FinalizeInput L) (c : Cleared) (hostVarsRemoved : Bool) : Receipt :=
  { decommissionID := input.decommissionID
    host := c.fresh.host.name
    fqdn := planFQDN S c.fresh
    environment := c.fresh.environment
    reason := input.reason
    startedAt := S.formatTime input.startedAt
    completedAt := S.formatTime input.now
    planHash := c.fresh.planHash
    initialInventoryRevision := c.fresh.inventoryRevision
    finalInventoryRevision := finalRevision S c
    components := c.fresh.teardownOrder
    verified := true
    historicalRecordsRetained := true
    warnings :=
      if hostVarsRemoved then ["host_vars/<host>.yml removed as exclusively host-owned"] else [] }

def completedPlan (planID : String) (c : Cleared) (receipt : Receipt) : Plan :=
  { c.fresh with id := planID, status := .completed, receipt := some receipt }

def retiredRow (input : FinalizeInput L) (c : Cleared) (receipt : Receipt) : RetiredHost :=
  ⟨c.fresh.host.name,receipt.fqdn,input.decommissionID,input.reason,S.formatTime input.now,
    finalRevision S c⟩

def recordCompletion (F : Faults) (completed : Plan) (row : RetiredHost) :
    Prog (World L) Err Unit := do
  wrapped (fun (err : Err) => { err with message := s!"finalize: persist completed plan: {err.message}" })
    (onStore (Store.savePlan S F.savePlan completed))
  wrapped (fun (err : Err) => { err with message := s!"finalize: persist retired_hosts record: {err.message}" })
    (onStore (Store.saveRetiredHost F.saveRetiredHost row))

def commit (F : Faults) (input : FinalizeInput L) (planID : String) (c : Cleared) :
    Prog (World L) Err FinalizeResult := do
  let hostVarsRemoved ← rewriteWorkspace S F input c
  let receipt := completionReceipt S input c hostVarsRemoved
  let completed := completedPlan planID c receipt
  if input.hasStore then recordCompletion S F completed (retiredRow S input c receipt)
  return ⟨.completed,[],some receipt,completed⟩

def expired (now : Int) (plan : Plan) : Bool :=
  plan.expiresAt != "" && (S.parseTime plan.expiresAt).any (fun expires => expires < now)

def expiredError (plan : Plan) : Err :=
  newError .planExpired s!"plan {plan.id} expired at {plan.expiresAt} — re-plan required"

/-- A completed plan is replayed before anything is derived again. -/
def Plan.replay (plan : Plan) : Option FinalizeResult :=
  match plan.status, plan.receipt with
  | .completed, some receipt => some ⟨.alreadyCompleted,[],some receipt,plan⟩
  | _, _ => none

/-- Everything before the first change: a result that needs none, or the plan
    that goes on. -/
def admission (F : Faults) (input : FinalizeInput L) (w : World L) :
    Except Err (FinalizeResult ⊕ (Plan × Cleared)) :=
  match input.plan with
  | none => .error (newError .hostNotFound "finalize: no plan supplied")
  | some plan =>
    match plan.replay with
    | some result => .ok (.inl result)
    | none =>
      if expired S input.now plan then .error (expiredError plan)
      else
        match F.lock with
        | some err => .error err
        | none => do
          match ← gates S F input plan w with
          | .inl result => return .inl result
          | .inr cleared => return .inr (plan,cleared)

def finalize (F : Faults) (input : FinalizeInput L) : Prog (World L) Err FinalizeResult := do
  match ← Prog.read (admission S F input) with
  | .inl result => return result
  | .inr (plan,cleared) => commit S F input plan.id cleared

end

end Pilot.Decommission
