import Mathlib.Data.List.Sort
import Pilot.Library.Table

/-!
Incidents and agent runs of `internal/agentcontroller/incident.go`. Every
operation is one SQLite transaction over the two tables: an error rolls back.
The two partial unique indexes are checked when a transaction is about to
commit. Drawn uuids and the clock are arguments, times are RFC3339 texts.
-/
namespace Pilot.Incidents
open Pilot.Table

inductive IncidentStatus where
  | opened | queued | investigating | diagnosed
  | resolvedExternal | agentFailed | suppressed | closed
  deriving DecidableEq, Repr

def IncidentStatus.isTerminal : IncidentStatus → Bool
  | resolvedExternal | closed => true
  | opened | queued | investigating | diagnosed | agentFailed | suppressed => false

/-- The statuses the `NOT IN (?, ?, ?)` clauses of a run's outcome leave alone. -/
def IncidentStatus.settled : IncidentStatus → Bool
  | resolvedExternal | closed | suppressed => true
  | opened | queued | investigating | diagnosed | agentFailed => false

inductive RunState where
  | queued | investigating | diagnosed | agentFailed
  deriving DecidableEq, Repr

def RunState.active : RunState → Bool
  | queued | investigating => true
  | diagnosed | agentFailed => false

inductive AlertStatus where
  | firing | resolved
  deriving DecidableEq, Repr

structure IncidentSubject where
  (id kind : String)
  managed : Bool
  deriving DecidableEq, Repr

structure IncidentEvent where
  (source groupKey episode : String)
  status : AlertStatus
  (alertName severity host site component : String)
  subject : IncidentSubject
  alertBodySHA256 : String
  deriving DecidableEq, Repr

structure Incident where
  (id source sourceIdentity groupKey : String)
  status : IncidentStatus
  (severity host site component : String)
  subject : IncidentSubject
  (alertName openedAt updatedAt : String)
  resolvedAt : Option String
  currentRevision : Int
  (lastBodySHA256 nextDispatchAt : String)
  dispatchAttempts : Int
  deriving DecidableEq, Repr

structure AgentRun where
  (id incidentID : String)
  state : RunState
  (startedAt finishedAt : Option String)
  inputSHA256 : String
  (outputJSON errorClass errorText : Option String)
  createdAt : String
  deriving DecidableEq, Repr

structure DB where
  incidents : List Incident
  runs : List AgentRun
  deriving DecidableEq, Repr

structure IngestOutcome where
  incidentID : String
  (created changed needsDispatch : Bool)
  deriving DecidableEq, Repr

def Incident.identity (i : Incident) : String × String := (i.source,i.sourceIdentity)

/-- `ux_incidents_active_identity` and both primary keys of the inserted rows. -/
def DB.consistent (db : DB) : Bool :=
  decide ((db.incidents.map Incident.id).Nodup) &&
  decide (((db.incidents.filter (fun i => !i.status.isTerminal)).map Incident.identity).Nodup) &&
  decide ((db.runs.map AgentRun.id).Nodup) &&
  decide (((db.runs.filter (fun r => r.state.active)).map AgentRun.incidentID).Nodup)

def commit {α : Type} (what : String) (value : α) (db : DB) : Except String (α × DB) :=
  if db.consistent then .ok (value,db) else .error (what ++ ": UNIQUE constraint failed")

def newIncident (id : String) (ev : IncidentEvent) (status : IncidentStatus)
    (resolvedAt : Option String) (now : String) : Incident where
  id := id
  source := ev.source
  sourceIdentity := ev.episode
  groupKey := ev.groupKey
  status := status
  severity := ev.severity
  host := ev.host
  site := ev.site
  component := ev.component
  subject := ev.subject
  alertName := ev.alertName
  openedAt := now
  updatedAt := now
  resolvedAt := resolvedAt
  currentRevision := 1
  lastBodySHA256 := ev.alertBodySHA256
  nextDispatchAt := ""
  dispatchAttempts := 0

def createIncident (db : DB) (ev : IncidentEvent) (uuid now : String) :
    Except String (IngestOutcome × DB) :=
  let status := if ev.status = .resolved then .resolvedExternal else .opened
  let resolvedAt := if ev.status = .resolved then some now else none
  commit "insert incident" ⟨uuid,true,true,decide (status = .opened)⟩
    { db with incidents := db.incidents ++ [newIncident uuid ev status resolvedAt now] }

def recordOrphanResolve (db : DB) (ev : IncidentEvent) (uuid now : String) :
    Except String (IngestOutcome × DB) :=
  commit "insert orphan-resolved incident" ⟨uuid,true,true,false⟩
    { db with
      incidents := db.incidents ++ [newIncident uuid ev .resolvedExternal (some now) now] }

/-- The status a changed event leaves an incident in. -/
def nextStatus (current : IncidentStatus) (ev : IncidentEvent) : IncidentStatus :=
  if ev.status = .resolved then .resolvedExternal
  else if current = .suppressed then current
  else if current = .diagnosed ∨ current = .agentFailed then .opened
  else current

def reopens (current : IncidentStatus) (ev : IncidentEvent) : Bool :=
  decide (ev.status ≠ .resolved) && decide (current ≠ .suppressed) &&
    decide (current = .diagnosed ∨ current = .agentFailed)

def revisedRow (ev : IncidentEvent) (now : String) (i : Incident) : Incident :=
  { i with
    status := nextStatus i.status ev, severity := ev.severity, updatedAt := now,
    resolvedAt := if ev.status = .resolved then some now else none,
    currentRevision := i.currentRevision + 1, lastBodySHA256 := ev.alertBodySHA256,
    nextDispatchAt := if reopens i.status ev then "" else i.nextDispatchAt,
    dispatchAttempts := if reopens i.status ev then 0 else i.dispatchAttempts }

def ofID (id : String) (i : Incident) : Bool := i.id == id

def updateIncident (db : DB) (existing : Incident) (ev : IncidentEvent) (now : String) :
    Except String (IngestOutcome × DB) :=
  if ev.status ≠ .resolved ∧ ev.alertBodySHA256 = existing.lastBodySHA256 then
    commit "touch incident on replay" ⟨existing.id,false,false,false⟩
      { db with
        incidents := updateWhere (ofID existing.id) (fun i => { i with updatedAt := now })
          db.incidents }
  else
    commit "update incident" ⟨existing.id,false,true,reopens existing.status ev⟩
      { db with incidents := updateWhere (ofID existing.id) (revisedRow ev now) db.incidents }

def ingestEvent (db : DB) (ev : IncidentEvent) (uuid now : String) :
    Except String (IngestOutcome × DB) :=
  match db.incidents.find? (fun i => decide (i.identity = (ev.source,ev.episode)) &&
      !i.status.isTerminal) with
  | none =>
    if ev.status = .resolved then recordOrphanResolve db ev uuid now
    else createIncident db ev uuid now
  | some existing => updateIncident db existing ev now

def dispatchable (db : DB) (now : String) (i : Incident) : Bool :=
  i.status == .opened && (i.nextDispatchAt == "" || decide (i.nextDispatchAt ≤ now)) &&
    !db.runs.any (fun r => r.incidentID == i.id && r.state.active)

def listIncidentsNeedingDispatch (db : DB) (now : String) (limit : Nat) : List Incident :=
  ((db.incidents.filter (dispatchable db now)).insertionSort
    (fun i j => i.updatedAt ≤ j.updatedAt)).take limit

def queuedRun (runID incidentID inputSHA256 now : String) : AgentRun :=
  ⟨runID,incidentID,.queued,none,none,inputSHA256,none,none,none,now⟩

def queuedRow (now : String) (i : Incident) : Incident :=
  { i with
    status := .queued, updatedAt := now, nextDispatchAt := "",
    dispatchAttempts := i.dispatchAttempts + 1 }

def enqueueRun (db : DB) (incidentID inputSHA256 runID now : String) :
    Except String (String × DB) :=
  if !db.incidents.any (ofID incidentID) then
    .error "insert agent_run: FOREIGN KEY constraint failed"
  else
    commit "insert agent_run" runID
      ⟨updateWhere (ofID incidentID) (queuedRow now) db.incidents,
        db.runs ++ [queuedRun runID incidentID inputSHA256 now]⟩

def ofRun (runID : String) (r : AgentRun) : Bool := r.id == runID

/-- The guarded update every outcome of a run makes to its incident. -/
def setUnsettled (incidentID : String) (f : Incident → Incident) (incidents : List Incident) :
    List Incident :=
  updateWhere (fun i => ofID incidentID i && !i.status.settled) f incidents

def startRun (db : DB) (runID incidentID now : String) : Except String (Unit × DB) :=
  commit "mark run investigating" ()
    ⟨setUnsettled incidentID (fun i => { i with status := .investigating, updatedAt := now })
        db.incidents,
      updateWhere (ofRun runID)
        (fun r => { r with state := .investigating, startedAt := some now }) db.runs⟩

def completeRunDiagnosed (db : DB) (runID incidentID output now : String) :
    Except String (Unit × DB) :=
  commit "mark run diagnosed" ()
    ⟨setUnsettled incidentID (fun i => { i with status := .diagnosed, updatedAt := now })
        db.incidents,
      updateWhere (ofRun runID)
        (fun r => { r with
          state := .diagnosed, finishedAt := some now, outputJSON := some output }) db.runs⟩

structure RunFailure where
  (runID incidentID errorClass errorText : String)
  (dispatchAttempts maxAttempts : Int)
  retryAt : String
  deriving DecidableEq, Repr

def failRunAndMaybeRetry (db : DB) (f : RunFailure) (now : String) : Except String (Bool × DB) :=
  let retried := decide (f.dispatchAttempts < f.maxAttempts)
  commit "mark run failed" retried
    ⟨setUnsettled f.incidentID (fun i => { i with
        status := if retried then .opened else .agentFailed, updatedAt := now,
        nextDispatchAt := if retried then f.retryAt else "" }) db.incidents,
      updateWhere (ofRun f.runID) (fun r => { r with
        state := .agentFailed, finishedAt := some now, errorClass := some f.errorClass,
        errorText := some f.errorText }) db.runs⟩

def recoverRun (now : String) (db : DB) (r : AgentRun) : DB :=
  ⟨setUnsettled r.incidentID
      (fun i => { i with status := .opened, updatedAt := now, nextDispatchAt := "" }) db.incidents,
    updateWhere (ofRun r.id) (fun r => { r with
      state := .agentFailed, finishedAt := some now, errorClass := some "controller_restart",
      errorText := some "in-flight at controller shutdown" }) db.runs⟩

def recoverInFlightRuns (db : DB) (now : String) : Except String (Nat × DB) :=
  let inFlight := db.runs.filter (fun r => r.state.active)
  commit "recover run" inFlight.length (inFlight.foldl (recoverRun now) db)

end Pilot.Incidents
