import Mathlib.Data.List.Dedup
import Pilot.Library.Go

/-!
The evidence of deliveries, after `internal/store/delivery_evidence.go` and
`retention.go`. A writer appends to the events and the evidence of its run, one
transaction a call. An archive lists the finished runs and reads their events
and their evidence one after the other before it writes its file, and a prune
verifies the file before it deletes; anything may happen in between, also to the
files. `encoding/json`, SHA-256 and the contents of files are parameters.
-/
namespace Pilot.Delivery
open Function Utf8

export Go (Bytes)

/-- A text of the database, which need not be UTF-8. -/
abbrev Text := Bytes

def text (s : String) : Text := Go.bytesOf s

def eventRunStarted : Text := text "run_started"
def eventRunFinished : Text := text "run_finished"
def maxEvidenceBytes : Nat := 64 * 1024

inductive Err where
  | runFinished
  | evidenceConflict
  | noRunStarted
  | required
  | marshal
  | useStartRunOrFinish
  | attempt
  | outsideScope (host : Text)
  | outcomeRequired
  deriving DecidableEq

structure EventRow (Run : Type) where
  run : Run
  seq : Nat
  (operationID type step payload : Text)
  exitCode : Option Int
  createdAt : Text
  deriving DecidableEq

structure EvidenceRow (Run : Type) where
  run : Run
  (specPath rowID host : Text)
  attempt : Int
  (operationID contentHash command expected stdout stderr : Text)
  exitCode : Int
  (probeStatus verdict : Text)
  (redacted stdoutTruncated stderrTruncated : Bool)
  (startedAt finishedAt : Text)
  deriving DecidableEq

structure Tables (Run : Type) where
  events : List (EventRow Run)
  evidence : List (EvidenceRow Run)

/-- The rows of an archive; those of the evidence are grouped by run. -/
structure ArchiveDocument (Run : Type) where
  runs : List Run
  events : List (EventRow Run)
  evidence : List (Run × List (EvidenceRow Run))
  deriving DecidableEq

section
variable {Run : Type}

/-- A string in JSON is valid UTF-8. -/
def EventRow.coerced (e : EventRow Run) : EventRow Run :=
  { e with operationID := toValid e.operationID, type := toValid e.type, step := toValid e.step,
           payload := toValid e.payload, createdAt := toValid e.createdAt }

def EvidenceRow.coerced (e : EvidenceRow Run) : EvidenceRow Run :=
  { e with specPath := toValid e.specPath, rowID := toValid e.rowID, host := toValid e.host,
           operationID := toValid e.operationID, contentHash := toValid e.contentHash,
           command := toValid e.command, expected := toValid e.expected, stdout := toValid e.stdout,
           stderr := toValid e.stderr, probeStatus := toValid e.probeStatus, verdict := toValid e.verdict,
           startedAt := toValid e.startedAt, finishedAt := toValid e.finishedAt }

def ArchiveDocument.coerced (doc : ArchiveDocument Run) : ArchiveDocument Run :=
  { doc with events := doc.events.map EventRow.coerced,
             evidence := doc.evidence.map fun group => (group.1,group.2.map EvidenceRow.coerced) }

end

/-- `encoding/json` and SHA-256. -/
structure Platform (Run File Digest : Type) where
  marshal : ArchiveDocument Run → File
  unmarshal : File → Option (ArchiveDocument Run)
  unmarshal_marshal : ∀ doc, unmarshal (marshal doc) = some doc.coerced
  marshalOutcome : Text → Text
  evidenceDigest : Bytes → Text
  sha256 : File → Digest

structure RunStarted (Run : Type) where
  runID : Run
  operationID : Text
  payload : Option Text
  hosts : List Text
  startedAt : Text

structure Event where
  (operationID type step : Text)
  payload : Option Text
  exitCode : Option Int
  createdAt : Text

structure RunFinished where
  (operationID outcome : Text)
  exitCode : Int
  finishedAt : Text

structure VerifyEvidence where
  (specPath rowID host : Text)
  attempt : Int
  (operationID command expected stdout stderr : Text)
  exitCode : Int
  (probeStatus verdict : Text)
  redacted : Bool
  (startedAt finishedAt : Text)

structure RunWriter (Run : Type) where
  runID : Run
  hosts : List Text
  closed : Bool

section
variable {Run File Digest : Type} [DecidableEq Run] (P : Platform Run File Digest)

def Tables.stream (db : Tables Run) (run : Run) : List (EventRow Run) :=
  db.events.filter (fun e => e.run = run)

def Tables.finished (db : Tables Run) (run : Run) : Prop :=
  ∃ e ∈ db.stream run, e.type = eventRunFinished

instance (db : Tables Run) (run : Run) : Decidable (db.finished run) :=
  inferInstanceAs (Decidable (∃ e ∈ db.stream run, e.type = eventRunFinished))

def maxSeq (stream : List (EventRow Run)) : Nat := (stream.map EventRow.seq).foldl max 0

def insertEvent (db : Tables Run) (run : Run) (event : Event) (payload : Text) (starting : Bool) :
    Except Err (Tables Run) :=
  match (db.stream run).find? (fun e => e.operationID = event.operationID) with
  | some existing =>
    if existing.type = event.type ∧ existing.payload = payload ∧ existing.exitCode = event.exitCode then .ok db
    else .error .evidenceConflict
  | none =>
    if db.finished run then .error .runFinished
    else if starting ∧ db.stream run ≠ [] then .error .evidenceConflict
    else if ¬ starting ∧ db.stream run = [] then .error .noRunStarted
    else
      let seq := if starting then 1 else maxSeq (db.stream run) + 1
      .ok { db with events := db.events ++
        [⟨run,seq,event.operationID,event.type,event.step,payload,event.exitCode,event.createdAt⟩] }

def appendEvent (db : Tables Run) (w : RunWriter Run) (event : Event) (starting : Bool) :
    Except Err (Tables Run) :=
  if event.operationID = [] ∨ event.type = [] then .error .required
  else
    match event.payload with
    | none => .error .marshal
    | some payload =>
      if w.closed ∧ ¬ starting then .error .runFinished
      else insertEvent db w.runID event payload starting

def AppendEvent (db : Tables Run) (w : RunWriter Run) (event : Event) : Except Err (Tables Run) :=
  if event.type = eventRunStarted ∨ event.type = eventRunFinished then .error .useStartRunOrFinish
  else appendEvent db w event false

def orDefault (operationID default : Text) : Text := if operationID = [] then default else operationID

def uniqueSorted (names : List Text) : List Text :=
  (names.filter (fun v => v ≠ [])).dedup.insertionSort (· ≤ ·)

def StartRun (db : Tables Run) (start : RunStarted Run) : Except Err (Tables Run × RunWriter Run) :=
  let w : RunWriter Run := ⟨start.runID,uniqueSorted start.hosts,false⟩
  let event : Event := ⟨orDefault start.operationID (text "run_started"),eventRunStarted,[],start.payload,
    none,start.startedAt⟩
  (appendEvent db w event true).map fun db => (db,w)

/-- A call that comes between the event and the flag of the writer finds the event. -/
def Finish (db : Tables Run) (w : RunWriter Run) (finish : RunFinished) :
    Except Err (Tables Run × RunWriter Run) :=
  if finish.outcome = [] then .error .outcomeRequired
  else
    let event : Event := ⟨orDefault finish.operationID (text "run_finished"),eventRunFinished,[],
      some (P.marshalOutcome finish.outcome),some finish.exitCode,finish.finishedAt⟩
    (appendEvent db w event false).map fun db => (db,{ w with closed := true })

def truncateEvidence (value : Text) : Text × Bool :=
  if value.length ≤ maxEvidenceBytes then (value,false) else (value.take maxEvidenceBytes,true)

def evidenceHash (row : VerifyEvidence) (stdout stderr : Text) : Text :=
  P.evidenceDigest ([row.specPath,row.rowID,row.host,text (toString row.attempt),row.command,row.expected,stdout,
    stderr,text (toString row.exitCode),row.probeStatus,row.verdict,text (toString row.redacted)].flatMap
      fun value => value ++ [0])

def evidenceRow (run : Run) (row : VerifyEvidence) : EvidenceRow Run :=
  let stdout := truncateEvidence row.stdout
  let stderr := truncateEvidence row.stderr
  ⟨run,row.specPath,row.rowID,row.host,row.attempt,row.operationID,evidenceHash P row stdout.1 stderr.1,
    row.command,row.expected,stdout.1,stderr.1,row.exitCode,row.probeStatus,row.verdict,row.redacted,
    stdout.2,stderr.2,row.startedAt,orDefault row.finishedAt row.startedAt⟩

def Tables.repeated (db : Tables Run) (row : EvidenceRow Run) : Option (EvidenceRow Run) :=
  let own := db.evidence.filter (fun e => e.run = row.run)
  (own.find? fun e => e.operationID = row.operationID).or
    (own.find? fun e => e.specPath = row.specPath ∧ e.rowID = row.rowID ∧ e.host = row.host ∧
      e.attempt = row.attempt)

def appendEvidence (db : Tables Run) (w : RunWriter Run) (row : VerifyEvidence) : Except Err (Tables Run) :=
  if row.specPath = [] ∨ row.rowID = [] ∨ row.host = [] ∨ row.operationID = [] ∨ row.command = [] ∨
      row.probeStatus = [] ∨ row.verdict = [] then .error .required
  else if row.attempt < 1 then .error .attempt
  else if row.host ≠ text "controller" ∧ w.hosts ≠ [] ∧ row.host ∉ w.hosts then .error (.outsideScope row.host)
  else if w.closed then .error .runFinished
  else
    let new := evidenceRow P w.runID row
    match db.repeated new with
    | some existing => if existing.contentHash = new.contentHash then .ok db else .error .evidenceConflict
    | none =>
      if db.stream w.runID = [] then .error .noRunStarted
      else if db.finished w.runID then .error .runFinished
      else .ok { db with evidence := db.evidence ++ [new] }

/-- The runs of the view that are finished before a time, as texts compare. -/
def finishedRunsBefore (db : Tables Run) (before : Text) : List Run :=
  (db.events.filter (fun s => s.type = eventRunStarted)).filterMap fun s =>
    match (db.stream s.run).find? (fun f => f.type = eventRunFinished) with
    | some f => if f.createdAt < before then some s.run else none
    | none => none

def Tables.eventsOf (db : Tables Run) (runs : List Run) : List (EventRow Run) :=
  db.events.filter (fun e => e.run ∈ runs)

def Tables.evidenceOf (db : Tables Run) (runs : List Run) : List (EvidenceRow Run) :=
  db.evidence.filter (fun e => e.run ∈ runs)

def byRun (runs : List Run) (rows : List (EvidenceRow Run)) : List (Run × List (EvidenceRow Run)) :=
  runs.map fun id => (id,rows.filter (fun e => e.run = id))

def Tables.without (db : Tables Run) (runs : List Run) : Tables Run :=
  ⟨db.events.filter (fun e => e.run ∉ runs),db.evidence.filter (fun e => e.run ∉ runs)⟩

end

inductive ArchivePhase (Run File : Type) where
  | listed
  | readEvents (events : List (EventRow Run))
  | read (document : ArchiveDocument Run)
  | written (contents : File)

structure Archiving (Run File Path : Type) where
  path : Path
  runs : List Run
  phase : ArchivePhase Run File

structure EvidenceArchive (Run Digest Path : Type) where
  path : Path
  sha256 : Digest
  runIDs : List Run

/-- The database, the files, and the calls under way. The runs that were deleted
    are kept for the record. -/
structure Store (Run File Digest Writer Archive Path : Type) where
  db : Tables Run
  files : Path → Option File
  writers : Writer → Option (RunWriter Run)
  archiving : Archive → Option (Archiving Run File Path)
  completed : Archive → Option (EvidenceArchive Run Digest Path)
  pruneRequested : Archive → Bool
  pruning : Archive → Option (EvidenceArchive Run Digest Path × File)
  pruned : List Run

inductive Op (Run File Writer Archive Path : Type) where
  | startRun (w : Writer) (start : RunStarted Run)
  | appendEvent (w : Writer) (event : Event)
  | appendEvidence (w : Writer) (row : VerifyEvidence)
  | finish (w : Writer) (finish : RunFinished)
  | archive (id : Archive) (before : Text) (path : Path)
  | readEvents (id : Archive)
  | readEvidence (id : Archive)
  | writeArchive (id : Archive)
  | completeArchive (id : Archive)
  | verifyPrune (id : Archive)
  | commitPrune (id : Archive)
  /-- Someone else writes or removes a file. -/
  | disturb (path : Path) (contents : Option File)

section
variable {Run File Digest Writer Archive Path : Type} [DecidableEq Run] [DecidableEq Digest]
  [DecidableEq Writer] [DecidableEq Archive] [DecidableEq Path] (P : Platform Run File Digest)

def Store.empty : Store Run File Digest Writer Archive Path :=
  ⟨⟨[],[]⟩,fun _ => none,fun _ => none,fun _ => none,fun _ => none,fun _ => false,fun _ => none,[]⟩

def Store.answer (s : Store Run File Digest Writer Archive Path) (w : Writer)
    (result : Except Err (Tables Run × RunWriter Run)) : Store Run File Digest Writer Archive Path :=
  match result with
  | .ok (db,writer) => { s with db := db, writers := update s.writers w (some writer) }
  | .error _ => s

def Store.advance (s : Store Run File Digest Writer Archive Path) (id : Archive) (a : Archiving Run File Path) :
    Store Run File Digest Writer Archive Path :=
  { s with archiving := update s.archiving id (some a) }

/-- A transaction of a writer, or a step of an archive or a prune. An archive id
    is made anew, so one that is in use is not taken again. -/
def Store.act (s : Store Run File Digest Writer Archive Path) : Op Run File Writer Archive Path →
    Store Run File Digest Writer Archive Path
  | .startRun w start => s.answer w (StartRun s.db start)
  | .appendEvent w event =>
    match s.writers w with
    | none => s
    | some writer => s.answer w ((AppendEvent s.db writer event).map fun db => (db,writer))
  | .appendEvidence w row =>
    match s.writers w with
    | none => s
    | some writer => s.answer w ((appendEvidence P s.db writer row).map fun db => (db,writer))
  | .finish w finish =>
    match s.writers w with
    | none => s
    | some writer => s.answer w (Finish P s.db writer finish)
  | .archive id before path =>
    if (s.archiving id).isSome ∨ (s.completed id).isSome ∨ before = [] then s
    else s.advance id ⟨path,finishedRunsBefore s.db before,.listed⟩
  | .readEvents id =>
    match s.archiving id with
    | some ⟨path,runs,.listed⟩ => s.advance id ⟨path,runs,.readEvents (s.db.eventsOf runs)⟩
    | _ => s
  | .readEvidence id =>
    match s.archiving id with
    | some ⟨path,runs,.readEvents events⟩ =>
      s.advance id ⟨path,runs,.read ⟨runs,events,byRun runs (s.db.evidenceOf runs)⟩⟩
    | _ => s
  | .writeArchive id =>
    match s.archiving id with
    | some ⟨path,runs,.read document⟩ =>
      match s.files path with
      | some _ => s
      | none =>
        { s.advance id ⟨path,runs,.written (P.marshal document)⟩ with
          files := update s.files path (some (P.marshal document)) }
    | _ => s
  | .completeArchive id =>
    match s.archiving id with
    | some ⟨path,runs,.written contents⟩ =>
      { s with completed := update s.completed id (some ⟨path,P.sha256 contents,runs⟩) }
    | _ => s
  | .verifyPrune id =>
    match s.completed id with
    | none => s
    | some archive =>
      match s.files archive.path with
      | none => s
      | some contents =>
        if P.sha256 contents ≠ archive.sha256 ∨ s.pruneRequested id then s
        else
          { s with pruneRequested := update s.pruneRequested id true,
                   pruning := if archive.runIDs = [] then s.pruning
                     else update s.pruning id (some (archive,contents)) }
  | .commitPrune id =>
    match s.pruning id with
    | none => s
    | some (archive,_) =>
      { s with db := s.db.without archive.runIDs, pruning := update s.pruning id none,
               pruned := s.pruned ++ archive.runIDs }
  | .disturb path contents => { s with files := update s.files path contents }

def Store.run (s : Store Run File Digest Writer Archive Path) (ops : List (Op Run File Writer Archive Path)) :
    Store Run File Digest Writer Archive Path :=
  ops.foldl (Store.act P) s

end

end Pilot.Delivery
