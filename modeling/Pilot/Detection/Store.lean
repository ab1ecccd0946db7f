import Pilot.Library.Go
import Pilot.Library.Table
import Pilot.Detection.Lifecycle

/-!
The episode, history and outbox tables of the detection store
(`internal/detection/episode.go`, `store.go`). A transition is one
transaction over the three: it commits whole or leaves the store alone.
Times are nanoseconds since the epoch; the columns keep RFC3339 seconds.
-/
namespace Pilot.Detection
open Pilot.Table

export Go (second)

structure Contributor where
  (feature category : String)
  score : Score
  deriving DecidableEq

structure AlertmanagerPayload where
  (labels annotations : List (String × String))
  (startsAt endsAt : String)
  deriving DecidableEq, Repr

/-- Library functions the engine calls: RFC3339 formatting and parsing, hex
    SHA-256, shortest float formatting, JSON encoding and the ULID source,
    whose n-th draw is an argument. -/
structure Platform where
  rfc3339 : Int → String
  parseRFC3339 : String → Option Int
  sha256Hex : String → String
  formatFloat : Score → String
  marshalAlert : AlertmanagerPayload → String
  unmarshalAlert : String → Option AlertmanagerPayload
  marshalStrings : List String → String
  marshalContributors : List Contributor → String
  marshalValues : List (String × Score) → String
  ulid : Nat → String

inductive EpisodeState where
  | lifecycle (state : LifecycleState)
  | resolved
  deriving DecidableEq, Repr

structure EpisodeRecord where
  (signalID fingerprint subjectID subjectKind pilotHost site profileID : String)
  profileVersion : Int
  state : EpisodeState
  severity : Severity
  categoryHint : String
  (createdAt updatedAt : Int)
  revision : Nat
  (lastScore lastConfidence : Option Score)
  (warningBits warningCount criticalStreak recoveryStreak candidateClearStreak : Nat)
  deriving DecidableEq

structure HistoryRecord where
  signalID : String
  revision : Nat
  (eventType payloadJSON : String)
  createdAt : Int
  deriving DecidableEq, Repr

structure OutboxRecord where
  (id signalID : String)
  (revision sequence : Nat)
  (kind payloadJSON : String)
  nextAttemptAt : Int
  deriving DecidableEq, Repr

inductive OutboxStatus where
  | pending | sending | delivered | dead
  deriving DecidableEq, Repr

def OutboxStatus.terminal : OutboxStatus → Bool
  | delivered | dead => true
  | pending | sending => false

structure OutboxRow where
  (id signalID : String)
  (revision sequence : Nat)
  (kind payloadJSON : String)
  status : OutboxStatus
  attempts : Nat
  nextAttemptAt : String
  (leaseUntil lastErrorCode : Option String)
  (createdAt updatedAt : String)
  deriving DecidableEq, Repr

structure Store where
  episodes : List EpisodeRecord
  history : List HistoryRecord
  outbox : List OutboxRow
  deriving DecidableEq

/-- Go's zero `time.Time`, what a failed parse leaves behind. -/
def zeroTime : Int := -62135596800000000000

def storedTime (P : Platform) (t : Int) : Int := (P.parseRFC3339 (P.rfc3339 t)).getD zeroTime

/-- A REAL column keeps no NaN: SQLite stores NULL in its place. -/
def storedReal : Option Score → Option Score
  | some .nan => none
  | other => other

def storedEpisode (P : Platform) (e : EpisodeRecord) : EpisodeRecord :=
  { e with
    createdAt := storedTime P e.createdAt, updatedAt := storedTime P e.updatedAt,
    lastScore := storedReal e.lastScore, lastConfidence := storedReal e.lastConfidence }

/-- The columns ON CONFLICT(signal_id) overwrites. -/
def overwriteEpisode (new old : EpisodeRecord) : EpisodeRecord :=
  { old with
    state := new.state, severity := new.severity, categoryHint := new.categoryHint,
    updatedAt := new.updatedAt, revision := new.revision, lastScore := new.lastScore,
    lastConfidence := new.lastConfidence, warningBits := new.warningBits,
    warningCount := new.warningCount, criticalStreak := new.criticalStreak,
    recoveryStreak := new.recoveryStreak, candidateClearStreak := new.candidateClearStreak }

def ofSignal (signalID : String) (e : EpisodeRecord) : Bool := e.signalID == signalID

def upsertEpisode (episodes : List EpisodeRecord) (new : EpisodeRecord) : List EpisodeRecord :=
  if episodes.any (ofSignal new.signalID) then
    updateWhere (ofSignal new.signalID) (overwriteEpisode new) episodes
  else episodes ++ [new]

/-- `fingerprint = ? AND state <> 'resolved'`. -/
def activeAt (fingerprint : String) (e : EpisodeRecord) : Bool :=
  e.fingerprint == fingerprint && e.state != .resolved

/-- The partial unique index: no two active episodes share a fingerprint. -/
def activeUnique (episodes : List EpisodeRecord) : Bool :=
  episodes.all (fun e => e.state == .resolved || episodes.countP (activeAt e.fingerprint) ≤ 1)

def insertOutbox (P : Platform) (wall : Int) (rows : List OutboxRow) (o : OutboxRecord) :
    Except String (List OutboxRow) :=
  if rows.any (fun r => r.id == o.id || (r.signalID == o.signalID && r.revision == o.revision &&
      r.sequence == o.sequence && r.kind == o.kind)) then
    .error s!"insert outbox row (signal={o.signalID} seq={o.sequence}): UNIQUE constraint failed"
  else
    .ok (rows ++ [⟨o.id,o.signalID,o.revision,o.sequence,o.kind,o.payloadJSON,.pending,0,
      P.rfc3339 o.nextAttemptAt,none,none,P.rfc3339 wall,P.rfc3339 wall⟩])

def insertOutboxes (P : Platform) (wall : Int) :
    List OutboxRow → List OutboxRecord → Except String (List OutboxRow)
  | rows, [] => .ok rows
  | rows, o :: rest =>
    match insertOutbox P wall rows o with
    | .error err => .error err
    | .ok rows' => insertOutboxes P wall rows' rest

/-- `ApplyTransition`. The flag stands for a write the database refuses for
    reasons of its own; `wall` is the clock the outbox rows are stamped with. -/
def applyTransition (P : Platform) (s : Store) (fails : Bool) (wall : Int)
    (episode : EpisodeRecord) (history : HistoryRecord) (outbox : List OutboxRecord) :
    Except String Store :=
  if fails then .error "commit transition: disk I/O error"
  else
    let episodes := upsertEpisode s.episodes (storedEpisode P episode)
    if activeUnique episodes then
      match insertOutboxes P wall s.outbox outbox with
      | .error err => .error err
      | .ok rows => .ok ⟨episodes,s.history ++ [history],rows⟩
    else .error "upsert signal_episodes: UNIQUE constraint failed"

def getEpisodeByFingerprint (s : Store) (fingerprint : String) : Option EpisodeRecord :=
  s.episodes.find? (activeAt fingerprint)

def listActiveEpisodes (s : Store) : List EpisodeRecord :=
  (s.episodes.filter (fun e => e.state != .resolved)).insertionSort
    (fun a b => decide (a.signalID ≤ b.signalID))

def usablePayload (P : Platform) (h : HistoryRecord) : Option AlertmanagerPayload :=
  match P.unmarshalAlert h.payloadJSON with
  | none => none
  | some payload =>
    if (payload.labels.lookup "alertname").getD "" == "" || payload.startsAt == "" then none
    else some payload

/-- The newest usable payload: highest revision, then latest insert. -/
def latestAlertPayload (P : Platform) (s : Store) (signalID : String) : Option AlertmanagerPayload :=
  let usable := s.history.filterMap (fun h =>
    if h.signalID == signalID then (usablePayload P h).map (fun p => (h.revision,p)) else none)
  (usable.foldl (fun best next =>
    match best with
    | none => some next
    | some b => if b.1 ≤ next.1 then some next else some b) none).map Prod.snd

end Pilot.Detection
