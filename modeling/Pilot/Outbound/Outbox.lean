import Mathlib.Data.List.MinMax
import Mathlib.Data.List.Dedup
import Pilot.Library.Table

/-!
The durable webhook outbox of `internal/outbound/outbox.go`. Every exported
operation is one immediate SQLite transaction, so it is a function of the
two tables it reads: an error rolls back and leaves both as they were. The
uuids an operation draws and the clock it reads are arguments.
-/
namespace Pilot.Outbound
open Pilot.Table

inductive OutboxRowState where
  | pending | delivering | delivered | deadLetter
  | blockedBaseMismatch | orphanedConfig | pausedConfig
  deriving DecidableEq, Repr

/-- The states every `state NOT IN (...)` clause of the source leaves out. -/
def OutboxRowState.terminal : OutboxRowState → Bool
  | delivered | deadLetter | blockedBaseMismatch | orphanedConfig => true
  | pending | delivering | pausedConfig => false

inductive PayloadMode where
  | snapshot | diff | both
  deriving DecidableEq, Repr

/-- The workspace, source and name columns that together name one logical webhook. -/
structure Webhook where
  (workspaceKey sourceID webhookName : String)
  deriving DecidableEq, Repr

/-- Library functions the outbox calls: `time.Format` and `time.Parse` at
    RFC3339Nano, `strconv.Quote` and the hex SHA-256 of a body. Nothing is
    assumed of them. -/
structure Platform where
  formatTime : Int → String
  parseTime : String → Except String Int
  (quote sha256Hex : String → String)

structure EventDraft where
  (workspaceKey sourceID webhookName workflowID operation result projection : String)
  payloadMode : PayloadMode
  (authoritative stateAvailable sourceComplete : Bool)
  (baseSnapshotID targetSnapshotID targetSnapshotJSON : String)
  now : Int
  finalize : String → Nat → Except String String

def EventDraft.webhook (d : EventDraft) : Webhook :=
  ⟨d.workspaceKey,d.sourceID,d.webhookName⟩

structure Row where
  (eventID workspaceKey sourceID webhookName : String)
  sequence : Nat
  (workflowID operation result projection : String)
  payloadMode : PayloadMode
  (authoritative stateAvailable sourceComplete : Bool)
  (baseSnapshotID targetSnapshotID bodyJSON bodySHA256 targetSnapshotJSON : String)
  state : OutboxRowState
  attemptCount : Nat
  nextAttemptAt : Option String
  claimOwner : String
  claimUntil : Option String
  lastErrorClass : String
  lastErrorText : List UInt8
  createdAt : String
  deliveredAt : Option String
  deriving DecidableEq, Repr

def Row.webhook (r : Row) : Webhook := ⟨r.workspaceKey,r.sourceID,r.webhookName⟩

structure Cursor where
  (workspaceKey sourceID webhookName projection snapshotID snapshotJSON lastEventID updatedAt : String)
  deriving DecidableEq, Repr

def Cursor.webhook (c : Cursor) : Webhook := ⟨c.workspaceKey,c.sourceID,c.webhookName⟩

structure DB where
  outbox : List Row
  cursors : List Cursor
  deriving DecidableEq, Repr

structure EnqueuedEvent where
  eventID : String
  sequence : Nat
  bodySHA256 : String
  deriving DecidableEq, Repr

structure ClaimRequest where
  (workspaceKey sourceID webhookName : String)
  (now lease : Int)
  force : Bool
  deriving DecidableEq, Repr

def ClaimRequest.webhook (req : ClaimRequest) : Webhook :=
  ⟨req.workspaceKey,req.sourceID,req.webhookName⟩

structure ClaimedEvent where
  (eventID workspaceKey sourceID webhookName : String)
  sequence : Nat
  (workflowID operation result projection : String)
  payloadMode : PayloadMode
  (authoritative stateAvailable sourceComplete : Bool)
  (baseSnapshotID targetSnapshotID targetSnapshotJSON bodyJSON bodySHA256 : String)
  attemptCount : Nat
  claimOwner : String
  claimUntil : Option Int
  deriving DecidableEq, Repr

structure DeliveryACK where
  (eventID claimOwner : String)
  (authoritative stateAvailable sourceComplete : Bool)
  now : Int
  deriving DecidableEq, Repr

structure DeliveryFailure where
  (eventID claimOwner : String)
  now : Int
  retryable : Bool
  errorClass : String
  errorText : List UInt8
  nextAttemptAt : Int
  consumeAttempt : Bool
  maxAttempts : Int
  deriving DecidableEq, Repr

structure WebhookSwitch where
  name : String
  enabled : Bool
  deriving DecidableEq, Repr

structure Config where
  sourceID : String
  webhooks : List WebhookSwitch
  deriving DecidableEq, Repr

def live (w : Webhook) (r : Row) : Bool := decide (r.webhook = w) && !r.state.terminal

def maxSequence (rows : List Row) (w : Webhook) : Option Nat :=
  ((rows.filter (fun r => decide (r.webhook = w))).map Row.sequence).max?

def nextSequence (rows : List Row) (w : Webhook) : Nat :=
  match maxSequence rows w with
  | none => 1
  | some m => m + 1

def pendingRow (P : Platform) (d : EventDraft) (eventID : String) (sequence : Nat)
    (body : String) : Row where
  eventID := eventID
  workspaceKey := d.workspaceKey
  sourceID := d.sourceID
  webhookName := d.webhookName
  sequence := sequence
  workflowID := d.workflowID
  operation := d.operation
  result := d.result
  projection := d.projection
  payloadMode := d.payloadMode
  authoritative := d.authoritative
  stateAvailable := d.stateAvailable
  sourceComplete := d.sourceComplete
  baseSnapshotID := d.baseSnapshotID
  targetSnapshotID := d.targetSnapshotID
  bodyJSON := body
  bodySHA256 := P.sha256Hex body
  targetSnapshotJSON := d.targetSnapshotJSON
  state := .pending
  attemptCount := 0
  nextAttemptAt := some (P.formatTime d.now)
  claimOwner := ""
  claimUntil := none
  lastErrorClass := ""
  lastErrorText := []
  createdAt := P.formatTime d.now
  deliveredAt := none

/-- The primary key and both UNIQUE constraints of the table. -/
def violatesUnique (rows : List Row) (new : Row) : Bool :=
  rows.any (fun r => r.eventID == new.eventID ||
    (decide (r.webhook = new.webhook) &&
      (r.sequence == new.sequence || r.workflowID == new.workflowID)))

/-- One iteration of EnqueueBatch's loop. The uuid is the one drawn if the
    draft turns out to need a new row. -/
def enqueueDraft (P : Platform) (rows : List Row) (d : EventDraft) (uuid : String) :
    Except String (List Row × EnqueuedEvent) :=
  match rows.find? (fun r => decide (r.webhook = d.webhook) && r.workflowID == d.workflowID) with
  | some existing =>
    match d.finalize existing.eventID existing.sequence with
    | .error err => .error s!"outbox: finalize event body: {err}"
    | .ok body =>
      if P.sha256Hex body ≠ existing.bodySHA256 then
        .error (s!"outbox: conflict for workflow {d.workflowID} webhook {d.webhookName}: existing event " ++
          s!"{existing.eventID} has a different body hash — refusing to overwrite an immutable event")
      else .ok (rows, ⟨existing.eventID,existing.sequence,P.sha256Hex body⟩)
  | none =>
    let sequence := nextSequence rows d.webhook
    match d.finalize uuid sequence with
    | .error err => .error s!"outbox: finalize event body: {err}"
    | .ok body =>
      let row := pendingRow P d uuid sequence body
      if violatesUnique rows row then
        .error s!"outbox: insert event {uuid}: UNIQUE constraint failed"
      else .ok (rows ++ [row], ⟨uuid,sequence,P.sha256Hex body⟩)

def enqueueDrafts (P : Platform) :
    List Row → List (EventDraft × String) → Except String (List Row × List EnqueuedEvent)
  | rows, [] => .ok (rows, [])
  | rows, (d, uuid) :: rest =>
    match enqueueDraft P rows d uuid with
    | .error err => .error err
    | .ok (rows', event) =>
      match enqueueDrafts P rows' rest with
      | .error err => .error err
      | .ok (rows'', events) => .ok (rows'', event :: events)

def enqueueBatch (P : Platform) (db : DB) (drafts : List (EventDraft × String)) :
    Except String (List EnqueuedEvent × DB) :=
  match enqueueDrafts P db.outbox drafts with
  | .error err => .error err
  | .ok (rows, events) => .ok (events, { db with outbox := rows })

def isClaimable (P : Platform) (state : OutboxRowState) (nextAttemptAt claimUntil : Option String)
    (now : Int) (force : Bool) : Except String Bool :=
  match state with
  | .pending =>
    match nextAttemptAt with
    | none => .ok true
    | some text =>
      if force || text == "" then .ok true
      else match P.parseTime text with
        | .error err => .error s!"outbox: parse next_attempt_at {P.quote text}: {err}"
        | .ok due => .ok (decide (due ≤ now))
  | .delivering =>
    match claimUntil with
    | none => .ok true
    | some text =>
      if text == "" then .ok true
      else match P.parseTime text with
        | .error err => .error s!"outbox: parse claim_until {P.quote text}: {err}"
        | .ok until_ => .ok (decide (until_ ≤ now))
  | _ => .ok false

def headOfLine (rows : List Row) (w : Webhook) : Option Row :=
  (rows.filter (live w)).argmin Row.sequence

def Cursor.keyed (w : Webhook) (projection : String) (c : Cursor) : Bool :=
  decide (c.webhook = w) && c.projection == projection

def findCursor (cursors : List Cursor) (w : Webhook) (projection : String) : Option Cursor :=
  cursors.find? (Cursor.keyed w projection)

def cursorID (cursors : List Cursor) (w : Webhook) (projection : String) : String :=
  match findCursor cursors w projection with
  | none => ""
  | some c => c.snapshotID

def settle (state : OutboxRowState) (r : Row) : Row :=
  { r with
    state := state, claimOwner := "", claimUntil := none, nextAttemptAt := none,
    bodyJSON := "", targetSnapshotJSON := "" }

def startDelivery (owner : String) (claimUntil : String) (r : Row) : Row :=
  { r with state := .delivering, claimOwner := owner, claimUntil := some claimUntil }

def claimedEvent (P : Platform) (req : ClaimRequest) (r : Row) (owner claimUntil : String) :
    ClaimedEvent where
  eventID := r.eventID
  workspaceKey := req.workspaceKey
  sourceID := req.sourceID
  webhookName := req.webhookName
  sequence := r.sequence
  workflowID := r.workflowID
  operation := r.operation
  result := r.result
  projection := r.projection
  payloadMode := r.payloadMode
  authoritative := r.authoritative
  stateAvailable := r.stateAvailable
  sourceComplete := r.sourceComplete
  baseSnapshotID := r.baseSnapshotID
  targetSnapshotID := r.targetSnapshotID
  targetSnapshotJSON := r.targetSnapshotJSON
  bodyJSON := r.bodyJSON
  bodySHA256 := r.bodySHA256
  attemptCount := r.attemptCount
  claimOwner := owner
  claimUntil := (P.parseTime claimUntil).toOption

def ofEvent (eventID : String) (r : Row) : Bool := r.eventID == eventID

def ownedBy (eventID owner : String) (r : Row) : Bool :=
  r.eventID == eventID && r.claimOwner == owner

/-- The head-of-line row is the only one looked at: when it cannot be claimed
    nothing behind it is tried. -/
def claimNextDue (P : Platform) (db : DB) (req : ClaimRequest) (owner : String) :
    Except String (Option ClaimedEvent × DB) :=
  match headOfLine db.outbox req.webhook with
  | none => .ok (none, db)
  | some r =>
    match isClaimable P r.state r.nextAttemptAt r.claimUntil req.now req.force with
    | .error err => .error err
    | .ok false => .ok (none, db)
    | .ok true =>
      if r.payloadMode = .diff ∧ r.baseSnapshotID ≠ cursorID db.cursors req.webhook r.projection then
        .ok (none, { db with
          outbox := updateWhere (ofEvent r.eventID) (settle .blockedBaseMismatch) db.outbox })
      else
        let claimUntil := P.formatTime (req.now + req.lease)
        let affected := db.outbox.countP (ofEvent r.eventID)
        if affected ≠ 1 then
          .error s!"outbox: claim event {r.eventID} affected {affected} rows, want 1"
        else
          .ok (some (claimedEvent P req r owner claimUntil), { db with
            outbox := updateWhere (ofEvent r.eventID) (startDelivery owner claimUntil) db.outbox })

def excluded (new c : Cursor) : Cursor :=
  { c with
    snapshotID := new.snapshotID, snapshotJSON := new.snapshotJSON,
    lastEventID := new.lastEventID, updatedAt := new.updatedAt }

/-- INSERT ... ON CONFLICT DO UPDATE on the cursor's primary key. -/
def upsertCursor (cursors : List Cursor) (new : Cursor) : List Cursor :=
  if cursors.any (Cursor.keyed new.webhook new.projection) then
    updateWhere (Cursor.keyed new.webhook new.projection) (excluded new) cursors
  else cursors ++ [new]

def deliveredRow (now : String) (r : Row) : Row :=
  { settle .delivered r with deliveredAt := some now }

def markDelivered (P : Platform) (db : DB) (ack : DeliveryACK) : Except String (Unit × DB) :=
  let advanceCursor := ack.authoritative && ack.stateAvailable && ack.sourceComplete
  match db.outbox.find? (ownedBy ack.eventID ack.claimOwner) with
  | none =>
    .error s!"outbox: mark-delivered {ack.eventID}: stale claim owner {ack.claimOwner} (no matching live claim)"
  | some r =>
    let nowStr := P.formatTime ack.now
    if db.outbox.countP (ownedBy ack.eventID ack.claimOwner) ≠ 1 then
      .error s!"outbox: mark-delivered {ack.eventID}: stale claim owner {ack.claimOwner}"
    else
      let outbox := updateWhere (ownedBy ack.eventID ack.claimOwner)
        (deliveredRow nowStr) db.outbox
      let cursors := if advanceCursor then
        upsertCursor db.cursors
          ⟨r.workspaceKey,r.sourceID,r.webhookName,r.projection,r.targetSnapshotID,
            r.targetSnapshotJSON,ack.eventID,nowStr⟩
        else db.cursors
      .ok ((), ⟨outbox,cursors⟩)

def boundedErrorText (s : List UInt8) : List UInt8 :=
  if s.length ≤ 512 then s else s.take 512

def deadLetterRow (fail : DeliveryFailure) (attemptCount : Nat) (r : Row) : Row :=
  { settle .deadLetter r with
    attemptCount := attemptCount, lastErrorClass := fail.errorClass,
    lastErrorText := boundedErrorText fail.errorText }

def retryRow (P : Platform) (fail : DeliveryFailure) (attemptCount : Nat) (r : Row) : Row :=
  { r with
    state := .pending, attemptCount := attemptCount, claimOwner := "", claimUntil := none,
    nextAttemptAt := some (P.formatTime fail.nextAttemptAt), lastErrorClass := fail.errorClass,
    lastErrorText := boundedErrorText fail.errorText }

def markAttemptFailed (P : Platform) (db : DB) (fail : DeliveryFailure) :
    Except String (OutboxRowState × DB) :=
  match db.outbox.find? (ownedBy fail.eventID fail.claimOwner) with
  | none => .error s!"outbox: mark-failed {fail.eventID}: stale claim owner {fail.claimOwner}"
  | some r =>
    let newAttemptCount := if fail.consumeAttempt then r.attemptCount + 1 else r.attemptCount
    if db.outbox.countP (ownedBy fail.eventID fail.claimOwner) ≠ 1 then
      .error s!"outbox: mark-failed {fail.eventID}: stale claim owner {fail.claimOwner}"
    else if !fail.retryable || (fail.consumeAttempt && decide (fail.maxAttempts ≤ newAttemptCount)) then
      .ok (.deadLetter, { db with
        outbox := updateWhere (ownedBy fail.eventID fail.claimOwner)
          (deadLetterRow fail newAttemptCount) db.outbox })
    else
      .ok (.pending, { db with
        outbox := updateWhere (ownedBy fail.eventID fail.claimOwner)
          (retryRow P fail newAttemptCount) db.outbox })

def enabledByName (cfg : Config) (name : String) : Option Bool :=
  (cfg.webhooks.reverse.find? (fun w => w.name == name)).map WebhookSwitch.enabled

def configuredNames (cfg : Config) : List String := (cfg.webhooks.map WebhookSwitch.name).dedup

def toOrphan (rows : List Row) (workspaceKey : String) (cfg : Config) : List Webhook :=
  ((rows.filter (fun r => r.workspaceKey == workspaceKey && !r.state.terminal)).map
    Row.webhook).dedup.filter
    (fun w => w.sourceID != cfg.sourceID || (enabledByName cfg w.webhookName).isNone)

def orphanWebhook (db : DB) (w : Webhook) : DB where
  outbox := updateWhere (live w) (settle .orphanedConfig) db.outbox
  cursors := db.cursors.filter (fun c => !decide (c.webhook = w))

def pauseWebhook (workspaceKey : String) (cfg : Config) (rows : List Row) (name : String) :
    List Row :=
  if enabledByName cfg name = some false then
    updateWhere (fun r => live ⟨workspaceKey,cfg.sourceID,name⟩ r && r.state != .pausedConfig)
      (fun r => { r with state := .pausedConfig, claimOwner := "", claimUntil := none }) rows
  else rows

def resumeWebhook (workspaceKey : String) (cfg : Config) (rows : List Row) (name : String) :
    List Row :=
  if enabledByName cfg name = some true then
    updateWhere (fun r => decide (r.webhook = ⟨workspaceKey,cfg.sourceID,name⟩) &&
        r.state == .pausedConfig)
      (fun r => { r with state := .pending }) rows
  else rows

/-- Orphan first, then pause the disabled names, then resume the enabled
    ones. The map is ranged over in the order its names were configured:
    its names select disjoint rows, so the order does not matter. -/
def reconcileWebhookConfig (db : DB) (workspaceKey : String) (cfg : Config) : DB :=
  let orphaned := (toOrphan db.outbox workspaceKey cfg).foldl orphanWebhook db
  let paused := (configuredNames cfg).foldl (pauseWebhook workspaceKey cfg) orphaned.outbox
  let resumed := (configuredNames cfg).foldl (resumeWebhook workspaceKey cfg) paused
  { orphaned with outbox := resumed }

structure SnapshotRef where
  (id json : String)
  deriving DecidableEq, Repr

/-- `ResolveEffectiveBase`: the second component is the bootstrap flag. -/
def resolveEffectiveBase (pending cursor : Option SnapshotRef) : SnapshotRef × Bool :=
  match pending, cursor with
  | some ref, _ => (ref, false)
  | none, some ref => (ref, false)
  | none, none => (⟨"",""⟩, true)

def effectiveBase (db : DB) (w : Webhook) (projection : String) : SnapshotRef × Bool :=
  let pending := (db.outbox.filter (fun r => live w r && r.projection == projection &&
    r.authoritative)).argmax Row.sequence
  resolveEffectiveBase
    (pending.map (fun r => ⟨r.targetSnapshotID,r.targetSnapshotJSON⟩))
    ((findCursor db.cursors w projection).map (fun c => ⟨c.snapshotID,c.snapshotJSON⟩))

end Pilot.Outbound
