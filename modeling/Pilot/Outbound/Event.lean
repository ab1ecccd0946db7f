import Pilot.Outbound.Snapshot
import Pilot.Outbound.CursorChain

/-!
The wire event of `internal/outbound/event.go` and the drafts
`cmd/pilot/cmd/outbound_workflow.go` enqueues. A draft's flags are fixed from
a probe that is rendered with a zero event id and sequence 0; the body is
rendered again once the outbox has assigned both.
-/
namespace Pilot.Outbound

def maxPayloadBytes : Nat := 8 * 1024 * 1024
def maxUnavailableEventBytes : Nat := 64 * 1024

inductive OperationKind where
  | deploy | reconcile
  deriving DecidableEq, Repr

def OperationKind.text : OperationKind → String
  | deploy => "deploy"
  | reconcile => "reconcile"

inductive ResultClass where
  | success | failure | cancelled
  deriving DecidableEq, Repr

def ResultClass.text : ResultClass → String
  | success => "success"
  | failure => "failure"
  | cancelled => "cancelled"

inductive ErrorClass where
  | projectionUnavailable | multipleRosterSources | payloadTooLarge
  deriving DecidableEq, Repr

def ErrorClass.text : ErrorClass → String
  | projectionUnavailable => "projection_unavailable"
  | multipleRosterSources => "multiple_roster_sources"
  | payloadTooLarge => "payload_too_large"

def PayloadMode.text : PayloadMode → String
  | snapshot => "snapshot"
  | diff => "diff"
  | both => "both"

structure WireDeliveryRun where
  (runID outcome failedStep : String)

structure WireSubject where
  (kind name : String)

structure FailureInfo where
  (failureClass phase component : String)

structure OperationMetadata where
  workflowID : String
  operation : OperationKind
  result : ResultClass
  (requestedComponents executedComponents completedComponents : List String)
  failedComponent : String
  effects : List String
  deliveryRuns : List WireDeliveryRun
  (startedAt finishedAt : Int)
  applicationConsistency : String
  confirmedEffects : List String
  subject : Option WireSubject
  failure : Option FailureInfo

structure ProjectionResult where
  available : Bool
  errorClass : Option ErrorClass
  snapshot : UserHostAccessSnapshotV1

structure StateInfo where
  projection : String
  projectionVersion : Int
  requestedPayload : String
  available : Bool
  basis : String
  sourceComplete : Bool
  applicationConsistency : String
  confirmedEffects : List String
  authoritative : Bool
  (snapshotID baseSnapshotID errorClass : String)

structure EnvelopeSource where
  (id pilotVersion : String)

structure EnvelopeSub where
  name : String
  sequence : Int

structure EnvelopeOp where
  (workflowID type result : String)
  (requestedComponents executedComponents completedComponents : List String)
  failedComponent : String
  effects : List String
  deliveryRuns : List WireDeliveryRun
  (startedAt finishedAt : String)
  subject : Option WireSubject

/-- The raw snapshot and diff messages are kept as the values they hold; an
    absent message is left out of the text. -/
structure Envelope where
  schemaVersion : Int
  (eventID eventType createdAt : String)
  source : EnvelopeSource
  subscription : EnvelopeSub
  operation : EnvelopeOp
  state : StateInfo
  (snapshot diff : Option Json.Value)
  failure : Option FailureInfo

def WireDeliveryRun.json (r : WireDeliveryRun) : Json.Value :=
  .object ([("run_id", .string r.runID),("outcome", .string r.outcome)]
    ++ omitEmpty "failed_step" r.failedStep)

def WireSubject.json (s : WireSubject) : Json.Value :=
  .object [("kind", .string s.kind),("name", .string s.name)]

def FailureInfo.json (f : FailureInfo) : Json.Value :=
  .object ([("class", .string f.failureClass)] ++ omitEmpty "phase" f.phase
    ++ omitEmpty "component" f.component)

def StateInfo.json (s : StateInfo) : Json.Value :=
  .object ([("projection", .string s.projection),
      ("projection_version", .number s.projectionVersion),
      ("requested_payload", .string s.requestedPayload),("available", .bool s.available),
      ("basis", .string s.basis),("source_complete", .bool s.sourceComplete),
      ("application_consistency", .string s.applicationConsistency),
      ("confirmed_effects", strings s.confirmedEffects),
      ("authoritative", .bool s.authoritative)]
    ++ omitEmpty "snapshot_id" s.snapshotID ++ omitEmpty "base_snapshot_id" s.baseSnapshotID
    ++ omitEmpty "error_class" s.errorClass)

def EnvelopeSource.json (s : EnvelopeSource) : Json.Value :=
  .object [("id", .string s.id),("pilot_version", .string s.pilotVersion)]

def EnvelopeSub.json (s : EnvelopeSub) : Json.Value :=
  .object [("name", .string s.name),("sequence", .number s.sequence)]

def EnvelopeOp.json (o : EnvelopeOp) : Json.Value :=
  .object ([("workflow_id", .string o.workflowID),("type", .string o.type),
      ("result", .string o.result),("requested_components", strings o.requestedComponents),
      ("executed_components", strings o.executedComponents),
      ("completed_components", strings o.completedComponents)]
    ++ omitEmpty "failed_component" o.failedComponent
    ++ [("effects", strings o.effects),
      ("delivery_runs", .array (o.deliveryRuns.map WireDeliveryRun.json)),
      ("started_at", .string o.startedAt),("finished_at", .string o.finishedAt)]
    ++ omitNil "subject" WireSubject.json o.subject)

def Envelope.json (env : Envelope) : Json.Value :=
  .object ([("schema_version", .number env.schemaVersion),("event_id", .string env.eventID),
      ("event_type", .string env.eventType),("created_at", .string env.createdAt),
      ("source", env.source.json),("subscription", env.subscription.json),
      ("operation", env.operation.json),("state", env.state.json)]
    ++ omitNil "snapshot" id env.snapshot ++ omitNil "diff" id env.diff
    ++ omitNil "failure" FailureInfo.json env.failure)

/-- `json.Unmarshal` of a stored base snapshot. -/
structure Codec extends Platform where
  unmarshalSnapshot : String → Except String UserHostAccessSnapshotV1

structure BuildEnvelopeParams where
  (sourceID pilotVersion webhookName : String)
  sequence : Nat
  eventID : String
  createdAt : Int
  op : OperationMetadata
  payload : PayloadMode
  projection : ProjectionResult
  base : SnapshotRef
  bootstrap : Bool
  target : UserHostAccessSnapshotV1
  authoritative : Bool

section
variable (C : Codec)

def unavailableState (p : BuildEnvelopeParams) : StateInfo where
  projection := "user_host_access_v1"
  projectionVersion := 1
  requestedPayload := p.payload.text
  available := false
  basis := "pilot_declared"
  sourceComplete := false
  applicationConsistency := p.op.applicationConsistency
  confirmedEffects := sortedOrEmpty p.op.confirmedEffects
  authoritative := false
  snapshotID := ""
  baseSnapshotID := ""
  errorClass := (p.projection.errorClass.map ErrorClass.text).getD ""

def availableState (p : BuildEnvelopeParams) : StateInfo where
  projection := "user_host_access_v1"
  projectionVersion := 1
  requestedPayload := p.payload.text
  available := true
  basis := "pilot_declared"
  sourceComplete := true
  applicationConsistency := p.op.applicationConsistency
  confirmedEffects := sortedOrEmpty p.op.confirmedEffects
  authoritative := p.authoritative && p.projection.available
  snapshotID := snapshotID C.toPlatform (canonicalizeSnapshot p.target)
  baseSnapshotID := ""
  errorClass := ""

def frame (p : BuildEnvelopeParams) (state : StateInfo) : Envelope where
  schemaVersion := 1
  eventID := p.eventID
  eventType := "pilot.operation.terminal"
  createdAt := C.formatTime p.createdAt
  source := ⟨p.sourceID,p.pilotVersion⟩
  subscription := ⟨p.webhookName,p.sequence⟩
  operation :=
    { workflowID := p.op.workflowID
      type := p.op.operation.text
      result := p.op.result.text
      requestedComponents := p.op.requestedComponents
      executedComponents := p.op.executedComponents
      completedComponents := p.op.completedComponents
      failedComponent := p.op.failedComponent
      effects := sortedOrEmpty p.op.effects
      deliveryRuns := p.op.deliveryRuns
      startedAt := C.formatTime p.op.startedAt
      finishedAt := C.formatTime p.op.finishedAt
      subject := p.op.subject }
  state := state
  snapshot := none
  diff := none
  failure := p.op.failure

def baseSnapshot (p : BuildEnvelopeParams) : Except String UserHostAccessSnapshotV1 :=
  if !p.bootstrap && p.base.json ≠ "" then
    match C.unmarshalSnapshot p.base.json with
    | .error err => .error s!"event: unmarshal base snapshot: {err}"
    | .ok base => .ok base
  else .ok emptySnapshot

def snapshotMessage (p : BuildEnvelopeParams) : Option Json.Value :=
  if p.payload = .snapshot ∨ p.payload = .both then
    some ((canonicalizeSnapshot p.target).json C.toPlatform)
  else none

def buildEnvelope (p : BuildEnvelopeParams) : Except String Envelope :=
  if !p.projection.available then .ok (frame C p (unavailableState p))
  else
    let env := frame C p (availableState C p)
    if p.payload = .diff ∨ p.payload = .both then
      match baseSnapshot C p with
      | .error err => .error err
      | .ok base =>
        let d := diff C.toPlatform base (canonicalizeSnapshot p.target) p.bootstrap
        .ok { env with
          state := { env.state with baseSnapshotID := d.baseSnapshotID }
          snapshot := snapshotMessage C p
          diff := some (d.json C.toPlatform) }
    else .ok { env with snapshot := snapshotMessage C p }

end

def Envelope.body (env : Envelope) : String := Json.marshal env.json

/-- The bounded event sent in place of one that is too large. -/
def metadataOnly (env : Envelope) : Envelope :=
  { env with
    snapshot := none, diff := none,
    state := { env.state with
      available := false, authoritative := false, errorClass := ErrorClass.payloadTooLarge.text,
      snapshotID := "", baseSnapshotID := "" } }

def finalizeEnvelope (env : Envelope) : Except String (String × Option ErrorClass) :=
  if env.body.utf8ByteSize ≤ maxPayloadBytes then .ok (env.body, none)
  else
    let metaBody := (metadataOnly env).body
    if metaBody.utf8ByteSize > maxUnavailableEventBytes then
      .error (s!"event: metadata-only fallback envelope itself exceeds {maxUnavailableEventBytes} bytes " ++
        s!"({metaBody.utf8ByteSize}) — operation metadata is unexpectedly large")
    else .ok (metaBody, some .payloadTooLarge)

end Pilot.Outbound
