import Pilot.Outbound.Event

/-!
From a finished workflow to the drafts it enqueues, and from a draft to the
body its row gets. The row's flags are compared with the flags its body
states; the text of a body determines both.
-/
namespace Pilot.Outbound
open Pilot.Json (bytes quoted)
open Json
open List

structure EventRule where
  operation : OperationKind
  result : ResultClass
  effectsAny : List String
  payload : PayloadMode
  deriving DecidableEq, Repr

structure WebhookConfig extends WebhookSwitch where
  events : List EventRule

structure PublishConfig where
  sourceID : String
  webhooks : List WebhookConfig

def effectMatches (effect pattern : String) : Bool :=
  if ".*".toList.isSuffixOf pattern.toList then
    pattern.toList.dropLast.isPrefixOf effect.toList
  else effect == pattern

def effectsMatchAny (effects patterns : List String) : Bool :=
  effects.any fun effect => patterns.any fun pattern => effectMatches effect pattern

def matchEventRule (hook : WebhookConfig) (op : OperationMetadata) : Option EventRule :=
  hook.events.find? fun rule => decide (rule.operation = op.operation ∧ rule.result = op.result) &&
    (rule.effectsAny.isEmpty || effectsMatchAny op.effects rule.effectsAny)

structure DraftInput where
  (workspaceKey sourceID pilotVersion webhookName : String)
  payload : PayloadMode
  workflowID : String
  op : OperationMetadata
  projection : ProjectionResult
  base : SnapshotRef
  (bootstrap authoritativeCandidate : Bool)
  now : Int

def DraftInput.params (i : DraftInput) (eventID : String) (sequence : Nat) :
    BuildEnvelopeParams where
  sourceID := i.sourceID
  pilotVersion := i.pilotVersion
  webhookName := i.webhookName
  sequence := sequence
  eventID := eventID
  createdAt := i.now
  op := i.op
  payload := i.payload
  projection := i.projection
  base := i.base
  bootstrap := i.bootstrap
  target := i.projection.snapshot
  authoritative := i.authoritativeCandidate

def zeroEventID : String := "00000000-0000-0000-0000-000000000000"

section
variable (C : Codec)

def finalizeDraft (i : DraftInput) (eventID : String) (sequence : Nat) : Except String String :=
  match buildEnvelope C (i.params eventID sequence) with
  | .error err => .error err
  | .ok env =>
    match finalizeEnvelope env with
    | .error err => .error err
    | .ok (body, _) => .ok body

def draftOf (i : DraftInput) (oversized : Bool) : EventDraft :=
  let finalAvailable := i.projection.available && !oversized
  let canon := canonicalizeSnapshot i.projection.snapshot
  { workspaceKey := i.workspaceKey
    sourceID := i.sourceID
    webhookName := i.webhookName
    workflowID := i.workflowID
    operation := i.op.operation.text
    result := i.op.result.text
    projection := "user_host_access_v1"
    payloadMode := i.payload
    authoritative := i.authoritativeCandidate && finalAvailable
    stateAvailable := finalAvailable
    sourceComplete := finalAvailable
    baseSnapshotID := i.base.id
    targetSnapshotID := if finalAvailable then snapshotID C.toPlatform canon else ""
    targetSnapshotJSON := if finalAvailable then marshal (canon.json C.toPlatform) else ""
    now := i.now
    finalize := finalizeDraft C i }

def buildEventDraftForWebhook (i : DraftInput) : Except String EventDraft :=
  match buildEnvelope C (i.params zeroEventID 0) with
  | .error err => .error err
  | .ok probeEnv =>
    match finalizeEnvelope probeEnv with
    | .error err => .error err
    | .ok (_, errClass) => .ok (draftOf C i (decide (errClass = some .payloadTooLarge)))

/-- The state a terminal workflow publishes from: its tables, configuration
    and outcome. -/
structure Terminal where
  workspaceKey : String
  cfg : PublishConfig
  pilotVersion : String
  op : OperationMetadata
  projection : ProjectionResult
  now : Int

def Terminal.authoritativeCandidate (t : Terminal) : Bool :=
  decide (t.op.result = .success) && t.op.applicationConsistency == "confirmed_for_effects"

def Terminal.input (t : Terminal) (db : DB) (hook : WebhookConfig) (rule : EventRule) :
    DraftInput :=
  let found := effectiveBase db ⟨t.workspaceKey,t.cfg.sourceID,hook.name⟩ "user_host_access_v1"
  { workspaceKey := t.workspaceKey
    sourceID := t.cfg.sourceID
    pilotVersion := t.pilotVersion
    webhookName := hook.name
    payload := rule.payload
    workflowID := t.op.workflowID
    op := t.op
    projection := t.projection
    base := found.1
    bootstrap := found.2
    authoritativeCandidate := t.authoritativeCandidate
    now := t.now }

/-- One turn of the loop over the webhooks: a hook that is disabled, has no
    matching rule or whose draft cannot be built is skipped. -/
def Terminal.draft (t : Terminal) (db : DB) (hook : WebhookConfig) : Option EventDraft :=
  if !hook.enabled then none
  else match matchEventRule hook t.op with
    | none => none
    | some rule => (buildEventDraftForWebhook C (t.input db hook rule)).toOption

def Terminal.drafts (t : Terminal) (db : DB) : List EventDraft :=
  t.cfg.webhooks.filterMap (t.draft C db)

end

variable {C : Codec} {i : DraftInput} {d : EventDraft} {eventID : String} {sequence : Nat}
  {env : Envelope} {body : String}

theorem finalizeEnvelope_cases (ok : finalizeEnvelope env = .ok (body, errClass)) :
    env.body.utf8ByteSize ≤ maxPayloadBytes ∧ body = env.body ∧ errClass = none ∨
    maxPayloadBytes < env.body.utf8ByteSize ∧ body = (metadataOnly env).body ∧
      errClass = some .payloadTooLarge := by
  unfold finalizeEnvelope at ok
  simp only at ok
  split_ifs at ok with small large
  · simp only [Except.ok.injEq,Prod.mk.injEq] at ok
    exact .inl ⟨small,ok.1.symm,ok.2.symm⟩
  · simp only [Except.ok.injEq,Prod.mk.injEq] at ok
    exact .inr ⟨by omega,ok.1.symm,ok.2.symm⟩

theorem buildEventDraft_cases (built : buildEventDraftForWebhook C i = .ok d) :
    ∃ probe, buildEnvelope C (i.params zeroEventID 0) = .ok probe ∧
      d = draftOf C i (decide (maxPayloadBytes < probe.body.utf8ByteSize)) := by
  unfold buildEventDraftForWebhook at built
  split at built
  · cases built
  rename_i probe found
  split at built
  · cases built
  rename_i first errClass finalized
  refine ⟨probe,found,?_⟩
  rw [Except.ok.injEq] at built
  rcases finalizeEnvelope_cases finalized with ⟨small,-,rfl⟩ | ⟨large,-,rfl⟩
  · rw [← built,decide_eq_false (Nat.not_lt.mpr small)]
    rfl
  · rw [← built,decide_eq_true large]
    rfl

variable {probe : Envelope} (found : buildEnvelope C (i.params zeroEventID 0) = .ok probe)

include found in
theorem buildEventDraft_fits (small : probe.body.utf8ByteSize ≤ maxPayloadBytes) :
    buildEventDraftForWebhook C i = .ok (draftOf C i false) := by
  unfold buildEventDraftForWebhook
  simp only [found,finalizeEnvelope,if_pos small]
  rfl

def readdress (eventID : String) (sequence : Nat) (env : Envelope) : Envelope :=
  { env with eventID := eventID, subscription := { env.subscription with sequence := sequence } }

theorem buildEnvelope_readdress (C : Codec) (p : BuildEnvelopeParams) (eventID : String) (sequence : Nat) :
    buildEnvelope C { p with eventID := eventID, sequence := sequence } =
      (buildEnvelope C p).map (readdress eventID sequence) := by
  cases available : p.projection.available with
  | false =>
    simp only [buildEnvelope,available]
    rfl
  | true =>
    have same : baseSnapshot C { p with eventID := eventID, sequence := sequence } = baseSnapshot C p := rfl
    by_cases wanted : p.payload = .diff ∨ p.payload = .both
    · simp only [buildEnvelope,available,if_pos wanted,same]
      cases baseSnapshot C p <;> rfl
    · simp only [buildEnvelope,available,if_neg wanted]
      rfl

variable (n : Nat)

theorem digits_bytes : bytes (Nat.toDigits 10 n) = (Nat.toDigits 10 n).length := by
  have ascii : ∀ cs : List Char, (∀ c ∈ cs, c.isDigit) → bytes cs = cs.length := by
    intro cs digits
    induction cs with
    | nil => rfl
    | cons c cs ih =>
      have digit := digits c (by simp)
      have one : c.utf8Size = 1 := by
        rw [Char.utf8Size_eq_one_iff]
        simp only [Char.isDigit,Bool.and_eq_true,decide_eq_true_eq] at digit
        exact UInt32.le_trans digit.2 (by decide)
      have rest := ih (fun x mem => digits x (by simp [mem]))
      simp only [bytes_cons,length_cons]
      omega
  exact ascii _ (fun c mem => Nat.isDigit_of_mem_toDigits (by decide) (by decide) mem)

theorem readdress_size (env : Envelope) (eventID : String) (sequence : Nat) :
    (readdress eventID sequence env).body.utf8ByteSize + bytes (quoted env.eventID)
        + bytes (numberText env.subscription.sequence) =
      env.body.utf8ByteSize + bytes (quoted eventID) + (Nat.toDigits 10 sequence).length := by
  have number : bytes (numberText (sequence : Int)) = (Nat.toDigits 10 sequence).length :=
    digits_bytes sequence
  simp only [Envelope.body,marshal,bytes_ofList,Envelope.json,readdress,
    EnvelopeSub.json,text,fieldsText,cons_append,bytes_cons,
    bytes_append,number]
  omega

/-- The body is the text of an event that states these flags. -/
def Carries (body : String) (available authoritative : Bool) : Prop :=
  ∃ env : Envelope, body = env.body ∧ env.state.available = available ∧
    env.state.authoritative = authoritative

theorem body_flags {env env' : Envelope} (same : env.body = env'.body) :
    env.state.available = env'.state.available ∧ env.state.authoritative = env'.state.authoritative := by
  have values := marshal_injective same
  simp only [Envelope.json,StateInfo.json,cons_append,Value.object.injEq,
    cons.injEq,Prod.mk.injEq,Value.bool.injEq,true_and] at values
  tauto

theorem carries_iff (env : Envelope) (available authoritative : Bool) :
    Carries env.body available authoritative ↔
      env.state.available = available ∧ env.state.authoritative = authoritative := by
  constructor
  · rintro ⟨env',same,rfl,rfl⟩
    exact body_flags same
  · intro flags
    exact ⟨env,rfl,flags⟩

theorem buildEnvelope_fields (ok : buildEnvelope C p = .ok env) :
    env.eventID = p.eventID ∧ env.subscription.sequence = p.sequence ∧
      env.state.available = p.projection.available ∧
      env.state.authoritative = (p.authoritative && p.projection.available) := by
  unfold buildEnvelope at ok
  cases available : p.projection.available with
  | false =>
    simp only [available,Bool.not_false,if_true,Except.ok.injEq] at ok
    subst ok
    exact ⟨rfl,rfl,rfl,by simp [frame,unavailableState]⟩
  | true =>
    simp only [available,Bool.not_true,Bool.false_eq_true,if_false] at ok
    split at ok
    · split at ok
      · cases ok
      · rw [Except.ok.injEq] at ok
        subst ok
        exact ⟨rfl,rfl,rfl,by simp [frame,availableState,available]⟩
    · rw [Except.ok.injEq] at ok
      subst ok
      exact ⟨rfl,rfl,rfl,by simp [frame,availableState,available]⟩

def probeSize (C : Codec) (i : DraftInput) : Nat :=
  match buildEnvelope C (i.params zeroEventID 0) with
  | .ok probe => probe.body.utf8ByteSize
  | .error _ => 0

/-- What the assigned event id and sequence add to the probe's single digit
    and thirty-eight bytes of quoted id. -/
def identityGrowth (eventID : String) (sequence : Nat) : Nat :=
  (bytes (quoted eventID) - 38) + ((Nat.toDigits 10 sequence).length - 1)

theorem finalized_size (uuid : eventID.length = 36)
    (found : buildEnvelope C (i.params zeroEventID 0) = .ok probe) :
    (readdress eventID sequence probe).body.utf8ByteSize =
      probe.body.utf8ByteSize + identityGrowth eventID sequence := by
  obtain ⟨id,number,-,-⟩ := buildEnvelope_fields found
  have size := readdress_size probe eventID sequence
  have zero : bytes (quoted zeroEventID) = 38 := by decide
  have digit : bytes (numberText (0 : Nat)) = 1 := by decide
  have quotes := quoted_size eventID
  have digits : 0 < (Nat.toDigits 10 sequence).length := Nat.length_toDigits_pos
  rw [id,number] at size
  simp only [DraftInput.params,zero,digit] at size
  unfold identityGrowth
  omega

include found in
theorem finalizeDraft_eq :
    finalizeDraft C i eventID sequence =
      (finalizeEnvelope (readdress eventID sequence probe)).map Prod.fst := by
  have built : buildEnvelope C (i.params eventID sequence) = .ok (readdress eventID sequence probe) := by
    have moved := buildEnvelope_readdress C (i.params zeroEventID 0) eventID sequence
    rw [found] at moved
    exact moved
  unfold finalizeDraft
  simp only [built]
  cases finalizeEnvelope (readdress eventID sequence probe) <;> rfl

theorem finalizeDraft_cases (uuid : eventID.length = 36)
    (found : buildEnvelope C (i.params zeroEventID 0) = .ok probe)
    (made : finalizeDraft C i eventID sequence = .ok body) :
    probe.body.utf8ByteSize + identityGrowth eventID sequence ≤ maxPayloadBytes ∧
      body = (readdress eventID sequence probe).body ∨
    maxPayloadBytes < probe.body.utf8ByteSize + identityGrowth eventID sequence ∧
      body = (metadataOnly (readdress eventID sequence probe)).body := by
  have size : (readdress eventID sequence probe).body.utf8ByteSize = _ :=
    finalized_size uuid found
  rw [finalizeDraft_eq found] at made
  cases finalized : finalizeEnvelope (readdress eventID sequence probe) with
  | error err =>
    rw [finalized] at made
    cases made
  | ok result =>
    rw [finalized] at made
    simp only [Except.map,Except.ok.injEq] at made
    rcases finalizeEnvelope_cases finalized with ⟨small,same,-⟩ | ⟨large,same,-⟩
    · exact .inl ⟨by omega,by rw [← made,same]⟩
    · exact .inr ⟨by omega,by rw [← made,same]⟩

theorem draftOf_finalize (C : Codec) (i : DraftInput) (oversized : Bool) :
    (draftOf C i oversized).finalize = finalizeDraft C i := rfl

include found in
theorem finalizeDraft_fits (small : (readdress eventID sequence probe).body.utf8ByteSize ≤ maxPayloadBytes) :
    (draftOf C i false).finalize eventID sequence = .ok (readdress eventID sequence probe).body := by
  rw [draftOf_finalize,finalizeDraft_eq found,finalizeEnvelope,if_pos small]
  rfl

include found in
theorem finalizeDraft_metadata (large : ¬ (readdress eventID sequence probe).body.utf8ByteSize ≤ maxPayloadBytes)
    (bounded : (metadataOnly (readdress eventID sequence probe)).body.utf8ByteSize
      ≤ maxUnavailableEventBytes) :
    (draftOf C i false).finalize eventID sequence =
      .ok (metadataOnly (readdress eventID sequence probe)).body := by
  rw [draftOf_finalize,finalizeDraft_eq found,finalizeEnvelope,if_neg large]
  simp only [if_neg (Nat.not_lt.mpr bounded)]
  rfl

/-- The stored flags are the ones the stored body states, unless the probe
    fits the limit and the body does not. -/
theorem row_body_agreement (C : Codec) (i : DraftInput) (d : EventDraft)
    (built : buildEventDraftForWebhook C i = .ok d) (eventID : String) (sequence : Nat)
    (uuid : eventID.length = 36) (body : String) (made : d.finalize eventID sequence = .ok body) :
    Carries (pendingRow C.toPlatform d eventID sequence body).bodyJSON
        (pendingRow C.toPlatform d eventID sequence body).stateAvailable
        (pendingRow C.toPlatform d eventID sequence body).authoritative ↔
      ¬ (i.projection.available = true ∧ probeSize C i ≤ maxPayloadBytes ∧
        maxPayloadBytes < probeSize C i + identityGrowth eventID sequence) := by
  obtain ⟨probe,found,rfl⟩ := buildEventDraft_cases built
  have size : probeSize C i = probe.body.utf8ByteSize := by rw [probeSize,found]
  obtain ⟨-,-,available,authoritative⟩ := buildEnvelope_fields found
  simp only [DraftInput.params] at available authoritative
  simp only [pendingRow,draftOf] at made ⊢
  rw [size]
  rcases finalizeDraft_cases uuid found made with ⟨small,rfl⟩ | ⟨large,rfl⟩
  · -- The body fits, and so did the shorter probe: both state the projection's flags.
    have fits : ¬ maxPayloadBytes < probe.body.utf8ByteSize := by omega
    rw [carries_iff,decide_eq_false fits]
    refine iff_of_true ⟨?_,?_⟩ ?_
    · simp [readdress,available]
    · simp [readdress,authoritative]
    · rintro ⟨-,-,large⟩
      omega
  · rw [carries_iff]
    simp only [metadataOnly]
    by_cases big : maxPayloadBytes < probe.body.utf8ByteSize
    · rw [decide_eq_true big]
      simp only [Bool.not_true,Bool.and_false,true_and,true_iff]
      omega
    · rw [decide_eq_false big]
      cases i.projection.available <;> simp
      omega

def sampleDigest : String := "233e568d9b54e4ee0e7d2f8104c4927b928a82cba5b1ef4546bc9339be223cc5"

def sampleCodec : Codec where
  formatTime _ := "2026-01-02T03:04:05Z"
  parseTime _ := .ok 1767323045000000000
  quote text := text
  sha256Hex _ := sampleDigest
  unmarshalSnapshot _ := .error "unexpected end of JSON input"

def sampleOperation : OperationMetadata where
  workflowID := "6ba7b810-9dad-41d1-80b4-00c04fd430c8"
  operation := .deploy
  result := .success
  requestedComponents := ["freeipa-identity"]
  executedComponents := ["freeipa-identity"]
  completedComponents := ["freeipa-identity"]
  failedComponent := ""
  effects := []
  deliveryRuns := []
  startedAt := 1767323045000000000
  finishedAt := 1767323045000000000
  applicationConsistency := "confirmed_for_effects"
  confirmedEffects := []
  subject := none
  failure := none

def sampleSnapshot (n : Nat) : UserHostAccessSnapshotV1 :=
  { emptySnapshot with
    hosts := [⟨"inventory:web-1",String.ofList (replicate n 'a'),"inventory","","","",[],"",
      none⟩] }

def sampleInput (n : Nat) : DraftInput where
  workspaceKey := "/srv/ops"
  sourceID := "ops"
  pilotVersion := "1.0.0"
  webhookName := "audit"
  payload := .snapshot
  workflowID := sampleOperation.workflowID
  op := sampleOperation
  projection := ⟨true,none,sampleSnapshot n⟩
  base := ⟨"",""⟩
  bootstrap := true
  authoritativeCandidate := true
  now := 1767323045000000000

def sampleProbe (n : Nat) : Envelope where
  schemaVersion := 1
  eventID := zeroEventID
  eventType := "pilot.operation.terminal"
  createdAt := "2026-01-02T03:04:05Z"
  source := ⟨"ops","1.0.0"⟩
  subscription := ⟨"audit",(0 : Nat)⟩
  operation :=
    { workflowID := sampleOperation.workflowID
      type := "deploy"
      result := "success"
      requestedComponents := ["freeipa-identity"]
      executedComponents := ["freeipa-identity"]
      completedComponents := ["freeipa-identity"]
      failedComponent := ""
      effects := []
      deliveryRuns := []
      startedAt := "2026-01-02T03:04:05Z"
      finishedAt := "2026-01-02T03:04:05Z"
      subject := none }
  state :=
    { projection := "user_host_access_v1"
      projectionVersion := 1
      requestedPayload := "snapshot"
      available := true
      basis := "pilot_declared"
      sourceComplete := true
      applicationConsistency := "confirmed_for_effects"
      confirmedEffects := []
      authoritative := true
      snapshotID := "sha256:" ++ sampleDigest
      baseSnapshotID := ""
      errorClass := "" }
  snapshot := some ((sampleSnapshot n).json sampleCodec.toPlatform)
  diff := none
  failure := none

theorem sampleProbe_built :
    buildEnvelope sampleCodec ((sampleInput n).params zeroEventID 0) = .ok (sampleProbe n) := by
  have canonical : canonicalizeSnapshot (sampleSnapshot n) = sampleSnapshot n := by
    simp [canonicalizeSnapshot,sampleSnapshot,emptySnapshot,sortBy,sortedOrEmpty,ProjectedHost.canonical]
  have unsorted : sortedOrEmpty [] = [] := by simp [sortedOrEmpty]
  have id : snapshotID sampleCodec.toPlatform (sampleSnapshot n) = "sha256:" ++ sampleDigest := by
    rw [snapshotID,sampleCodec]
  simp only [buildEnvelope,sampleInput,DraftInput.params,frame,availableState,
    snapshotMessage,sampleOperation,canonical,unsorted,id]
  rfl

theorem replicate_bytes : bytes (quoted (String.ofList (replicate n 'a'))) = n + 2 := by
  have inside : bytes ((replicate n 'a').flatMap escape) = n := by
    induction n with
    | zero => rfl
    | succ n ih =>
      have one : bytes (escape 'a') = 1 := by decide
      simp only [replicate_succ,flatMap_cons,bytes_append,ih,one]
      omega
  have quote : Char.utf8Size '"' = 1 := by decide
  simp only [quoted,String.toList_ofList,Json.bytes_cons,Json.bytes_append,inside,Json.bytes_nil,quote]
  omega

theorem snapshot_size (env : Envelope) (v w : Json.Value) :
    ({ env with snapshot := some v } : Envelope).body.utf8ByteSize + bytes (Json.text w) =
      ({ env with snapshot := some w } : Envelope).body.utf8ByteSize + bytes (Json.text v) := by
  simp only [Envelope.body,Json.marshal,Json.bytes_ofList,Envelope.json,omitNil,id_eq,
    Json.text,Json.fieldsText,cons_append,nil_append,Json.bytes_cons,
    Json.bytes_append]
  omega

theorem sampleSnapshot_size :
    bytes (Json.text ((sampleSnapshot n).json sampleCodec.toPlatform)) =
      bytes (Json.text ((sampleSnapshot 0).json sampleCodec.toPlatform)) + n := by
  have size (m : Nat) := replicate_bytes m
  simp only [UserHostAccessSnapshotV1.json,sampleSnapshot,ProjectedHost.json,map_cons,
    cons_append,nil_append,Json.text,Json.fieldsText,Json.itemsText,
    Json.bytes_cons,Json.bytes_append,size]
  omega

theorem sampleProbe_size : (sampleProbe n).body.utf8ByteSize = 1082 + n := by
  have base : (sampleProbe 0).body.utf8ByteSize = 1082 := by
    rw [Envelope.body,Json.marshal,Json.bytes_ofList]
    decide +kernel
  have grown := sampleSnapshot_size n
  have swapped : (sampleProbe n).body.utf8ByteSize + _ = (sampleProbe 0).body.utf8ByteSize + _ :=
    snapshot_size (sampleProbe 0) _ _
  omega

def sampleEventID : String := "1b4e28ba-2fa1-4d0d-883f-0016d3cca427"

theorem sampleBody_size : (readdress sampleEventID 10 (sampleProbe n)).body.utf8ByteSize = 1083 + n := by
  have growth : identityGrowth sampleEventID 10 = 1 := by decide +kernel
  have size : (readdress sampleEventID 10 (sampleProbe n)).body.utf8ByteSize = _ :=
    finalized_size (by decide +kernel) (sampleProbe_built n)
  rw [growth,sampleProbe_size] at size
  rw [size]
  omega

theorem sampleMetadata_size :
    (metadataOnly (readdress sampleEventID 10 (sampleProbe n))).body.utf8ByteSize
      ≤ maxUnavailableEventBytes := by
  have same : metadataOnly (readdress sampleEventID 10 (sampleProbe n)) =
      metadataOnly (readdress sampleEventID 10 (sampleProbe 0)) := rfl
  rw [same,Envelope.body,marshal,bytes_ofList]
  decide +kernel

theorem sample_row_body : Carries (readdress sampleEventID 10 (sampleProbe 0)).body true true := by
  have small : (sampleProbe 0).body.utf8ByteSize ≤ maxPayloadBytes := by
    rw [sampleProbe_size]
    decide
  have fits : (readdress sampleEventID 10 (sampleProbe 0)).body.utf8ByteSize ≤ maxPayloadBytes := by
    rw [sampleBody_size]
    decide
  have agrees := row_body_agreement sampleCodec (sampleInput 0) _
    (buildEventDraft_fits (sampleProbe_built 0) small) sampleEventID 10 (by decide +kernel) _
    (finalizeDraft_fits (sampleProbe_built 0) fits)
  refine agrees.mpr ?_
  rintro ⟨-,-,large⟩
  have growth : identityGrowth sampleEventID 10 = 1 := by decide +kernel
  have size : probeSize sampleCodec (sampleInput 0) = 1082 := by
    rw [probeSize,sampleProbe_built]
    exact sampleProbe_size 0
  rw [growth,size] at large
  exact absurd large (by decide)

/-- A probe of exactly 8 MiB: the second digit of the tenth sequence takes the
    body over the limit, and an authoritative row gets a metadata-only body. -/
theorem tenth_event_disagrees :
    ∃ d body, buildEventDraftForWebhook sampleCodec (sampleInput 8387526) = .ok d ∧
      d.finalize sampleEventID 10 = .ok body ∧
      d.authoritative = true ∧ d.stateAvailable = true ∧ d.sourceComplete = true ∧
      Carries body false false ∧ ¬ Carries body d.stateAvailable d.authoritative := by
  have small : (sampleProbe 8387526).body.utf8ByteSize ≤ maxPayloadBytes := by
    rw [sampleProbe_size]
    decide
  have large : ¬ (readdress sampleEventID 10 (sampleProbe 8387526)).body.utf8ByteSize
      ≤ maxPayloadBytes := by
    rw [sampleBody_size]
    decide
  refine ⟨draftOf sampleCodec (sampleInput 8387526) false,_,
    buildEventDraft_fits (sampleProbe_built _) small,
    finalizeDraft_metadata (sampleProbe_built _) large (sampleMetadata_size _),rfl,rfl,rfl,
    ?_,?_⟩
  · exact (carries_iff _ _ _).mpr ⟨rfl,rfl⟩
  · intro carried
    exact absurd ((carries_iff _ _ _).mp carried).1 (by decide)

end Pilot.Outbound
