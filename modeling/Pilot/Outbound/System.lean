import Pilot.Library.Transition
import Pilot.Outbound.Outbox

/-!
Any number of processes sharing one outbox database. The world keeps every
claim that was ever handed out, and a log of the deliveries and resets an
observer of the database sees, read off the rows before and after each
transaction.
-/
namespace Pilot.Outbound
open Pilot.Table Pilot.Transition List Or

inductive Observation where
  | acknowledged (r : Row)
  | reset (w : Webhook)
  deriving DecidableEq, Repr

structure World where
  db : DB
  claims : List ClaimedEvent
  log : List Observation

def World.empty : World := ⟨⟨[],[]⟩,[],[]⟩

inductive Action where
  | enqueueBatch (drafts : List (EventDraft × String))
  | claimNextDue (req : ClaimRequest) (owner : String)
  | markDelivered (ack : DeliveryACK)
  | markAttemptFailed (fail : DeliveryFailure)
  | reconcileWebhookConfig (workspaceKey : String) (cfg : Config)

def commit {α : Type} (db : DB) : Except String (α × DB) → DB
  | .ok (_, db') => db'
  | .error _ => db

def transact (P : Platform) (db : DB) : Action → DB
  | .enqueueBatch drafts => commit db (enqueueBatch P db drafts)
  | .claimNextDue req owner => commit db (claimNextDue P db req owner)
  | .markDelivered ack => commit db (markDelivered P db ack)
  | .markAttemptFailed fail => commit db (markAttemptFailed P db fail)
  | .reconcileWebhookConfig workspaceKey cfg => reconcileWebhookConfig db workspaceKey cfg

def handedOut (P : Platform) (db : DB) : Action → List ClaimedEvent
  | .claimNextDue req owner =>
    match claimNextDue P db req owner with
    | .ok (some c, _) => [c]
    | _ => []
  | _ => []

def observeRow (before : List Row) (r : Row) : Option Observation :=
  match before.find? (ofEvent r.eventID) with
  | none => none
  | some old =>
    if old.state = r.state then none
    else if r.state = .delivered then some (.acknowledged r)
    else if r.state = .orphanedConfig then some (.reset r.webhook)
    else none

def observe (before after : List Row) : List Observation :=
  after.filterMap (observeRow before)

def act (P : Platform) (w : World) (a : Action) : World where
  db := transact P w.db a
  claims := w.claims ++ handedOut P w.db a
  log := w.log ++ observe w.db.outbox (transact P w.db a).outbox

/-- Claim owners are drawn fresh and non-empty; a completion names a
    non-empty owner. Nothing else is asked of a caller. -/
def allowed (w : World) : Action → Prop
  | .claimNextDue _ owner => owner ≠ "" ∧ owner ∉ w.claims.map ClaimedEvent.claimOwner
  | .markDelivered ack => ack.claimOwner ≠ ""
  | .markAttemptFailed fail => fail.claimOwner ≠ ""
  | _ => True

abbrev Step (P : Platform) := guarded allowed (act P)

abbrev Reachable (P : Platform) (labels : List Action) (w : World) : Prop :=
  Run (Step P) World.empty labels w

def TakenOver (w : World) (c : ClaimedEvent) : Prop :=
  ∃ front back later, w.claims = front ++ c :: back ∧ later ∈ back ∧ later.eventID = c.eventID

/-- The columns no operation ever rewrites. -/
structure Lineage where
  eventID : String
  webhook : Webhook
  sequence : Nat
  (workflowID projection : String)
  payloadMode : PayloadMode
  (authoritative stateAvailable sourceComplete : Bool)
  (baseSnapshotID targetSnapshotID : String)
  deriving DecidableEq

def Row.lineage (r : Row) : Lineage :=
  ⟨r.eventID,r.webhook,r.sequence,r.workflowID,r.projection,r.payloadMode,r.authoritative,
    r.stateAvailable,r.sourceComplete,r.baseSnapshotID,r.targetSnapshotID⟩

variable {r : Row} {w : Webhook}

section
variable (state : OutboxRowState) (r : Row)

@[simp] theorem lineage_settle : (settle state r).lineage = r.lineage := rfl

@[simp] theorem state_settle : (settle state r).state = state := rfl

@[simp] theorem claimOwner_settle : (settle state r).claimOwner = "" := rfl

end

section
variable (owner claimUntil : String) (r : Row)

@[simp] theorem lineage_startDelivery : (startDelivery owner claimUntil r).lineage = r.lineage := rfl

@[simp] theorem state_startDelivery : (startDelivery owner claimUntil r).state = .delivering := rfl

@[simp] theorem claimOwner_startDelivery : (startDelivery owner claimUntil r).claimOwner = owner := rfl

end

@[simp] theorem state_deliveredRow (now : String) (r : Row) : (deliveredRow now r).state = .delivered := rfl

theorem live_iff : live w r = true ↔ r.webhook = w ∧ r.state.terminal = false := by
  simp [live]

theorem ownedBy_iff : ownedBy eventID owner r = true ↔ r.eventID = eventID ∧ r.claimOwner = owner := by
  simp [ownedBy]

theorem ofEvent_iff : ofEvent eventID r = true ↔ r.eventID = eventID := by
  simp [ofEvent]

variable {rows : List Row}

theorem headOfLine_mem (head : headOfLine rows w = some r) :
    r ∈ rows ∧ r.webhook = w ∧ r.state.terminal = false := by
  have mem := argmin_mem (show r ∈ (rows.filter (live w)).argmin Row.sequence from head)
  obtain ⟨inRows,isLive⟩ := mem_filter.mp mem
  exact ⟨inRows,live_iff.mp isLive⟩

theorem headOfLine_lowest (head : headOfLine rows w = some r) (mem : s ∈ rows)
    (same : s.webhook = w) (lower : s.sequence < r.sequence) : s.state.terminal = true := by
  by_contra open_
  have isLive : s ∈ rows.filter (live w) :=
    mem_filter.mpr ⟨mem,live_iff.mpr ⟨same,by simpa using open_⟩⟩
  have least := le_of_mem_argmin isLive
    (show r ∈ (rows.filter (live w)).argmin Row.sequence from head)
  omega

variable {P : Platform}

theorem enqueueDraft_grows (ok : enqueueDraft P rows d uuid = .ok (rows', event)) :
    rows' = rows ∨ ∃ body,
      violatesUnique rows (pendingRow P d uuid (nextSequence rows d.webhook) body) = false ∧
      rows' = rows ++ [pendingRow P d uuid (nextSequence rows d.webhook) body] := by
  unfold enqueueDraft at ok
  split at ok
  · split at ok
    · cases ok
    · split at ok
      · cases ok
      · cases ok; exact inl rfl
  · dsimp only at ok
    split at ok
    · cases ok
    rename_i body _
    split at ok
    · cases ok
    · rename_i unique
      cases ok
      exact inr ⟨body,by simpa using unique,rfl⟩

variable {drafts : List (EventDraft × String)}

section
variable (keeps : List Row → Prop)
  (insert : ∀ rows d uuid body, (d,uuid) ∈ drafts → keeps rows →
    violatesUnique rows (pendingRow P d uuid (nextSequence rows d.webhook) body) = false →
    keeps (rows ++ [pendingRow P d uuid (nextSequence rows d.webhook) body]))
include insert

theorem enqueueDrafts_keeps (ok : enqueueDrafts P rows drafts = .ok (rows', events)) (first : keeps rows) :
    keeps rows' := by
  induction drafts generalizing rows events with
  | nil => cases ok; exact first
  | cons draft rest ih =>
    obtain ⟨d,uuid⟩ := draft
    unfold enqueueDrafts at ok
    split at ok
    · cases ok
    rename_i middle event one
    split at ok
    · cases ok
    rename_i last more tail
    cases ok
    refine ih (fun rows d uuid body mem => insert rows d uuid body (mem_cons_of_mem _ mem))
      tail ?_
    rcases enqueueDraft_grows one with same | ⟨body,unique,grown⟩
    · rw [same]; exact first
    · rw [grown]
      exact insert rows d uuid body mem_cons_self first unique

theorem transact_enqueueBatch (first : keeps db.outbox) :
    keeps (transact P db (.enqueueBatch drafts)).outbox ∧
      (transact P db (.enqueueBatch drafts)).cursors = db.cursors := by
  simp only [transact,enqueueBatch]
  cases ok : enqueueDrafts P db.outbox drafts with
  | error => exact ⟨first,rfl⟩
  | ok result => exact ⟨enqueueDrafts_keeps keeps insert ok first,rfl⟩

end

theorem claimNextDue_cases (P : Platform) (db : DB) (req : ClaimRequest) (owner : String) :
    (transact P db (.claimNextDue req owner) = db ∧
      handedOut P db (.claimNextDue req owner) = []) ∨
    ∃ r, headOfLine db.outbox req.webhook = some r ∧
      ((transact P db (.claimNextDue req owner) = { db with
          outbox := updateWhere (ofEvent r.eventID) (settle .blockedBaseMismatch) db.outbox } ∧
        handedOut P db (.claimNextDue req owner) = []) ∨
      ∃ claimUntil,
        (r.payloadMode = .diff → r.baseSnapshotID = cursorID db.cursors req.webhook r.projection) ∧
        transact P db (.claimNextDue req owner) = { db with
          outbox := updateWhere (ofEvent r.eventID) (startDelivery owner claimUntil) db.outbox } ∧
        handedOut P db (.claimNextDue req owner) = [claimedEvent P req r owner claimUntil]) := by
  simp only [transact,handedOut,claimNextDue]
  split
  · exact inl ⟨rfl,rfl⟩
  rename_i r head
  split
  · exact inl ⟨rfl,rfl⟩
  · exact inl ⟨rfl,rfl⟩
  split
  · exact inr ⟨r,head,inl ⟨rfl,rfl⟩⟩
  rename_i chained
  split
  · exact inl ⟨rfl,rfl⟩
  refine inr ⟨r,head,inr ⟨P.formatTime (req.now + req.lease),?_,rfl,rfl⟩⟩
  intro diff
  by_contra mismatch
  exact chained ⟨diff,mismatch⟩

theorem markDelivered_cases (P : Platform) (db : DB) (ack : DeliveryACK) :
    transact P db (.markDelivered ack) = db ∨
    ∃ r ∈ db.outbox, ownedBy ack.eventID ack.claimOwner r = true ∧ transact P db (.markDelivered ack) =
        ⟨updateWhere (ownedBy ack.eventID ack.claimOwner) (deliveredRow (P.formatTime ack.now)) db.outbox,
          if ack.authoritative && ack.stateAvailable && ack.sourceComplete then
            upsertCursor db.cursors
              ⟨r.workspaceKey,r.sourceID,r.webhookName,r.projection,r.targetSnapshotID,
                r.targetSnapshotJSON,ack.eventID,P.formatTime ack.now⟩
          else db.cursors⟩ := by
  simp only [transact,markDelivered]
  split
  · exact inl rfl
  rename_i r found
  split
  · exact inl rfl
  · exact inr ⟨r,mem_of_find?_eq_some found,find?_some found,rfl⟩

theorem markDelivered_stale {ack : DeliveryACK} (stale : ∀ r ∈ db.outbox, r.claimOwner ≠ ack.claimOwner) :
    transact P db (.markDelivered ack) = db := by
  rcases markDelivered_cases P db ack with same | ⟨r,mem,owned,_⟩
  · exact same
  · exact absurd (ownedBy_iff.mp owned).2 (stale r mem)

theorem markAttemptFailed_cases (P : Platform) (db : DB) (fail : DeliveryFailure) :
    transact P db (.markAttemptFailed fail) = db ∨
    ∃ (f : Row → Row) (attempts : Nat),
      (∃ r ∈ db.outbox, ownedBy fail.eventID fail.claimOwner r = true) ∧
      (f = deadLetterRow fail attempts ∨ f = retryRow P fail attempts) ∧
      transact P db (.markAttemptFailed fail) = { db with
        outbox := updateWhere (ownedBy fail.eventID fail.claimOwner) f db.outbox } := by
  simp only [transact,markAttemptFailed]
  split
  · exact inl rfl
  rename_i r found
  generalize (if fail.consumeAttempt = true then r.attemptCount + 1 else r.attemptCount) = attempts
  have owned : ∃ r ∈ db.outbox, ownedBy fail.eventID fail.claimOwner r = true :=
    ⟨r,mem_of_find?_eq_some found,find?_some found⟩
  split
  · exact inl rfl
  · split
    · exact inr ⟨_,attempts,owned,inl rfl,rfl⟩
    · exact inr ⟨_,attempts,owned,inr rfl,rfl⟩

theorem failed_shape (edit : f = deadLetterRow fail attempts ∨ f = retryRow P fail attempts) (r : Row) :
    (f r).lineage = r.lineage ∧ (f r).claimOwner = "" ∧
      ((f r).state = .deadLetter ∨ (f r).state = .pending) := by
  rcases edit with rfl | rfl
  · exact ⟨rfl,rfl,inl rfl⟩
  · exact ⟨rfl,rfl,inr rfl⟩

theorem markAttemptFailed_stale (stale : ∀ r ∈ db.outbox, r.claimOwner ≠ fail.claimOwner) :
    transact P db (.markAttemptFailed fail) = db := by
  rcases markAttemptFailed_cases P db fail with same | ⟨_,_,⟨r,mem,owned⟩,_⟩
  · exact same
  · exact absurd (ownedBy_iff.mp owned).2 (stale r mem)

def orphans (workspaceKey : String) (cfg : Config) (rows : List Row) (r : Row) : Bool :=
  (toOrphan rows workspaceKey cfg).any (fun w => live w r)

def pauses (workspaceKey : String) (cfg : Config) (r : Row) : Bool :=
  (configuredNames cfg).any (fun name => decide (enabledByName cfg name = some false) &&
    (live ⟨workspaceKey,cfg.sourceID,name⟩ r && r.state != .pausedConfig))

def resumes (workspaceKey : String) (cfg : Config) (r : Row) : Bool :=
  (configuredNames cfg).any (fun name => decide (enabledByName cfg name = some true) &&
    (decide (r.webhook = ⟨workspaceKey,cfg.sourceID,name⟩) && r.state == .pausedConfig))

def pausedRow (r : Row) : Row :=
  { r with state := .pausedConfig, claimOwner := "", claimUntil := none }

def resumedRow (r : Row) : Row := { r with state := .pending }

@[simp] theorem state_pausedRow (r : Row) : (pausedRow r).state = .pausedConfig := rfl

@[simp] theorem state_resumedRow (r : Row) : (resumedRow r).state = .pending := rfl

theorem foldl_orphanWebhook (ws : List Webhook) (db : DB) :
    ws.foldl orphanWebhook db =
      ⟨updateWhere (fun r => ws.any (fun w => live w r)) (settle .orphanedConfig) db.outbox,
        db.cursors.filter (fun c => decide (c.webhook ∉ ws))⟩ := by
  have outbox : (ws.foldl orphanWebhook db).outbox =
      ws.foldl (fun rows w => updateWhere (live w) (settle .orphanedConfig) rows) db.outbox := by
    induction ws generalizing db with
    | nil => rfl
    | cons w ws ih => simp only [foldl_cons,ih]; rfl
  have cursors : (ws.foldl orphanWebhook db).cursors =
      db.cursors.filter (fun c => decide (c.webhook ∉ ws)) := by
    clear outbox
    induction ws generalizing db with
    | nil => simp
    | cons w ws ih =>
      simp only [foldl_cons,ih,orphanWebhook,filter_filter]
      apply filter_congr
      intro c _
      simp [Bool.and_comm]
  rw [foldl_updateWhere (by simp [live,settle,OutboxRowState.terminal])] at outbox
  rw [← outbox,← cursors]

theorem updateWhere_gated (on : Prop) [Decidable on] (p : Row → Bool) (f : Row → Row) (rows : List Row) :
    (if on then updateWhere p f rows else rows) = updateWhere (fun r => decide on && p r) f rows := by
  split
  · rename_i yes
    simp [yes]
  · rename_i no
    exact (updateWhere_none (by simp [no])).symm

theorem foldl_pauseWebhook (workspaceKey : String) (cfg : Config) (rows : List Row) :
    (configuredNames cfg).foldl (pauseWebhook workspaceKey cfg) rows =
      updateWhere (pauses workspaceKey cfg) pausedRow rows := by
  unfold pauseWebhook
  simp only [updateWhere_gated]
  exact foldl_updateWhere (by simp) _ _

theorem foldl_resumeWebhook (workspaceKey : String) (cfg : Config) (rows : List Row) :
    (configuredNames cfg).foldl (resumeWebhook workspaceKey cfg) rows =
      updateWhere (resumes workspaceKey cfg) resumedRow rows := by
  unfold resumeWebhook
  simp only [updateWhere_gated]
  exact foldl_updateWhere (by simp) _ _

theorem reconcile_eq (db : DB) (workspaceKey : String) (cfg : Config) :
    reconcileWebhookConfig db workspaceKey cfg =
      ⟨updateWhere (resumes workspaceKey cfg) resumedRow
          (updateWhere (pauses workspaceKey cfg) pausedRow
            (updateWhere (orphans workspaceKey cfg db.outbox) (settle .orphanedConfig) db.outbox)),
        db.cursors.filter (fun c => decide (c.webhook ∉ toOrphan db.outbox workspaceKey cfg))⟩ := by
  simp only [reconcileWebhookConfig,foldl_orphanWebhook,foldl_pauseWebhook,foldl_resumeWebhook]
  rfl

theorem orphans_live (hit : orphans workspaceKey cfg rows r = true) :
    r.state.terminal = false ∧ r.webhook ∈ toOrphan rows workspaceKey cfg := by
  obtain ⟨w,mem,isLive⟩ := any_eq_true.mp hit
  obtain ⟨same,open_⟩ := live_iff.mp isLive
  exact ⟨open_,same ▸ mem⟩

theorem pauses_live (hit : pauses workspaceKey cfg r = true) : r.state.terminal = false := by
  obtain ⟨name,_,cond⟩ := any_eq_true.mp hit
  simp only [Bool.and_eq_true] at cond
  exact (live_iff.mp cond.2.1).2

theorem resumes_paused (hit : resumes workspaceKey cfg r = true) : r.state = .pausedConfig := by
  obtain ⟨name,_,cond⟩ := any_eq_true.mp hit
  simp only [Bool.and_eq_true,beq_iff_eq] at cond
  exact cond.2.2

end Pilot.Outbound
