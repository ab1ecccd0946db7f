import Pilot.Outbound.Fifo

/-!
The acknowledged cursor. Its value is read against the observation log: the
target of the last authoritative row seen to become delivered since the last
time the webhook was seen orphaned. Callers are the ones of the repository:
an acknowledgement copies the flags of the claim it answers, and a draft is
authoritative only when its state is available and its source complete.
-/
namespace Pilot.Outbound
open Pilot.Table Pilot.Transition List Cursor Row

def asCalled (w : World) : Action → Prop
  | .enqueueBatch drafts => ∀ d ∈ drafts,
    d.1.authoritative = true → d.1.stateAvailable = true ∧ d.1.sourceComplete = true
  | .markDelivered ack => ∃ c ∈ w.claims, ack.eventID = c.eventID ∧
    ack.claimOwner = c.claimOwner ∧ ack.authoritative = c.authoritative ∧
    ack.stateAvailable = c.stateAvailable ∧ ack.sourceComplete = c.sourceComplete
  | _ => True

abbrev ChainStep (P : Platform) := guarded (fun w a => allowed w a ∧ asCalled w a) (act P)

def acknowledge (hook : Webhook) (projection : String) (current : Option String) :
    Observation → Option String
  | .acknowledged r =>
    if r.webhook = hook ∧ r.projection = projection ∧ r.authoritative = true then
      some r.targetSnapshotID
    else current
  | .reset w => if w = hook then none else current

/-- The target of the last authoritative acknowledgement since the last reset. -/
def acknowledgedTarget (log : List Observation) (hook : Webhook) (projection : String) :
    Option String :=
  log.foldl (acknowledge hook projection) none

def cursorTarget (cursors : List Cursor) (hook : Webhook) (projection : String) : Option String :=
  (findCursor cursors hook projection).map Cursor.snapshotID

variable (cursors : List Cursor)

theorem cursorID_eq (hook : Webhook) (projection : String) :
    cursorID cursors hook projection = (cursorTarget cursors hook projection).getD "" := by
  unfold cursorID cursorTarget
  cases findCursor cursors hook projection with
  | none => rfl
  | some c => rfl

theorem keyed_iff {projection : String} {c : Cursor} :
    keyed hook projection c = true ↔ c.webhook = hook ∧ c.projection = projection := by
  simp [keyed]

theorem cursorTarget_upsert (new : Cursor) (hook : Webhook) (projection : String) :
    cursorTarget (upsertCursor cursors new) hook projection =
      if keyed hook projection new then some new.snapshotID
      else cursorTarget cursors hook projection := by
  unfold upsertCursor cursorTarget findCursor
  by_cases same : keyed hook projection new = true
  · obtain ⟨rfl,rfl⟩ := keyed_iff.mp same
    rw [if_pos same]
    split
    · rename_i present
      rw [find?_updateWhere (f := excluded new) (fun _ => rfl)]
      obtain ⟨c,mem,hit⟩ := any_eq_true.mp present
      cases found : cursors.find? (keyed new.webhook new.projection) with
      | none => exact absurd hit (find?_eq_none.mp found c mem)
      | some c' =>
        have hit' := find?_some found
        simp [hit',excluded]
    · rename_i absent
      have none_ : cursors.find? (keyed new.webhook new.projection) = none := by
        rw [find?_eq_none]
        intro c mem hit
        exact absent (any_eq_true.mpr ⟨c,mem,hit⟩)
      simp [find?_append,none_,same]
  · rw [if_neg same]
    split
    · rw [find?_updateWhere (f := excluded new) (fun _ => rfl)]
      cases found : cursors.find? (keyed hook projection) with
      | none => rfl
      | some c' =>
        have other : keyed new.webhook new.projection c' = false := by
          obtain ⟨hook',projection'⟩ := keyed_iff.mp (find?_some found)
          by_contra hit
          obtain ⟨hook'',projection''⟩ := keyed_iff.mp (by simpa using hit)
          exact same (keyed_iff.mpr ⟨hook''.symm.trans hook',projection''.symm.trans projection'⟩)
        simp [other]
    · simp [find?_append,same]

theorem cursorTarget_filter (drop : List Webhook) (hook : Webhook) (projection : String) :
    cursorTarget (cursors.filter (fun c => decide (c.webhook ∉ drop))) hook projection =
      if hook ∈ drop then none else cursorTarget cursors hook projection := by
  unfold cursorTarget findCursor
  rw [find?_filter]
  split
  · rename_i gone
    rw [Option.map_eq_none_iff,find?_eq_none]
    intro c _ hit
    simp only [decide_eq_true_eq] at hit
    exact hit.1 ((keyed_iff.mp hit.2).1 ▸ gone)
  · rename_i kept
    congr 2
    funext c
    by_cases hit : keyed hook projection c = true
    · have stays : c.webhook ∉ drop := (keyed_iff.mp hit).1 ▸ kept
      simp [hit,stays]
    · simp [hit]

theorem lineage_update (same : ∀ r, (f r).lineage = r.lineage) (rows : List Row) :
    (updateWhere p f rows).map lineage = rows.map lineage :=
  column_updateWhere lineage same rows

variable {a : Action} {rows : List Row} {r : Row} {w : World}

theorem lineage_transact (P : Platform) (db : DB) (other : ∀ drafts, a ≠ .enqueueBatch drafts) :
    (transact P db a).outbox.map lineage = db.outbox.map lineage := by
  cases a with
  | enqueueBatch drafts => exact absurd rfl (other drafts)
  | claimNextDue req owner =>
    rcases claimNextDue_cases P db req owner with
      ⟨same,_⟩ | ⟨r,_,⟨blocked,_⟩ | ⟨claimUntil,_,started,_⟩⟩
    · rw [same]
    · rw [blocked]; exact lineage_update (lineage_settle _) _
    · rw [started]; exact lineage_update (lineage_startDelivery owner claimUntil) _
  | markDelivered ack =>
    rcases markDelivered_cases P db ack with same | ⟨r,_,_,eq⟩
    · rw [same]
    · rw [eq]; exact lineage_update (f := deliveredRow _) (fun _ => rfl) _
  | markAttemptFailed fail =>
    rcases markAttemptFailed_cases P db fail with same | ⟨f,_,_,edit,eq⟩
    · rw [same]
    · rw [eq]; exact lineage_update (fun r => (failed_shape edit r).1) _
  | reconcileWebhookConfig workspaceKey cfg =>
    simp only [transact,reconcile_eq]
    rw [lineage_update (f := resumedRow) (fun _ => rfl),
      lineage_update (f := pausedRow) (fun _ => rfl),lineage_update (lineage_settle _)]

/-- No row of the new table is seen to become delivered or orphaned. -/
def Quiet (before after : List Row) : Prop :=
  ∀ r ∈ after, r ∈ before ∨ (r.state ≠ .delivered ∧ r.state ≠ .orphanedConfig)

theorem observe_quiet {before after : List Row} (ids : (before.map eventID).Nodup)
    (quiet : Quiet before after) : observe before after = [] := by
  rw [observe,filterMap_eq_nil_iff]
  intro r mem
  unfold observeRow
  split
  · rfl
  rename_i old found
  rcases quiet r mem with kept | ⟨notDelivered,notOrphaned⟩
  · have same : old = r := unique_row ids (mem_of_find?_eq_some found) kept
      (ofEvent_iff.mp (find?_some found))
    simp [same]
  · simp [notDelivered,notOrphaned]

theorem quiet_update (state : ∀ r, (f r).state ≠ .delivered ∧ (f r).state ≠ .orphanedConfig) :
    Quiet rows (updateWhere p f rows) := by
  intro r mem
  rcases mem_updateWhere.mp mem with ⟨old,_,_,rfl⟩ | ⟨inRows,_⟩
  · exact Or.inr (state old)
  · exact Or.inl inRows

structure Chained (w : World) : Prop where
  sound : Sound w
  rowFlags : ∀ r ∈ w.db.outbox, r.authoritative = true →
    r.stateAvailable = true ∧ r.sourceComplete = true
  claimFlags : ∀ c ∈ w.claims, ∃ r ∈ w.db.outbox, r.eventID = c.eventID ∧
    r.authoritative = c.authoritative ∧ r.stateAvailable = c.stateAvailable ∧
    r.sourceComplete = c.sourceComplete
  base : ∀ r ∈ w.db.outbox, r.state = .delivering → r.payloadMode = .diff →
    r.baseSnapshotID = cursorID w.db.cursors r.webhook r.projection
  cursor : ∀ hook projection, cursorTarget w.db.cursors hook projection =
    acknowledgedTarget w.log hook projection

theorem mem_of_lineage {rows' : List Row} (same : rows'.map lineage = rows.map lineage)
    (mem : r ∈ rows') : ∃ old ∈ rows, old.lineage = r.lineage := by
  have listed : r.lineage ∈ rows'.map lineage := mem_map_of_mem mem
  rw [same] at listed
  exact mem_map.mp listed

theorem rowFlags_act (P : Platform) (chained : Chained w)
    (called : asCalled w a) : ∀ r ∈ (act P w a).db.outbox, r.authoritative = true →
      r.stateAvailable = true ∧ r.sourceComplete = true := by
  by_cases enqueue : ∃ drafts, a = .enqueueBatch drafts
  · obtain ⟨drafts,rfl⟩ := enqueue
    refine (transact_enqueueBatch (fun rows => ∀ r ∈ rows, r.authoritative = true →
      r.stateAvailable = true ∧ r.sourceComplete = true) ?_ chained.rowFlags).1
    intro rows d uuid body mem flags _ r inRows
    rcases mem_append.mp inRows with old | new
    · exact flags r old
    · simp only [mem_singleton] at new
      rw [new]
      exact called (d,uuid) mem
  · intro r mem authoritative
    obtain ⟨old,inRows,same⟩ := mem_of_lineage
      (lineage_transact P w.db (fun drafts eq => enqueue ⟨drafts,eq⟩)) mem
    simp only [lineage,Lineage.mk.injEq] at same
    have flags := chained.rowFlags old inRows
    simp only [same] at flags
    exact flags authoritative

theorem lineage_survives (P : Platform) (db : DB) (a : Action) (mem : r ∈ db.outbox) :
    ∃ s ∈ (transact P db a).outbox, s.lineage = r.lineage := by
  by_cases enqueue : ∃ drafts, a = .enqueueBatch drafts
  · obtain ⟨drafts,rfl⟩ := enqueue
    have kept : r ∈ (transact P db (.enqueueBatch drafts)).outbox :=
      (transact_enqueueBatch (fun rows => r ∈ rows)
        (fun _ _ _ _ _ inRows _ => mem_append_left _ inRows) mem).1
    exact ⟨r,kept,rfl⟩
  · have same := lineage_transact P db (fun drafts eq => enqueue ⟨drafts,eq⟩)
    exact mem_of_lineage same.symm mem

theorem claimFlags_act (P : Platform) (chained : Chained w)
    (ok : allowed w a) : ∀ c ∈ (act P w a).claims, ∃ r ∈ (act P w a).db.outbox,
      r.eventID = c.eventID ∧ r.authoritative = c.authoritative ∧
      r.stateAvailable = c.stateAvailable ∧ r.sourceComplete = c.sourceComplete := by
  have carry : ∀ c : ClaimedEvent, (∃ r ∈ w.db.outbox, r.eventID = c.eventID ∧
      r.authoritative = c.authoritative ∧ r.stateAvailable = c.stateAvailable ∧
      r.sourceComplete = c.sourceComplete) → ∃ r ∈ (act P w a).db.outbox,
      r.eventID = c.eventID ∧ r.authoritative = c.authoritative ∧
      r.stateAvailable = c.stateAvailable ∧ r.sourceComplete = c.sourceComplete := by
    rintro c ⟨r,mem,flags⟩
    obtain ⟨s,inRows,same⟩ := lineage_survives P w.db a mem
    simp only [lineage,Lineage.mk.injEq] at same
    exact ⟨s,inRows,by simp only [same]; exact flags⟩
  intro c mem
  rcases mem_append.mp mem with old | new
  · exact carry c (chained.claimFlags c old)
  apply carry
  rcases moves_or_start P chained.sound.fifo ok with
    ⟨_,nothing⟩ | ⟨r,owner,⟨req,claimUntil,rfl,head,_,_,claim⟩⟩
  · simp [nothing] at new
  · rw [claim,mem_singleton] at new
    rw [new]
    exact ⟨r,(headOfLine_mem head).1,rfl,rfl,rfl,rfl⟩

theorem quiet_transact (P : Platform) (db : DB) (notAck : ∀ ack, a ≠ .markDelivered ack)
    (notReconcile : ∀ workspaceKey cfg, a ≠ .reconcileWebhookConfig workspaceKey cfg) :
    (transact P db a).cursors = db.cursors ∧ Quiet db.outbox (transact P db a).outbox := by
  cases a with
  | enqueueBatch drafts =>
    refine (transact_enqueueBatch (Quiet db.outbox) ?_ (fun r mem => Or.inl mem)).symm
    intro rows d uuid body _ quiet _ r mem
    rcases mem_append.mp mem with old | new
    · exact quiet r old
    · simp only [mem_singleton] at new
      rw [new]
      exact Or.inr ⟨by simp [pendingRow],by simp [pendingRow]⟩
  | claimNextDue req owner =>
    rcases claimNextDue_cases P db req owner with
      ⟨same,_⟩ | ⟨r,_,⟨blocked,_⟩ | ⟨claimUntil,_,started,_⟩⟩
    · rw [same]; exact ⟨rfl,fun r mem => Or.inl mem⟩
    · rw [blocked]; exact ⟨rfl,quiet_update (fun _ => by simp)⟩
    · rw [started]; exact ⟨rfl,quiet_update (fun _ => by simp)⟩
  | markDelivered ack => exact absurd rfl (notAck ack)
  | markAttemptFailed fail =>
    rcases markAttemptFailed_cases P db fail with same | ⟨f,_,_,edit,eq⟩
    · rw [same]; exact ⟨rfl,fun r mem => Or.inl mem⟩
    rw [eq]
    refine ⟨rfl,quiet_update (fun r => ?_)⟩
    obtain ⟨_,_,dead | waiting⟩ := failed_shape edit r
    · simp [dead]
    · simp [waiting]
  | reconcileWebhookConfig workspaceKey cfg => exact absurd rfl (notReconcile workspaceKey cfg)

theorem find?_ofEvent (ids : (rows.map eventID).Nodup)
    (mem : r ∈ rows) : rows.find? (ofEvent r.eventID) = some r := by
  cases found : rows.find? (ofEvent r.eventID) with
  | none => exact absurd (ofEvent_iff.mpr rfl) (find?_eq_none.mp found r mem)
  | some s =>
    rw [unique_row ids (mem_of_find?_eq_some found) mem (ofEvent_iff.mp (find?_some found))]

theorem observe_delivered (fifo : Fifo rows) {eventID owner now : String}
    (named : owner ≠ "") (mem : r ∈ rows) (owned : ownedBy eventID owner r = true) :
    observe rows (updateWhere (ownedBy eventID owner) (deliveredRow now) rows) =
      [.acknowledged (deliveredRow now r)] := by
  rw [observe,updateWhere,filterMap_map]
  refine filterMap_single (Nodup.of_map _ fifo.ids) mem ?_ ?_
  · have delivering := owned_delivering fifo named mem owned
    have found : rows.find? (ofEvent (deliveredRow now r).eventID) = some r :=
      find?_ofEvent fifo.ids mem
    simp [owned,observeRow,found,delivering]
  · intro s inRows other
    have skip : ownedBy eventID owner s = false := by
      by_contra hit
      have ownedS := ownedBy_iff.mp (by simpa using hit)
      exact other (unique_row fifo.ids inRows mem (ownedS.1.trans (ownedBy_iff.mp owned).1.symm))
    simp [skip,observeRow,find?_ofEvent fifo.ids inRows]

def reconcileRow (workspaceKey : String) (cfg : Config) (rows : List Row) (r : Row) : Row :=
  let orphaned := if orphans workspaceKey cfg rows r then settle .orphanedConfig r else r
  let paused := if pauses workspaceKey cfg orphaned then pausedRow orphaned else orphaned
  if resumes workspaceKey cfg paused then resumedRow paused else paused

theorem lineage_reconcileRow (workspaceKey : String) (cfg : Config) (rows : List Row) (r : Row) :
    (reconcileRow workspaceKey cfg rows r).lineage = r.lineage := by
  unfold reconcileRow
  dsimp only
  split <;> split <;> split <;> rfl

theorem reconcile_rows (db : DB) (workspaceKey : String) (cfg : Config) :
    (reconcileWebhookConfig db workspaceKey cfg).outbox =
      db.outbox.map (reconcileRow workspaceKey cfg db.outbox) := by
  rw [reconcile_eq]
  simp only [updateWhere,map_map]
  rfl

variable {workspaceKey : String} {cfg : Config}

theorem reconcileRow_orphaned (hit : orphans workspaceKey cfg rows r = true) :
    reconcileRow workspaceKey cfg rows r = settle .orphanedConfig r := by
  have notPaused : pauses workspaceKey cfg (settle .orphanedConfig r) = false := by
    by_contra paused
    have open_ := pauses_live (by simpa using paused)
    cases open_
  have notResumed : resumes workspaceKey cfg (settle .orphanedConfig r) = false := by
    by_contra resumed
    have isPaused := resumes_paused (by simpa using resumed)
    cases isPaused
  simp [reconcileRow,hit,notPaused,notResumed]

theorem reconcileRow_kept (miss : orphans workspaceKey cfg rows r = false) :
    reconcileRow workspaceKey cfg rows r = r ∨
      (reconcileRow workspaceKey cfg rows r).state = .pausedConfig ∨
      (reconcileRow workspaceKey cfg rows r).state = .pending := by
  simp only [reconcileRow,miss]
  by_cases paused : pauses workspaceKey cfg r = true
  · by_cases resumed : resumes workspaceKey cfg (pausedRow r) = true
    · exact Or.inr (Or.inr (by simp [paused,resumed]))
    · exact Or.inr (Or.inl (by simp [paused,resumed]))
  · by_cases resumed : resumes workspaceKey cfg r = true
    · exact Or.inr (Or.inr (by simp [paused,resumed]))
    · exact Or.inl (by simp [paused,resumed])

theorem toOrphan_live (mem : hook ∈ toOrphan rows workspaceKey cfg) :
    ∃ r ∈ rows, r.webhook = hook ∧ r.state.terminal = false := by
  obtain ⟨listed,_⟩ := mem_filter.mp mem
  obtain ⟨r,inFilter,same⟩ := mem_map.mp (mem_dedup.mp listed)
  obtain ⟨inRows,cond⟩ := mem_filter.mp inFilter
  simp only [Bool.and_eq_true,Bool.not_eq_true'] at cond
  exact ⟨r,inRows,same,cond.2⟩

theorem orphans_of_mem (listed : r.webhook ∈ toOrphan rows workspaceKey cfg)
    (open_ : r.state.terminal = false) : orphans workspaceKey cfg rows r = true :=
  any_eq_true.mpr ⟨r.webhook,listed,live_iff.mpr ⟨rfl,open_⟩⟩

theorem observe_reconcile (ids : (rows.map eventID).Nodup) (workspaceKey : String) (cfg : Config) :
    (∀ o ∈ observe rows (rows.map (reconcileRow workspaceKey cfg rows)), ∃ hook, o = .reset hook) ∧
    ∀ hook, .reset hook ∈ observe rows (rows.map (reconcileRow workspaceKey cfg rows)) ↔
      hook ∈ toOrphan rows workspaceKey cfg := by
  -- what one row of the table shows
  have shows : ∀ r ∈ rows, observeRow rows (reconcileRow workspaceKey cfg rows r) =
      if orphans workspaceKey cfg rows r then some (.reset r.webhook) else none := by
    intro r mem
    by_cases hit : orphans workspaceKey cfg rows r = true
    · have found : rows.find? (ofEvent (settle .orphanedConfig r).eventID) = some r :=
        find?_ofEvent ids mem
      have open_ := (orphans_live hit).1
      have changed : r.state ≠ .orphanedConfig := by
        intro same
        rw [same] at open_
        cases open_
      simp only [reconcileRow_orphaned hit,observeRow,found,hit,state_settle,changed]
      rfl
    · have miss : orphans workspaceKey cfg rows r = false := by simpa using hit
      have found : rows.find? (ofEvent (reconcileRow workspaceKey cfg rows r).eventID) = some r := by
        rw [eventID_of_lineage (lineage_reconcileRow workspaceKey cfg rows r)]
        exact find?_ofEvent ids mem
      rcases reconcileRow_kept miss with kept | paused | resumed
      · simp [observeRow,miss,kept,find?_ofEvent ids mem]
      · simp [observeRow,miss,found,paused]
      · simp [observeRow,miss,found,resumed]
  have listed : ∀ o, o ∈ observe rows (rows.map (reconcileRow workspaceKey cfg rows)) ↔
      ∃ r ∈ rows, orphans workspaceKey cfg rows r = true ∧ o = .reset r.webhook := by
    intro o
    rw [observe,filterMap_map,mem_filterMap]
    constructor
    · rintro ⟨r,mem,seen⟩
      simp only [Function.comp,shows r mem] at seen
      split at seen
      · rename_i hit
        cases seen
        exact ⟨r,mem,hit,rfl⟩
      · cases seen
    · rintro ⟨r,mem,hit,rfl⟩
      exact ⟨r,mem,by simp [shows r mem,hit]⟩
  refine ⟨?_,?_⟩
  · intro o mem
    obtain ⟨r,_,_,eq⟩ := (listed o).mp mem
    exact ⟨r.webhook,eq⟩
  intro hook
  rw [listed]
  constructor
  · rintro ⟨r,_,hit,eq⟩
    cases eq
    exact (orphans_live hit).2
  · intro mem
    obtain ⟨r,inRows,rfl,open_⟩ := toOrphan_live mem
    exact ⟨r,inRows,orphans_of_mem mem open_,rfl⟩

theorem acknowledgedTarget_resets (resets : ∀ o ∈ obs, ∃ w, o = .reset w) (hook : Webhook)
    (projection : String) :
    acknowledgedTarget (log ++ obs) hook projection =
      if .reset hook ∈ obs then none else acknowledgedTarget log hook projection := by
  unfold acknowledgedTarget
  rw [foldl_append]
  generalize log.foldl (acknowledge hook projection) none = current
  induction obs generalizing current with
  | nil => simp
  | cons o obs ih =>
    obtain ⟨w,rfl⟩ := resets o mem_cons_self
    rw [foldl_cons,ih (fun o mem => resets o (mem_cons_of_mem _ mem))]
    by_cases same : w = hook
    · simp [acknowledge,same]
    have other : Observation.reset hook ≠ .reset w := by
      intro eq
      cases eq
      exact same rfl
    simp [acknowledge,same,other]

theorem cursors_reconcile (P : Platform) (db : DB) (workspaceKey : String) (cfg : Config)
    (hook : Webhook) (projection : String) :
    cursorTarget (transact P db (.reconcileWebhookConfig workspaceKey cfg)).cursors hook projection =
      if hook ∈ toOrphan db.outbox workspaceKey cfg then none
      else cursorTarget db.cursors hook projection := by
  simp only [transact,reconcile_eq]
  exact cursorTarget_filter db.cursors _ hook projection

theorem ack_flags {ack : DeliveryACK} (chained : Chained w) (called : asCalled w (.markDelivered ack))
    (mem : r ∈ w.db.outbox) (owned : ownedBy ack.eventID ack.claimOwner r = true) :
    (ack.authoritative && ack.stateAvailable && ack.sourceComplete) = r.authoritative := by
  obtain ⟨c,inClaims,event,_,flags⟩ := called
  obtain ⟨s,inRows,sameEvent,sAuth,sAvail,sComplete⟩ := chained.claimFlags c inClaims
  have same : s = r := unique_row chained.sound.fifo.ids inRows mem
    (sameEvent.trans (event.symm.trans (ownedBy_iff.mp owned).1.symm))
  subst same
  rw [flags.1,flags.2.1,flags.2.2,← sAuth,← sAvail,← sComplete]
  cases auth : s.authoritative with
  | false => rfl
  | true =>
    obtain ⟨avail,complete⟩ := chained.rowFlags s mem auth
    simp [avail,complete]

theorem cursor_act (P : Platform) (chained : Chained w)
    (ok : allowed w a) (called : asCalled w a) (hook : Webhook) (projection : String) :
    cursorTarget (act P w a).db.cursors hook projection =
      acknowledgedTarget (act P w a).log hook projection := by
  have ids := chained.sound.fifo.ids
  by_cases isAck : ∃ ack, a = .markDelivered ack
  · obtain ⟨ack,rfl⟩ := isAck
    rcases markDelivered_cases P w.db ack with same | ⟨r,mem,owned,eq⟩
    · simp only [act,same,observe_quiet ids (fun r mem => Or.inl mem),append_nil]
      exact chained.cursor hook projection
    have flags := ack_flags chained called mem owned
    simp only [act,eq,observe_delivered chained.sound.fifo ok mem owned]
    unfold acknowledgedTarget
    rw [foldl_append]
    rw [flags]
    have before := chained.cursor hook projection
    unfold acknowledgedTarget at before
    rw [← before]
    have columns : (deliveredRow (P.formatTime ack.now) r).webhook = r.webhook ∧
        (deliveredRow (P.formatTime ack.now) r).projection = r.projection ∧
        (deliveredRow (P.formatTime ack.now) r).authoritative = r.authoritative := ⟨rfl,rfl,rfl⟩
    simp only [foldl_cons,foldl_nil,acknowledge,columns]
    cases auth : r.authoritative with
    | false => simp
    | true =>
      simp only [if_true,cursorTarget_upsert,keyed_iff,and_true]
      rfl
  · by_cases isReconcile : ∃ workspaceKey cfg, a = .reconcileWebhookConfig workspaceKey cfg
    · obtain ⟨workspaceKey,cfg,rfl⟩ := isReconcile
      obtain ⟨resets,which⟩ := observe_reconcile ids workspaceKey cfg
      have log : (act P w (.reconcileWebhookConfig workspaceKey cfg)).log = w.log ++
          observe w.db.outbox (w.db.outbox.map (reconcileRow workspaceKey cfg w.db.outbox)) := by
        simp only [act,transact,reconcile_rows]
      rw [log,acknowledgedTarget_resets resets]
      simp only [act,cursors_reconcile,which,chained.cursor]
    · obtain ⟨same,quiet⟩ := quiet_transact P w.db
        (fun ack eq => isAck ⟨ack,eq⟩) (fun key cfg eq => isReconcile ⟨key,cfg,eq⟩)
      simp only [act,same,observe_quiet ids quiet,append_nil]
      exact chained.cursor hook projection

variable {P : Platform}

theorem delivering_before (sound : Sound w) (moves : Moves P w.db.outbox (transact P w.db a).outbox)
    (mem : r ∈ (transact P w.db a).outbox) (delivering : r.state = .delivering) : r ∈ w.db.outbox :=
  owner_moves moves mem (((fifo_moves sound.fifo moves).owner r mem).mpr delivering)

theorem cursor_of_delivering (sound : Sound w) (ok : allowed w a) (before : r ∈ w.db.outbox)
    (after : r ∈ (transact P w.db a).outbox) (delivering : r.state = .delivering)
    (projection : String) :
    cursorID (transact P w.db a).cursors r.webhook projection =
      cursorID w.db.cursors r.webhook projection := by
  rw [cursorID_eq,cursorID_eq]
  by_cases isAck : ∃ ack, a = .markDelivered ack
  · obtain ⟨ack,rfl⟩ := isAck
    rcases markDelivered_cases P w.db ack with same | ⟨s,mem,owned,eq⟩
    · rw [same]
    rw [eq] at after ⊢
    have apart : s.webhook ≠ r.webhook := by
      intro hook
      have isS : r = s := delivering_unique sound.fifo before mem delivering
        (owned_delivering sound.fifo ok mem owned) hook.symm
      rcases mem_updateWhere.mp after with ⟨old,_,_,rewritten⟩ | ⟨_,skipped⟩
      · rw [← rewritten] at delivering
        cases delivering
      · rw [isS,owned] at skipped
        cases skipped
    split
    · rw [cursorTarget_upsert,if_neg]
      intro hit
      exact apart (keyed_iff.mp hit).1
    · rfl
  · by_cases isReconcile : ∃ workspaceKey cfg, a = .reconcileWebhookConfig workspaceKey cfg
    · obtain ⟨workspaceKey,cfg,rfl⟩ := isReconcile
      rw [cursors_reconcile,if_neg]
      intro listed
      have open_ : r.state.terminal = false := by rw [delivering]; rfl
      have hit := orphans_of_mem listed open_
      -- the row itself would have become orphaned
      have settled : settle .orphanedConfig r ∈
          (transact P w.db (.reconcileWebhookConfig workspaceKey cfg)).outbox := by
        simp only [transact,reconcile_rows]
        exact mem_map.mpr ⟨r,before,reconcileRow_orphaned hit⟩
      have ids := (fifo_act (P := P) sound.fifo ok).ids
      have same := unique_row ids settled after rfl
      have orphaned : r.state = .orphanedConfig := by rw [← same]; rfl
      rw [delivering] at orphaned
      cases orphaned
    · rw [(quiet_transact P w.db (fun ack eq => isAck ⟨ack,eq⟩)
        (fun key cfg eq => isReconcile ⟨key,cfg,eq⟩)).1]

theorem base_act (P : Platform) (chained : Chained w)
    (ok : allowed w a) : ∀ r ∈ (act P w a).db.outbox, r.state = .delivering → r.payloadMode = .diff →
      r.baseSnapshotID = cursorID (act P w a).db.cursors r.webhook r.projection := by
  intro r after delivering diff
  rcases moves_or_start P chained.sound.fifo ok with
    ⟨moves,_⟩ | ⟨s,owner,⟨req,claimUntil,rfl,head,based,started,_⟩⟩
  · have before := delivering_before chained.sound moves after delivering
    rw [show (act P w a).db = transact P w.db a from rfl,
      cursor_of_delivering chained.sound ok before after delivering]
    exact chained.base r before delivering diff
  obtain ⟨inRows,hook,_⟩ := headOfLine_mem head
  simp only [act,started] at after ⊢
  rcases mem_updateWhere.mp after with ⟨old,memOld,hit,rfl⟩ | ⟨before,_⟩
  · have same : old = s := unique_row chained.sound.fifo.ids memOld inRows (ofEvent_iff.mp hit)
    subst same
    have webhook : (startDelivery owner claimUntil old).webhook = req.webhook := hook
    rw [webhook]
    exact based diff
  · exact chained.base r before delivering diff

theorem chained_empty : Chained World.empty :=
  ⟨sound_empty,by simp [World.empty],by simp [World.empty],by simp [World.empty],fun _ _ => rfl⟩

theorem chained_act (P : Platform) (chained : Chained w)
    (ok : allowed w a) (called : asCalled w a) : Chained (act P w a) :=
  ⟨sound_act P chained.sound ok,rowFlags_act P chained called,claimFlags_act P chained ok,
    base_act P chained ok,cursor_act P chained ok called⟩

theorem chained_run (run : Run (ChainStep P) World.empty labels w) : Chained w := by
  refine run_invariant Chained ?_ run chained_empty
  rintro w a _ chained ⟨⟨ok,called⟩,rfl⟩
  exact chained_act P chained ok called

/-- A diff being delivered always continues the acknowledged snapshot, and
    the cursor is the last authoritative acknowledgement since the last reset. -/
theorem outbox_cursor_chain {P : Platform} {labels : List Action} {w : World}
    (run : Run (ChainStep P) World.empty labels w) :
    (∀ r ∈ w.db.outbox, r.state = .delivering → r.payloadMode = .diff →
      r.baseSnapshotID = cursorID w.db.cursors r.webhook r.projection) ∧
    (∀ hook projection, cursorTarget w.db.cursors hook projection =
      acknowledgedTarget w.log hook projection) ∧
    (∀ ack, allowed w (.markDelivered ack) → asCalled w (.markDelivered ack) →
      ∀ r ∈ w.db.outbox, ownedBy ack.eventID ack.claimOwner r = true → r.authoritative = false →
      (transact P w.db (.markDelivered ack)).cursors = w.db.cursors) := by
  have chained := chained_run run
  refine ⟨chained.base,chained.cursor,?_⟩
  intro ack _ called r mem owned plain
  have flags := ack_flags chained called mem owned
  rcases markDelivered_cases P w.db ack with same | ⟨_,_,_,eq⟩
  · rw [same]
  · rw [eq,flags,plain]
    rfl

def sampleAck : DeliveryACK := ⟨"event-1","first",true,true,true,0⟩

def nextDraft : EventDraft :=
  { sampleDraft with
    workflowID := "rerun", baseSnapshotID := "sha256:1", targetSnapshotID := "sha256:2" }

def acknowledgedOnce : World := act epochPlatform claimed (.markDelivered sampleAck)
def enqueuedNext : World :=
  act epochPlatform acknowledgedOnce (.enqueueBatch [(nextDraft,"event-2")])
def claimedNext : World := act epochPlatform enqueuedNext (.claimNextDue sampleRequest "second")

theorem chain_claimedNext : Run (ChainStep epochPlatform) World.empty
    ([] ++ [.enqueueBatch [(sampleDraft,"event-1")]] ++ [.claimNextDue sampleRequest "first"] ++
      [.markDelivered sampleAck] ++ [.enqueueBatch [(nextDraft,"event-2")]] ++
      [.claimNextDue sampleRequest "second"]) claimedNext := by
  have drafted : Run (ChainStep epochPlatform) World.empty
      ([] ++ [.enqueueBatch [(sampleDraft,"event-1")]]) enqueued :=
    .next (.start _) ⟨⟨trivial,by simp [asCalled,sampleDraft]⟩,rfl⟩
  have first := Run.next drafted
    (show ChainStep epochPlatform enqueued (.claimNextDue sampleRequest "first") claimed from
      ⟨⟨⟨by decide,by decide⟩,trivial⟩,rfl⟩)
  have acked := Run.next first
    (show ChainStep epochPlatform claimed (.markDelivered sampleAck) acknowledgedOnce from
      ⟨⟨by simp [allowed,sampleAck],claimed.claims.head (by decide),by decide⟩,rfl⟩)
  have more := Run.next acked
    (show ChainStep epochPlatform acknowledgedOnce (.enqueueBatch [(nextDraft,"event-2")])
      enqueuedNext from ⟨⟨trivial,by simp [asCalled,nextDraft,sampleDraft]⟩,rfl⟩)
  exact Run.next more ⟨⟨⟨by decide,by decide⟩,trivial⟩,rfl⟩

/-- The second diff is delivered on top of the first, acknowledged, one. -/
theorem outbox_cursor_chain_second :
    claimedNext.db.outbox.map state = [.delivered,.delivering] ∧
    (∀ r ∈ claimedNext.db.outbox, r.state = .delivering → r.payloadMode = .diff →
      r.baseSnapshotID = "sha256:1") ∧
    acknowledgedTarget claimedNext.log ⟨"w","s","hook"⟩ "user_host_access_v1" =
      some "sha256:1" := by
  obtain ⟨based,cursor,_⟩ := outbox_cursor_chain chain_claimedNext
  refine ⟨by decide,?_,?_⟩
  · intro r mem delivering diff
    rw [based r mem delivering diff]
    have only : ∀ r ∈ claimedNext.db.outbox, cursorID claimedNext.db.cursors r.webhook r.projection =
        "sha256:1" := by decide
    exact only r mem
  · rw [← cursor]
    decide

end Pilot.Outbound
