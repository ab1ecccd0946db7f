import Pilot.Outbound.System

/-!
First-in first-out delivery and single claims. A transaction that hands out
no claim is a chain of moves: it appends a row numbered one past its
webhook's last, or releases rows that are not terminal. A claim starts the
delivery of the head of the line. The invariant is proved once per kind.
-/
namespace Pilot.Outbound
open Pilot.Table Pilot.Transition List

def ofWebhook (w : Webhook) (r : Row) : Bool := decide (r.webhook = w)

structure Fifo (rows : List Row) : Prop where
  ids : (rows.map Row.eventID).Nodup
  sequences : ∀ w, (rows.filter (ofWebhook w)).map Row.sequence =
    range' 1 (rows.filter (ofWebhook w)).length
  owner : ∀ r ∈ rows, r.claimOwner ≠ "" ↔ r.state = .delivering
  order : ∀ r ∈ rows, ∀ s ∈ rows, r.state = .delivering → s.webhook = r.webhook →
    s.sequence < r.sequence → s.state.terminal = true

/-- An UPDATE the outbox may issue: it keeps the identifying columns, spares
    terminal rows, sets an owner exactly on delivering rows and starts a
    delivery only behind terminal rows. -/
structure Rewrite (rows : List Row) (p : Row → Bool) (f : Row → Row) : Prop where
  lineage : ∀ r, (f r).lineage = r.lineage
  spares : ∀ r ∈ rows, p r = true → r.state.terminal = false
  owner : ∀ r ∈ rows, p r = true → ((f r).claimOwner ≠ "" ↔ (f r).state = .delivering)
  head : ∀ r ∈ rows, p r = true → (f r).state = .delivering → ∀ s ∈ rows,
    s.webhook = r.webhook → s.sequence < r.sequence → s.state.terminal = true

structure Release (rows : List Row) (p : Row → Bool) (f : Row → Row) : Prop where
  lineage : ∀ r, (f r).lineage = r.lineage
  spares : ∀ r ∈ rows, p r = true → r.state.terminal = false
  freed : ∀ r ∈ rows, p r = true → (f r).claimOwner = "" ∧ (f r).state ≠ .delivering

variable {p : Row → Bool} {rows : List Row} {r : Row} {P : Platform} {w : World} {f : Row → Row}

theorem Release.rewrite (audit : Release rows p f) : Rewrite rows p f where
  lineage := audit.lineage
  spares := audit.spares
  owner := by
    intro r mem hit
    obtain ⟨noOwner,idle⟩ := audit.freed r mem hit
    simp [noOwner,idle]
  head := by
    intro r mem hit delivering
    exact absurd delivering (audit.freed r mem hit).2

inductive Move (P : Platform) : List Row → List Row → Prop where
  | insert (rows : List Row) (d : EventDraft) (uuid body : String)
      (unique : violatesUnique rows
        (pendingRow P d uuid (nextSequence rows d.webhook) body) = false) :
      Move P rows (rows ++ [pendingRow P d uuid (nextSequence rows d.webhook) body])
  | release {rows : List Row} {p : Row → Bool} {f : Row → Row} (audit : Release rows p f) :
      Move P rows (updateWhere p f rows)

abbrev Moves (P : Platform) := Relation.ReflTransGen (Move P)

variable {s : Row}

theorem webhook_of_lineage (same : r.lineage = s.lineage) : r.webhook = s.webhook :=
  congrArg Lineage.webhook same

theorem sequence_of_lineage (same : r.lineage = s.lineage) : r.sequence = s.sequence :=
  congrArg Lineage.sequence same

theorem eventID_of_lineage (same : r.lineage = s.lineage) : r.eventID = s.eventID :=
  congrArg Lineage.eventID same

theorem rewritten_from (audit : Rewrite rows p f) (mem : r ∈ updateWhere p f rows) :
    ∃ old ∈ rows, old.lineage = r.lineage ∧ ((p old = true ∧ r = f old) ∨ r = old) := by
  rcases mem_updateWhere.mp mem with ⟨old,inRows,hit,eq⟩ | ⟨inRows,_⟩
  · exact ⟨old,inRows,by rw [← eq,audit.lineage],Or.inl ⟨hit,eq.symm⟩⟩
  · exact ⟨r,inRows,rfl,Or.inr rfl⟩

theorem terminal_rewrite (audit : Rewrite rows p f) (mem : r ∈ rows)
    (done : r.state.terminal = true) : r ∈ updateWhere p f rows := by
  apply mem_updateWhere_of_not mem
  by_contra hit
  have open_ := audit.spares r mem (by simpa using hit)
  simp [open_] at done

theorem terminal_survives (audit : Rewrite rows p f) (inRows : old ∈ rows)
    (change : (p old = true ∧ r = f old) ∨ r = old) (done : old.state.terminal = true) :
    r.state.terminal = true := by
  rcases change with ⟨hit,_⟩ | same
  · have open_ := audit.spares old inRows hit
    simp [open_] at done
  · rw [same]; exact done

theorem fifo_rewrite (fifo : Fifo rows) (audit : Rewrite rows p f) : Fifo (updateWhere p f rows) where
  ids := by
    rw [column_updateWhere Row.eventID (fun r => eventID_of_lineage (audit.lineage r))]
    exact fifo.ids
  sequences := by
    intro w
    have column : ∀ r, ofWebhook w (f r) = ofWebhook w r := by
      intro r
      simp only [ofWebhook,webhook_of_lineage (audit.lineage r)]
    rw [filter_updateWhere column,
      column_updateWhere Row.sequence (fun r => sequence_of_lineage (audit.lineage r)),
      fifo.sequences w]
    simp [updateWhere]
  owner := by
    intro r mem
    obtain ⟨old,inRows,_,⟨hit,eq⟩ | same⟩ := rewritten_from audit mem
    · rw [eq]; exact audit.owner old inRows hit
    · rw [same]; exact fifo.owner old inRows
  order := by
    intro r memR s memS delivering sameHook lower
    obtain ⟨oldR,inR,lineR,changeR⟩ := rewritten_from audit memR
    obtain ⟨oldS,inS,lineS,changeS⟩ := rewritten_from audit memS
    have hook : oldS.webhook = oldR.webhook := by
      rw [webhook_of_lineage lineS,webhook_of_lineage lineR,sameHook]
    have less : oldS.sequence < oldR.sequence := by
      rw [sequence_of_lineage lineS,sequence_of_lineage lineR]; exact lower
    apply terminal_survives audit inS changeS
    rcases changeR with ⟨hit,eq⟩ | same
    · exact audit.head oldR inR hit (eq ▸ delivering) oldS inS hook less
    · exact fifo.order oldR inR oldS inS (same ▸ delivering) hook less

theorem max?_range' (some_ : 0 < n) : (range' 1 n).max? = some n := by
  rw [max?_eq_some_iff]
  refine ⟨mem_range'_1.mpr (by omega),?_⟩
  intro k mem
  have bound := mem_range'_1.mp mem
  omega

theorem nextSequence_eq (fifo : Fifo rows) (w : Webhook) :
    nextSequence rows w = (rows.filter (ofWebhook w)).length + 1 := by
  have top : maxSequence rows w = (range' 1 (rows.filter (ofWebhook w)).length).max? := by
    rw [← fifo.sequences w]
    rfl
  unfold nextSequence
  rcases Nat.eq_zero_or_pos (rows.filter (ofWebhook w)).length with none_ | some_
  · rw [top,none_]
    rfl
  · rw [top,max?_range' some_]

theorem sequence_bound (fifo : Fifo rows) (mem : r ∈ rows) :
    1 ≤ r.sequence ∧ r.sequence ≤ (rows.filter (ofWebhook r.webhook)).length := by
  have listed : r.sequence ∈ (rows.filter (ofWebhook r.webhook)).map Row.sequence :=
    mem_map_of_mem (mem_filter.mpr ⟨mem,by simp [ofWebhook]⟩)
  rw [fifo.sequences r.webhook,mem_range'_1] at listed
  omega

theorem fifo_insert (fifo : Fifo rows) (d : EventDraft) (uuid body : String)
    (unique : violatesUnique rows (pendingRow P d uuid (nextSequence rows d.webhook) body) = false) :
    Fifo (rows ++ [pendingRow P d uuid (nextSequence rows d.webhook) body]) where
  ids := by
    simp only [violatesUnique,any_eq_false,Bool.or_eq_true,not_or,beq_iff_eq] at unique
    exact nodup_insert fifo.ids fun r mem => (unique r mem).1
  sequences := by
    intro w
    rw [filter_append,map_append,length_append,fifo.sequences w]
    by_cases same : d.webhook = w
    · have keep : ofWebhook w (pendingRow P d uuid (nextSequence rows d.webhook) body) = true := by
        simpa [ofWebhook] using (show (pendingRow P d uuid _ body).webhook = w from same)
      rw [filter_cons_of_pos keep,filter_nil,length_singleton,
        range'_1_concat,Nat.add_comm 1,← nextSequence_eq fifo w]
      simp [pendingRow,same]
    · have drop : ofWebhook w (pendingRow P d uuid (nextSequence rows d.webhook) body) = false := by
        simpa [ofWebhook] using (show ¬ (pendingRow P d uuid _ body).webhook = w from same)
      simp [drop]
  owner := by
    rw [forall_mem_append,forall_mem_singleton]
    exact ⟨fifo.owner,by simp [pendingRow]⟩
  order := by
    intro r memR s memS delivering sameHook lower
    rcases mem_append.mp memR with oldR | newR
    · rcases mem_append.mp memS with oldS | newS
      · exact fifo.order r oldR s oldS delivering sameHook lower
      -- a new row is numbered past every row of its webhook
      simp only [mem_singleton] at newS
      have hook : d.webhook = r.webhook := by rw [newS] at sameHook; exact sameHook
      have bound := (sequence_bound fifo oldR).2
      have next := nextSequence_eq fifo d.webhook
      rw [hook] at next
      rw [newS,hook] at lower
      simp only [pendingRow] at lower
      omega
    · simp only [mem_singleton] at newR
      simp [newR,pendingRow] at delivering

theorem fifo_move (fifo : Fifo rows) (move : Move P rows rows') : Fifo rows' := by
  cases move with
  | insert d uuid body unique => exact fifo_insert fifo d uuid body unique
  | release audit => exact fifo_rewrite fifo audit.rewrite

theorem fifo_moves (fifo : Fifo rows) (moves : Moves P rows rows') : Fifo rows' := by
  induction moves with
  | refl => exact fifo
  | tail _ move ih => exact fifo_move ih move

theorem terminal_moves (moves : Moves P rows rows') (mem : r ∈ rows)
    (done : r.state.terminal = true) : r ∈ rows' := by
  induction moves with
  | refl => exact mem
  | tail _ move ih =>
    cases move with
    | insert => exact mem_append_left _ ih
    | release audit => exact terminal_rewrite audit.rewrite ih done

theorem owner_moves (moves : Moves P rows rows') (mem : r ∈ rows')
    (held : r.claimOwner ≠ "") : r ∈ rows := by
  induction moves with
  | refl => exact mem
  | tail _ move ih =>
    cases move with
    | insert d uuid body =>
      rcases mem_append.mp mem with old | new
      · exact ih old
      · simp only [mem_singleton] at new
        simp [new,pendingRow] at held
    | release audit =>
      obtain ⟨old,inRows,_,⟨hit,eq⟩ | same⟩ := rewritten_from audit.rewrite mem
      · rw [eq] at held
        exact absurd (audit.freed old inRows hit).1 held
      · exact ih (same ▸ inRows)

theorem release_settle (ended : state ≠ .delivering)
    (spares : ∀ r ∈ rows, p r = true → r.state.terminal = false) : Release rows p (settle state) :=
  ⟨fun _ => rfl,spares,fun _ _ _ => ⟨rfl,ended⟩⟩

theorem owned_delivering (fifo : Fifo rows) (named : owner ≠ "") (mem : r ∈ rows)
    (owned : ownedBy eventID owner r = true) : r.state = .delivering :=
  (fifo.owner r mem).mp (by rw [(ownedBy_iff.mp owned).2]; exact named)

theorem owned_spares (fifo : Fifo rows) (named : owner ≠ "") :
    ∀ r ∈ rows, ownedBy eventID owner r = true → r.state.terminal = false := by
  intro r mem owned
  rw [owned_delivering fifo named mem owned]
  rfl

theorem moves_enqueueBatch (P : Platform) (db : DB) (drafts : List (EventDraft × String)) :
    Moves P db.outbox (transact P db (.enqueueBatch drafts)).outbox := by
  refine (transact_enqueueBatch (fun rows => Moves P db.outbox rows) ?_ .refl).1
  intro rows d uuid body _ moves unique
  exact moves.tail (.insert rows d uuid body unique)

section
variable {db : DB} (P : Platform) (fifo : Fifo db.outbox)
include fifo

theorem moves_markDelivered {ack : DeliveryACK} (named : ack.claimOwner ≠ "") :
    Moves P db.outbox (transact P db (.markDelivered ack)).outbox := by
  rcases markDelivered_cases P db ack with same | ⟨r,_,_,eq⟩
  · rw [same]
  · rw [eq]
    exact .single (.release ⟨fun _ => rfl,owned_spares fifo named,
      fun _ _ _ => ⟨rfl,by simp [deliveredRow]⟩⟩)

theorem moves_markAttemptFailed (named : fail.claimOwner ≠ "") :
    Moves P db.outbox (transact P db (.markAttemptFailed fail)).outbox := by
  rcases markAttemptFailed_cases P db fail with same | ⟨f,_,_,edit,eq⟩
  · rw [same]
  rw [eq]
  refine .single (.release ⟨fun r => (failed_shape edit r).1,owned_spares fifo named,fun r _ _ => ?_⟩)
  obtain ⟨_,freed,dead | waiting⟩ := failed_shape edit r
  · exact ⟨freed,by simp [dead]⟩
  · exact ⟨freed,by simp [waiting]⟩

theorem moves_reconcile (workspaceKey : String) (cfg : Config) :
    Moves P db.outbox (transact P db (.reconcileWebhookConfig workspaceKey cfg)).outbox := by
  simp only [transact,reconcile_eq]
  have orphaned : Moves P db.outbox
      (updateWhere (orphans workspaceKey cfg db.outbox) (settle .orphanedConfig) db.outbox) :=
    .single (.release (release_settle (by simp) (fun _ _ hit => (orphans_live hit).1)))
  have paused := orphaned.tail (.release (f := pausedRow) (p := pauses workspaceKey cfg)
    ⟨fun _ => rfl,fun _ _ hit => pauses_live hit,fun _ _ _ => ⟨rfl,by simp [pausedRow]⟩⟩)
  refine paused.tail (.release ⟨fun _ => rfl,?_,?_⟩)
  · intro r _ hit
    rw [resumes_paused hit]
    rfl
  intro r mem hit
  refine ⟨?_,by simp [resumedRow]⟩
  by_contra held
  have delivering := ((fifo_moves fifo paused).owner r mem).mp held
  rw [resumes_paused hit] at delivering
  cases delivering

end

structure Start (P : Platform) (db : DB) (a : Action) (r : Row) (owner : String) : Prop where
  call : ∃ req claimUntil, a = .claimNextDue req owner ∧ headOfLine db.outbox req.webhook = some r ∧
    (r.payloadMode = .diff → r.baseSnapshotID = cursorID db.cursors req.webhook r.projection) ∧
    transact P db a = { db with
      outbox := updateWhere (ofEvent r.eventID) (startDelivery owner claimUntil) db.outbox } ∧
    handedOut P db a = [claimedEvent P req r owner claimUntil]

variable {a : Action}

theorem moves_or_start (P : Platform) (fifo : Fifo w.db.outbox) (ok : allowed w a) :
    (Moves P w.db.outbox (transact P w.db a).outbox ∧ handedOut P w.db a = []) ∨
      ∃ r owner, Start P w.db a r owner := by
  cases a with
  | enqueueBatch drafts => exact Or.inl ⟨moves_enqueueBatch P w.db drafts,rfl⟩
  | markDelivered ack => exact Or.inl ⟨moves_markDelivered P fifo ok,rfl⟩
  | markAttemptFailed fail => exact Or.inl ⟨moves_markAttemptFailed P fifo ok,rfl⟩
  | reconcileWebhookConfig workspaceKey cfg =>
    exact Or.inl ⟨moves_reconcile P fifo workspaceKey cfg,rfl⟩
  | claimNextDue req owner =>
    rcases claimNextDue_cases P w.db req owner with
      ⟨same,nothing⟩ | ⟨r,head,⟨blocked,nothing⟩ | ⟨claimUntil,chained,started,claim⟩⟩
    · exact Or.inl ⟨by rw [same],nothing⟩
    · refine Or.inl ⟨?_,nothing⟩
      rw [blocked]
      refine .single (.release (release_settle (by simp) ?_))
      intro s mem hit
      obtain ⟨inRows,_,open_⟩ := headOfLine_mem head
      rw [unique_row fifo.ids mem inRows (ofEvent_iff.mp hit)]
      exact open_
    · exact Or.inr ⟨r,owner,⟨req,claimUntil,rfl,head,chained,started,claim⟩⟩

theorem rewrite_start (fifo : Fifo rows) {w : Webhook} (head : headOfLine rows w = some r)
    (named : owner ≠ "") (claimUntil : String) :
    Rewrite rows (ofEvent r.eventID) (startDelivery owner claimUntil) := by
  obtain ⟨inRows,hook,open_⟩ := headOfLine_mem head
  have only : ∀ s ∈ rows, ofEvent r.eventID s = true → s = r := fun s mem hit =>
    unique_row fifo.ids mem inRows (ofEvent_iff.mp hit)
  refine ⟨fun _ => rfl,?_,?_,?_⟩
  · intro s mem hit
    rw [only s mem hit]
    exact open_
  · intro s _ _
    simp [named]
  · intro s mem hit _ t memT sameHook lower
    rw [only s mem hit] at sameHook lower
    exact headOfLine_lowest head memT (sameHook.trans hook) lower

theorem fifo_act (fifo : Fifo w.db.outbox) (ok : allowed w a) : Fifo (act P w a).db.outbox := by
  rcases moves_or_start P fifo ok with ⟨moves,_⟩ | ⟨r,owner,⟨req,claimUntil,rfl,head,_,started,_⟩⟩
  · exact fifo_moves fifo moves
  · simp only [act,started]
    exact fifo_rewrite fifo (rewrite_start fifo head ok.1 claimUntil)

theorem terminal_act (fifo : Fifo w.db.outbox) (ok : allowed w a) (mem : r ∈ w.db.outbox)
    (done : r.state.terminal = true) : r ∈ (act P w a).db.outbox := by
  rcases moves_or_start P fifo ok with ⟨moves,_⟩ | ⟨s,owner,⟨req,claimUntil,rfl,head,_,started,_⟩⟩
  · exact terminal_moves moves mem done
  · simp only [act,started]
    exact terminal_rewrite (rewrite_start fifo head ok.1 claimUntil) mem done

/-- The row's owner is that of the last claim handed out for its event. -/
def HeldByLast (claims : List ClaimedEvent) (r : Row) : Prop :=
  ∃ front c back, claims = front ++ c :: back ∧ c.eventID = r.eventID ∧
    c.claimOwner = r.claimOwner ∧ ∀ later ∈ back, later.eventID ≠ r.eventID

/-- The invariant of the whole system: the rows are in order, owners are
    never reused, and a held row is held by the last claim of its event. -/
structure Sound (w : World) : Prop where
  fifo : Fifo w.db.outbox
  owners : (w.claims.map ClaimedEvent.claimOwner).Nodup
  named : ∀ c ∈ w.claims, c.claimOwner ≠ ""
  current : ∀ r ∈ w.db.outbox, r.claimOwner ≠ "" → HeldByLast w.claims r

theorem sound_empty : Sound World.empty := by
  refine ⟨⟨by simp [World.empty],?_,by simp [World.empty],by simp [World.empty]⟩,
    by simp [World.empty],by simp [World.empty],by simp [World.empty]⟩
  intro w
  rfl

theorem sound_act (P : Platform) (sound : Sound w) (ok : allowed w a) : Sound (act P w a) := by
  have fifo := fifo_act (P := P) sound.fifo ok
  rcases moves_or_start P sound.fifo ok with
    ⟨moves,nothing⟩ | ⟨r,owner,⟨req,claimUntil,rfl,head,_,started,claim⟩⟩
  · have claims : (act P w a).claims = w.claims := by simp [act,nothing]
    refine ⟨fifo,claims ▸ sound.owners,claims ▸ sound.named,?_⟩
    intro r mem held
    rw [claims]
    exact sound.current r (owner_moves moves mem held) held
  obtain ⟨named,fresh⟩ := ok
  have claims : (act P w (.claimNextDue req owner)).claims =
      w.claims ++ [claimedEvent P req r owner claimUntil] := by simp [act,claim]
  refine ⟨fifo,?_,?_,?_⟩
  · rw [claims,map_append]
    refine Nodup.append sound.owners (by simp) ?_
    simpa [claimedEvent] using fresh
  · rw [claims]
    rw [forall_mem_append,forall_mem_singleton]
    exact ⟨sound.named,named⟩
  intro s mem held
  rw [claims]
  simp only [act,started] at mem
  rcases mem_updateWhere.mp mem with ⟨old,_,hit,eq⟩ | ⟨inRows,miss⟩
  · have sameID : r.eventID = s.eventID := by
      rw [← eq,← ofEvent_iff.mp hit]
      rfl
    exact ⟨w.claims,_,[],rfl,sameID,by rw [← eq]; rfl,by simp⟩
  have other : r.eventID ≠ s.eventID := by
    intro same
    simp [ofEvent,same] at miss
  obtain ⟨front,c,back,split_,event,owned,last⟩ := sound.current s inRows held
  refine ⟨front,c,back ++ [claimedEvent P req r owner claimUntil],by simp [split_],event,owned,?_⟩
  rw [forall_mem_append,forall_mem_singleton]
  exact ⟨last,other⟩

theorem reachable_sound (run : Reachable P labels w) : Sound w := by
  refine run_invariant Sound ?_ run sound_empty
  rintro w a _ sound ⟨ok,rfl⟩
  exact sound_act P sound ok

theorem takenOver_holds_nothing (sound : Sound w) (taken : TakenOver w c) :
    ∀ r ∈ w.db.outbox, r.claimOwner ≠ c.claimOwner := by
  obtain ⟨front,back,later,split_,inBack,sameEvent⟩ := taken
  intro r mem same
  have named : c.claimOwner ≠ "" := sound.named c (by simp [split_])
  obtain ⟨front',last,back',split',event,owned,none_⟩ := sound.current r mem (same ▸ named)
  -- owners are unique, so the last claim of the row's event is c itself
  have isC : last = c := unique_row sound.owners (by simp [split']) (by simp [split_])
    (owned.trans same)
  subst isC
  have distinct : w.claims.Nodup := Nodup.of_map _ sound.owners
  have sameBack : back = back' := by
    rw [split_] at distinct
    have apart := nodup_middle.mp distinct
    have eq := split_.symm.trans split'
    rw [append_cons_inj_of_notMem] at eq
    · exact eq.2.2
    · intro inFront
      exact (nodup_cons.mp apart).1 (mem_append_left _ inFront)
    · intro inBack'
      exact (nodup_cons.mp apart).1 (mem_append_right _ inBack')
  exact none_ later (sameBack ▸ inBack) (sameEvent.trans event)

theorem delivering_unique (fifo : Fifo rows) (memR : r ∈ rows)
    (memS : s ∈ rows) (delR : r.state = .delivering) (delS : s.state = .delivering)
    (hook : r.webhook = s.webhook) : r = s := by
  rcases Nat.lt_trichotomy r.sequence s.sequence with lower | same | higher
  · have done := fifo.order s memS r memR delS hook lower
    rw [delR] at done
    cases done
  · have distinct : ((rows.filter (ofWebhook s.webhook)).map Row.sequence).Nodup := by
      rw [fifo.sequences]
      exact nodup_range'
    exact unique_row distinct (mem_filter.mpr ⟨memR,by simp [ofWebhook,hook]⟩)
      (mem_filter.mpr ⟨memS,by simp [ofWebhook]⟩) same
  · have done := fifo.order r memR s memS delR hook.symm higher
    rw [delS] at done
    cases done

def deliveringOf (hook : Webhook) (r : Row) : Bool :=
  ofWebhook hook r && r.state == .delivering

theorem deliveringOf_iff : deliveringOf hook r = true ↔ r.webhook = hook ∧ r.state = .delivering := by
  simp [deliveringOf,ofWebhook]

theorem one_delivering (fifo : Fifo rows) (hook : Webhook) :
    (rows.filter (deliveringOf hook)).length ≤ 1 := by
  have distinct : (rows.filter (deliveringOf hook)).Nodup :=
    (Nodup.of_map _ fifo.ids).filter _
  have same : ∀ r ∈ rows.filter (deliveringOf hook), ∀ s ∈ rows.filter (deliveringOf hook), r = s := by
    intro r memR s memS
    obtain ⟨inR,isR⟩ := mem_filter.mp memR
    obtain ⟨inS,isS⟩ := mem_filter.mp memS
    obtain ⟨hookR,delR⟩ := deliveringOf_iff.mp isR
    obtain ⟨hookS,delS⟩ := deliveringOf_iff.mp isS
    exact delivering_unique fifo inR inS delR delS (hookR.trans hookS.symm)
  match chosen : rows.filter (deliveringOf hook) with
  | [] => simp
  | [_] => simp
  | r :: s :: rest =>
    rw [chosen] at distinct same
    have equal := same r (by simp) s (by simp)
    simp [equal] at distinct

theorem terminal_run (run : Run (Step P) w labels later) (sound : Sound w) (mem : r ∈ w.db.outbox)
    (done : r.state.terminal = true) : r ∈ later.db.outbox := by
  refine run_preserves Sound (fun w => r ∈ w.db.outbox) ?_ ?_ run sound mem
  · rintro w a _ sound ⟨ok,rfl⟩
    exact sound_act P sound ok
  · rintro w a _ sound ⟨ok,rfl⟩ mem
    exact terminal_act sound.fifo ok mem done

/-- First-in first-out delivery under any interleaving: one delivery per
    webhook at a time, behind terminal rows only, with gapless sequences;
    terminal rows are final and overtaken owners are powerless. -/
theorem outbox_fifo_single_claim {P : Platform} {labels : List Action} {w : World}
    (run : Reachable P labels w) :
    (∀ hook, (w.db.outbox.filter (deliveringOf hook)).length ≤ 1) ∧
    (∀ r ∈ w.db.outbox, ∀ s ∈ w.db.outbox, r.state = .delivering → s.webhook = r.webhook →
      s.sequence < r.sequence → s.state.terminal = true) ∧
    (∀ hook, (w.db.outbox.filter (ofWebhook hook)).map Row.sequence =
      range' 1 (w.db.outbox.filter (ofWebhook hook)).length) ∧
    (∀ r ∈ w.db.outbox, r.state.terminal = true → ∀ more later, Run (Step P) w more later →
      ∃ s ∈ later.db.outbox, s.eventID = r.eventID ∧
        ∀ t ∈ later.db.outbox, t.eventID = r.eventID → t.state = r.state) ∧
    (∀ c, TakenOver w c →
      (∀ ack, ack.claimOwner = c.claimOwner → transact P w.db (.markDelivered ack) = w.db) ∧
      (∀ fail, fail.claimOwner = c.claimOwner → transact P w.db (.markAttemptFailed fail) = w.db)) := by
  have sound := reachable_sound run
  refine ⟨one_delivering sound.fifo,sound.fifo.order,sound.fifo.sequences,?_,?_⟩
  · intro r mem done more later after
    have kept := terminal_run after sound mem done
    have soundLater := reachable_sound (run_append run after)
    refine ⟨r,kept,rfl,?_⟩
    intro t memT same
    rw [unique_row soundLater.fifo.ids memT kept same]
  · intro c taken
    have idle := takenOver_holds_nothing sound taken
    refine ⟨fun ack owner => markDelivered_stale ?_,fun fail owner => markAttemptFailed_stale ?_⟩
    · rw [owner]; exact idle
    · rw [owner]; exact idle

def epochPlatform : Platform where
  formatTime := fun _ => "1970-01-01T00:00:00Z"
  parseTime := fun text => if text = "1970-01-01T00:00:00Z" then .ok 0 else .error "cannot parse"
  quote := fun text => "\"" ++ text ++ "\""
  sha256Hex := fun _ => "74234e98afe7498fb5daf1f36ac2d78acc339464f950703b8c019892f982b90b"

def sampleDraft : EventDraft where
  workspaceKey := "w"
  sourceID := "s"
  webhookName := "hook"
  workflowID := "run"
  operation := "deploy"
  result := "success"
  projection := "user_host_access_v1"
  payloadMode := .diff
  authoritative := true
  stateAvailable := true
  sourceComplete := true
  baseSnapshotID := ""
  targetSnapshotID := "sha256:1"
  targetSnapshotJSON := "null"
  now := 0
  finalize := fun _ _ => .ok "null"

def sampleRequest : ClaimRequest := ⟨"w","s","hook",0,0,false⟩

def enqueued : World := act epochPlatform World.empty (.enqueueBatch [(sampleDraft,"event-1")])
def claimed : World := act epochPlatform enqueued (.claimNextDue sampleRequest "first")
def reclaimed : World := act epochPlatform claimed (.claimNextDue sampleRequest "second")

theorem reachable_claimed : Reachable epochPlatform
    ([] ++ [.enqueueBatch [(sampleDraft,"event-1")]] ++ [.claimNextDue sampleRequest "first"])
    claimed :=
  .next (.next (.start _) ⟨trivial,rfl⟩) ⟨⟨by decide,by decide⟩,rfl⟩

theorem reachable_reclaimed : Reachable epochPlatform
    ([] ++ [.enqueueBatch [(sampleDraft,"event-1")]] ++ [.claimNextDue sampleRequest "first"] ++
      [.claimNextDue sampleRequest "second"]) reclaimed :=
  .next reachable_claimed ⟨⟨by decide,by decide⟩,rfl⟩

/-- After an expired lease the row has a second owner and the first owner's
    acknowledgement changes nothing. -/
theorem outbox_fifo_reclaimed :
    reclaimed.claims.map ClaimedEvent.claimOwner = ["first","second"] ∧
    reclaimed.db.outbox.map Row.state = [.delivering] ∧
    transact epochPlatform reclaimed.db (.markDelivered ⟨"event-1","first",true,true,true,0⟩) =
      reclaimed.db := by
  refine ⟨by decide,by decide,?_⟩
  have facts := outbox_fifo_single_claim reachable_reclaimed
  have lost : ∃ c ∈ reclaimed.claims, c.claimOwner = "first" ∧ TakenOver reclaimed c := by
    refine ⟨reclaimed.claims.head (by decide),by decide,by decide,
      [],reclaimed.claims.tail,reclaimed.claims.getLast (by decide),by decide,by decide,by decide⟩
  obtain ⟨c,_,owner,taken⟩ := lost
  exact (facts.2.2.2.2 c taken).1 _ owner.symm

end Pilot.Outbound
