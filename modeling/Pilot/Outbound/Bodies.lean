import Pilot.Outbound.CursorChain

/-!
Event bodies are written once. The rows of the table stand in the order they
were inserted and are only edited in place, so each can be compared with the
row its transaction appended: the hash stays, a live row keeps its body and a
terminal row has lost it.
-/
namespace Pilot.Outbound
open Pilot.Table Pilot.Transition List World

def insertedBy (P : Platform) (db : DB) (a : Action) : List Row :=
  (transact P db a).outbox.drop db.outbox.length

def inserted (P : Platform) (w : World) : List Action → List Row
  | [] => []
  | a :: rest => insertedBy P w.db a ++ inserted P (act P w a) rest

def Row.key (r : Row) : Webhook × String := (r.webhook,r.workflowID)

def EventDraft.key (d : EventDraft) : Webhook × String := (d.webhook,d.workflowID)

structure Descends (P : Platform) (first r : Row) : Prop where
  lineage : r.lineage = first.lineage
  hash : r.bodySHA256 = P.sha256Hex first.bodyJSON
  kept : r.state.terminal = false → r.bodyJSON = first.bodyJSON
  cleared : r.state.terminal = true → r.bodyJSON = "" ∧ r.targetSnapshotJSON = ""

/-- What an UPDATE of the outbox does to the body of a row it selects. -/
structure Edit (old new : Row) : Prop where
  live : old.state.terminal = false
  lineage : new.lineage = old.lineage
  hash : new.bodySHA256 = old.bodySHA256
  kept : new.state.terminal = false → new.bodyJSON = old.bodyJSON
  cleared : new.state.terminal = true → new.bodyJSON = "" ∧ new.targetSnapshotJSON = ""

def Edited (old new : Row) : Prop := new = old ∨ Edit old new

theorem Edited.trans (first : Edited a b) (second : Edited b c) : Edited a c := by
  rcases first with rfl | first
  · exact second
  rcases second with rfl | second
  · exact Or.inr first
  refine Or.inr ⟨first.live,second.lineage.trans first.lineage,
    second.hash.trans first.hash,?_,second.cleared⟩
  intro open_
  rw [second.kept open_,first.kept second.live]

variable {r : Row} {P : Platform}

theorem Descends.edited (from_ : Descends P first r) (edited : Edited r s) : Descends P first s := by
  rcases edited with rfl | edit
  · exact from_
  · refine ⟨edit.lineage.trans from_.lineage,edit.hash.trans from_.hash,?_,edit.cleared⟩
    intro open_
    rw [edit.kept open_,from_.kept edit.live]

theorem Descends.identity (from_ : Descends P first r) :
    r.eventID = first.eventID ∧ r.sequence = first.sequence ∧ r.key = first.key := by
  refine ⟨eventID_of_lineage from_.lineage,sequence_of_lineage from_.lineage,?_⟩
  exact Prod.ext (webhook_of_lineage from_.lineage) (congrArg Lineage.workflowID from_.lineage)

theorem edit_settle (done : state.terminal = true) (live : r.state.terminal = false) :
    Edit r (settle state r) :=
  ⟨live,rfl,rfl,(fun open_ => by simp [done] at open_),fun _ => ⟨rfl,rfl⟩⟩

theorem edited_update (edit : ∀ r ∈ rows, p r = true → Edit r (f r)) :
    Forall₂ Edited rows (updateWhere p f rows) := by
  induction rows with
  | nil => exact .nil
  | cons r rows ih =>
    refine .cons ?_ (ih (fun s mem => edit s (mem_cons_of_mem _ mem)))
    by_cases hit : p r = true
    · simp only [hit,if_true]
      exact Or.inr (edit r mem_cons_self hit)
    · simp only [hit]
      exact Or.inl rfl

theorem edited_refl (rows : List Row) : Forall₂ Edited rows rows := by
  rw [forall₂_same]
  intro r _
  exact Or.inl rfl

theorem edited_trans (first : Forall₂ Edited a b) (second : Forall₂ Edited b c) : Forall₂ Edited a c :=
  related_comp first second Edited.trans

theorem edited_reconcile (db : DB) (workspaceKey : String) (cfg : Config) :
    Forall₂ Edited db.outbox (reconcileWebhookConfig db workspaceKey cfg).outbox := by
  rw [reconcile_eq]
  have orphaned : Forall₂ Edited db.outbox
      (updateWhere (orphans workspaceKey cfg db.outbox) (settle .orphanedConfig) db.outbox) :=
    edited_update (fun r _ hit => edit_settle rfl (orphans_live hit).1)
  have paused := edited_trans orphaned
    (edited_update (p := pauses workspaceKey cfg) (f := pausedRow)
      (fun r _ hit => ⟨pauses_live hit,rfl,rfl,fun _ => rfl,fun done => by cases done⟩))
  refine edited_trans paused (edited_update ?_)
  intro r _ hit
  have live : r.state.terminal = false := by rw [resumes_paused hit]; rfl
  exact ⟨live,rfl,rfl,fun _ => rfl,fun done => by cases done⟩

section
variable {db : DB} (P : Platform) (fifo : Fifo db.outbox)
include fifo

theorem edited_claim (req : ClaimRequest) (owner : String) :
    Forall₂ Edited db.outbox (transact P db (.claimNextDue req owner)).outbox := by
  rcases claimNextDue_cases P db req owner with
    ⟨same,_⟩ | ⟨r,head,change⟩
  · rw [same]
    exact edited_refl _
  obtain ⟨inRows,_,open_⟩ := headOfLine_mem head
  have live : ∀ s ∈ db.outbox, ofEvent r.eventID s = true → s.state.terminal = false := by
    intro s mem hit
    rw [unique_row fifo.ids mem inRows (ofEvent_iff.mp hit)]
    exact open_
  rcases change with ⟨blocked,_⟩ | ⟨claimUntil,_,started,_⟩
  · rw [blocked]
    exact edited_update (fun s mem hit => edit_settle rfl (live s mem hit))
  · rw [started]
    exact edited_update (fun s mem hit =>
      ⟨live s mem hit,rfl,rfl,fun _ => rfl,fun done => by cases done⟩)

theorem edited_markDelivered {ack : DeliveryACK} (named : ack.claimOwner ≠ "") :
    Forall₂ Edited db.outbox (transact P db (.markDelivered ack)).outbox := by
  rcases markDelivered_cases P db ack with same | ⟨r,_,_,eq⟩
  · rw [same]
    exact edited_refl _
  rw [eq]
  refine edited_update (fun s mem hit => ?_)
  have live := owned_spares fifo named s mem hit
  exact ⟨live,rfl,rfl,(fun open_ => by cases open_),fun _ => ⟨rfl,rfl⟩⟩

theorem edited_markAttemptFailed (named : fail.claimOwner ≠ "") :
    Forall₂ Edited db.outbox (transact P db (.markAttemptFailed fail)).outbox := by
  rcases markAttemptFailed_cases P db fail with same | ⟨f,attempts,_,edit,eq⟩
  · rw [same]
    exact edited_refl _
  rw [eq]
  refine edited_update (fun s mem hit => ?_)
  have live := owned_spares fifo named s mem hit
  rcases edit with rfl | rfl
  · exact ⟨live,rfl,rfl,(fun open_ => by cases open_),fun _ => ⟨rfl,rfl⟩⟩
  · exact ⟨live,rfl,rfl,fun _ => rfl,fun done => by cases done⟩

end

structure Fresh (P : Platform) (r : Row) : Prop where
  live : r.state.terminal = false
  hash : r.bodySHA256 = P.sha256Hex r.bodyJSON

theorem Fresh.descends (fresh : Fresh P r) : Descends P r r :=
  ⟨rfl,fresh.hash,fun _ => rfl,fun done => by simp [fresh.live] at done⟩

theorem enqueueBatch_appends (P : Platform) (db : DB) (drafts : List (EventDraft × String)) :
    ∃ new, (transact P db (.enqueueBatch drafts)).outbox = db.outbox ++ new ∧ ∀ r ∈ new, Fresh P r := by
  refine (transact_enqueueBatch (fun rows => ∃ new, rows = db.outbox ++ new ∧ ∀ r ∈ new, Fresh P r) ?_
    ⟨[],by simp,by simp⟩).1
  rintro rows d uuid body _ ⟨new,rfl,fresh⟩ _
  refine ⟨new ++ [pendingRow P d uuid (nextSequence (db.outbox ++ new) d.webhook) body], by simp,?_⟩
  rw [forall_mem_append,forall_mem_singleton]
  exact ⟨fresh,rfl,rfl⟩

variable {w : World}

theorem transact_rows (P : Platform) (fifo : Fifo w.db.outbox) (ok : allowed w a) :
    ∃ old, (transact P w.db a).outbox = old ++ insertedBy P w.db a ∧
      Forall₂ Edited w.db.outbox old ∧ ∀ r ∈ insertedBy P w.db a, Fresh P r := by
  by_cases enqueue : ∃ drafts, a = .enqueueBatch drafts
  · obtain ⟨drafts,rfl⟩ := enqueue
    obtain ⟨new,eq,fresh⟩ := enqueueBatch_appends P w.db drafts
    have added : insertedBy P w.db (.enqueueBatch drafts) = new := by simp [insertedBy,eq]
    exact ⟨w.db.outbox,by rw [added,eq],edited_refl _,by rw [added]; exact fresh⟩
  have edited : Forall₂ Edited w.db.outbox (transact P w.db a).outbox := by
    cases a with
    | enqueueBatch drafts => exact absurd ⟨drafts,rfl⟩ enqueue
    | claimNextDue req owner => exact edited_claim P fifo req owner
    | markDelivered ack => exact edited_markDelivered P fifo ok
    | markAttemptFailed fail => exact edited_markAttemptFailed P fifo ok
    | reconcileWebhookConfig workspaceKey cfg => exact edited_reconcile w.db workspaceKey cfg
  have added : insertedBy P w.db a = [] := by
    simp [insertedBy,edited.length_eq]
  exact ⟨_,by rw [added,append_nil],edited,by simp [added]⟩

theorem inserted_append (P : Platform) (w : World) (front back : List Action) :
    inserted P w (front ++ back) = inserted P w front ++ inserted P (front.foldl (act P) w) back := by
  induction front generalizing w with
  | nil => rfl
  | cons a front ih => simp [inserted,ih]

variable {labels : List Action}

theorem run_foldl (run : Run (Step P) w labels t) : t = labels.foldl (act P) w := by
  induction run with
  | start => rfl
  | next _ taken ih => rw [foldl_append,← ih,taken.2]; rfl

theorem rows_descend (run : Reachable P labels w) :
    Forall₂ (Descends P) (inserted P empty labels) w.db.outbox := by
  generalize start : empty = first at run
  induction run with
  | start => subst start; exact .nil
  | next before taken ih =>
    subst start
    obtain ⟨ok,rfl⟩ := taken
    obtain ⟨old,eq,edited,fresh⟩ := transact_rows P (reachable_sound before).fifo ok
    rw [inserted_append,← run_foldl before]
    simp only [inserted,append_nil,act,eq]
    refine rel_append ?_ ?_
    · exact related_comp ih edited Descends.edited
    · rw [forall₂_same]
      exact fun r mem => (fresh r mem).descends

theorem keys_unique (run : Reachable P labels w) : (w.db.outbox.map Row.key).Nodup := by
  refine run_invariant (fun w : World => (w.db.outbox.map Row.key).Nodup) ?_ run
    (by simp [empty])
  rintro w a _ unique ⟨_,rfl⟩
  by_cases enqueue : ∃ drafts, a = .enqueueBatch drafts
  · obtain ⟨drafts,rfl⟩ := enqueue
    refine (transact_enqueueBatch (fun rows => (rows.map Row.key).Nodup) ?_ unique).1
    intro rows d uuid body _ distinct free
    refine nodup_insert distinct ?_
    simp only [violatesUnique,any_eq_false,Bool.or_eq_true,not_or,Bool.and_eq_true,
      decide_eq_true_eq,beq_iff_eq,not_and] at free
    intro r mem same
    rw [Row.key,Row.key,Prod.mk.injEq] at same
    exact ((free r mem).2 same.1).2 same.2
  · have same := lineage_transact P w.db (fun drafts eq => enqueue ⟨drafts,eq⟩)
    have keys := congrArg (map (fun l : Lineage => (l.webhook,l.workflowID))) same
    simp only [map_map] at keys
    exact keys ▸ unique

theorem row_of_inserted (run : Reachable P labels w) (mem : first ∈ inserted P empty labels) :
    ∃ r ∈ w.db.outbox, Descends P first r :=
  related_of_mem (rows_descend run) mem

variable {d : EventDraft} (more : List Row)

theorem enqueueDraft_existing (unique : (rows.map Row.key).Nodup) (mem : r ∈ rows) (key : r.key = d.key) :
    (rows ++ more).find? (fun r => decide (r.webhook = d.webhook) &&
      r.workflowID == d.workflowID) = some r := by
  rw [find?_append]
  cases found : rows.find? (fun r => decide (r.webhook = d.webhook) &&
      r.workflowID == d.workflowID) with
  | none =>
    have miss := find?_eq_none.mp found r mem
    simp only [Row.key,EventDraft.key,Prod.mk.injEq] at key
    simp [key] at miss
  | some s =>
    have hit := find?_some found
    simp only [Bool.and_eq_true,decide_eq_true_eq,beq_iff_eq] at hit
    have same : s.key = r.key := by rw [key]; exact Prod.ext hit.1 hit.2
    rw [unique_row unique (mem_of_find?_eq_some found) mem same]
    rfl

theorem enqueueDraft_same (unique : (rows.map Row.key).Nodup) (mem : r ∈ rows)
    (key : r.key = d.key) (final : d.finalize r.eventID r.sequence = .ok body)
    (hash : r.bodySHA256 = P.sha256Hex body) :
    enqueueDraft P rows d uuid = .ok (rows, ⟨r.eventID,r.sequence,P.sha256Hex body⟩) := by
  have found := enqueueDraft_existing [] unique mem key
  rw [append_nil] at found
  simp [enqueueDraft,found,final,hash]

theorem enqueueDraft_conflict (uuid : String) (unique : (rows.map Row.key).Nodup) (mem : r ∈ rows)
    (key : r.key = d.key) (final : d.finalize r.eventID r.sequence = .ok body)
    (other : P.sha256Hex body ≠ r.bodySHA256) :
    ∃ err, enqueueDraft P (rows ++ more) d uuid = .error err := by
  simp [enqueueDraft,enqueueDraft_existing more unique mem key,final,other]

variable {drafts : List (EventDraft × String)}

theorem enqueueDrafts_conflict (unique : (rows.map Row.key).Nodup) (mem : r ∈ rows)
    (listed : (d,uuid) ∈ drafts) (key : r.key = d.key)
    (final : d.finalize r.eventID r.sequence = .ok body) (other : P.sha256Hex body ≠ r.bodySHA256) :
    ∃ err, enqueueDrafts P (rows ++ more) drafts = .error err := by
  induction drafts generalizing more with
  | nil => cases listed
  | cons draft rest ih =>
    rcases mem_cons.mp listed with rfl | later
    · obtain ⟨err,refused⟩ := enqueueDraft_conflict more uuid unique mem key final other
      exact ⟨err,by simp [enqueueDrafts,refused]⟩
    obtain ⟨d',uuid'⟩ := draft
    cases one : enqueueDraft P (rows ++ more) d' uuid' with
    | error err => exact ⟨err,by simp [enqueueDrafts,one]⟩
    | ok result =>
      obtain ⟨rows',event⟩ := result
      have grown : ∃ more', rows' = rows ++ more' := by
        rcases enqueueDraft_grows one with same | ⟨_,_,added⟩
        · exact ⟨more,same⟩
        · exact ⟨_,by rw [added,append_assoc]⟩
      obtain ⟨more',rfl⟩ := grown
      obtain ⟨err,refused⟩ := ih more' later
      exact ⟨err,by simp [enqueueDrafts,one,refused]⟩

theorem enqueueDrafts_same
    (same : ∀ draft ∈ drafts, ∃ event, enqueueDraft P rows draft.1 draft.2 = .ok (rows,event)) :
    ∃ events, enqueueDrafts P rows drafts = .ok (rows,events) := by
  induction drafts with
  | nil => exact ⟨[],rfl⟩
  | cons draft rest ih =>
    obtain ⟨event,one⟩ := same draft mem_cons_self
    obtain ⟨events,tail⟩ := ih (fun draft mem => same draft (mem_cons_of_mem _ mem))
    exact ⟨event :: events,by simp [enqueueDrafts,one,tail]⟩

/-- Two texts a hash function does not tell apart. -/
def Collision (hash : String → String) (a b : String) : Prop := a ≠ b ∧ hash a = hash b

/-- Bodies are immutable and enqueueing is idempotent, from any reachable
    state: each row descends from the row that was inserted in its place, a
    batch that produces the stored bodies again changes nothing, and one that
    would produce another body is refused as a whole. -/
theorem outbox_body_immutable {P : Platform} {labels : List Action} {w : World}
    (run : Reachable P labels w) :
    Forall₂ (Descends P) (inserted P empty labels) w.db.outbox ∧
    (∀ drafts : List (EventDraft × String),
      (∀ draft ∈ drafts, ∃ first ∈ inserted P empty labels, first.key = draft.1.key ∧
        draft.1.finalize first.eventID first.sequence = .ok first.bodyJSON) →
      ∃ events, enqueueBatch P w.db drafts = .ok (events,w.db)) ∧
    (∀ (drafts : List (EventDraft × String)) (d : EventDraft) (uuid body : String),
      ∀ first ∈ inserted P empty labels, (d,uuid) ∈ drafts → first.key = d.key →
      d.finalize first.eventID first.sequence = .ok body → body ≠ first.bodyJSON →
      ((∃ err, enqueueBatch P w.db drafts = .error err) ∧
        transact P w.db (.enqueueBatch drafts) = w.db) ∨
      Collision P.sha256Hex body first.bodyJSON) := by
  have unique := keys_unique run
  refine ⟨rows_descend run,?_,?_⟩
  · intro drafts known
    have same : ∀ draft ∈ drafts, ∃ event,
        enqueueDraft P w.db.outbox draft.1 draft.2 = .ok (w.db.outbox,event) := by
      intro draft mem
      obtain ⟨first,inFirst,key,final⟩ := known draft mem
      obtain ⟨r,inRows,from_⟩ := row_of_inserted run inFirst
      obtain ⟨event,sequence,rowKey⟩ := from_.identity
      refine ⟨_,enqueueDraft_same unique inRows (rowKey.trans key) ?_ from_.hash⟩
      rw [event,sequence]
      exact final
    obtain ⟨events,ok⟩ := enqueueDrafts_same same
    exact ⟨events,by simp [enqueueBatch,ok]⟩
  · intro drafts d uuid body first inFirst listed key final differs
    obtain ⟨r,inRows,from_⟩ := row_of_inserted run inFirst
    obtain ⟨event,sequence,rowKey⟩ := from_.identity
    by_cases collide : P.sha256Hex body = P.sha256Hex first.bodyJSON
    · exact Or.inr ⟨differs,collide⟩
    left
    have refused := enqueueDrafts_conflict [] unique inRows listed
      (rowKey.trans key) (by rw [event,sequence]; exact final) (from_.hash ▸ collide)
    rw [append_nil] at refused
    obtain ⟨err,failed⟩ := refused
    have batch : enqueueBatch P w.db drafts = .error err := by simp [enqueueBatch,failed]
    exact ⟨⟨err,batch⟩,by simp [transact,batch,commit]⟩

def twoBodies : Platform :=
  { epochPlatform with
    sha256Hex := fun body =>
      if body = "null" then "74234e98afe7498fb5daf1f36ac2d78acc339464f950703b8c019892f982b90b"
      else "b5bea41b6c623f7c09f1bf24dcae58ebab3c0cdd90ad966bc43a45b44867e12b" }

def changedDraft : EventDraft := { sampleDraft with finalize := fun _ _ => .ok "true" }

def bodyLabels : List Action :=
  [] ++ [.enqueueBatch [(sampleDraft,"event-1")]] ++ [.claimNextDue sampleRequest "first"] ++
    [.markDelivered sampleAck]

theorem reachable_bodies : Reachable twoBodies bodyLabels (bodyLabels.foldl (act twoBodies) empty) :=
  .next (.next (.next (.start _) ⟨trivial,rfl⟩) ⟨⟨by decide,by decide⟩,rfl⟩)
    ⟨by simp [allowed,sampleAck],rfl⟩

/-- A delivered event has lost its body; enqueueing it again is still quiet
    with the same bytes and refused with others. -/
theorem delivered_body_enqueued_again :
    (bodyLabels.foldl (act twoBodies) empty).db.outbox.map
      (fun r => (r.state,r.bodyJSON)) = [(.delivered,"")] ∧
    (∃ events, enqueueBatch twoBodies (bodyLabels.foldl (act twoBodies) empty).db
      [(sampleDraft,"event-2")] =
        .ok (events,(bodyLabels.foldl (act twoBodies) empty).db)) ∧
    ∃ err, enqueueBatch twoBodies (bodyLabels.foldl (act twoBodies) empty).db
      [(nextDraft,"event-2"),(changedDraft,"event-3")] = .error err := by
  obtain ⟨_,again,refused⟩ := outbox_body_immutable reachable_bodies
  have first : pendingRow twoBodies sampleDraft "event-1" 1 "null" ∈
      inserted twoBodies empty bodyLabels := by decide
  refine ⟨by decide,again _ ?_,?_⟩
  · intro draft mem
    simp only [mem_singleton] at mem
    rw [mem]
    exact ⟨_,first,rfl,rfl⟩
  · rcases refused [(nextDraft,"event-2"),(changedDraft,"event-3")] changedDraft "event-3" "true" _
      first (by simp) rfl rfl (by decide) with ⟨failed,_⟩ | ⟨_,collision⟩
    · exact failed
    · exact absurd collision (by decide)

end Pilot.Outbound
