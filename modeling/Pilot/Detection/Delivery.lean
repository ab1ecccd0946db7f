import Pilot.Library.Transition
import Pilot.Detection.Store

/-!
Outbox delivery (`internal/detection/outbox.go`, `outbox_deliver.go`) under
any number of workers. A worker claims a row, posts it outside any
transaction and completes it by id; the lease it took may have expired and
the row been claimed again before it completes.
-/
namespace Pilot.Detection
open Pilot.Table Pilot.Transition List

def outboxLeaseDuration : Int := 30 * second

def outboxBackoffSeconds : List Int := [1,2,4,8,16,30,60,120,300]

def outboxBackoff (attempts : Nat) : Int :=
  outboxBackoffSeconds.getD (min (attempts - 1) (outboxBackoffSeconds.length - 1)) 300 * second

inductive DeliveryOutcome where
  | delivered | retry | dead
  deriving DecidableEq, Repr

def classifyDeliveryOutcome (statusCode : Int) (networkErr : Bool) : DeliveryOutcome :=
  if networkErr then .retry
  else if 200 ≤ statusCode ∧ statusCode < 300 then .delivered
  else if statusCode = 429 ∨ 500 ≤ statusCode then .retry
  else if 400 ≤ statusCode ∧ statusCode < 500 then .dead
  else .retry

structure OutboxItem where
  (id signalID : String)
  (revision sequence : Nat)
  (kind payloadJSON : String)
  attempts : Nat
  deriving DecidableEq, Repr

def blocks (r blocker : OutboxRow) : Bool :=
  blocker.signalID == r.signalID && blocker.revision == r.revision &&
    decide (blocker.sequence < r.sequence) && !blocker.status.terminal

def ready (now : String) (r : OutboxRow) : Bool :=
  match r.status with
  | .pending => decide (¬ now < r.nextAttemptAt)
  | .sending =>
    match r.leaseUntil with
    | none => false
    | some lease => decide (lease < now)
  | _ => false

def eligible (rows : List OutboxRow) (now : String) (r : OutboxRow) : Bool :=
  ready now r && !rows.any (blocks r)

def earlier (a b : OutboxRow) : Bool :=
  decide (a.nextAttemptAt < b.nextAttemptAt) || (a.nextAttemptAt == b.nextAttemptAt &&
    (decide (a.createdAt < b.createdAt) || (a.createdAt == b.createdAt &&
      decide (a.sequence < b.sequence))))

def firstRow : List OutboxRow → Option OutboxRow
  | [] => none
  | r :: rest =>
    match firstRow rest with
    | none => some r
    | some s => if earlier s r then some s else some r

def withID (id : String) (r : OutboxRow) : Bool := r.id == id

def itemOf (r : OutboxRow) : OutboxItem :=
  ⟨r.id,r.signalID,r.revision,r.sequence,r.kind,r.payloadJSON,r.attempts⟩

def sendingRow (lease now : String) (r : OutboxRow) : OutboxRow :=
  { r with status := .sending, leaseUntil := some lease, updatedAt := now }

def claimOutboxItem (P : Platform) (rows : List OutboxRow) (now : Int) :
    Option OutboxItem × List OutboxRow :=
  match firstRow (rows.filter (eligible rows (P.rfc3339 now))) with
  | none => (none, rows)
  | some r => (some (itemOf r),
      updateWhere (withID r.id)
        (sendingRow (P.rfc3339 (now + outboxLeaseDuration)) (P.rfc3339 now)) rows)

def nullString (s : String) : Option String := if s = "" then none else some s

def settledRow (status : OutboxStatus) (now : String) (r : OutboxRow) : OutboxRow :=
  { r with status := status, updatedAt := now }

def failedRow (status : OutboxStatus) (errorCode now : String) (r : OutboxRow) : OutboxRow :=
  { settledRow status now r with lastErrorCode := nullString errorCode }

def retriedRow (attempts : Nat) (next errorCode now : String) (r : OutboxRow) : OutboxRow :=
  { failedRow .pending errorCode now r with attempts := attempts, nextAttemptAt := next }

/-- `WHERE id=?` and nothing else: neither the claimant nor the status of
    the row is looked at. -/
def completeOutboxItem (P : Platform) (rows : List OutboxRow) (id : String)
    (outcome : DeliveryOutcome) (now : Int) (errorCode : String) : Except String (List OutboxRow) :=
  match outcome with
  | .delivered => .ok (updateWhere (withID id) (settledRow .delivered (P.rfc3339 now)) rows)
  | .dead => .ok (updateWhere (withID id) (failedRow .dead errorCode (P.rfc3339 now)) rows)
  | .retry =>
    match rows.find? (withID id) with
    | none => .error "read outbox attempts: sql: no rows in result set"
    | some found =>
      let attempts := found.attempts + 1
      .ok (updateWhere (withID id)
        (retriedRow attempts (P.rfc3339 (now + outboxBackoff attempts)) errorCode
          (P.rfc3339 now)) rows)

inductive Reply where
  | unbuildable
  | networkError
  | status (code : Int)
  deriving DecidableEq, Repr

def Reply.completion : Reply → DeliveryOutcome × String
  | unbuildable => (.dead,"build_request_error")
  | networkError => (.retry,"network_error")
  | status code =>
    let outcome := classifyDeliveryOutcome code false
    (outcome,if outcome = .delivered then "" else s!"http_{code}")

def DeliveryOutcome.status : DeliveryOutcome → OutboxStatus
  | delivered => .delivered
  | dead => .dead
  | retry => .pending

structure Delivery where
  rows : List OutboxRow
  holding : Nat → Option OutboxItem
  handed : List OutboxItem

def Delivery.empty : Delivery := ⟨[],fun _ => none,[]⟩

inductive DeliveryAction where
  | insert (records : List OutboxRecord) (wall : Int)
  | claim (worker : Nat) (now : Int)
  | complete (worker : Nat) (reply : Reply) (now : Int)

def deliver (P : Platform) (d : Delivery) : DeliveryAction → Delivery
  | .insert records wall =>
    match insertOutboxes P wall d.rows records with
    | .ok rows => { d with rows := rows }
    | .error _ => d
  | .claim worker now =>
    let claim := claimOutboxItem P d.rows now
    ⟨claim.2,Function.update d.holding worker claim.1,d.handed ++ claim.1.toList⟩
  | .complete worker reply now =>
    match d.holding worker with
    | none => d
    | some item =>
      match completeOutboxItem P d.rows item.id reply.completion.1 now reply.completion.2 with
      | .ok rows => { d with rows := rows, holding := Function.update d.holding worker none }
      | .error _ => { d with holding := Function.update d.holding worker none }

/-- A transition writes its rows under a signal and revision of its own. -/
def FreshBatch (rows : List OutboxRow) (records : List OutboxRecord) : Prop :=
  ∃ signalID revision, (∀ o ∈ records, o.signalID = signalID ∧ o.revision = revision) ∧
    ∀ r ∈ rows, ¬ (r.signalID = signalID ∧ r.revision = revision)

def workable (d : Delivery) : DeliveryAction → Prop
  | .insert records _ => FreshBatch d.rows records
  | .claim worker _ => d.holding worker = none
  | .complete worker _ _ => d.holding worker ≠ none

/-- A completion that does not overrule a settled row. -/
def Timely (d : Delivery) : DeliveryAction → Prop
  | .complete worker reply _ => ∀ item, d.holding worker = some item → ∀ r ∈ d.rows,
      r.id = item.id → r.status.terminal = true → reply.completion.1.status = r.status
  | _ => True

/-- The place of a row among its signal's alerts, which no operation moves. -/
structure Place where
  (id signalID : String)
  (revision sequence : Nat)
  deriving DecidableEq

def OutboxRow.place (r : OutboxRow) : Place := ⟨r.id,r.signalID,r.revision,r.sequence⟩

variable {r : OutboxRow}

theorem withID_iff {id : String} : withID id r = true ↔ r.id = id := by
  simp [withID]

variable {rows : List OutboxRow}

theorem firstRow_mem (first : firstRow rows = some r) : r ∈ rows := by
  induction rows generalizing r with
  | nil => cases first
  | cons s rows ih =>
    unfold firstRow at first
    split at first
    · cases first
      exact mem_cons_self
    rename_i t rest
    split at first
    · cases first
      exact mem_cons_of_mem _ (ih rest)
    · cases first
      exact mem_cons_self

theorem ready_open (due : ready now r = true) : r.status.terminal = false := by
  unfold ready at due
  split at due
  · rename_i status; rw [status]; rfl
  · rename_i status; rw [status]; rfl
  · cases due

theorem claim_cases (P : Platform) (rows : List OutboxRow) (now : Int) :
    claimOutboxItem P rows now = (none,rows) ∨
    ∃ r ∈ rows, r.status.terminal = false ∧
      (∀ s ∈ rows, s.signalID = r.signalID → s.revision = r.revision →
        s.sequence < r.sequence → s.status.terminal = true) ∧
      ∃ lease stamp, claimOutboxItem P rows now =
        (some (itemOf r),updateWhere (withID r.id) (sendingRow lease stamp) rows) := by
  unfold claimOutboxItem
  split
  · exact Or.inl rfl
  rename_i r first
  obtain ⟨mem,free⟩ := mem_filter.mp (firstRow_mem first)
  simp only [eligible,Bool.and_eq_true,Bool.not_eq_true',any_eq_false] at free
  refine Or.inr ⟨r,mem,ready_open free.1,?_,_,_,rfl⟩
  intro s inRows signal revision lower
  have unblocked := free.2 s inRows
  simpa [blocks,signal,revision,lower] using unblocked

theorem complete_cases (P : Platform) (rows : List OutboxRow) (id : String)
    (outcome : DeliveryOutcome) (now : Int) (errorCode : String) :
    (∃ f : OutboxRow → OutboxRow,
      (∀ r, (f r).place = r.place ∧ (f r).status = outcome.status) ∧
      completeOutboxItem P rows id outcome now errorCode = .ok (updateWhere (withID id) f rows)) ∨
    ((∃ err, completeOutboxItem P rows id outcome now errorCode = .error err) ∧ ∀ r ∈ rows, r.id ≠ id) := by
  unfold completeOutboxItem
  cases outcome with
  | delivered => exact Or.inl ⟨settledRow .delivered (P.rfc3339 now),fun r => ⟨rfl,rfl⟩,rfl⟩
  | dead => exact Or.inl ⟨failedRow .dead errorCode (P.rfc3339 now),fun r => ⟨rfl,rfl⟩,rfl⟩
  | retry =>
    cases found : rows.find? (withID id) with
    | none =>
      refine Or.inr ⟨⟨_,rfl⟩,?_⟩
      intro r mem same
      exact find?_eq_none.mp found r mem (withID_iff.mpr same)
    | some r => exact Or.inl ⟨retriedRow (r.attempts + 1) _ errorCode (P.rfc3339 now),
        fun r => ⟨rfl,rfl⟩,rfl⟩

variable {P : Platform}

theorem insertOutbox_ok (ok : insertOutbox P wall rows o = .ok rows') :
    ∃ new : OutboxRow, rows' = rows ++ [new] ∧ new.signalID = o.signalID ∧
      new.revision = o.revision ∧ ∀ r ∈ rows, r.id ≠ new.id := by
  unfold insertOutbox at ok
  split at ok
  · cases ok
  rename_i unique
  cases ok
  refine ⟨_,rfl,rfl,rfl,?_⟩
  intro r mem same
  refine unique (any_eq_true.mpr ⟨r,mem,?_⟩)
  simp only [Bool.or_eq_true,beq_iff_eq]
  exact Or.inl same

theorem insertOutboxes_ok (ids : (rows.map OutboxRow.id).Nodup)
    (ok : insertOutboxes P wall rows records = .ok rows') :
    (rows'.map OutboxRow.id).Nodup ∧ (∀ r ∈ rows, r ∈ rows') ∧
      ∀ r ∈ rows', r ∈ rows ∨ ∃ o ∈ records, r.signalID = o.signalID ∧ r.revision = o.revision := by
  induction records generalizing rows with
  | nil =>
    cases ok
    exact ⟨ids,fun r mem => mem,fun r mem => Or.inl mem⟩
  | cons o records ih =>
    unfold insertOutboxes at ok
    split at ok
    · cases ok
    rename_i middle one
    obtain ⟨new,rfl,signal,revision,fresh⟩ := insertOutbox_ok one
    obtain ⟨distinct,keeps,source⟩ := ih (nodup_insert ids fresh) ok
    refine ⟨distinct,fun r mem => keeps r (mem_append_left _ mem),?_⟩
    intro r mem
    rcases source r mem with before | ⟨o',inRest,same⟩
    · rcases mem_append.mp before with old | added
      · exact Or.inl old
      · simp only [mem_singleton] at added
        rw [added]
        exact Or.inr ⟨o,mem_cons_self,signal,revision⟩
    · exact Or.inr ⟨o',mem_cons_of_mem _ inRest,same⟩

/-- Terminal rows are still there with the status they had. -/
def Settled (rows rows' : List OutboxRow) : Prop :=
  ∀ r ∈ rows, r.status.terminal = true → ∃ s ∈ rows', s.id = r.id ∧ s.status = r.status

structure Ordered (d : Delivery) : Prop where
  ids : (d.rows.map OutboxRow.id).Nodup
  origin : ∀ item ∈ d.handed, ∃ r ∈ d.rows, r.signalID = item.signalID ∧ r.revision = item.revision
  lower : ∀ item ∈ d.handed, ∀ s ∈ d.rows, s.signalID = item.signalID →
    s.revision = item.revision → s.sequence < item.sequence → s.status.terminal = true

theorem ordered_empty : Ordered Delivery.empty :=
  ⟨by simp [Delivery.empty],by simp [Delivery.empty],by simp [Delivery.empty]⟩

theorem place_update (same : ∀ r, (f r).place = r.place) (mem : s ∈ updateWhere p f rows) :
    ∃ r ∈ rows, r.place = s.place ∧ ((p r = true ∧ s = f r) ∨ s = r) := by
  rcases mem_updateWhere.mp mem with ⟨r,inRows,hit,rfl⟩ | ⟨inRows,_⟩
  · exact ⟨r,inRows,(same r).symm,Or.inl ⟨hit,rfl⟩⟩
  · exact ⟨s,inRows,rfl,Or.inr rfl⟩

variable {d : Delivery}

theorem ordered_update (ordered : Ordered d) (same : ∀ r, (f r).place = r.place)
    (keeps : ∀ r ∈ d.rows, p r = true → r.status.terminal = true → (f r).status = r.status)
    (holding : Nat → Option OutboxItem) :
    Ordered ⟨updateWhere p f d.rows,holding,d.handed⟩ where
  ids := by
    rw [column_updateWhere OutboxRow.id (fun r => congrArg Place.id (same r))]
    exact ordered.ids
  origin := by
    intro item mem
    obtain ⟨r,inRows,signal,revision⟩ := ordered.origin item mem
    have listed : r.place ∈ (updateWhere p f d.rows).map OutboxRow.place := by
      rw [column_updateWhere OutboxRow.place same]
      exact mem_map_of_mem inRows
    obtain ⟨s,inNew,place⟩ := mem_map.mp listed
    simp only [OutboxRow.place,Place.mk.injEq] at place
    exact ⟨s,inNew,place.2.1.trans signal,place.2.2.1.trans revision⟩
  lower := by
    intro item mem s inNew signal revision below
    obtain ⟨r,inRows,place,change⟩ := place_update same inNew
    simp only [OutboxRow.place,Place.mk.injEq] at place
    have done := ordered.lower item mem r inRows (place.2.1.trans signal)
      (place.2.2.1.trans revision) (place.2.2.2 ▸ below)
    rcases change with ⟨hit,rfl⟩ | rfl
    · rw [keeps r inRows hit done]; exact done
    · exact done

theorem settled_update (same : ∀ r, (f r).place = r.place)
    (keeps : ∀ r ∈ rows, p r = true → r.status.terminal = true → (f r).status = r.status) :
    Settled rows (updateWhere p f rows) := by
  intro r mem done
  by_cases hit : p r = true
  · exact ⟨f r,mem_updateWhere.mpr (Or.inl ⟨r,mem,hit,rfl⟩),congrArg Place.id (same r),
      keeps r mem hit done⟩
  · exact ⟨r,mem_updateWhere_of_not mem (by simpa using hit),rfl,rfl⟩

theorem ordered_deliver (P : Platform) (ordered : Ordered d) {a : DeliveryAction}
    (ok : workable d a) (timely : Timely d a) :
    Ordered (deliver P d a) ∧ Settled d.rows (deliver P d a).rows := by
  have still : Settled d.rows d.rows := fun r mem _ => ⟨r,mem,rfl,rfl⟩
  cases a with
  | insert records wall =>
    simp only [deliver]
    cases inserted : insertOutboxes P wall d.rows records with
    | error => exact ⟨ordered,still⟩
    | ok rows =>
      obtain ⟨ids,keeps,source⟩ := insertOutboxes_ok ordered.ids inserted
      obtain ⟨signalID,revision,batch,fresh⟩ := ok
      refine ⟨⟨ids,?_,?_⟩,fun r mem _ => ⟨r,keeps r mem,rfl,rfl⟩⟩
      · intro item mem
        obtain ⟨r,inRows,same⟩ := ordered.origin item mem
        exact ⟨r,keeps r inRows,same⟩
      intro item mem s inNew signal rev below
      rcases source s inNew with old | ⟨o,inBatch,sameSignal,sameRevision⟩
      · exact ordered.lower item mem s old signal rev below
      -- the batch's signal and revision have no row an item could be from
      obtain ⟨r,inRows,itemSignal,itemRevision⟩ := ordered.origin item mem
      obtain ⟨oSignal,oRevision⟩ := batch o inBatch
      refine absurd ⟨?_,?_⟩ (fresh r inRows)
      · rw [itemSignal,← signal,sameSignal,oSignal]
      · rw [itemRevision,← rev,sameRevision,oRevision]
  | claim worker now =>
    simp only [deliver]
    rcases claim_cases P d.rows now with idle | ⟨r,mem,open_,lower,lease,stamp,claimed⟩
    · simp only [idle,Option.toList_none,append_nil]
      exact ⟨⟨ordered.ids,ordered.origin,ordered.lower⟩,still⟩
    simp only [claimed]
    have keeps : ∀ s ∈ d.rows, withID r.id s = true → s.status.terminal = true →
        (sendingRow lease stamp s).status = s.status := by
      intro s inRows hit done
      rw [unique_row ordered.ids inRows mem (withID_iff.mp hit),open_] at done
      cases done
    have moved := ordered_update ordered (f := sendingRow lease stamp) (fun _ => rfl) keeps
      d.holding
    refine ⟨⟨moved.ids,?_,?_⟩,settled_update (fun _ => rfl) keeps⟩
    · intro item inHanded
      rcases mem_append.mp inHanded with old | new
      · exact moved.origin item old
      simp only [Option.toList_some,mem_singleton] at new
      rw [new]
      exact ⟨sendingRow lease stamp r,mem_updateWhere.mpr (Or.inl ⟨r,mem,withID_iff.mpr rfl,rfl⟩),rfl,rfl⟩
    · intro item inHanded s inNew signal revision below
      rcases mem_append.mp inHanded with old | new
      · exact moved.lower item old s inNew signal revision below
      simp only [Option.toList_some,mem_singleton] at new
      rw [new] at signal revision below
      obtain ⟨t,inRows,place,change⟩ := place_update (f := sendingRow lease stamp)
        (fun _ => rfl) inNew
      simp only [OutboxRow.place,Place.mk.injEq] at place
      have done := lower t inRows (place.2.1.trans signal) (place.2.2.1.trans revision)
        (place.2.2.2 ▸ below)
      rcases change with ⟨hit,rfl⟩ | rfl
      · rw [keeps t inRows hit done]; exact done
      · exact done
  | complete worker reply now =>
    simp only [deliver]
    cases held : d.holding worker with
    | none => exact ⟨ordered,still⟩
    | some item =>
      rcases complete_cases P d.rows item.id reply.completion.1 now reply.completion.2 with
        ⟨f,shape,completed⟩ | ⟨⟨err,failed⟩,_⟩
      · simp only [completed]
        have keeps : ∀ r ∈ d.rows, withID item.id r = true → r.status.terminal = true →
            (f r).status = r.status := by
          intro r mem hit done
          rw [(shape r).2]
          exact timely item held r mem (withID_iff.mp hit) done
        exact ⟨ordered_update ordered (fun r => (shape r).1) keeps _,
          settled_update (fun r => (shape r).1) keeps⟩
      · simp only [failed]
        exact ⟨⟨ordered.ids,ordered.origin,ordered.lower⟩,still⟩

theorem settled_iff_timely (P : Platform) (ordered : Ordered d) (ok : workable d a) :
    Settled d.rows (deliver P d a).rows ↔ Timely d a := by
  refine ⟨?_,fun timely => (ordered_deliver P ordered ok timely).2⟩
  intro settled
  cases a with
  | insert records wall => trivial
  | claim worker now => trivial
  | complete worker reply now =>
    intro item held r mem same done
    simp only [deliver,held] at settled
    rcases complete_cases P d.rows item.id reply.completion.1 now reply.completion.2 with
      ⟨f,shape,completed⟩ | ⟨_,absent⟩
    · rw [completed] at settled
      obtain ⟨s,inNew,sameID,sameStatus⟩ := settled r mem done
      rcases mem_updateWhere.mp inNew with ⟨t,_,_,rfl⟩ | ⟨_,miss⟩
      · rw [← sameStatus,(shape t).2]
      · simp [withID,sameID,same] at miss
    · exact absurd same (absent r mem)

abbrev WorkStep (P : Platform) := guarded workable (deliver P)
abbrev TimelyStep (P : Platform) := guarded (fun d a => workable d a ∧ Timely d a) (deliver P)

variable {labels : List DeliveryAction}

theorem ordered_run (run : Run (TimelyStep P) Delivery.empty labels d) : Ordered d := by
  refine run_invariant Ordered ?_ run ordered_empty
  rintro d a _ ordered ⟨⟨ok,timely⟩,rfl⟩
  exact (ordered_deliver P ordered ok timely).1

theorem settled_run (run : Run (TimelyStep P) d labels later) (ordered : Ordered d)
    (mem : r ∈ d.rows) (done : r.status.terminal = true) :
    ∃ s ∈ later.rows, s.id = r.id ∧ s.status = r.status := by
  refine run_preserves Ordered (fun d => ∃ s ∈ d.rows, s.id = r.id ∧ s.status = r.status)
    ?_ ?_ run ordered ⟨r,mem,rfl,rfl⟩
  · rintro d a _ ordered ⟨⟨ok,timely⟩,rfl⟩
    exact (ordered_deliver P ordered ok timely).1
  rintro d a _ ordered ⟨⟨ok,timely⟩,rfl⟩ ⟨s,inRows,sameID,sameStatus⟩
  obtain ⟨t,inNew,tID,tStatus⟩ := (ordered_deliver P ordered ok timely).2 s inRows
    (sameStatus ▸ done)
  exact ⟨t,inNew,tID.trans sameID,tStatus.trans sameStatus⟩

/-- A row that was settled in one state of a run is settled the same way in
    every later one. -/
def SettledForever (step : Delivery → DeliveryAction → Delivery → Prop) : Prop :=
  ∀ labels d, Run step Delivery.empty labels d → ∀ r ∈ d.rows, r.status.terminal = true →
    ∀ more later, Run step d more later → ∃ s ∈ later.rows, s.id = r.id ∧ s.status = r.status

/-- In every state the rows below an item that was ever handed out are settled. -/
def HandedInOrder (step : Delivery → DeliveryAction → Delivery → Prop) : Prop :=
  ∀ labels d, Run step Delivery.empty labels d → ∀ item ∈ d.handed, ∀ s ∈ d.rows,
    s.signalID = item.signalID → s.revision = item.revision → s.sequence < item.sequence →
    s.status.terminal = true

/-- With timely completions settled rows are final and alerts go out in
    order; and in every state so reached, a step keeps the settled rows
    exactly when it is timely. -/
theorem detection_outbox_order (P : Platform) :
    SettledForever (TimelyStep P) ∧ HandedInOrder (TimelyStep P) ∧
    ∀ labels d, Run (TimelyStep P) Delivery.empty labels d → ∀ a, workable d a →
      (Settled d.rows (deliver P d a).rows ↔ Timely d a) := by
  refine ⟨?_,?_,?_⟩
  · intro labels d run r mem done more later after
    exact settled_run after (ordered_run run) mem done
  · intro labels d run
    exact (ordered_run run).lower
  · intro labels d run a ok
    exact settled_iff_timely P (ordered_run run) ok

def minutePlatform : Platform where
  rfc3339 := fun t =>
    if t = 0 then "1970-01-01T00:00:00Z"
    else if t = 30 * second then "1970-01-01T00:00:30Z"
    else if t = 31 * second then "1970-01-01T00:00:31Z"
    else if t = 32 * second then "1970-01-01T00:00:32Z"
    else "1970-01-01T00:01:01Z"
  parseRFC3339 := fun _ => none
  sha256Hex := fun text => text
  formatFloat := fun _ => "1"
  marshalAlert := fun payload => payload.startsAt
  unmarshalAlert := fun _ => none
  marshalStrings := fun _ => "[]"
  marshalContributors := fun _ => "[]"
  marshalValues := fun _ => "null"
  ulid := fun n => toString n

def escalation : List OutboxRecord :=
  [⟨"row-1","signal",2,1,"resolve_warning","null",0⟩,⟨"row-2","signal",2,2,"fire_critical","null",0⟩]

def queuedRows : Delivery := deliver minutePlatform Delivery.empty (.insert escalation 0)
def firstClaim : Delivery := deliver minutePlatform queuedRows (.claim 0 0)
def secondClaim : Delivery := deliver minutePlatform firstClaim (.claim 1 (31 * second))
def firstDelivered : Delivery :=
  deliver minutePlatform secondClaim (.complete 1 (.status 200) (31 * second))
def nextClaim : Delivery := deliver minutePlatform firstDelivered (.claim 2 (31 * second))
def lateRetry : Delivery := deliver minutePlatform nextClaim (.complete 0 .networkError (31 * second))

theorem run_firstDelivered : Run (WorkStep minutePlatform) Delivery.empty
    ([] ++ [.insert escalation 0] ++ [.claim 0 0] ++ [.claim 1 (31 * second)] ++
      [.complete 1 (.status 200) (31 * second)]) firstDelivered := by
  have fresh : FreshBatch Delivery.empty.rows escalation :=
    ⟨"signal",2,by decide,by simp [Delivery.empty]⟩
  have queued : Run (WorkStep minutePlatform) Delivery.empty ([] ++ [.insert escalation 0])
      queuedRows := .next (.start _) ⟨fresh,rfl⟩
  have one := Run.next queued (show WorkStep minutePlatform queuedRows (.claim 0 0) firstClaim from
    ⟨show queuedRows.holding 0 = none by decide,rfl⟩)
  have two := Run.next one
    (show WorkStep minutePlatform firstClaim (.claim 1 (31 * second)) secondClaim from
      ⟨show firstClaim.holding 1 = none by decide,rfl⟩)
  exact Run.next two ⟨show secondClaim.holding 1 ≠ none by decide,rfl⟩

theorem run_lateRetry : Run (WorkStep minutePlatform) firstDelivered
    ([] ++ [.claim 2 (31 * second)] ++ [.complete 0 .networkError (31 * second)]) lateRetry :=
  .next (.next (.start _) ⟨show firstDelivered.holding 2 = none by decide,rfl⟩)
    ⟨show nextClaim.holding 0 ≠ none by decide,rfl⟩

/-- The worker whose lease ran out reports a network error after the row was
    delivered: the row is pending again, behind the critical alert that was
    handed out because it was delivered. -/
theorem late_retry_reopens :
    ¬ SettledForever (WorkStep minutePlatform) ∧ ¬ HandedInOrder (WorkStep minutePlatform) := by
  constructor
  · intro forever
    have kept := forever _ _ run_firstDelivered (firstDelivered.rows.head (by decide)) (by decide)
      (by decide) _ _ run_lateRetry
    revert kept
    decide
  · intro inOrder
    have below := inOrder _ _ (run_append run_firstDelivered run_lateRetry)
      (lateRetry.handed.getLast (by decide)) (by decide) (lateRetry.rows.head (by decide)) (by decide)
      (by decide) (by decide) (by decide)
    revert below
    decide

end Pilot.Detection
