import Pilot.Library.Fold
import Pilot.Sessions.Store

/-!
Integrity of the session store over any interleaving of its write methods:
events are only appended, counters agree with them, a finished session is
frozen, and its complete flag means what it says.
-/
namespace Pilot.Sessions
open Pilot.Table Pilot.Transition List EventRow Session

variable (S : Setup)

def payload (e : EventRow) : Bytes :=
  (S.enc.opens e.nonce (aad e.sessionID e.seq e.stream) e.ciphertext).getD []

def payloadLength (e : EventRow) : Nat := (payload S e).length

def EventRow.event (e : EventRow) : IngestEvent :=
  ⟨e.seq,e.stream,e.offsetNanos,payload S e,e.rows,e.cols,e.redactedBytes⟩

theorem payload_sealedRow (sessionID : String) (ev : IngestEvent) (stamp : Stamp) :
    payload S (sealedRow S sessionID ev stamp) = ev.data := by
  simp [payload,sealedRow,S.enc.opens_seals]

theorem event_sealedRow (sessionID : String) (ev : IngestEvent) (stamp : Stamp) :
    (sealedRow S sessionID ev stamp).event S = ev := by
  have data := payload_sealedRow S sessionID ev stamp
  simp only [event,data]
  rfl

structure Grown (sessionID : String) (before : List EventRow) (acc : Ingest)
    (rows : List EventRow) : Prop where
  events : acc.events = before ++ rows
  made : ∀ r ∈ rows, ∃ ev stamp, r = sealedRow S sessionID ev stamp
  count : acc.addedCount = rows.length
  bytes : acc.addedBytes = (rows.map (payloadLength S)).sum
  keys : (acc.events.map key).Nodup

variable {sessionID : String} {db : DB} {calls : List (Call × Bool)} {e : EventRow}

theorem atSeq_iff {seq : UInt64} : atSeq sessionID seq e = true ↔ e.key = (sessionID,seq) := by
  simp [atSeq]

variable {rows : List EventRow} {item : IngestEvent × Stamp}

theorem grown_ingestOne {acc acc' : Ingest} (grown : Grown S sessionID before acc rows)
    (ok : ingestOne S sessionID acc item = .ok acc') :
    ∃ more, Grown S sessionID before acc' more := by
  unfold ingestOne at ok
  split at ok
  · split at ok
    · cases ok
      exact ⟨rows,grown.events,grown.made,grown.count,grown.bytes,grown.keys⟩
    · cases ok
  rename_i unseen
  cases ok
  have fresh : (sessionID,item.1.seq) ∉ acc.events.map key := by
    intro among
    obtain ⟨e,mem,same⟩ := mem_map.mp among
    exact find?_eq_none.mp unseen e mem (atSeq_iff.mpr same)
  refine ⟨rows ++ [sealedRow S sessionID item.1 item.2],?_,?_,?_,?_,?_⟩
  · simp [grown.events]
  · rw [forall_mem_append,forall_mem_singleton]
    exact ⟨grown.made,item.1,item.2,rfl⟩
  · simp [grown.count]
  · simp [grown.bytes,payloadLength,payload_sealedRow]
  · simp only [map_append,map_cons,map_nil]
    exact Nodup.append grown.keys (by simp) (by simpa [sealedRow,key] using fresh)

variable {batch : List (IngestEvent × Stamp)}

theorem grown_batch (keys : (before.map key).Nodup)
    (ok : batch.foldlM (ingestOne S sessionID) ⟨before,0,0,0,0⟩ = .ok acc) :
    ∃ rows, Grown S sessionID before acc rows := by
  refine Fold.foldlM_invariant (I := fun acc => ∃ rows, Grown S sessionID before acc rows)
    ⟨[],by simp,by simp,rfl,rfl,keys⟩ ?_ ok
  rintro acc item acc' _ ⟨rows,grown⟩ step
  exact grown_ingestOne S grown step

inductive Change (db : DB) : Call → DB → Prop where
  | same (call : Call) : Change db call db
  | started (given : SessionStart) (now startedAt : Int)
      (fresh : ∀ s ∈ db.sessions, s.id ≠ given.sessionID) : Change db (.start given now)
        ⟨db.sessions ++ [⟨{ given with startedAt := startedAt },S.enc.keyID,"",false,0,0,0⟩],
          db.events⟩
  | ingested (s : Session) (batch : List (IngestEvent × Stamp)) (rows : List EventRow)
      (mem : s ∈ db.sessions) (opened : s.endedAt = "")
      (made : ∀ r ∈ rows, ∃ ev stamp, r = sealedRow S s.id ev stamp)
      (keys : ((db.events ++ rows).map key).Nodup) : Change db (.ingest s.id batch)
        ⟨updateWhere (ofSession s.id) (addEvents (rows.map (payloadLength S)).sum
          rows.length) db.sessions,db.events ++ rows⟩
  | finished (s : Session) (endedAt : Int) (claimed : Bool) (lastSeq : UInt64)
      (mem : s ∈ db.sessions) (opened : s.endedAt = "")
      (high : ¬ lastSeq < maxSeq (eventSeqs db s.id)) :
      Change db (.finish s.id endedAt claimed lastSeq)
        ⟨updateWhere (openSession s.id) (finish (S.clock.format endedAt)
          (claimed && maxSeq (eventSeqs db s.id) == lastSeq &&
            (gapsUpTo (eventSeqs db s.id) lastSeq).isEmpty) lastSeq) db.sessions,db.events⟩

variable {s : Session}

theorem ofSession_iff : ofSession sessionID s = true ↔ s.id = sessionID := by
  simp [ofSession]

theorem change_start (given : SessionStart) (now : Int) :
    Change S db (.start given now) (startSession S db given now).2 := by
  unfold startSession
  split
  · exact .same _
  split
  · split
    · exact .same _
    · split
      · exact .same _
      · exact .same _
  · rename_i unseen
    refine .started given now _ ?_
    intro s mem same
    exact find?_eq_none.mp unseen s mem (ofSession_iff.mpr same)

theorem updateWhere_addNone (sessionID : String) (sessions : List Session) :
    updateWhere (ofSession sessionID) (addEvents 0 0) sessions = sessions := by
  have unchanged : ∀ s : Session, (if ofSession sessionID s then s.addEvents 0 0 else s) = s := by
    intro s
    split
    · rfl
    · rfl
  simp [updateWhere,unchanged]

theorem change_ingest (keys : (db.events.map key).Nodup) (sessionID : String)
    (batch : List (IngestEvent × Stamp)) :
    Change S db (.ingest sessionID batch) (ingestEvents S db sessionID batch).2 := by
  unfold ingestEvents
  split
  · exact .same _
  rename_i s found
  have isID := ofSession_iff.mp (find?_some found)
  split
  · exact .same _
  rename_i opened
  split
  · exact .same _
  rename_i acc ok
  obtain ⟨rows,grown⟩ := grown_batch S keys ok
  have result : Change S db (.ingest sessionID batch)
      ⟨updateWhere (ofSession sessionID) (addEvents acc.addedBytes acc.addedCount)
        db.sessions,acc.events⟩ := by
    rw [← isID,grown.events,grown.count,grown.bytes]
    refine .ingested s batch rows (mem_of_find?_eq_some found) (by simpa using opened) ?_ ?_
    · rw [isID]
      exact grown.made
    · rw [← grown.events]
      exact grown.keys
  split
  · exact result
  rename_i nothing
  have none_ : rows = [] := by
    have zero := grown.count
    rw [eq_nil_iff_length_eq_zero]
    omega
  have count : acc.addedCount = 0 := by rw [grown.count,none_]; rfl
  have bytes : acc.addedBytes = 0 := by rw [grown.bytes,none_]; rfl
  rw [count,bytes,updateWhere_addNone] at result
  exact result

theorem change_finish (sessionID : String) (endedAt : Int) (claimed : Bool)
    (lastSeq : UInt64) : Change S db (.finish sessionID endedAt claimed lastSeq)
      (finishSession S db sessionID endedAt claimed lastSeq).2 := by
  unfold finishSession
  split
  · exact .same _
  split
  · exact .same _
  rename_i s found
  have isID := ofSession_iff.mp (find?_some found)
  split
  · split
    · exact .same _
    · exact .same _
  rename_i opened
  dsimp only
  split
  · exact .same _
  rename_i high
  split
  · exact .same _
  · rw [← isID] at high ⊢
    exact .finished s endedAt claimed lastSeq (mem_of_find?_eq_some found)
      (by simpa using opened) high

theorem change_step (keys : (db.events.map key).Nodup) (taken : Step S db label db') :
    Change S db label.1 db' := by
  obtain ⟨call,failed⟩ := label
  subst taken
  cases failed with
  | true => exact .same _
  | false =>
    cases call with
    | start given now => exact change_start S given now
    | ingest sessionID batch => exact change_ingest S keys sessionID batch
    | finish sessionID endedAt claimed lastSeq =>
      exact change_finish S sessionID endedAt claimed lastSeq

structure Steady (before after : List Session) : Prop where
  kept : ∀ s ∈ before, ∃ t ∈ after, t.id = s.id
  same : ∀ t ∈ after, (∃ s ∈ before, s.id = t.id ∧ s.start = t.start) ∨ ∀ s ∈ before, s.id ≠ t.id

theorem Steady.refl (sessions : List Session) : Steady sessions sessions :=
  ⟨fun s mem => ⟨s,mem,rfl⟩,fun t mem => Or.inl ⟨t,mem,rfl,rfl⟩⟩

variable {f : Session → Session}

section
variable (start : ∀ s, (f s).start = s.start) (sessions : List Session)
include start

theorem steady_updateWhere : Steady sessions (updateWhere p f sessions) := by
  have id : ∀ s, (f s).id = s.id := fun s => congrArg SessionStart.sessionID (start s)
  constructor
  · intro s mem
    by_cases chosen : p s = true
    · exact ⟨f s,mem_updateWhere.mpr (Or.inl ⟨s,mem,chosen,rfl⟩),id s⟩
    · exact ⟨s,mem_updateWhere_of_not mem (by simpa using chosen),rfl⟩
  · intro t mem
    left
    rcases mem_updateWhere.mp mem with ⟨s,old,_,rfl⟩ | ⟨old,_⟩
    · exact ⟨s,old,(id s).symm,(start s).symm⟩
    · exact ⟨t,old,rfl,rfl⟩

theorem ids_updateWhere : (updateWhere p f sessions).map Session.id = sessions.map Session.id :=
  column_updateWhere Session.id (fun s => congrArg SessionStart.sessionID (start s)) sessions

end

theorem known_of_steady {before after : List Session} (steady : Steady before after)
    (known : ∃ s ∈ before, s.id = e.sessionID) : ∃ s ∈ after, s.id = e.sessionID := by
  obtain ⟨s,mem,same⟩ := known
  obtain ⟨t,there,same'⟩ := steady.kept s mem
  exact ⟨t,there,same'.trans same⟩

theorem sessionID_made (made : ∀ r ∈ rows, ∃ ev stamp, r = sealedRow S sessionID ev stamp)
    (mem : r ∈ rows) : r.sessionID = sessionID := by
  obtain ⟨ev,stamp,rfl⟩ := made r mem
  rfl

variable {db' : DB} {call : Call}

section
variable (change : Change S db call db')
include change

theorem steady_change : Steady db.sessions db'.sessions := by
  cases change with
  | same => exact Steady.refl _
  | started given now startedAt fresh =>
    refine ⟨fun s mem => ⟨s,mem_append_left _ mem,rfl⟩,?_⟩
    rw [forall_mem_append,forall_mem_singleton]
    exact ⟨fun t old => .inl ⟨t,old,rfl,rfl⟩,.inr fresh⟩
  | ingested | finished =>
    apply steady_updateWhere
    exact fun _ => rfl

theorem ids_change (ids : (db.sessions.map Session.id).Nodup) : (db'.sessions.map Session.id).Nodup := by
  cases change with
  | same => exact ids
  | started given now startedAt fresh =>
    rw [map_append]
    exact Nodup.append ids (by simp) (by simpa [Session.id] using fresh)
  | ingested | finished =>
    rw [ids_updateWhere]
    · exact ids
    · exact fun _ => rfl

theorem keys_change (keys : (db.events.map key).Nodup) : (db'.events.map key).Nodup := by
  cases change with
  | same | started | finished => exact keys
  | ingested t batch rows mem opened made later => exact later

theorem known_change (known : ∀ e ∈ db.events, ∃ s ∈ db.sessions, s.id = e.sessionID) :
    ∀ e ∈ db'.events, ∃ s ∈ db'.sessions, s.id = e.sessionID := by
  intro e mem
  apply known_of_steady (steady_change S change)
  cases change with
  | same | started | finished => exact known e mem
  | ingested t batch rows memT opened made later =>
    rcases mem_append.mp mem with old | new
    · exact known e old
    · exact ⟨t,memT,(sessionID_made S made new).symm⟩

theorem events_change_of_ne (other : ∀ id batch, call ≠ .ingest id batch) : db'.events = db.events := by
  cases change with
  | same | started | finished => rfl
  | ingested t batch => exact absurd rfl (other t.id batch)

end

def eventsOf (db : DB) (sessionID : String) : List EventRow :=
  db.events.filter (inSession sessionID)

theorem mem_eventsOf : e ∈ eventsOf db sessionID ↔ e ∈ db.events ∧ e.sessionID = sessionID := by
  simp [eventsOf,inSession]

/-- What a complete flag stands for: a finish call claimed it, every number
    up to the last is stored and none above it. -/
structure Completed (calls : List (Call × Bool)) (db : DB) (s : Session) : Prop where
  ended : s.endedAt ≠ ""
  claimed : ∃ endedAt failed, (.finish s.id endedAt true s.lastSeq,failed) ∈ calls
  stored : ∀ n, 1 ≤ n → n ≤ s.lastSeq.toNat → ∃ e ∈ eventsOf db s.id, e.seq.toNat = n
  bounded : ∀ e ∈ eventsOf db s.id, e.seq ≤ s.lastSeq

structure Sound (calls : List (Call × Bool)) (db : DB) : Prop where
  ids : (db.sessions.map Session.id).Nodup
  keys : (db.events.map key).Nodup
  known : ∀ e ∈ db.events, ∃ s ∈ db.sessions, s.id = e.sessionID
  made : ∀ e ∈ db.events, ∃ ev stamp, e = sealedRow S e.sessionID ev stamp
  counted : ∀ s ∈ db.sessions, s.eventCount = (eventsOf db s.id).length ∧
    s.bytes = ((eventsOf db s.id).map (payloadLength S)).sum
  completed : ∀ s ∈ db.sessions, s.complete = true → Completed calls db s

theorem id_addEvents (bytes count : Nat) (s : Session) : (s.addEvents bytes count).id = s.id := rfl

variable {sessions : List Session}

theorem eventsOf_append (made : ∀ r ∈ rows, ∃ ev stamp, r = sealedRow S sessionID ev stamp)
    (other : String) : eventsOf ⟨sessions,db.events ++ rows⟩ other =
      eventsOf db other ++ if other = sessionID then rows else [] := by
  simp only [eventsOf,filter_append]
  congr 1
  split
  · rename_i same
    subst same
    rw [filter_eq_self]
    intro r mem
    simpa [inSession] using sessionID_made S made mem
  · rename_i different
    rw [filter_eq_nil_iff]
    intro r mem hit
    have isOther : r.sessionID = other := by simpa [inSession] using hit
    exact different (isOther.symm.trans (sessionID_made S made mem))

theorem apart_change (change : Change S db call db') (mem : s ∈ db.sessions)
    (apart : ∀ t ∈ db.sessions, t.endedAt = "" → (∃ batch, call = .ingest t.id batch) ∨
      (∃ endedAt claimed lastSeq, call = .finish t.id endedAt claimed lastSeq) → s.id ≠ t.id) :
    s ∈ db'.sessions ∧ eventsOf db' s.id = eventsOf db s.id := by
  cases change with
  | same => exact ⟨mem,rfl⟩
  | started given now startedAt fresh => exact ⟨mem_append_left _ mem,rfl⟩
  | ingested t batch rows memT opened made keys =>
    have other := apart t memT opened (.inl ⟨batch,rfl⟩)
    constructor
    · exact mem_updateWhere_of_not mem (by simp [ofSession,other])
    · rw [eventsOf_append S made,if_neg other,append_nil]
  | finished t endedAt claimed lastSeq memT opened high =>
    have other := apart t memT opened (.inr ⟨endedAt,claimed,lastSeq,rfl⟩)
    exact ⟨mem_updateWhere_of_not mem (by simp [openSession,other]),rfl⟩

variable {more : List (Call × Bool)}

theorem Completed.mono (completed : Completed calls db s)
    (events : eventsOf db' s.id = eventsOf db s.id) : Completed (calls ++ more) db' s := by
  obtain ⟨ended,⟨endedAt,failed,call⟩,stored,bounded⟩ := completed
  refine ⟨ended,⟨endedAt,failed,mem_append_left _ call⟩,?_,?_⟩
  · rw [events]
    exact stored
  · rw [events]
    exact bounded

theorem seqs_nodup (sound : Sound S calls db) (sessionID : String) : (eventSeqs db sessionID).Nodup := by
  have keys : ((eventsOf db sessionID).map key).Nodup :=
    Nodup.sublist (Sublist.map _ filter_sublist) sound.keys
  have same : (eventsOf db sessionID).map key =
      (eventSeqs db sessionID).map (fun seq => (sessionID,seq)) := by
    rw [eventSeqs,map_map]
    apply map_congr_left
    intro e mem
    simp [key,(mem_eventsOf.mp mem).2]
  rw [same] at keys
  exact Nodup.of_map _ keys

theorem openSession_iff : openSession sessionID s = true ↔ s.id = sessionID ∧ s.endedAt = "" := by
  simp [openSession]

theorem completed_finish (sound : Sound S calls db) {t : Session} {endedAt : Int} {lastSeq : UInt64}
    (complete : (claimed && maxSeq (eventSeqs db t.id) == lastSeq &&
      (gapsUpTo (eventSeqs db t.id) lastSeq).isEmpty) = true) :
    Completed (calls ++ [(.finish t.id endedAt claimed lastSeq,failed)])
      ⟨sessions,db.events⟩ (t.finish (S.clock.format endedAt) true lastSeq) := by
  simp only [Bool.and_eq_true,beq_iff_eq,List.isEmpty_iff] at complete
  obtain ⟨⟨isClaimed,top⟩,noGaps⟩ := complete
  refine ⟨S.clock.format_ne endedAt,⟨endedAt,failed,?_⟩,?_,?_⟩
  · rw [isClaimed]
    exact List.mem_append_right _ List.mem_cons_self
  · intro n low high
    obtain ⟨seq,mem,same⟩ := all_stored_of_no_gaps (seqs_nodup S sound t.id) top noGaps n low high
    obtain ⟨e,memE,rfl⟩ := List.mem_map.mp mem
    exact ⟨e,memE,same⟩
  · intro e mem
    rw [← top]
    exact le_maxSeq (mem_map_of_mem mem)

section
variable (sound : Sound S calls db) (change : Change S db call db')
include sound change

theorem frozen_change (mem : s ∈ db.sessions) (ended : s.endedAt ≠ "") :
    s ∈ db'.sessions ∧ eventsOf db' s.id = eventsOf db s.id := by
  refine apart_change S change mem ?_
  intro t memT opened _ same
  rw [unique_row sound.ids mem memT same] at ended
  exact ended opened

theorem made_change : ∀ e ∈ db'.events, ∃ ev stamp, e = sealedRow S e.sessionID ev stamp := by
  cases change with
  | same | started | finished => exact sound.made
  | ingested t batch rows mem opened made keys =>
    intro e among
    rcases mem_append.mp among with old | new
    · exact sound.made e old
    · rw [sessionID_made S made new]
      exact made e new

theorem counted_change :
    ∀ s ∈ db'.sessions, s.eventCount = (eventsOf db' s.id).length ∧
      s.bytes = ((eventsOf db' s.id).map (payloadLength S)).sum := by
  cases change with
  | same => exact sound.counted
  | started given now startedAt fresh =>
    intro s mem
    rcases mem_append.mp mem with old | new
    · exact sound.counted s old
    have none_ : eventsOf db given.sessionID = [] := by
      rw [eq_nil_iff_forall_not_mem]
      intro e among
      obtain ⟨inDB,isNew⟩ := mem_eventsOf.mp among
      obtain ⟨t,memT,same⟩ := sound.known e inDB
      exact fresh t memT (same.trans isNew)
    rw [mem_singleton.mp new]
    change 0 = (eventsOf db given.sessionID).length ∧
      0 = ((eventsOf db given.sessionID).map (payloadLength S)).sum
    rw [none_]
    exact ⟨rfl,rfl⟩
  | ingested t batch rows mem opened made keys =>
    intro s among
    rw [eventsOf_append S made]
    rcases mem_updateWhere.mp among with ⟨old,memOld,hit,rfl⟩ | ⟨memS,miss⟩
    · have isT : old.id = t.id := ofSession_iff.mp hit
      obtain ⟨count,bytes⟩ := sound.counted old memOld
      rw [id_addEvents,if_pos isT]
      simp [addEvents,count,bytes]
    · rw [if_neg (by simpa [ofSession] using miss),append_nil]
      exact sound.counted s memS
  | finished =>
    intro s among
    rcases mem_updateWhere.mp among with ⟨old,memOld,_,rfl⟩ | ⟨memS,_⟩
    · exact sound.counted old memOld
    · exact sound.counted s memS

theorem completed_change {failed : Bool} :
    ∀ s ∈ db'.sessions, s.complete = true → Completed (calls ++ [(call,failed)]) db' s := by
  have kept : ∀ s ∈ db.sessions, s.complete = true → Completed (calls ++ [(call,failed)]) db' s := by
    intro s mem complete
    have before := sound.completed s mem complete
    exact before.mono (frozen_change S sound change mem before.ended).2
  cases change with
  | same => exact kept
  | started =>
    rw [forall_mem_append,forall_mem_singleton]
    exact ⟨kept,nofun⟩
  | ingested t batch rows mem opened made keys =>
    intro s among complete
    rcases mem_updateWhere.mp among with ⟨old,memOld,hit,rfl⟩ | ⟨memS,_⟩
    · -- the session that takes events is not finished, so it is not complete
      have isT : old = t := unique_row sound.ids memOld mem (ofSession_iff.mp hit)
      subst isT
      exact absurd opened (sound.completed old memOld complete).ended
    · exact kept s memS complete
  | finished t endedAt claimed lastSeq mem opened high =>
    intro s among complete
    rcases mem_updateWhere.mp among with ⟨old,memOld,hit,rfl⟩ | ⟨memS,_⟩
    · have isT : old = t := unique_row sound.ids memOld mem (openSession_iff.mp hit).1
      subst isT
      simp only [finish] at complete ⊢
      rw [complete]
      exact completed_finish S sound complete
    · exact kept s memS complete

end

theorem sound_step (sound : Sound S calls db) (taken : Step S db label db') :
    Sound S (calls ++ [label]) db' := by
  have change := change_step S sound.keys taken
  exact ⟨ids_change S change sound.ids,keys_change S change sound.keys,known_change S change sound.known,
    made_change S sound change,counted_change S sound change,completed_change S sound change⟩

theorem sound_run (run : Run (Step S) emptyDB calls db) : Sound S calls db := by
  induction run with
  | start =>
    refine ⟨nodup_nil,nodup_nil,?_,?_,?_,?_⟩
    · intro e mem; cases mem
    · intro e mem; cases mem
    · intro s mem; cases mem
    · intro s mem; cases mem
  | next _ taken ih => exact sound_step S ih taken

theorem events_change (change : Change S db call db') : db.events <+: db'.events := by
  cases change with
  | same | started given now startedAt fresh => exact prefix_refl _
  | ingested t batch rows mem opened made keys => exact prefix_append _ _
  | finished t endedAt claimed lastSeq mem opened high => exact prefix_refl _

def AlreadyStored (db : DB) (sessionID : String) (batch : List (IngestEvent × Stamp)) : Prop :=
  ∀ item ∈ batch, ∃ e ∈ eventsOf db sessionID, e.event S = item.1

theorem ingestOne_stored (sound : Sound S calls db) (mem : e ∈ eventsOf db sessionID)
    (same : e.event S = item.1) {acc : Ingest} (view : acc.events = db.events) :
    ingestOne S sessionID acc item = .ok { acc with duplicate := acc.duplicate + 1 } := by
  obtain ⟨inDB,isSession⟩ := mem_eventsOf.mp mem
  have isKey : e.key = (sessionID,item.1.seq) := by
    rw [← same,← isSession]
    rfl
  have found : acc.events.find? (atSeq sessionID item.1.seq) = some e := by
    rw [view]
    cases isFound : db.events.find? (atSeq sessionID item.1.seq) with
    | none => exact absurd (atSeq_iff.mpr isKey) (find?_eq_none.mp isFound e inDB)
    | some row =>
      rw [unique_row sound.keys (mem_of_find?_eq_some isFound) inDB
        ((atSeq_iff.mp (find?_some isFound)).trans isKey.symm)]
  have hash : e.payloadSha256 = payloadHash S item.1 := by
    obtain ⟨ev,stamp,isRow⟩ := sound.made e inDB
    have event : e.event S = ev := by
      rw [isRow]
      exact event_sealedRow S _ ev stamp
    rw [← same,event,isRow]
    rfl
  simp [ingestOne,found,hash]

theorem batch_stored (sound : Sound S calls db) (stored : AlreadyStored S db sessionID batch)
    (acc : Ingest) (view : acc.events = db.events) :
    batch.foldlM (ingestOne S sessionID) acc =
      .ok { acc with duplicate := acc.duplicate + batch.length } := by
  induction batch generalizing acc with
  | nil => rfl
  | cons item rest ih =>
    obtain ⟨⟨e,mem,same⟩,others⟩ := forall_mem_cons.mp stored
    rw [foldlM_cons,ingestOne_stored S sound mem same view]
    change rest.foldlM (ingestOne S sessionID) { acc with duplicate := acc.duplicate + 1 } = _
    rw [ih others { acc with duplicate := acc.duplicate + 1 } view]
    simp [Nat.add_comm rest.length,Nat.add_assoc]

/-- A batch that is already stored is answered with duplicates only, or with an
    error if the session is unknown or finished; either way nothing changes. -/
theorem resend_changes_nothing (sound : Sound S calls db)
    (stored : AlreadyStored S db sessionID batch) : (ingestEvents S db sessionID batch).2 = db := by
  unfold ingestEvents
  split
  · rfl
  split
  · rfl
  · rw [batch_stored S sound stored _ rfl]
    rfl

structure Integrity (calls : List (Call × Bool)) (db : DB) : Prop where
  oneRow : (db.sessions.map Session.id).Nodup
  oneEvent : (db.events.map key).Nodup
  counted : ∀ s ∈ db.sessions, s.eventCount = (eventsOf db s.id).length ∧
    s.bytes = ((eventsOf db s.id).map (payloadLength S)).sum
  resent : ∀ sessionID batch failed, AlreadyStored S db sessionID batch →
    (Call.ingest sessionID batch).apply S failed db = db
  completed : ∀ s ∈ db.sessions, s.complete = true → Completed calls db s

structure Kept (db later : DB) : Prop where
  events : db.events <+: later.events
  finished : ∀ s ∈ db.sessions, s.endedAt ≠ "" →
    s ∈ later.sessions ∧ eventsOf later s.id = eventsOf db s.id

theorem Kept.trans (first : Kept a b) (second : Kept b c) : Kept a c := by
  refine ⟨first.events.trans second.events,?_⟩
  intro s mem ended
  obtain ⟨memB,eventsB⟩ := first.finished s mem ended
  obtain ⟨memC,eventsC⟩ := second.finished s memB ended
  exact ⟨memC,eventsC.trans eventsB⟩

theorem kept_run (sound : Sound S calls db) (run : Run (Step S) db more later) :
    Kept db later ∧ Sound S (calls ++ more) later := by
  induction run with
  | start => exact ⟨⟨prefix_refl _,fun s mem _ => ⟨mem,rfl⟩⟩,by simpa using sound⟩
  | next _ taken ih =>
    obtain ⟨kept,soundT⟩ := ih
    have change := change_step S soundT.keys taken
    refine ⟨kept.trans ⟨events_change S change,?_⟩,?_⟩
    · intro s mem ended
      exact frozen_change S soundT change mem ended
    · rw [← append_assoc]
      exact sound_step S soundT taken

/-- Integrity of the session store under any interleaving of its calls. -/
theorem session_store_integrity {calls : List (Call × Bool)} {db : DB}
    (run : Run (Step S) emptyDB calls db) :
    Integrity S calls db ∧ ∀ more later, Run (Step S) db more later → Kept db later := by
  have sound := sound_run S run
  refine ⟨⟨sound.ids,sound.keys,sound.counted,?_,sound.completed⟩,?_⟩
  · intro sessionID batch failed stored
    cases failed with
    | true => rfl
    | false => exact resend_changes_nothing S sound stored
  · intro more later continued
    exact (kept_run S sound continued).1

/-- One event sealed with AES-256-GCM under the zero key and nonce, and its
    SHA-256; other inputs get a prefix no such ciphertext has. -/
def sampleSetup : Setup where
  enc := {
    keyID := "k1"
    seals := fun nonce aad plaintext =>
      if nonce = replicate 12 0 ∧ aad = "1:s|1|1:o" ∧ plaintext = [65] then
        [143,60,110,143,5,145,157,38,80,12,46,61,38,26,20,16,182]
      else 255 :: plaintext
    opens := fun _ _ ciphertext =>
      match ciphertext with
      | 255 :: plaintext => some plaintext
      | [143,60,110,143,5,145,157,38,80,12,46,61,38,26,20,16,182] => some [65]
      | _ => none
    opens_seals := by
      intro nonce aad plaintext
      by_cases known : nonce = replicate 12 0 ∧ aad = "1:s|1|1:o" ∧ plaintext = [65]
      · rw [if_pos known,known.2.2]
        rfl
      · rw [if_neg known]
        rfl }
  sha256 := fun text =>
    if text = "o|0|0|0|0|41" then "64b8abec9384c1bb6ce9191c4ff9090f543cc29f603b0ba38edcc20b77ac0207"
    else text
  clock := ⟨fun t => if t = 0 then "1970-01-01T00:00:00Z" else "1970-01-01T00:00:01Z",
    fun text => if text = "1970-01-01T00:00:00Z" then some 0 else some 1000000000,by
      intro t
      split
      · decide
      · decide⟩

def sampleEvent : IngestEvent × Stamp := (⟨1,"o",0,[65],0,0,0⟩,⟨replicate 12 0,0⟩)

def sampleStart : Call × Bool :=
  (.start ⟨"s","user","d","g","scope","host","full",0,"host","jti"⟩ 0,false)

def sampleIngest : Call × Bool := (.ingest "s" [sampleEvent],false)

def sampleFinish : Call × Bool := (.finish "s" 1000000000 true 1,false)

/-- A session whose one batch is sent twice, finished as complete. -/
theorem session_store_integrity_of_a_recording :
    ∃ db, Run (Step sampleSetup) emptyDB [sampleStart,sampleIngest,sampleIngest,sampleFinish] db ∧
      db.sessions.map (fun s => (s.id,s.complete,s.eventCount,s.bytes)) = [("s",true,1,1)] ∧
      (Integrity sampleSetup [sampleStart,sampleIngest,sampleIngest,sampleFinish] db ∧
        ∀ more later, Run (Step sampleSetup) db more later → Kept db later) := by
  let apply := fun (call : Call × Bool) db => call.1.apply sampleSetup call.2 db
  let started := apply sampleStart emptyDB
  let stored := apply sampleIngest started
  let again := apply sampleIngest stored
  have one := Run.next (Run.start emptyDB) (show Step sampleSetup emptyDB sampleStart started from rfl)
  have two := Run.next one (show Step sampleSetup started sampleIngest stored from rfl)
  have three := Run.next two (show Step sampleSetup stored sampleIngest again from rfl)
  have run := Run.next three
    (show Step sampleSetup again sampleFinish (apply sampleFinish again) from rfl)
  exact ⟨apply sampleFinish again,run,by decide,session_store_integrity sampleSetup run⟩

end Pilot.Sessions
