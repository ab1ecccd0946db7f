import Mathlib.Data.List.Nodup
import Pilot.Library.Fold
import Pilot.Library.Transition

/-!
The recorder of a terminal session, after `internal/sessionrecording/recorder.go`.
Producers stamp an event with the next sequence number before they hand it to a
bounded queue, the writer sends batches to the sink, and at the end `Run` stops
the writer and reports how far the recording goes. The queue is never closed, and
a producer may stamp and queue an event when the writer has already gone.
-/
namespace Pilot.Sessions
open List Sublist Or Transition

structure RecorderOptions where
  (failClosed recordsInput : Bool)
  queueEvents : Nat

/-- `run` queues the initial size. -/
inductive Producer where
  | run
  | input
  | output
  | resize
  deriving DecidableEq

/-- How far `enqueue` has come with an event. -/
inductive EnqueuePoint where
  | stamped
  | counted
  | refused
  | uncounted
  deriving DecidableEq

inductive ProducerPhase where
  | idle
  | at (point : EnqueuePoint) (seq : Nat)
  deriving DecidableEq

/-- `flushing` has seen the queue empty and writes its last batch. -/
inductive WriterPhase where
  | running
  | draining
  | flushing
  | stopped
  deriving DecidableEq

inductive SinkCall where
  | idle
  | calling
  | erred
  | discarding
  deriving DecidableEq

inductive TripPhase where
  | quiet
  | tripping
  | tripped
  deriving DecidableEq

inductive RunErr where
  | failedClosed
  | aborted
  deriving DecidableEq

inductive MainPhase where
  | relaying
  | leaving (runErr : Option RunErr)
  | stopping (runErr : Option RunErr)
  | drained (runErr : Option RunErr)
  deriving DecidableEq

/-- `passed` are the events that were given to the sink, and `sent` those that were ever sent to the
queue, in order. -/
structure Recorder where
  seq : Nat
  producers : Producer → ProducerPhase
  (queue batch acked passed sent : List Nat)
  pending : Int
  writer : WriterPhase
  call : SinkCall
  trip : TripPhase
  main : MainPhase
  (ctxDone cancelled timerExpired drainTimed lost : Bool)
  lossReason : String

inductive LeaveCause where
  | copyDone
  | failClosed
  | ctxDone
  deriving DecidableEq

inductive RecorderAct where
  | stamp (p : Producer)
  | count (p : Producer)
  | send (p : Producer)
  | refuse (p : Producer)
  | uncount (p : Producer)
  | lose (p : Producer)
  | take
  | write
  | answer (ok : Bool)
  | settle
  | observeStop
  | observeEmpty
  | stop
  | watchdog
  | tripEnds
  | cancelCtx
  | leave (cause : LeaveCause)
  | stopWriter
  | timerExpires
  | timerMarks
  | await
  | giveUp
  deriving DecidableEq

namespace Recorder

def start : Recorder where
  seq := 0
  producers _ := .idle
  queue := []
  batch := []
  acked := []
  passed := []
  sent := []
  pending := 0
  writer := .running
  call := .idle
  trip := .quiet
  main := .relaying
  ctxDone := false
  cancelled := false
  timerExpired := false
  drainTimed := false
  lost := false
  lossReason := ""

def setProducer (r : Recorder) (p : Producer) (phase : ProducerPhase) : Recorder :=
  { r with producers := Function.update r.producers p phase }

def markLost (r : Recorder) (reason : String) : Recorder :=
  { r with lost := true, lossReason := if r.lossReason = "" then reason else r.lossReason }

def triggerFailClosed (r : Recorder) : Recorder :=
  if r.trip = .quiet then { r.markLost "sink_error" with trip := .tripping } else r

/-- The select of `enqueue` may give the event up. -/
def mayRefuse (O : RecorderOptions) (r : Recorder) : Bool :=
  if O.failClosed then r.trip = .tripped || r.writer = .stopped
  else O.queueEvents ≤ r.queue.length

/-- `stopWriter` is closed. -/
def stopClosed (r : Recorder) : Bool :=
  match r.main with
  | .stopping _ | .drained _ => true
  | _ => false

/-- One step of one of the goroutines; a step that is not possible changes nothing. -/
def act (O : RecorderOptions) (r : Recorder) : RecorderAct → Recorder
  | .stamp p =>
      -- the initial size is queued before the relays and the watcher start
      if r.producers p = .idle ∧ (p = .input → O.recordsInput = true) ∧ (p = .run → r.seq = 0) ∧
          r.producers .run = .idle then
        { r.setProducer p (.at .stamped (r.seq+1)) with seq := r.seq+1 }
      else r
  | .count p =>
      match r.producers p with
      | .at .stamped n => { r.setProducer p (.at .counted n) with pending := r.pending+1 }
      | _ => r
  | .send p =>
      match r.producers p with
      | .at .counted n =>
          if r.queue.length < O.queueEvents then
            { r.setProducer p .idle with queue := r.queue ++ [n], sent := r.sent ++ [n] }
          else r
      | _ => r
  | .refuse p =>
      match r.producers p with
      | .at .counted n => if r.mayRefuse O then r.setProducer p (.at .refused n) else r
      | _ => r
  | .uncount p =>
      match r.producers p with
      | .at .refused n => { r.setProducer p (.at .uncounted n) with pending := r.pending-1 }
      | _ => r
  | .lose p =>
      match r.producers p with
      | .at .uncounted _ => (r.setProducer p .idle).markLost "dropped"
      | _ => r
  | .take =>
      match r.queue with
      | n :: rest =>
          if r.call = .idle ∧ (r.writer = .running ∨ r.writer = .draining) then
            { r with queue := rest, batch := r.batch ++ [n] }
          else r
      | [] => r
  | .write =>
      if r.call = .idle ∧ r.writer ≠ .stopped ∧ r.batch ≠ [] then
        if r.cancelled || r.ctxDone then { r with call := .discarding }
        else { r with call := .calling, passed := r.passed ++ r.batch }
      else r
  | .answer ok =>
      if r.call = .calling then
        if ok then
          { r with acked := r.acked ++ r.batch, batch := [], pending := r.pending - r.batch.length, call := .idle }
        else { r with pending := r.pending - r.batch.length, call := .erred }
      else r
  | .settle =>
      match r.call with
      | .erred =>
          let lost := { r.markLost "sink_error" with batch := [], call := .idle }
          if O.failClosed then lost.triggerFailClosed else lost
      | .discarding =>
          { r.markLost "dropped" with batch := [], pending := r.pending - r.batch.length, call := .idle }
      | _ => r
  | .observeStop =>
      if r.writer = .running ∧ r.call = .idle ∧ r.stopClosed then { r with writer := .draining } else r
  | .observeEmpty =>
      if r.writer = .draining ∧ r.call = .idle ∧ r.queue = [] then { r with writer := .flushing } else r
  | .stop =>
      if r.writer = .flushing ∧ r.call = .idle ∧ r.batch = [] then { r with writer := .stopped } else r
  | .watchdog => if O.failClosed ∧ 0 < r.pending then r.triggerFailClosed else r
  | .tripEnds => if r.trip = .tripping then { r with trip := .tripped, cancelled := true } else r
  | .cancelCtx => { r with ctxDone := true }
  | .leave cause =>
      if r.main = .relaying then
        match cause with
        | .copyDone => { r with main := .leaving none }
        | .failClosed => if r.trip = .tripped then { r with main := .leaving (some .failedClosed) } else r
        | .ctxDone => if r.ctxDone then { r with main := .leaving (some .aborted) } else r
      else r
  | .stopWriter =>
      -- a trip that has begun is waited for and owns the result
      match r.main,r.trip with
      | .leaving runErr,.quiet => { r with main := .stopping runErr }
      | .leaving _,.tripped => { r with main := .stopping (some .failedClosed) }
      | _,_ => r
  | .timerExpires => if r.stopClosed ∧ r.writer ≠ .stopped then { r with timerExpired := true } else r
  | .timerMarks => if r.timerExpired then { r with drainTimed := true, cancelled := true } else r
  | .await =>
      match r.main,r.writer with
      | .stopping runErr,.stopped => { r with main := .drained runErr }
      | _,_ => r
  | .giveUp =>
      match r.main with
      | .stopping runErr => { r with main := .drained runErr, drainTimed := true, cancelled := true }
      | _ => r

def run (O : RecorderOptions) (acts : List RecorderAct) : Recorder := acts.foldl (act O) start

structure FinishInfo where
  lastSeq : Nat
  complete : Bool
  reason : String
  deriving DecidableEq

/-- What `Run` reports to the sink when it has drained. -/
def finish (r : Recorder) (runErr : Option RunErr) : FinishInfo :=
  if r.trip ≠ .quiet then ⟨r.seq,false,"fail_closed"⟩
  else if r.drainTimed then ⟨r.seq,false,"drain_timeout"⟩
  else if r.lost then ⟨r.seq,false,r.lossReason⟩
  else if runErr ≠ none then ⟨r.seq,false,"aborted"⟩
  else ⟨r.seq,true,""⟩

theorem finish_lastSeq (r : Recorder) (runErr : Option RunErr) : (r.finish runErr).lastSeq = r.seq := by
  unfold finish
  split <;> [rfl; (split <;> [rfl; (split <;> [rfl; (split <;> rfl)])])]

theorem finish_complete {r : Recorder} (complete : (r.finish runErr).complete = true) :
    r.drainTimed = false ∧ r.lost = false := by
  unfold finish at complete
  split at complete
  · cases complete
  split at complete
  · cases complete
  split at complete
  · cases complete
  · rename_i drained kept
    exact ⟨Bool.eq_false_iff.mpr drained,Bool.eq_false_iff.mpr kept⟩

/-- The events that have left their producers and are not given up. -/
def shipped (r : Recorder) : List Nat := r.acked ++ r.batch ++ r.queue

/-- The events in the order of the sink's calls, with those that may still be passed. -/
def ahead (r : Recorder) : List Nat := r.passed ++ (if r.call = .idle then r.batch else []) ++ r.queue

/-- The producer is between stamping the event and the end of `enqueue`. -/
def Holds (r : Recorder) (p : Producer) (n : Nat) : Prop := ∃ point,r.producers p = .at point n

def Known (r : Recorder) (n : Nat) : Prop := n ∈ r.shipped ∨ (∃ p,r.Holds p n) ∨ r.lost = true

/-- Every number that was given out is shipped, with one producer, or a loss is noted; and what is
shipped or passed keeps the order of the queue. -/
structure Accounted (r : Recorder) : Prop where
  known : ∀ n,0 < n → n ≤ r.seq → r.Known n
  placed : r.shipped.Sublist r.sent
  order : r.ahead.Sublist r.sent
  once : r.sent.Nodup
  given : ∀ n ∈ r.sent,0 < n ∧ n ≤ r.seq
  held : ∀ p n,r.Holds p n → n ∉ r.sent ∧ 0 < n ∧ n ≤ r.seq
  apart : ∀ p q n,r.Holds p n → r.Holds q n → p = q
  gone : r.writer = .stopped → r.batch = [] ∧ r.call = .idle
  ended : ∀ runErr,r.main = .drained runErr → r.drainTimed = true ∨ r.writer = .stopped

theorem start_accounted : Accounted start where
  known := by
    intro n pos le
    change n ≤ 0 at le
    omega
  placed := refl []
  order := refl []
  once := nodup_nil
  given := by simp [start]
  held := by simp [Holds,start]
  apart := by simp [Holds,start]
  gone := by simp [start]
  ended := by simp [start]

section
variable {r r' : Recorder} {p q : Producer} {n m : Nat} {point : EnqueuePoint}

/-- Only a stamp and a send change what the numbers are accounted by. -/
theorem Accounted.moved (a : Accounted r) (seq : r'.seq = r.seq) (sent : r'.sent = r.sent)
    (known : ∀ n,r.Known n → r'.Known n) (placed : r'.shipped.Sublist r.shipped)
    (order : r'.ahead.Sublist r.ahead) (holds : ∀ p n,r'.Holds p n → r.Holds p n)
    (gone : r'.writer = .stopped → r'.batch = [] ∧ r'.call = .idle)
    (ended : ∀ runErr,r'.main = .drained runErr → r'.drainTimed = true ∨ r'.writer = .stopped) :
    Accounted r' where
  known := fun n pos le => known n (a.known n pos (seq ▸ le))
  placed := sent ▸ placed.trans a.placed
  order := sent ▸ order.trans a.order
  once := sent ▸ a.once
  given := by
    rw [sent,seq]
    exact a.given
  held := by
    intro p n holder
    rw [sent,seq]
    exact a.held p n (holds p n holder)
  apart := fun p q n atP atQ => a.apart p q n (holds p n atP) (holds q n atQ)
  gone := gone
  ended := ended

theorem known_of_same (shipped : r'.shipped = r.shipped) (producers : r'.producers = r.producers)
    (lost : r'.lost = r.lost) (n : Nat) (known : r.Known n) : r'.Known n := by
  unfold Known Holds
  rw [shipped,producers,lost]
  exact known

theorem holds_advanced (is : r.producers p = .at point n) :
    (r.setProducer p (.at point' n)).Holds q m ↔ r.Holds q m := by
  unfold Holds setProducer
  by_cases same : q = p
  · subst same
    simp [is]
  · simp [same]

theorem holds_released : (r.setProducer p .idle).Holds q m ↔ q ≠ p ∧ r.Holds q m := by
  unfold Holds setProducer
  by_cases same : q = p
  · simp [same]
  · simp [same]

theorem holds_stamped (idle : r.producers p = .idle) :
    (r.setProducer p (.at point n)).Holds q m ↔ (q = p ∧ m = n) ∨ r.Holds q m := by
  unfold Holds setProducer
  by_cases same : q = p
  · subst same
    simp [idle,eq_comm]
  · simp [same]

section
variable (a : Accounted r)
include a

theorem advanced_accounted (is : r.producers p = .at point n) (pending : Int) :
    Accounted { r.setProducer p (.at point' n) with pending := pending } := by
  have holds (q : Producer) (m : Nat) :
      Holds { r.setProducer p (.at point' n) with pending := pending } q m ↔ r.Holds q m := holds_advanced is
  refine a.moved rfl rfl (fun m known => ?_) (refl _) (refl _)
    (fun q m => (holds q m).mp) a.gone a.ended
  rcases known with ship | ⟨q,holder⟩ | loss
  · exact inl ship
  · exact inr (inl ⟨q,(holds q m).mpr holder⟩)
  · exact inr (inr loss)

theorem Accounted.flagged (writer : WriterPhase) (trip : TripPhase) (main : MainPhase)
    (ctxDone cancelled timerExpired drainTimed : Bool)
    (gone : writer = .stopped → r.batch = [] ∧ r.call = .idle)
    (ended : ∀ runErr,main = .drained runErr → drainTimed = true ∨ writer = .stopped) :
    Accounted { r with writer, trip, main, ctxDone, cancelled, timerExpired, drainTimed } :=
  a.moved rfl rfl (fun _ => id) (refl _) (refl _) (fun _ _ => id) gone ended

theorem triggerFailClosed_accounted : Accounted r.triggerFailClosed := by
  unfold triggerFailClosed
  split
  · exact a.moved rfl rfl (fun _ _ => inr (inr rfl)) (refl _) (refl _)
      (fun _ _ => id) a.gone a.ended
  · exact a

theorem stamp_accounted (idle : r.producers p = .idle) :
    Accounted { r.setProducer p (.at .stamped (r.seq+1)) with seq := r.seq+1 } := by
  have holds : ∀ q m,Holds { r.setProducer p (.at .stamped (r.seq+1)) with seq := r.seq+1 } q m ↔
      (q = p ∧ m = r.seq+1) ∨ r.Holds q m := fun _ _ => holds_stamped idle
  constructor
  · intro m pos le
    change m ≤ r.seq+1 at le
    by_cases new : m = r.seq+1
    · exact inr (inl ⟨p,(holds p m).mpr (inl ⟨rfl,new⟩)⟩)
    rcases a.known m pos (by omega) with ship | ⟨q,holder⟩ | loss
    · exact inl ship
    · exact inr (inl ⟨q,(holds q m).mpr (inr holder)⟩)
    · exact inr (inr loss)
  · exact a.placed
  · exact a.order
  · exact a.once
  · intro m sent
    have old := a.given m sent
    exact ⟨old.1,Nat.le_succ_of_le old.2⟩
  · intro q m holder
    rcases (holds q m).mp holder with ⟨_,rfl⟩ | old
    · refine ⟨?_,Nat.succ_pos _,Nat.le_refl _⟩
      intro sent
      have bound := (a.given _ sent).2
      omega
    · have old := a.held q m old
      exact ⟨old.1,old.2.1,Nat.le_succ_of_le old.2.2⟩
  · intro q q' m atQ atQ'
    rcases (holds q m).mp atQ with ⟨rfl,rfl⟩ | old
    · rcases (holds q' _).mp atQ' with ⟨rfl,_⟩ | old'
      · rfl
      · have bound := (a.held q' _ old').2.2
        omega
    · rcases (holds q' m).mp atQ' with ⟨_,rfl⟩ | old'
      · have bound := (a.held q _ old).2.2
        omega
      · exact a.apart q q' m old old'
  · exact a.gone
  · exact a.ended

theorem send_accounted (is : r.producers p = .at point n) :
    Accounted { r.setProducer p .idle with queue := r.queue ++ [n], sent := r.sent ++ [n] } := by
  have mine : r.Holds p n := ⟨point,is⟩
  have behind {l : List Nat} (old : (l ++ r.queue).Sublist r.sent) :
      (l ++ (r.queue ++ [n])).Sublist (r.sent ++ [n]) := by
    rw [← append_assoc]
    exact old.append (refl [n])
  have holds : ∀ q m,Holds { r.setProducer p .idle with queue := r.queue ++ [n], sent := r.sent ++ [n] } q m ↔
      q ≠ p ∧ r.Holds q m := fun _ _ => holds_released
  constructor
  · intro m pos le
    rcases a.known m pos le with ship | ⟨q,holder⟩ | loss
    · left
      change m ∈ r.acked ++ r.batch ++ (r.queue ++ [n])
      rw [← append_assoc]
      exact mem_append_left _ ship
    · by_cases same : q = p
      · obtain ⟨point',other⟩ := holder
        rw [same,is] at other
        cases other
        exact inl (mem_append_right _ (mem_append_right _ mem_cons_self))
      · exact inr (inl ⟨q,(holds q m).mpr ⟨same,holder⟩⟩)
    · exact inr (inr loss)
  · exact behind a.placed
  · exact behind a.order
  · have more := a.once.concat (a.held p n mine).1
    rwa [concat_eq_append] at more
  · rw [forall_mem_append,forall_mem_singleton]
    exact ⟨a.given,(a.held p n mine).2⟩
  · intro q m holder
    obtain ⟨other,old⟩ := (holds q m).mp holder
    refine ⟨?_,(a.held q m old).2⟩
    rw [mem_append,mem_singleton]
    rintro (sent | rfl)
    · exact (a.held q m old).1 sent
    · exact other (a.apart q p m old mine)
  · intro q q' m atQ atQ'
    exact a.apart q q' m ((holds q m).mp atQ).2 ((holds q' m).mp atQ').2
  · exact a.gone
  · exact a.ended

theorem settle_accounted (busy : r.call ≠ .idle) (reason : String) (pending : Int) :
    Accounted { r.markLost reason with batch := [], pending := pending, call := .idle } := by
  refine a.moved rfl rfl (fun _ _ => inr (inr rfl)) ?_ ?_ (fun _ _ => id) (fun _ => ⟨rfl,rfl⟩) a.ended
  · exact append_right (by simp [markLost]) _
  · simp [ahead,markLost,busy]

theorem act_accounted (label : RecorderAct) : Accounted (r.act O label) := by
  cases label <;> dsimp only [act]
  case stamp p =>
    split
    · rename_i may
      exact stamp_accounted a may.1
    · exact a
  case count p | uncount p =>
    split
    · rename_i n is
      exact advanced_accounted a is _
    · exact a
  case send p =>
    split
    · rename_i n is
      split
      · exact send_accounted a is
      · exact a
    · exact a
  case refuse p =>
    split
    · rename_i n is
      split
      · exact advanced_accounted a is r.pending
      · exact a
    · exact a
  case lose p =>
    split
    · exact a.moved rfl rfl (fun _ _ => inr (inr rfl)) (refl _) (refl _)
        (fun _ _ holder => (holds_released.mp holder).2) a.gone a.ended
    · exact a
  case take =>
    split
    · rename_i n rest waiting
      split
      · rename_i may
        refine a.moved rfl rfl (known_of_same ?_ rfl rfl) ?_ ?_ (fun _ _ => id) ?_ a.ended
        · simp [shipped,waiting]
        · simp [shipped,waiting]
        · simp [ahead,waiting,may.1]
        · intro stopped
          change r.writer = .stopped at stopped
          simp [stopped] at may
      · exact a
    · exact a
  case write =>
    split
    · rename_i may
      split
      · refine a.moved rfl rfl (fun _ => id) (refl _) ?_ (fun _ _ => id)
          (fun stopped => absurd stopped may.2.1) a.ended
        simp [ahead,may.1]
      · refine a.moved rfl rfl (fun _ => id) (refl _) ?_ (fun _ _ => id)
          (fun stopped => absurd stopped may.2.1) a.ended
        simp [ahead,may.1]
    · exact a
  case answer ok =>
    split
    · rename_i calling
      split
      · refine a.moved rfl rfl (known_of_same ?_ rfl rfl) ?_ ?_ (fun _ _ => id) (fun _ => ⟨rfl,rfl⟩) a.ended
        · simp [shipped]
        · simp [shipped]
        · simp [ahead,calling]
      · refine a.moved rfl rfl (fun _ => id) (refl _) ?_ (fun _ _ => id) ?_ a.ended
        · simp [ahead,calling]
        · intro stopped
          rw [(a.gone stopped).2] at calling
          cases calling
    · exact a
  case settle =>
    split
    · rename_i erred
      have busy : r.call ≠ .idle := by simp [erred]
      split
      · exact triggerFailClosed_accounted (settle_accounted a busy _ _)
      · exact settle_accounted a busy _ _
    · rename_i discarding
      exact settle_accounted a (by simp [discarding]) _ _
    · exact a
  case watchdog =>
    split
    · exact triggerFailClosed_accounted a
    · exact a
  case observeStop | observeEmpty =>
    split
    · rename_i may
      refine a.flagged _ _ _ _ _ _ _ (fun stopped => by cases stopped) (fun runErr is => ?_)
      rcases a.ended runErr is with timed | stopped
      · exact inl timed
      · rw [may.1] at stopped
        cases stopped
    · exact a
  case stop =>
    split
    · rename_i may
      exact a.flagged _ _ _ _ _ _ _ (fun _ => ⟨may.2.2,may.2.1⟩) (fun _ _ => inr rfl)
    · exact a
  case tripEnds | timerExpires =>
    split
    · exact a.flagged _ _ _ _ _ _ _ a.gone a.ended
    · exact a
  case cancelCtx => exact a.flagged _ _ _ _ _ _ _ a.gone a.ended
  case leave cause =>
    have leaves (runErr : Option RunErr) : Accounted { r with main := .leaving runErr } :=
      a.flagged _ _ _ _ _ _ _ a.gone (fun _ is => by cases is)
    split
    · split
      · exact leaves none
      · split
        · exact leaves _
        · exact a
      · split
        · exact leaves _
        · exact a
    · exact a
  case stopWriter =>
    split
    · exact a.flagged _ _ _ _ _ _ _ a.gone (fun _ is => by cases is)
    · exact a.flagged _ _ _ _ _ _ _ a.gone (fun _ is => by cases is)
    · exact a
  case await =>
    split
    · rename_i stopped
      exact a.flagged _ _ _ _ _ _ _ a.gone (fun _ _ => inr stopped)
    · exact a
  case timerMarks | giveUp =>
    split
    · exact a.flagged _ _ _ _ _ _ _ a.gone (fun _ _ => inl rfl)
    · exact a

end

theorem run_accounted (O : RecorderOptions) (acts : List RecorderAct) : Accounted (run O acts) :=
  Fold.foldl_invariant start_accounted fun _ label _ kept => act_accounted kept label

/-- In a list without repetition a sublist has its members in the list's order. -/
theorem pair_of_sublist (sub : l.Sublist t) (once : t.Nodup) (pair : [n,m].Sublist t)
    (first : n ∈ l) (second : m ∈ l) : [n,m].Sublist l := by
  have perm : l.Perm (t.filter (· ∈ l)) := by
    rw [perm_ext_iff_of_nodup (once.sublist sub) (once.filter _)]
    intro x
    simpa using fun mem => sub.subset mem
  have kept := sub.filter (· ∈ l)
  rw [filter_eq_self.mpr (by simp)] at kept
  rw [kept.eq_of_length perm.length_eq]
  simpa [first,second] using pair.filter (· ∈ l)

end

/-- A recording that is reported complete holds every event up to the last number
    exactly when no event is left in the queue and no producer is inside
    `enqueue` at that moment. -/
theorem complete_recording_iff (O : RecorderOptions) (acts : List RecorderAct) (runErr : Option RunErr)
    (drained : (run O acts).main = .drained runErr)
    (complete : ((run O acts).finish runErr).complete = true) :
    (∀ n, 0 < n → n ≤ ((run O acts).finish runErr).lastSeq → n ∈ (run O acts).acked) ↔
      (run O acts).queue = [] ∧ ∀ p, (run O acts).producers p = .idle := by
  have a := run_accounted O acts
  generalize run O acts = r at a drained complete ⊢
  obtain ⟨inTime,kept⟩ := finish_complete complete
  have stopped : r.writer = .stopped := by
    rcases a.ended runErr drained with timed | stopped
    · rw [inTime] at timed
      cases timed
    · exact stopped
  have shipped : r.shipped = r.acked ++ r.queue := by
    rw [Recorder.shipped,(a.gone stopped).1,append_nil]
  rw [finish_lastSeq]
  constructor
  · intro all
    constructor
    · cases waiting : r.queue with
      | nil => rfl
      | cons n rest =>
        have queued : n ∈ r.queue := by rw [waiting]; exact mem_cons_self
        have placed := a.placed
        rw [shipped] at placed
        have range := a.given n (placed.subset (mem_append_right _ queued))
        have once := a.once.sublist placed
        exact absurd queued ((nodup_append.mp once).2.2 n (all n range.1 range.2) n · rfl)
    · intro p
      cases is : r.producers p with
      | idle => rfl
      | «at» point n =>
        have holder := a.held p n ⟨point,is⟩
        have ship : n ∈ r.shipped := by
          rw [shipped]
          exact mem_append_left _ (all n holder.2.1 holder.2.2)
        exact absurd (a.placed.subset ship) holder.1
  · intro ⟨empty,idle⟩ n pos le
    rcases a.known n pos le with ship | ⟨p,point,is⟩ | loss
    · rw [shipped,empty,append_nil] at ship
      exact ship
    · rw [idle p] at is
      cases is
    · rw [kept] at loss
      cases loss

/-- The number that a producer has stamped and may still send. -/
def waiting : ProducerPhase → Option Nat
  | .at .stamped n | .at .counted n => some n
  | _ => none

/-- A send finds no producer that is about to send a smaller number. -/
def InTurn (O : RecorderOptions) (r : Recorder) : RecorderAct → Prop
  | .send p => r.queue.length < O.queueEvents →
      ∀ n, r.producers p = .at .counted n → ∀ q, (waiting (r.producers q)).all (n ≤ ·) = true
  | _ => True

/-- What was sent is in order, and below all that may still be sent. -/
structure Ordered (r : Recorder) : Prop where
  accounted : Accounted r
  sorted : r.sent.Pairwise (· < ·)
  below : ∀ m ∈ r.sent, ∀ q k, waiting (r.producers q) = some k → m < k

section
variable {r : Recorder} {p q : Producer} {n k : Nat}

theorem waiting_holds (waits : waiting (r.producers q) = some k) : r.Holds q k := by
  unfold waiting at waits
  split at waits
  · rename_i is
    cases waits
    exact ⟨_,is⟩
  · rename_i is
    cases waits
    exact ⟨_,is⟩
  · cases waits

theorem waiting_set (waits : waiting ((r.setProducer p phase).producers q) = some k) :
    q = p ∧ waiting phase = some k ∨ q ≠ p ∧ waiting (r.producers q) = some k := by
  unfold setProducer at waits
  by_cases same : q = p
  · subst same
    exact inl ⟨rfl,by simpa using waits⟩
  · exact inr ⟨same,by simpa [same] using waits⟩

/-- Only a stamp adds to what may be sent, and only a send takes from it. -/
theorem act_still (label : RecorderAct) (noStamp : ∀ p, label ≠ .stamp p) (noSend : ∀ p, label ≠ .send p) :
    (r.act O label).sent = r.sent ∧ (r.act O label).seq = r.seq ∧
      ∀ q k, waiting ((r.act O label).producers q) = some k → waiting (r.producers q) = some k := by
  cases label <;> dsimp only [act,triggerFailClosed,markLost]
  case stamp p => exact absurd rfl (noStamp p)
  case send p => exact absurd rfl (noSend p)
  case count p =>
    split
    · rename_i n is
      refine ⟨rfl,rfl,fun q k waits => ?_⟩
      rcases waiting_set waits with ⟨rfl,new⟩ | ⟨-,old⟩
      · rw [is]
        exact new
      · exact old
    · exact ⟨rfl,rfl,fun _ _ => id⟩
  case refuse p | uncount p | lose p =>
    repeat' split
    all_goals
      refine ⟨rfl,rfl,fun q k waits => ?_⟩
      first
        | exact waits
        | rcases waiting_set waits with ⟨-,new⟩ | ⟨-,old⟩
          · cases new
          · exact old
  all_goals
    repeat' split
    all_goals exact ⟨rfl,rfl,fun _ _ => id⟩

section
variable (ordered : Ordered r)
include ordered

theorem Ordered.still (noStamp : ∀ p, label ≠ .stamp p) (noSend : ∀ p, label ≠ .send p) :
    Ordered (r.act O label) := by
  obtain ⟨sent,-,waits⟩ := act_still (r := r) (O := O) label noStamp noSend
  refine ⟨act_accounted ordered.accounted label,by rw [sent]; exact ordered.sorted,?_⟩
  rw [sent]
  exact fun m mem q k later => ordered.below m mem q k (waits q k later)

theorem Ordered.stamp (O : RecorderOptions) (p : Producer) : Ordered (r.act O (.stamp p)) := by
  have a := act_accounted (O := O) ordered.accounted (.stamp p)
  dsimp only [act] at a ⊢
  split at a
  · rename_i may
    rw [if_pos may]
    refine ⟨a,ordered.sorted,fun m mem q k waits => ?_⟩
    rcases waiting_set waits with ⟨-,new⟩ | ⟨-,old⟩
    · cases new
      exact Nat.lt_succ_of_le (ordered.accounted.given m mem).2
    · exact ordered.below m mem q k old
  · rename_i may
    rw [if_neg may]
    exact ordered

theorem Ordered.send (is : r.producers p = .at .counted n)
    (turn : ∀ q, (waiting (r.producers q)).all (n ≤ ·) = true) :
    Ordered { r.setProducer p .idle with queue := r.queue ++ [n], sent := r.sent ++ [n] } := by
  refine ⟨send_accounted ordered.accounted is,?_,fun m mem q k waits => ?_⟩
  · refine pairwise_append.mpr ⟨ordered.sorted,pairwise_singleton _ _,fun m old n' new => ?_⟩
    rw [mem_singleton.mp new]
    exact ordered.below m old p n (by rw [is]; rfl)
  rcases waiting_set waits with ⟨-,new⟩ | ⟨other,old⟩
  · cases new
  rcases mem_append.mp mem with sent | new
  · exact ordered.below m sent q k old
  rw [mem_singleton.mp new]
  have turn := turn q
  simp only [old,Option.all_some,decide_eq_true_eq] at turn
  refine Nat.lt_of_le_of_ne turn ?_
  rintro rfl
  exact other (ordered.accounted.apart q p n (waiting_holds old) ⟨_,is⟩)

theorem act_ordered (turn : InTurn O r label) : Ordered (r.act O label) := by
  cases label with
  | stamp p => exact ordered.stamp O p
  | send p =>
    dsimp only [act]
    split
    · rename_i n is
      split
      · exact ordered.send is (turn ‹_› n is)
      · exact ordered
    · exact ordered
  | _ => exact ordered.still (by simp) (by simp)

end

theorem grows_still (noStamp : ∀ p, label ≠ .stamp p) (noSend : ∀ p, label ≠ .send p) :
    (∃ more, (r.act O label).sent = r.sent ++ more) ∧ r.seq ≤ (r.act O label).seq := by
  obtain ⟨sent,seq,-⟩ := act_still (r := r) (O := O) label noStamp noSend
  exact ⟨⟨[],by rw [sent,append_nil]⟩,Nat.le_of_eq seq.symm⟩

theorem act_grows (O : RecorderOptions) (r : Recorder) (label : RecorderAct) :
    (∃ more, (r.act O label).sent = r.sent ++ more) ∧ r.seq ≤ (r.act O label).seq := by
  cases label with
  | stamp p =>
    dsimp only [act]
    split
    · exact ⟨⟨[],by simp [setProducer]⟩,Nat.le_succ _⟩
    · exact ⟨⟨[],by simp⟩,Nat.le_refl _⟩
  | send p =>
    dsimp only [act]
    repeat' split
    · exact ⟨⟨_,rfl⟩,Nat.le_refl _⟩
    · exact ⟨⟨[],by simp⟩,Nat.le_refl _⟩
    · exact ⟨⟨[],by simp⟩,Nat.le_refl _⟩
  | _ => exact grows_still (by simp) (by simp)

theorem run_grows (O : RecorderOptions) (acts : List RecorderAct) (r : Recorder) :
    (∃ more, (acts.foldl (act O) r).sent = r.sent ++ more) ∧ r.seq ≤ (acts.foldl (act O) r).seq := by
  induction acts generalizing r with
  | nil => exact ⟨⟨[],by simp⟩,Nat.le_refl _⟩
  | cons label acts ih =>
    obtain ⟨⟨more,sent⟩,seq⟩ := act_grows O r label
    obtain ⟨⟨later,sent'⟩,seq'⟩ := ih (r.act O label)
    exact ⟨⟨more ++ later,by rw [foldl_cons,sent',sent,append_assoc]⟩,Nat.le_trans seq seq'⟩

theorem Accounted.passed_sublist (a : Accounted r) : r.passed.Sublist r.sent := by
  have order := a.order
  unfold ahead at order
  rw [append_assoc] at order
  exact (sublist_append_left _ _).trans order

/-- A number that is sent before a smaller one is passed before it. -/
theorem in_turn_of_passed (a : Accounted r) (final : Accounted r')
    (grown : ∃ more, r'.sent = (r.act O label).sent ++ more) (seq : r.seq ≤ r'.seq)
    (all : ∀ n, 0 < n → n ≤ r'.seq → n ∈ r'.passed) (increasing : r'.passed.Pairwise (· < ·)) :
    InTurn O r label := by
  cases label with
  | send p =>
    intro room n is q
    cases waits : waiting (r.producers q) with
    | none => rfl
    | some m =>
      simp only [Option.all_some,decide_eq_true_eq]
      by_contra less
      have reaches : ∀ {p n}, r.Holds p n → n ∈ r'.passed := fun holder =>
        have bound := (a.held _ _ holder).2
        all _ bound.1 (Nat.le_trans bound.2 seq)
      obtain ⟨more,grown⟩ := grown
      have sent : r'.sent = r.sent ++ n :: more := by simpa [act,is,room] using grown
      have late : m ∈ more := by
        have placed := final.passed_sublist.subset (reaches (waiting_holds waits))
        rw [sent,mem_append,mem_cons] at placed
        rcases placed with old | rfl | late
        · exact absurd old (a.held q m (waiting_holds waits)).1
        · exact absurd (Nat.le_refl m) less
        · exact late
      have pair : [n,m].Sublist r'.sent := by
        rw [sent]
        exact ((singleton_sublist.mpr late).cons_cons n).trans (sublist_append_right _ _)
      have order := pairwise_iff_forall_sublist.mp increasing (pair_of_sublist final.passed_sublist
        final.once pair (reaches ⟨_,is⟩) (reaches (waiting_holds waits)))
      omega
  | _ => trivial

theorem meets_of_passed {acts : List RecorderAct} (a : Accounted r)
    (all : ∀ n, 0 < n → n ≤ (acts.foldl (act O) r).seq → n ∈ (acts.foldl (act O) r).passed)
    (increasing : (acts.foldl (act O) r).passed.Pairwise (· < ·)) : Meets (InTurn O) (act O) r acts := by
  induction acts generalizing r with
  | nil => trivial
  | cons label acts ih =>
    have next := act_accounted (O := O) a label
    have final : Accounted (acts.foldl (act O) (r.act O label)) :=
      Fold.foldl_invariant next fun _ label _ kept => act_accounted kept label
    exact ⟨in_turn_of_passed a final (run_grows O acts _).1 (run_grows O (label :: acts) r).2 all increasing,
      ih next all increasing⟩

end

/-- The sink gets the events in order if no producer sends while another one has
    stamped a smaller number that it may still send. Where every event that was
    stamped is passed to the sink, they are in order only then. -/
theorem batches_in_order (O : RecorderOptions) (acts : List RecorderAct) :
    (Meets (InTurn O) (act O) start acts → (run O acts).passed.Pairwise (· < ·)) ∧
    ((∀ n, 0 < n → n ≤ (run O acts).seq → n ∈ (run O acts).passed) →
      (run O acts).passed.Pairwise (· < ·) → Meets (InTurn O) (act O) start acts) := by
  refine ⟨fun turns => ?_,fun all increasing => meets_of_passed start_accounted all increasing⟩
  have first : Ordered start := ⟨start_accounted,Pairwise.nil,by simp [start]⟩
  have ordered : Ordered (run O acts) :=
    meets_invariant Ordered (fun _ _ ordered turn => act_ordered ordered turn) turns first
  exact ordered.sorted.sublist ordered.accounted.passed_sublist

def bestEffortIO : RecorderOptions := ⟨false,true,1024⟩

def outputEnds : List RecorderAct :=
  [.stamp .output,.count .output,.send .output,.take,.leave .copyDone,.stopWriter,.observeStop,.observeEmpty,
    .write,.answer true,.stop]

/-- The writer has stopped when the input relay queues a last keystroke, and the
    recording is reported complete up to that keystroke. -/
theorem late_keystroke_is_reported :
    let r := run bestEffortIO (outputEnds ++ [.stamp .input,.count .input,.send .input,.await])
    r.main = .drained none ∧ r.finish none = ⟨2,true,""⟩ ∧ r.acked = [1] := by
  decide +kernel

/-- The input relay has stamped its event first and sends it last. -/
theorem later_event_is_passed_first :
    let r := run bestEffortIO [.stamp .input,.stamp .output,.count .output,.send .output,.count .input,
      .send .input,.take,.take,.write]
    r.passed = [2,1] ∧ ¬ r.passed.Pairwise (· < ·) := by
  decide +kernel

/-- Both relays record an event, one behind the other. -/
def relaysInTurn : List RecorderAct :=
  [.stamp .input,.count .input,.stamp .output,.send .input,.count .output,.send .output,.take,.take,.write]

theorem events_are_passed_in_turn :
    (run bestEffortIO relaysInTurn).passed = [1,2] ∧ (run bestEffortIO relaysInTurn).passed.Pairwise (· < ·) := by
  refine ⟨by decide +kernel,(batches_in_order bestEffortIO relaysInTurn).1
    ⟨trivial,trivial,trivial,?_,trivial,?_,trivial,trivial,trivial,trivial⟩⟩
  all_goals
    rintro - n is q
    cases is
    cases q <;> decide +kernel

/-- Both relays record an event before the writer stops. -/
def outputDrained : List RecorderAct :=
  relaysInTurn ++ [.answer true,.leave .copyDone,.stopWriter,.observeStop,.observeEmpty,.stop,.await]

theorem drained_recording_is_complete :
    let r := run bestEffortIO outputDrained
    (r.finish none).lastSeq = 2 ∧ ∀ n, 0 < n → n ≤ 2 → n ∈ r.acked := by
  intro r
  have last : (r.finish none).lastSeq = 2 := by decide +kernel
  have empty : r.queue = [] := by decide +kernel
  have idle : ∀ p, r.producers p = .idle := by
    intro p
    cases p <;> decide +kernel
  have all := complete_recording_iff bestEffortIO outputDrained none (by decide +kernel) (by decide +kernel)
  refine ⟨last,fun n pos le => all.mpr ⟨empty,idle⟩ n pos ?_⟩
  exact last ▸ le

end Recorder
end Pilot.Sessions
