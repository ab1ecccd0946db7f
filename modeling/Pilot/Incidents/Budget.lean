import Pilot.Incidents.Resolution

/-!
The retry budget of an incident. EnqueueRun counts every dispatch, and a run that
a restart of the controller ended stays counted, so restarts use up the budget
that is meant for failures. The incident fails at a failure when the dispatches,
not the failures, have reached the limit.
-/
namespace Pilot.Incidents
open Pilot.Table List

inductive DispatchEnd where
  | failure
  | restart
  deriving DecidableEq

def rowOf (db : DB) (id : String) : Option Incident := db.incidents.find? (ofID id)

/-- What goes on with other incidents. -/
structure Elsewhere (id : String) (db db' : DB) : Prop where
  row : rowOf db' id = rowOf db id
  runs : ∀ r, r.incidentID = id → (r ∈ db'.runs ↔ r ∈ db.runs)
  consistent : db'.consistent = true

/-- The incident is on the list of a pass, and EnqueueRun makes a run of it. -/
inductive Begun (id runID : String) (inc : Incident) : DB → DB → Prop
  | enqueued {db db₁ db₂ db₃ : DB} {limit : Nat} {now input queuedAt : String}
      (listed : inc ∈ listIncidentsNeedingDispatch db now limit) (named : inc.id = id)
      (gap : Elsewhere id db db₁) (enqueued : enqueueRun db₁ id input runID queuedAt = .ok (runID,db₂))
      (gap' : Elsewhere id db₂ db₃) : Begun id runID inc db db₃

/-- `dispatchOne`, with a dispatcher that answers with an error or an invalid
    diagnosis, or up to a restart of the controller. The attempts are those of the
    listed row. -/
inductive Dispatched (maxAttempts : Int) (id : String) : DB → DispatchEnd → DB → Prop
  | failed {db db₁ db₂ db₃ db₄ : DB} {inc : Incident} {retried : Bool}
      {runID startedAt errorClass errorText retryAt failedAt : String} (begun : Begun id runID inc db db₁)
      (started : startRun db₁ runID id startedAt = .ok ((),db₂)) (gap : Elsewhere id db₂ db₃)
      (outcome : failRunAndMaybeRetry db₃ ⟨runID,id,errorClass,errorText,inc.dispatchAttempts+1,maxAttempts,
        retryAt⟩ failedAt = .ok (retried,db₄)) : Dispatched maxAttempts id db .failure db₄
  | restarted {db db₁ db₂ db₃ db₄ : DB} {inc : Incident} {n : Nat} {runID recoveredAt : String}
      (begun : Begun id runID inc db db₁)
      (started : db₂ = db₁ ∨ ∃ now, startRun db₁ runID id now = .ok ((),db₂)) (gap : Elsewhere id db₂ db₃)
      (recovered : recoverInFlightRuns db₃ recoveredAt = .ok (n,db₄)) :
      Dispatched maxAttempts id db .restart db₄

/-- The dispatches of one incident, one after the other. -/
inductive Dispatches (maxAttempts : Int) (id : String) (db : DB) : List DispatchEnd → DB → Prop
  | none : Dispatches maxAttempts id db [] db
  | elsewhere {db' db'' : DB} {ends : List DispatchEnd} (before : Dispatches maxAttempts id db ends db')
      (other : Elsewhere id db' db'') : Dispatches maxAttempts id db ends db''
  | dispatch {db' db'' : DB} {ends : List DispatchEnd} {last : DispatchEnd}
      (before : Dispatches maxAttempts id db ends db') (one : Dispatched maxAttempts id db' last db'') :
      Dispatches maxAttempts id db (ends ++ [last]) db''

section
variable {id runID : String} {db db' : DB} {i inc : Incident} {m : Int}

theorem rowOf_update (same : ∀ i, (f i).id = i.id) (found : rowOf db id = some i) :
    rowOf ⟨updateWhere p f db.incidents,runs⟩ id = some (if p i then f i else i) := by
  unfold rowOf at found ⊢
  rw [find?_updateWhere (fun i => by simp only [ofID,same]),found]
  rfl

theorem row_named (found : rowOf db id = some i) : i.id = id := ofID_iff.mp (find?_some found)

/-- The run of the incident waits, and its row has counted it. -/
structure Waiting (id : String) (inc : Incident) (db : DB) : Prop where
  row : ∃ i, rowOf db id = some i ∧ i.dispatchAttempts = inc.dispatchAttempts + 1 ∧ i.status.settled = false
  run : ∃ r ∈ db.runs, r.incidentID = id ∧ r.state.active = true

theorem Waiting.elsewhere (waiting : Waiting id inc db) (gap : Elsewhere id db db') :
    Waiting id inc db' := by
  obtain ⟨r,mem,named,active⟩ := waiting.run
  constructor
  · rw [gap.row]
    exact waiting.row
  · exact ⟨r,(gap.runs r named).mpr mem,named,active⟩

theorem Begun.waiting (begun : Begun id runID inc db db') (consistent : db.consistent = true) :
    rowOf db id = some inc ∧ inc.status = .opened ∧ Waiting id inc db' := by
  obtain ⟨listed,named,gap,enqueued,gap'⟩ := begun
  have mem := mem_of_mem_take listed
  rw [mem_insertionSort,mem_filter] at mem
  simp only [dispatchable,Bool.and_eq_true,beq_iff_eq] at mem
  have row : rowOf db id = some inc := by
    obtain ⟨i,found⟩ := Option.isSome_iff_exists.mp (find?_isSome.mpr ⟨inc,mem.1,ofID_iff.mpr named⟩)
    have same := unique_row (ids_of_consistent consistent) (mem_of_find?_eq_some found) mem.1
      ((row_named found).trans named.symm)
    rw [rowOf,found,same]
  refine ⟨row,mem.2.1.1,Waiting.elsewhere ?_ gap'⟩
  obtain ⟨rfl,_⟩ := enqueueRun_ok enqueued
  constructor
  · refine ⟨_,rowOf_update (fun _ => rfl) (gap.row.trans row),?_⟩
    rw [if_pos (ofID_iff.mpr named)]
    exact ⟨rfl,rfl⟩
  · exact ⟨_,mem_append_right _ mem_cons_self,rfl,rfl⟩

theorem Waiting.started (waiting : Waiting id inc db)
    (ok : startRun db runID id startedAt = .ok ((),db')) : Waiting id inc db' := by
  obtain ⟨rfl,_⟩ := commit_ok ok
  obtain ⟨⟨i,row,attempts,unsettled⟩,r,mem,named,active⟩ := waiting
  constructor
  · refine ⟨_,rowOf_update (fun _ => rfl) row,?_⟩
    split
    · exact ⟨attempts,rfl⟩
    · exact ⟨attempts,unsettled⟩
  · refine ⟨_,mem_map_of_mem mem,?_⟩
    split
    · exact ⟨named,rfl⟩
    · exact ⟨named,active⟩

theorem recovered_row (inFlight : List AgentRun) (found : rowOf db id = some i)
    (unsettled : i.status.settled = false) :
    ∃ i', rowOf (inFlight.foldl (recoverRun now) db) id = some i' ∧
      i'.dispatchAttempts = i.dispatchAttempts ∧
      (i'.status = .opened ∨ i'.status = i.status ∧ ∀ r ∈ inFlight, r.incidentID ≠ id) := by
  induction inFlight generalizing db i with
  | nil => exact ⟨i,found,rfl,.inr ⟨rfl,by simp⟩⟩
  | cons r rest ih =>
    have next : rowOf (recoverRun now db r) id = some (if ofID r.incidentID i && !i.status.settled then
        { i with status := .opened, updatedAt := now, nextDispatchAt := "" } else i) :=
      rowOf_update (fun _ => rfl) found
    by_cases here : r.incidentID = id
    · rw [if_pos (by simp [ofID,row_named found,here,unsettled])] at next
      obtain ⟨i',row,attempts,status⟩ := ih next rfl
      exact ⟨i',row,attempts,.inl (status.elim (fun opened => opened) And.left)⟩
    · rw [if_neg (by simp [ofID,row_named found,Ne.symm here])] at next
      obtain ⟨i',row,attempts,status⟩ := ih next unsettled
      refine ⟨i',row,attempts,status.imp_right ?_⟩
      rintro ⟨same,others⟩
      exact ⟨same,forall_mem_cons.mpr ⟨here,others⟩⟩

/-- The status a dispatch leaves the incident in. -/
def statusAfter (maxAttempts attempts : Int) : DispatchEnd → IncidentStatus
  | .failure => if attempts < maxAttempts then .opened else .agentFailed
  | .restart => .opened

theorem Dispatched.row (one : Dispatched m id db last db') (consistent : db.consistent = true) :
    db'.consistent = true ∧ ∃ inc, rowOf db id = some inc ∧ inc.status = .opened ∧
      ∃ i, rowOf db' id = some i ∧ i.dispatchAttempts = inc.dispatchAttempts + 1 ∧
        i.status = statusAfter m (inc.dispatchAttempts+1) last := by
  cases one with
  | failed begun started gap outcome =>
    rename_i inc retried runID startedAt errorClass errorText retryAt failedAt
    obtain ⟨row,opened,waiting⟩ := begun.waiting consistent
    obtain ⟨i,found,attempts,unsettled⟩ := ((waiting.started started).elsewhere gap).row
    obtain ⟨rfl,fits⟩ := commit_ok outcome
    refine ⟨fits,inc,row,opened,_,rowOf_update (fun _ => rfl) found,?_⟩
    rw [if_pos (by simp [ofID,row_named found,unsettled])]
    refine ⟨attempts,?_⟩
    simp [statusAfter]
  | restarted begun started gap recovered =>
    rename_i _ db₂ _ inc n runID recoveredAt
    obtain ⟨row,opened,waiting⟩ := begun.waiting consistent
    have before : Waiting id inc db₂ := by
      obtain rfl | ⟨_,ok⟩ := started
      · exact waiting
      · exact waiting.started ok
    obtain ⟨⟨i,found,attempts,unsettled⟩,r,mem,named,active⟩ := before.elsewhere gap
    obtain ⟨rfl,fits⟩ := commit_ok recovered
    obtain ⟨i',row',attempts',status⟩ := recovered_row _ found unsettled
    refine ⟨fits,inc,row,opened,i',row',attempts'.trans attempts,?_⟩
    obtain opened | ⟨_,others⟩ := status
    · exact opened
    · exact absurd named (others r (mem_filter.mpr ⟨mem,active⟩))

def failures (ends : List DispatchEnd) : Nat := ends.count .failure

/-- All dispatches are counted, and the last one decides the status. While the
    incident is open its failures are below the limit. -/
theorem Dispatches.counted (run : Dispatches m id db ends db') (positive : 1 ≤ m)
    (consistent : db.consistent = true) (found : rowOf db id = some i)
    (opened : i.status = .opened) (unused : i.dispatchAttempts = 0) :
    db'.consistent = true ∧ ∃ i', rowOf db' id = some i' ∧ i'.dispatchAttempts = ends.length ∧
      ((i'.status = .agentFailed ∧ ends.getLast? = some .failure ∧ m ≤ ends.length) ∨
        (i'.status = .opened ∧ ¬ (ends.getLast? = some .failure ∧ m ≤ ends.length) ∧ failures ends < m)) := by
  induction run with
  | none => exact ⟨consistent,i,found,unused,.inr ⟨opened,by simp,by simp [failures]; omega⟩⟩
  | elsewhere _ other ih => exact ⟨other.consistent,by rw [other.row]; exact ih.2⟩
  | dispatch before one ih =>
    rename_i ends last
    obtain ⟨fits,mid,row,attempts,state⟩ := ih
    obtain ⟨fits',inc,row',open_,i',found',attempts',status⟩ := one.row fits
    cases row.symm.trans row'
    have below : failures ends < m := by
      obtain ⟨failed,_⟩ | ⟨_,_,below⟩ := state
      · rw [failed] at open_
        cases open_
      · exact below
    have most : failures ends ≤ ends.length := count_le_length
    rw [attempts] at attempts' status
    refine ⟨fits',i',found',by simp [attempts'],?_⟩
    rw [getLast?_concat,length_append,length_singleton]
    cases last with
    | restart => exact .inr ⟨status,by simp,by simpa [failures] using below⟩
    | failure =>
      have more : failures (ends ++ [.failure]) = failures ends + 1 := by simp [failures]
      change i'.status = if (ends.length : Int) + 1 < m then .opened else .agentFailed at status
      split at status
      · exact .inr ⟨status,by omega,by omega⟩
      · exact .inl ⟨status,rfl,by omega⟩

/-- An incident that starts with its whole budget has failed exactly when its
    failures have reached the limit, unless its last dispatch has failed with
    fewer failures than that and the restarts make up for the rest. -/
theorem failed_at_budget_iff (m : Int) (positive : 1 ≤ m) (id : String) (db db' : DB)
    (ends : List DispatchEnd) (run : Dispatches m id db ends db') (consistent : db.consistent = true)
    (fresh : (rowOf db id).map (fun i => (i.status,i.dispatchAttempts)) = some (.opened,0)) :
    (statusOf db' id = some .agentFailed ↔ m ≤ failures ends) ↔
      ¬ (ends.getLast? = some .failure ∧ failures ends < m ∧ m ≤ ends.length) := by
  obtain ⟨i,found,is⟩ := Option.map_eq_some_iff.mp fresh
  obtain ⟨opened,unused⟩ := Prod.mk.inj is
  obtain ⟨_,i',row,_,state⟩ := run.counted positive consistent found opened unused
  have now : statusOf db' id = some i'.status := congrArg (Option.map Incident.status) row
  rw [now,Option.some_inj]
  obtain ⟨failed,last,long⟩ | ⟨open_,no,below⟩ := state
  · simp only [failed,last,long,true_iff,true_and,and_true]
    omega
  have other : i'.status ≠ .agentFailed := by simp [open_]
  constructor
  · intro _ ⟨last,_,long⟩
    exact no ⟨last,long⟩
  · intro _
    exact ⟨fun is => absurd is other,fun reached => absurd reached (by omega)⟩

end

theorem Elsewhere.refl {id : String} (consistent : db.consistent = true) : Elsewhere id db db :=
  ⟨rfl,fun _ _ => Iff.rfl,consistent⟩

def hostDown : IncidentEvent :=
  ⟨"alertmanager","g","e",.firing,"HostDown","critical","h1","s","c",⟨"h1","host",true⟩,"b"⟩

def resulting {α : Type} (db : DB) : Except String (α × DB) → DB
  | .ok (_,db') => db'
  | .error _ => db

def openDB : DB := ⟨[newIncident "i" hostDown .opened none "0"],[]⟩
def queuedDB (db : DB) (runID : String) : DB := resulting db (enqueueRun db "i" "in" runID "1")
def restartedDB : DB := resulting openDB (recoverInFlightRuns (queuedDB openDB "r1") "2")
def startedDB (db : DB) (runID : String) : DB := resulting db (startRun (queuedDB db runID) runID "i" "3")
def failedDB (db : DB) (runID : String) (attempts : Int) : DB :=
  resulting db (failRunAndMaybeRetry (startedDB db runID)
    ⟨runID,"i","transport_error","timeout",attempts,2,"5"⟩ "4")

theorem restart_run : Dispatches 2 "i" openDB [.restart] restartedDB := by
  have listed : newIncident "i" hostDown .opened none "0" ∈ listIncidentsNeedingDispatch openDB "1" 1 := by
    decide +kernel
  have queued : enqueueRun openDB "i" "in" "r1" "1" = .ok ("r1",queuedDB openDB "r1") := by decide +kernel
  have recovered : recoverInFlightRuns (queuedDB openDB "r1") "2" = .ok (1,restartedDB) := by decide +kernel
  refine .dispatch .none (.restarted (.enqueued listed rfl (.refl ?_) queued (.refl ?_)) (.inl rfl) (.refl ?_)
    recovered)
  all_goals decide +kernel

/-- A run that is queued, starts and fails. -/
theorem failure_run (inc : Incident) (runID now : String) (retried : Bool) (before : Dispatches 2 "i" openDB ends db)
    (listed : inc ∈ listIncidentsNeedingDispatch db now 1) (named : inc.id = "i")
    (queued : enqueueRun db "i" "in" runID "1" = .ok (runID,queuedDB db runID))
    (started : startRun (queuedDB db runID) runID "i" "3" = .ok ((),startedDB db runID))
    (failed : failRunAndMaybeRetry (startedDB db runID)
      ⟨runID,"i","transport_error","timeout",inc.dispatchAttempts+1,2,"5"⟩ "4" = .ok (retried,db'))
    (consistent : ∀ d ∈ [db,queuedDB db runID,startedDB db runID], d.consistent = true) :
    Dispatches 2 "i" openDB (ends ++ [.failure]) db' :=
  before.dispatch (.failed (.enqueued listed named (.refl (consistent _ (by simp))) queued
    (.refl (consistent _ (by simp)))) started (.refl (consistent _ (by simp))) failed)

/-- The second failure is the last one when no restart went before it. -/
theorem two_failures_use_up_the_budget :
    statusOf (failedDB openDB "r1" 1) "i" = some .opened ∧
      statusOf (failedDB (failedDB openDB "r1" 1) "r2" 2) "i" = some .agentFailed := by
  let opened := newIncident "i" hostDown .opened none "0"
  have once : Dispatches 2 "i" openDB [.failure] (failedDB openDB "r1" 1) := by
    refine failure_run opened "r1" "1" true .none ?_ ?_ ?_ ?_ ?_ ?_
    all_goals decide +kernel
  have twice : Dispatches 2 "i" openDB [.failure,.failure] (failedDB (failedDB openDB "r1" 1) "r2" 2) := by
    refine failure_run { opened with updatedAt := "4", dispatchAttempts := 1, nextDispatchAt := "5" } "r2" "5"
      false once ?_ ?_ ?_ ?_ ?_ ?_
    all_goals decide +kernel
  refine ⟨by decide +kernel,?_⟩
  have exact_ := failed_at_budget_iff 2 (by decide) "i" openDB _ _ twice (by decide +kernel) (by decide +kernel)
  exact (exact_.mpr (by decide)).mpr (by decide)

/-- The first failure is the last one when a restart went before it. -/
theorem restart_uses_up_the_budget : Dispatches 2 "i" openDB [.restart,.failure] (failedDB restartedDB "r2" 2) ∧
    statusOf (failedDB restartedDB "r2" 2) "i" = some .agentFailed ∧ failures [.restart,.failure] = 1 := by
  refine ⟨failure_run
    { newIncident "i" hostDown .opened none "0" with updatedAt := "2", dispatchAttempts := 1 } "r2" "1" false
    restart_run ?_ ?_ ?_ ?_ ?_ ?_,?_,?_⟩
  all_goals decide +kernel

end Pilot.Incidents
