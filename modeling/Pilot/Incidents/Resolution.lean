import Pilot.Incidents.Store
import Pilot.Library.Fold
import Pilot.Library.Transition

/-!
The incident queue as a system: events arrive, and scheduler passes dispatch
incidents from a list they read before. Runs of an incident are only ever
added by EnqueueRun, and every other update of a resolved incident is guarded,
so it stays resolved in every run whose EnqueueRun calls find their incident
open.
-/
namespace Pilot.Incidents
open Pilot.Table Pilot.Transition List

/-- The database, and the incidents any pass has listed for dispatch. -/
structure World where
  db : DB
  listed : List String

def World.empty : World := ⟨⟨[],[]⟩,[]⟩

inductive Action where
  | ingestEvent (ev : IncidentEvent) (uuid now : String)
  | listIncidentsNeedingDispatch (now : String) (limit : Nat)
  | enqueueRun (incidentID inputSHA256 runID now : String)
  | startRun (runID incidentID now : String)
  | completeRunDiagnosed (runID incidentID output now : String)
  | failRunAndMaybeRetry (f : RunFailure) (now : String)
  | recoverInFlightRuns (now : String)

def settleWith {α : Type} (w : World) : Except String (α × DB) → World
  | .ok (_,db) => { w with db := db }
  | .error _ => w

def act (w : World) : Action → World
  | .ingestEvent ev uuid now => settleWith w (ingestEvent w.db ev uuid now)
  | .listIncidentsNeedingDispatch now limit =>
    { w with
      listed := w.listed ++ (listIncidentsNeedingDispatch w.db now limit).map Incident.id }
  | .enqueueRun incidentID inputSHA256 runID now =>
    settleWith w (enqueueRun w.db incidentID inputSHA256 runID now)
  | .startRun runID incidentID now => settleWith w (startRun w.db runID incidentID now)
  | .completeRunDiagnosed runID incidentID output now =>
    settleWith w (completeRunDiagnosed w.db runID incidentID output now)
  | .failRunAndMaybeRetry f now => settleWith w (failRunAndMaybeRetry w.db f now)
  | .recoverInFlightRuns now => settleWith w (recoverInFlightRuns w.db now)

/-- A pass enqueues only what it has listed. Nothing else is asked of a caller. -/
def allowed (w : World) : Action → Prop
  | .enqueueRun incidentID _ _ _ => incidentID ∈ w.listed
  | _ => True

abbrev Step := guarded allowed act

abbrev Reachable (labels : List Action) (w : World) : Prop := Run Step World.empty labels w

def statusOf (db : DB) (id : String) : Option IncidentStatus :=
  (db.incidents.find? (ofID id)).map Incident.status

/-- A step that meets no terminal incident in EnqueueRun. -/
def Rechecked (w : World) (a : Action) : Prop :=
  allowed w a ∧
    match a with
    | .enqueueRun incidentID _ _ _ => (statusOf w.db incidentID).all (fun s => !s.isTerminal) = true
    | _ => True

def runsOf (db : DB) (id : String) : List String :=
  (db.runs.filter (fun r => r.incidentID == id)).map AgentRun.id

variable {id : String} {db : DB} {status : IncidentStatus} {w : World}

theorem ofID_iff : ofID id i = true ↔ i.id = id := by
  simp [ofID]

variable {db' : DB}

theorem commit_ok {α : Type} {value result : α} (ok : commit what value db = .ok (result,db')) :
    db' = db ∧ db.consistent = true := by
  unfold commit at ok
  split at ok
  · rename_i fits
    cases ok
    exact ⟨rfl,fits⟩
  · cases ok

/-- What a transaction other than EnqueueRun does to the tables: it may
    append an incident, and it edits rows of both tables in place. -/
structure Quiet (db db' : DB) : Prop where
  runs : ∀ id, runsOf db' id = runsOf db id
  consistent : db'.consistent = true
  terminal : ∀ id status, statusOf db id = some status → status.isTerminal = true →
    statusOf db' id = some status

theorem runsOf_update (sameID : ∀ r, (f r).id = r.id)
    (sameIncident : ∀ r, (f r).incidentID = r.incidentID) (db : DB) (id : String) :
    runsOf ⟨incidents,updateWhere p f db.runs⟩ id = runsOf db id := by
  simp only [runsOf]
  rw [filter_updateWhere (fun r => by rw [sameIncident]),column_updateWhere AgentRun.id sameID]

theorem terminal_settled (done : status.isTerminal = true) : status.settled = true := by
  cases status <;> first | rfl | cases done

theorem statusOf_setUnsettled (same : ∀ i, (f i).id = i.id)
    (found : statusOf ⟨incidents,runs⟩ id = some status) (done : status.isTerminal = true) :
    statusOf ⟨setUnsettled incidentID f incidents,more⟩ id = some status := by
  simp only [statusOf,setUnsettled] at found ⊢
  rw [find?_updateWhere (fun i => by simp only [ofID,same])]
  obtain ⟨i,hit,rfl⟩ := Option.map_eq_some_iff.mp found
  have skip : i.status.settled = true := terminal_settled done
  simp [hit,skip]

theorem quiet_outcome {what : String} {α : Type} {value result : α} {f : Incident → Incident} {p : AgentRun → Bool}
    (ok : commit what value ⟨setUnsettled incidentID f db.incidents,updateWhere p g db.runs⟩ =
      .ok (result,db')) (same : ∀ i, (f i).id = i.id) (sameID : ∀ r, (g r).id = r.id)
    (sameIncident : ∀ r, (g r).incidentID = r.incidentID) : Quiet db db' := by
  obtain ⟨rfl,fits⟩ := commit_ok ok
  refine ⟨runsOf_update sameID sameIncident db,fits,?_⟩
  intro id status found done
  exact statusOf_setUnsettled same found done

theorem find?_append_of_found (found : statusOf ⟨incidents,runs⟩ id = some status) :
    statusOf ⟨incidents ++ more,runs'⟩ id = some status := by
  simp only [statusOf] at found ⊢
  obtain ⟨i,hit,rfl⟩ := Option.map_eq_some_iff.mp found
  simp [find?_append,hit]

theorem ids_of_consistent (fits : db.consistent = true) : (db.incidents.map Incident.id).Nodup := by
  simp only [DB.consistent,Bool.and_eq_true,decide_eq_true_eq] at fits
  exact fits.1.1.1

theorem row_of_status
    (found : statusOf db id = some status) : ∃ i ∈ db.incidents, i.id = id ∧ i.status = status := by
  obtain ⟨i,hit,same⟩ := Option.map_eq_some_iff.mp found
  exact ⟨i,mem_of_find?_eq_some hit,ofID_iff.mp (find?_some hit),same⟩

theorem statusOf_update_other (same : ∀ i, (f i).id = i.id) (ne : other ≠ id)
    (found : statusOf ⟨incidents,runs⟩ id = some status) :
    statusOf ⟨updateWhere (ofID other) f incidents,more⟩ id = some status := by
  simp only [statusOf] at found ⊢
  rw [find?_updateWhere (fun i => by simp only [ofID,same])]
  obtain ⟨i,hit,rfl⟩ := Option.map_eq_some_iff.mp found
  have miss : ofID other i = false := by
    have isID := ofID_iff.mp (find?_some hit)
    simp [ofID,isID,ne.symm]
  simp [hit,miss]

theorem quiet_ingest {uuid now : String} {out : IngestOutcome} (consistent : db.consistent = true)
    (ok : ingestEvent db ev uuid now = .ok (out,db')) : Quiet db db' := by
  unfold ingestEvent at ok
  split at ok
  · have appended : ∃ i, db' = { db with incidents := db.incidents ++ [i] } ∧ db'.consistent = true := by
      split at ok
      · obtain ⟨rfl,fits⟩ := commit_ok ok
        exact ⟨_,rfl,fits⟩
      · obtain ⟨rfl,fits⟩ := commit_ok ok
        exact ⟨_,rfl,fits⟩
    obtain ⟨i,rfl,fits⟩ := appended
    refine ⟨fun _ => rfl,fits,?_⟩
    intro id status found _
    exact find?_append_of_found found
  · rename_i existing hit
    have edited : ∃ f : Incident → Incident, (∀ i, (f i).id = i.id) ∧
        db' = { db with incidents := updateWhere (ofID existing.id) f db.incidents } ∧
        db'.consistent = true := by
      unfold updateIncident at ok
      split at ok
      · obtain ⟨rfl,fits⟩ := commit_ok ok
        exact ⟨fun i => { i with updatedAt := now },fun _ => rfl,rfl,fits⟩
      · obtain ⟨rfl,fits⟩ := commit_ok ok
        exact ⟨revisedRow ev now,fun _ => rfl,rfl,fits⟩
    obtain ⟨f,same,rfl,fits⟩ := edited
    refine ⟨fun _ => rfl,fits,?_⟩
    intro id status found done
    refine statusOf_update_other same ?_ found
    intro isID
    -- the row that was looked up is active, so it is not the terminal one
    obtain ⟨i,mem,idI,rfl⟩ := row_of_status found
    have active := find?_some hit
    have equal := unique_row (ids_of_consistent consistent) mem (mem_of_find?_eq_some hit)
      (idI.trans isID.symm)
    simp [← equal,done] at active

theorem quiet_recover {now : String} (ok : recoverInFlightRuns db now = .ok (n,db')) : Quiet db db' := by
  obtain ⟨rfl,fits⟩ := commit_ok ok
  refine ⟨?_,fits,?_⟩
  · intro id
    refine Fold.foldl_invariant (I := fun t => runsOf t id = runsOf db id) rfl ?_
    intro t r _ same
    exact (runsOf_update (by exact fun _ => rfl) (by exact fun _ => rfl) t id).trans same
  · intro id status found done
    refine Fold.foldl_invariant (I := fun t => statusOf t id = some status) found ?_
    intro t r _ kept
    exact statusOf_setUnsettled (by exact fun _ => rfl) kept done

theorem enqueueRun_ok {inputSHA256 runID now result : String}
    (ok : enqueueRun db incidentID inputSHA256 runID now = .ok (result,db')) :
    db' = ⟨updateWhere (ofID incidentID) (queuedRow now) db.incidents,
      db.runs ++ [queuedRun runID incidentID inputSHA256 now]⟩ ∧ db'.consistent = true := by
  unfold enqueueRun at ok
  split at ok
  · cases ok
  · obtain ⟨rfl,fits⟩ := commit_ok ok
    exact ⟨rfl,fits⟩

theorem act_cases (consistent : w.db.consistent = true) (a : Action) :
    (∃ incidentID inputSHA256 runID now, a = .enqueueRun incidentID inputSHA256 runID now ∧
      (act w a).db = ⟨updateWhere (ofID incidentID) (queuedRow now) w.db.incidents,
        w.db.runs ++ [queuedRun runID incidentID inputSHA256 now]⟩ ∧
      (act w a).db.consistent = true ∧ (act w a).listed = w.listed) ∨
    (Quiet w.db (act w a).db ∧
      ((act w a).listed = w.listed ∨ ∃ now limit, a = .listIncidentsNeedingDispatch now limit ∧
        (act w a).listed = w.listed ++ (listIncidentsNeedingDispatch w.db now limit).map Incident.id)) := by
  have still : Quiet w.db w.db := ⟨fun _ => rfl,consistent,fun _ _ found _ => found⟩
  have settled {α : Type} {result : Except String (α × DB)} {other : Prop}
      (quiet : ∀ value db', result = .ok (value,db') → Quiet w.db db') :
      Quiet w.db (settleWith w result).db ∧ ((settleWith w result).listed = w.listed ∨ other) := by
    cases result with
    | error err => exact ⟨still,Or.inl rfl⟩
    | ok pair => exact ⟨quiet pair.1 pair.2 rfl,Or.inl rfl⟩
  cases a with
  | listIncidentsNeedingDispatch now limit =>
    exact Or.inr ⟨still,Or.inr ⟨now,limit,rfl,rfl⟩⟩
  | enqueueRun incidentID inputSHA256 runID now =>
    simp only [act]
    cases ok : enqueueRun w.db incidentID inputSHA256 runID now with
    | error err => exact Or.inr ⟨still,Or.inl rfl⟩
    | ok pair =>
      obtain ⟨eq,fits⟩ := enqueueRun_ok ok
      exact Or.inl ⟨incidentID,inputSHA256,runID,now,rfl,eq,fits,rfl⟩
  | ingestEvent => exact Or.inr (settled fun _ _ ok => quiet_ingest consistent ok)
  | recoverInFlightRuns => exact Or.inr (settled fun _ _ ok => quiet_recover ok)
  | startRun | completeRunDiagnosed | failRunAndMaybeRetry =>
    exact Or.inr (settled fun _ _ ok => quiet_outcome ok (fun _ => rfl) (fun _ => rfl) (fun _ => rfl))

theorem consistent_act (consistent : w.db.consistent = true) (a : Action) :
    (act w a).db.consistent = true := by
  rcases act_cases consistent a with ⟨_,_,_,_,_,_,fits,_⟩ | ⟨quiet,_⟩
  · exact fits
  · exact quiet.consistent

theorem reachable_consistent (run : Reachable labels w) : w.db.consistent = true := by
  refine run_invariant (fun w : World => w.db.consistent = true) ?_ run (by decide)
  rintro w a _ consistent ⟨_,rfl⟩
  exact consistent_act consistent a

theorem runsOf_queued (db : DB) (incidents : List Incident) (incidentID inputSHA256 runID now id : String) :
    (runsOf ⟨incidents,db.runs ++ [queuedRun runID incidentID inputSHA256 now]⟩ id) =
      runsOf db id ++ if incidentID = id then [runID] else [] := by
  by_cases same : incidentID = id
  · simp [runsOf,queuedRun,same]
  · simp [runsOf,queuedRun,same]

variable {later : World}

/-- The incident is as it was, and has no further run. -/
def Stays (w later : World) (id : String) (status : IncidentStatus) : Prop :=
  statusOf later.db id = some status ∧ runsOf later.db id = runsOf w.db id

/-- Only an EnqueueRun of the incident itself can touch it. -/
theorem stays_step (consistent : middle.db.consistent = true) (done : status.isTerminal = true)
    (stays : Stays w middle id status)
    (other : ∀ inputSHA256 runID now, a ≠ .enqueueRun id inputSHA256 runID now) :
    Stays w (act middle a) id status := by
  obtain ⟨found,runs⟩ := stays
  rcases act_cases consistent a with ⟨incidentID,_,_,_,rfl,db,_,_⟩ | ⟨quiet,_⟩
  · have other : incidentID ≠ id := by
      rintro rfl
      exact other _ _ _ rfl
    refine ⟨?_,?_⟩
    · rw [db]
      exact statusOf_update_other (by exact fun _ => rfl) other found
    · rw [db,runsOf_queued]
      simp [other,runs]
  · exact ⟨quiet.terminal id status found done,by rw [quiet.runs,runs]⟩

theorem stays_run (consistent : w.db.consistent = true) (found : statusOf w.db id = some status)
    (done : status.isTerminal = true) (after : Run (guarded Rechecked act) w more later) :
    Stays w later id status := by
  refine (run_invariant (fun v : World => v.db.consistent = true ∧ Stays w v id status) ?_ after
    ⟨consistent,found,rfl⟩).2
  rintro v a _ ⟨fits,stays⟩ ⟨⟨-,checked⟩,rfl⟩
  refine ⟨consistent_act fits a,stays_step fits done stays ?_⟩
  rintro inputSHA256 runID now rfl
  simp [stays.1,done] at checked

theorem terminal_not_listed (consistent : db.consistent = true)
    (found : statusOf db id = some status) (done : status.isTerminal = true) :
    id ∉ (listIncidentsNeedingDispatch db now limit).map Incident.id := by
  intro listed
  obtain ⟨i,mem,isID⟩ := mem_map.mp listed
  have inFilter := (mem_insertionSort _).mp (mem_of_mem_take mem)
  obtain ⟨inRows,ready⟩ := mem_filter.mp inFilter
  obtain ⟨j,memJ,idJ,rfl⟩ := row_of_status found
  have equal := unique_row (ids_of_consistent consistent) inRows memJ (isID.trans idJ.symm)
  rw [equal] at ready
  simp only [dispatchable,Bool.and_eq_true,beq_iff_eq] at ready
  rw [ready.1.1] at done
  cases done

theorem unlisted_run (consistent : w.db.consistent = true) (found : statusOf w.db id = some status)
    (done : status.isTerminal = true) (unlisted : id ∉ w.listed) (after : Run Step w more later) :
    Stays w later id status := by
  refine (run_invariant (fun v : World => v.db.consistent = true ∧ id ∉ v.listed ∧
    Stays w v id status) ?_ after ⟨consistent,unlisted,found,rfl⟩).2.2
  rintro v a _ ⟨fits,notYet,stays⟩ ⟨ok,rfl⟩
  refine ⟨consistent_act fits a,?_,stays_step fits done stays ?_⟩
  · rcases act_cases fits a with ⟨_,_,_,_,_,_,_,listed⟩ | ⟨_,same | ⟨now,limit,_,grown⟩⟩
    · rwa [listed]
    · rwa [same]
    · rw [grown,mem_append]
      rintro (old | new)
      · exact notYet old
      · exact terminal_not_listed fits stays.1 done new
  · rintro inputSHA256 runID now rfl
    exact notYet ok

theorem queued_again (committed : enqueueRun w.db id inputSHA256 runID now = .ok (result,db)) :
    ¬ Stays w (act w (.enqueueRun id inputSHA256 runID now)) id status := by
  rintro ⟨-,runs⟩
  have queued := (enqueueRun_ok committed).1
  subst queued
  simp only [act,committed,settleWith,runsOf_queued] at runs
  simp at runs

/-- From any state in which an incident is terminal it keeps its status and gets
    no further run, if no EnqueueRun finds a terminal incident. A list read
    before is what makes such a call possible, and if it commits the incident is
    not resolved any more. -/
theorem resolved_incident_stays {labels more : List Action} {w : World} {id : String}
    {status : IncidentStatus} (run : Reachable labels w) (found : statusOf w.db id = some status)
    (done : status.isTerminal = true) :
    (∀ later, Run (guarded Rechecked act) w more later → Stays w later id status) ∧
    (id ∉ w.listed → ∀ later, Run Step w more later → Stays w later id status) ∧
    ∀ inputSHA256 runID now result db, enqueueRun w.db id inputSHA256 runID now = .ok (result,db) →
      ¬ Stays w (act w (.enqueueRun id inputSHA256 runID now)) id status := by
  have consistent := reachable_consistent run
  exact ⟨fun _ after => stays_run consistent found done after,
    fun unlisted _ after => unlisted_run consistent found done unlisted after,
    fun _ _ _ _ _ committed => queued_again committed⟩

def diskAlert (status : AlertStatus) : IncidentEvent :=
  ⟨"prometheus-rule","g","e",status,"DiskFull","warning","web-1","","",⟨"web-1","managed_host",true⟩,
    "b"⟩

def resolvedLabels : List Action :=
  [] ++ [.ingestEvent (diskAlert .firing) "i-1" "2026-01-01T00:00:00Z"] ++
    [.listIncidentsNeedingDispatch "2026-01-01T00:00:05Z" 1] ++
    [.ingestEvent (diskAlert .resolved) "i-2" "2026-01-01T00:00:05Z"]

theorem reachable_resolved : Reachable resolvedLabels (resolvedLabels.foldl act World.empty) :=
  .next (.next (.next (.start _) ⟨trivial,rfl⟩) ⟨trivial,rfl⟩) ⟨trivial,rfl⟩

/-- The pass listed the incident while it was open, the alert resolved, and
    the pass went on. -/
theorem resolved_incident_is_queued_again :
    ∃ labels w more later, Reachable labels w ∧ Run Step w more later ∧
      statusOf w.db "i-1" = some .resolvedExternal ∧ runsOf w.db "i-1" = [] ∧
      statusOf later.db "i-1" = some .queued ∧ runsOf later.db "i-1" = ["r-1"] := by
  have enqueued : Step (resolvedLabels.foldl act World.empty)
      (.enqueueRun "i-1" "h" "r-1" "2026-01-01T00:00:06Z") _ :=
    ⟨show "i-1" ∈ (resolvedLabels.foldl act World.empty).listed by decide,rfl⟩
  exact ⟨_,_,_,_,reachable_resolved,.next (.start _) enqueued,by decide,by decide,by decide, by decide⟩

def refiredLabels : List Action :=
  [] ++ [.ingestEvent (diskAlert .firing) "i-3" "2026-01-01T00:01:00Z"] ++
    [.listIncidentsNeedingDispatch "2026-01-01T00:01:05Z" 1] ++
    [.enqueueRun "i-3" "h" "r-1" "2026-01-01T00:01:06Z"]

/-- An alert that fires again opens a new incident, which is dispatched beside the
    resolved one. -/
theorem refired_alert_leaves_resolved :
    let resolved := resolvedLabels.foldl act World.empty
    let later := refiredLabels.foldl act resolved
    runsOf later.db "i-3" = ["r-1"] ∧ Stays resolved later "i-1" .resolvedExternal := by
  intro resolved later
  have listed : "i-3" ∈ (act (act resolved (.ingestEvent (diskAlert .firing) "i-3"
      "2026-01-01T00:01:00Z")) (.listIncidentsNeedingDispatch "2026-01-01T00:01:05Z" 1)).listed := by
    decide
  have after : Run (guarded Rechecked act) resolved refiredLabels later :=
    .next (.next (.next (.start _) ⟨⟨trivial,trivial⟩,rfl⟩) ⟨⟨trivial,trivial⟩,rfl⟩)
      ⟨⟨listed,by decide⟩,rfl⟩
  exact ⟨by decide,(resolved_incident_stays reachable_resolved (by decide) rfl).1 later after⟩

end Pilot.Incidents
