import Pilot.Remediation.History

/-!
Does a failed autonomous repair stop autonomy? A breaker is open exactly when
the last call that moved it was a trip, and of the commands that record a
failed run only the auto-execute that ran the plan trips.
-/
namespace Pilot.Remediation
open Pilot.Table Pilot.Concurrent Pilot.Transition List

def breakerNow (db : DB) (scope : String) : BreakerState :=
  match db.breakers.find? (ofScope scope) with
  | none => .closed
  | some b => b.state

def breakerMove (scope : String) (e : Event Ans) : Option BreakerState :=
  match e with
  | ⟨_,.tripBreaker other _ _,.ok _⟩ => if other = scope then some .opened else none
  | ⟨_,.resetBreaker other _ _ _,.ok n⟩ => if other = scope ∧ n ≠ 0 then some .closed else none
  | _ => none

def movesIn (scope : String) (log : List (Event Ans)) : List BreakerState :=
  log.filterMap (breakerMove scope)

def Tripped (scope : String) (log : List (Event Ans)) : Prop :=
  (movesIn scope log).getLast? = some .opened

theorem find?_same_scope (f : Breaker → Breaker) (kept : ∀ b, (f b).scope = b.scope)
    (p : Breaker → Bool) (scope : String) (rows : List Breaker) :
    (updateWhere p f rows).find? (ofScope scope) =
      (rows.find? (ofScope scope)).map (fun b => if p b then f b else b) := by
  apply find?_updateWhere
  intro b
  simp only [ofScope,kept]

theorem breakerNow_trip (db : DB) (scope other reason now : String) :
    breakerNow (tripBreaker db other reason now) scope =
      if other = scope then .opened else breakerNow db scope := by
  by_cases known : db.breakers.any (ofScope other) = true
  · simp only [tripBreaker,known,if_true,breakerNow]
    rw [find?_same_scope (trippedBreaker reason now) (fun _ => rfl)]
    by_cases same : other = scope
    · subst same
      cases found : db.breakers.find? (ofScope other) with
      | none =>
        obtain ⟨b,mem,hit⟩ := any_eq_true.mp known
        exact absurd hit (find?_eq_none.mp found b mem)
      | some b =>
        have hit := find?_some found
        simp [hit,trippedBreaker]
    · cases found : db.breakers.find? (ofScope scope) with
      | none => simp [same]
      | some b =>
        have hit : b.scope = scope := by simpa [ofScope] using find?_some found
        have miss : ofScope other b = false := by simp [ofScope,hit,Ne.symm same]
        simp [same,miss]
  · simp only [tripBreaker,known,breakerNow]
    rw [if_neg (by simp),find?_append]
    by_cases same : other = scope
    · subst same
      have none_ : db.breakers.find? (ofScope other) = none := by
        rw [find?_eq_none]
        intro b mem hit
        exact known (any_eq_true.mpr ⟨b,mem,hit⟩)
      simp [none_,ofScope]
    · have miss : ofScope scope ⟨other,.opened,reason,some now,none,none⟩ = false := by
        simp [ofScope,same]
      simp [same,miss]

theorem breakerNow_reset (db : DB) (scope other actor reason now : String) :
    breakerNow (resetBreaker db other actor reason now) scope =
      if other = scope ∧ db.breakers.countP (isOpen other) ≠ 0 then .closed
      else breakerNow db scope := by
  simp only [resetBreaker,breakerNow]
  rw [find?_same_scope (closedBreaker actor reason now) (fun _ => rfl)]
  cases found : db.breakers.find? (ofScope scope) with
  | none => simp
  | some b =>
    have isScope : b.scope = scope := by simpa [ofScope] using find?_some found
    have mem := mem_of_find?_eq_some found
    by_cases same : other = scope
    · subst same
      cases state : b.state with
      | closed => simp [isOpen,state]
      | opened =>
        have hit : isOpen other b = true := by simp [isOpen,isScope,state]
        have some_ : db.breakers.countP (isOpen other) ≠ 0 := by
          rw [← Nat.pos_iff_ne_zero,countP_pos_iff]
          exact ⟨b,mem,hit⟩
        simp [hit,some_,closedBreaker]
    · have miss : isOpen other b = false := by simp [isOpen,isScope,Ne.symm same]
      simp [same,miss]

theorem recordDecision_breakers (db : DB) (a : Approval) (next : PlanState) :
    (recordDecision db a next).2.breakers = db.breakers := by
  unfold recordDecision
  split
  · rfl
  dsimp only
  split
  · rfl
  · rfl

theorem recordRun_breakers (db : DB) (r : RemediationRun) : (recordRun db r).2.breakers = db.breakers := by
  unfold recordRun
  split
  · rfl
  · split
    · rfl
    · rfl

theorem serve_breakers (served : serve op choice db = some (answer,db')) (pid : Nat) (scope : String) :
    breakerNow db' scope = (breakerMove scope ⟨pid,op,answer⟩).getD (breakerNow db scope) := by
  have same : db'.breakers = db.breakers → breakerNow db' scope = breakerNow db scope := by
    intro rows
    simp only [breakerNow,rows]
  cases choice with
  | proceed =>
    cases op with
    | tripBreaker other reason now =>
      cases served
      rw [breakerNow_trip]
      by_cases isScope : other = scope <;> simp [breakerMove,isScope]
    | resetBreaker other actor reason now =>
      cases served
      rw [breakerNow_reset]
      by_cases isScope : other = scope ∧ db.breakers.countP (isOpen other) ≠ 0
      · rw [if_pos isScope]
        simp only [breakerMove,if_pos isScope,Option.getD_some]
      · rw [if_neg isScope]
        simp only [breakerMove,if_neg isScope,Option.getD_none]
    | insertPlan p =>
      simp only [serve] at served
      split at served
      · cases served; rfl
      · cases served; rfl
    | recordDecision a next =>
      simp only [serve,Option.some.injEq] at served
      have rows := recordDecision_breakers db a next
      rw [served] at rows
      exact same rows
    | recordRun r =>
      simp only [serve,Option.some.injEq] at served
      have rows := recordRun_breakers db r
      rw [served] at rows
      exact same rows
    | integrityCheck => cases served
    | selectIncident id => cases served
    | repairPlan incidentID host component action => cases served
    | repairApply p => cases served
    | _ => cases served; rfl
  | _ =>
    cases op <;> simp only [serve,Option.some.injEq,Prod.mk.injEq,reduceCtorEq] at served <;>
      obtain ⟨rfl,rfl⟩ := served <;> rfl

variable {C : Clock} {w : World Ans DB Command Exit}

theorem breaker_opened_iff (run : (commandPool C).machine.Reachable emptyDB labels w)
    (scope : String) : breakerNow w.shared.state scope = .opened ↔ Tripped scope w.shared.log := by
  have history : breakerNow w.shared.state scope =
      ((movesIn scope w.shared.log).getLast?).getD .closed := by
    refine (commandPool C).machine.fact_run (fun s => breakerNow s.state scope =
      ((movesIn scope s.log).getLast?).getD .closed) rfl ?_ run
    intro s pid op choice answer db kept served
    simp only [Shared.push,movesIn,filterMap_append]
    rw [serve_breakers served pid scope]
    cases moved : breakerMove scope ⟨pid,op,answer⟩ with
    | none =>
      simp only [filterMap_cons,moved,filterMap_nil,append_nil,Option.getD_none]
      exact kept
    | some state => simp [moved]
  rw [history,Tripped]
  cases last : (movesIn scope w.shared.log).getLast? with
  | none => simp
  | some state => simp

theorem tripped_of_back (mem : trip ∈ back) (trips : breakerMove scope trip = some .opened)
    (noReset : ∀ f ∈ back, breakerMove scope f ≠ some .closed) :
    Tripped scope (front ++ e :: back) := by
  have all : ∀ state ∈ movesIn scope back, state = .opened := by
    intro state among
    obtain ⟨f,inBack,moved⟩ := mem_filterMap.mp among
    cases state with
    | opened => rfl
    | closed => exact absurd moved (noReset f inBack)
  have nonempty : movesIn scope back ≠ [] := by
    intro empty
    have among : BreakerState.opened ∈ movesIn scope back :=
      mem_filterMap.mpr ⟨trip,mem,trips⟩
    rw [empty] at among
    cases among
  have split : movesIn scope (front ++ e :: back) = movesIn scope (front ++ [e]) ++ movesIn scope back := by
    simp [movesIn,← filterMap_append]
  rw [Tripped,split,getLast?_append_of_ne_nil _ nonempty,getLast?_eq_getLast_of_ne_nil nonempty]
  exact congrArg some (all _ (getLast_mem nonempty))

theorem trip_covers (mem : ⟨pid,.tripBreaker scope reason now,answer⟩ ∈ own pid back)
    (went : ∀ err, ⟨pid,.tripBreaker scope reason now,.error err⟩ ∉ own pid back)
    (noReset : ∀ f ∈ back, breakerMove scope f ≠ some .closed) :
    Tripped scope (front ++ e :: back) := by
  cases answer with
  | error err => exact absurd mem (went err)
  | ok _ => exact tripped_of_back (mem_of_mem_filter mem) (by simp [breakerMove]) noReset

def policyApproved (db : DB) (planID : String) : Bool :=
  db.approvals.any fun a => a.planID == planID && a.decision == .approved && isPolicyActor a.actor

/-- A failed run of an autonomous repair: its command has returned and no
    reset of the plan's breakers followed. -/
structure FailedRepair (w : World Ans DB Command Exit) (front back : List (Event Ans)) (pid : Nat)
    (cmd : Command) (r : RemediationRun) (p : Plan) : Prop where
  split : w.shared.log = front ++ ⟨pid,.recordRun r,.ok ()⟩ :: back
  failed : r.result ≠ .appliedVerified
  policy : policyApproved w.shared.state r.planID = true
  returned : w.Returned pid cmd
  stored : p ∈ w.shared.state.plans
  isID : p.id = r.planID
  componentKept : ∀ e ∈ back, breakerMove (breakerScopeComponent p.component) e ≠ some .closed
  hostKept : ∀ e ∈ back, breakerMove (breakerScopeHost p.host) e ≠ some .closed

def StopsAutonomy (w : World Ans DB Command Exit) : Prop :=
  ∀ front back pid cmd r p, FailedRepair w front back pid cmd r p →
    breakerNow w.shared.state (breakerScopeComponent p.component) = .opened ∧
      breakerNow w.shared.state (breakerScopeHost p.host) = .opened

def isAuto (w : World Ans DB Command Exit) (pid : Nat) : Bool :=
  match w.procs pid with
  | some ⟨.autoExecute _,_⟩ => true
  | _ => false

/-- A failed run of a policy-approved plan is recorded by the auto-execute that
    ran the plan, and no TripBreaker call fails. -/
def ownTrips (w : World Ans DB Command Exit) (front : List (Event Ans)) (e : Event Ans) : Bool :=
  match e with
  | ⟨pid,.recordRun r,.ok _⟩ =>
    r.result == .appliedVerified || !policyApproved w.shared.state r.planID ||
      (isAuto w pid && ((own pid front).filterMap started).contains r.planID)
  | ⟨_,.tripBreaker _ _ _,.error _⟩ => false
  | _ => true

theorem trips_after (ended : Ended cmd pid w.shared)
    (split : w.shared.log = front ++ ⟨pid,.recordRun r,.ok ()⟩ :: back)
    (failed : r.result ≠ .appliedVerified) (auto : ∃ args, cmd = .autoExecute args)
    (entered : r.planID ∈ (own pid front).filterMap started) :
    ∃ p reason now first second, p.id = r.planID ∧ Known p w.shared ∧ own pid back =
      [⟨pid,.tripBreaker (breakerScopeComponent p.component) reason now,first⟩,
        ⟨pid,.tripBreaker (breakerScopeHost p.host) reason now,second⟩] := by
  obtain ⟨quiet,tail,ownLog,none_,shape⟩ := ended
  have parts : own pid front ++ ⟨pid,.recordRun r,.ok ()⟩ :: own pid back = quiet ++ tail := by
    rw [← ownLog,split,own_append]
    congr 1
    simp [own]
  -- the process started a plan before the record, so the record lies in the tail
  obtain ⟨work_,isFront,isTail⟩ : ∃ xs, own pid front = quiet ++ xs ∧
      tail = xs ++ ⟨pid,.recordRun r,.ok ()⟩ :: own pid back := by
    rcases append_eq_append_iff.mp parts with ⟨xs,isQuiet,_⟩ | ⟨xs,isFront,isTail⟩
    · rw [isQuiet,filterMap_append] at none_
      rw [(append_eq_nil_iff.mp none_).1] at entered
      cases entered
    · exact ⟨xs,isFront,isTail⟩
  cases shape with
  | idle => simp at isTail
  | unrecorded n p answer other err hit ofPlan result =>
    rcases work_ with _ | ⟨_,_ | ⟨_,_ | ⟨_,_⟩⟩⟩ <;> simp [work] at isTail
  | recorded n p answer other hit ofPlan result good =>
    rcases work_ with _ | ⟨_,_ | ⟨_,_ | ⟨_,_⟩⟩⟩ <;> simp [work] at isTail
    obtain ⟨_,_,rfl,_⟩ := isTail
    exact absurd (good auto) failed
  | tripped n p answer other hit ofPlan result known reason now first second =>
    rcases work_ with _ | ⟨_,_ | ⟨_,_ | ⟨_,_ | ⟨_,_ | ⟨_,_⟩⟩⟩⟩⟩ <;> simp [work] at isTail
    obtain ⟨_,_,rfl,isBack⟩ := isTail
    exact ⟨p,reason,now,first,second,ofPlan.symm,known,isBack.symm⟩

theorem auto_of_returned (auto : isAuto w pid = true) (returned : w.Returned pid cmd) :
    ∃ args, cmd = .autoExecute args := by
  unfold isAuto at auto
  rcases returned with ⟨_,is⟩ | ⟨_,is⟩
  all_goals
    rw [is] at auto
    cases cmd with
    | autoExecute args => exact ⟨args,rfl⟩
    | _ => cases auto

/-- A failed autonomous repair stops autonomy in every run in which the failed
    runs of policy-approved plans are recorded by the auto-executes that ran the
    plans, and these can trip both breakers. -/
theorem failed_repair_stops_autonomy {labels : List (Label Choice Command)}
    {w : World Ans DB Command Exit}
    (run : (commandPool C).machine.Reachable emptyDB labels w)
    (trips : everyCall (ownTrips w) [] w.shared.log = true) : StopsAutonomy w := by
  intro front back pid cmd r p repair
  have holds := commands_hold C run
  have lawful : Lawful w.shared := holds.inv
  have mine := everyCall_split (repair.split ▸ trips)
  simp only [ownTrips,nil_append,repair.policy,beq_iff_eq,repair.failed,Bool.not_true,Bool.or_false,
    Bool.or_eq_true,false_or,Bool.and_eq_true,contains_iff_mem] at mine
  have went : ∀ scope reason now err, ⟨pid,.tripBreaker scope reason now,.error err⟩ ∉ own pid back := by
    intro scope reason now err failed
    have inLog : ⟨pid,.tripBreaker scope reason now,.error err⟩ ∈ w.shared.log := by
      rw [repair.split]
      exact mem_append_right _ (mem_cons_of_mem _ (mem_of_mem_filter failed))
    obtain ⟨before,after,split⟩ := append_of_mem inLog
    exact absurd (everyCall_split (split ▸ trips)) (by simp [ownTrips])
  obtain ⟨_,ended⟩ := (commandPool C).rule.post_of_returned holds repair.returned
  obtain ⟨q,reason,now,first,second,idQ,⟨stored,memStored,same⟩,isBack⟩ :=
    trips_after ended repair.split repair.failed (auto_of_returned mine.1 repair.returned) mine.2
  have isP : stored = p := unique_row lawful.ids memStored repair.stored
    ((id_of_fixed same).trans (idQ.trans repair.isID.symm))
  subst isP
  have component : q.component = stored.component :=
    (column_of_fixed Plan.component (fun _ => rfl) same).symm
  have host : q.host = stored.host := (column_of_fixed Plan.host (fun _ => rfl) same).symm
  rw [component,host] at isBack
  rw [breaker_opened_iff run,breaker_opened_iff run,repair.split]
  constructor
  · exact trip_covers (isBack ▸ mem_cons_self) (went _ _ _) repair.componentKept
  · exact trip_covers (isBack ▸ mem_cons_of_mem _ mem_cons_self) (went _ _ _) repair.hostKept

/-- An auto-execute crashes while its plan is EXECUTING, and the next
    auto-execute, for a plan that does not exist, recovers it. -/
def recoveredRepair : List (Label Choice Command) :=
  [.spawn 0 (.setMode .enforced "operator"),.call 0 .proceed,
    .spawn 1 (.propose ⟨samplePlan "a",0,10 * minute⟩),.call 1 .proceed,
    .spawn 2 (.autoExecute ⟨"a","staging",defaultConfig.defaults,0,0,0⟩)] ++
    allowingReads 2 "hash-a" ++ approveAndStart 2 ++
    [.crash 2,.spawn 3 (.autoExecute ⟨"b","staging",defaultConfig.defaults,0,0,0⟩),
      .call 3 .proceed,.call 3 .proceed,.call 3 .proceed]

def recorder (e : Event Ans) : Option (Nat × String × Outcome) :=
  (recordedRun e).map (fun r => (e.pid,r.planID,r.result))

theorem not_stopsAutonomy (records : w.shared.log.filterMap recorder = [(pid,planID,result)])
    (failed : result ≠ .appliedVerified) (policy : policyApproved w.shared.state planID = true)
    (returned : w.hasReturned pid = true) (stored : p ∈ w.shared.state.plans)
    (isID : p.id = planID)
    (component : movesIn (breakerScopeComponent p.component) w.shared.log = [])
    (host : movesIn (breakerScopeHost p.host) w.shared.log = [])
    (closed : breakerNow w.shared.state (breakerScopeComponent p.component) = .closed) :
    ¬ StopsAutonomy w := by
  intro stops
  have among : (pid,planID,result) ∈ w.shared.log.filterMap recorder := by
    rw [records]
    simp
  obtain ⟨e,mem,isRecord⟩ := mem_filterMap.mp among
  obtain ⟨r,isRun,same⟩ := Option.map_eq_some_iff.mp isRecord
  obtain ⟨front,back,split⟩ := append_of_mem mem
  obtain ⟨rfl,rfl,rfl⟩ := same
  obtain ⟨cmd,isReturned⟩ := returned_of_hasReturned returned
  have still : ∀ scope, movesIn scope w.shared.log = [] →
      ∀ f ∈ back, breakerMove scope f ≠ some .closed := by
    intro scope none_ f inBack moved
    have inLog : f ∈ w.shared.log := by
      rw [split]
      exact mem_append_right _ (mem_cons_of_mem _ inBack)
    have some_ : BreakerState.closed ∈ movesIn scope w.shared.log :=
      mem_filterMap.mpr ⟨f,inLog,moved⟩
    rw [none_] at some_
    cases some_
  have opened := stops front back e.pid cmd r p ⟨by rw [split,← recordedRun_some isRun],failed,policy,
    isReturned,stored,isID,still _ component,still _ host⟩
  rw [closed] at opened
  cases opened.1

theorem recovered_repair_trips_nothing : ∃ w,
    (commandPool sampleClock).machine.Reachable emptyDB recoveredRepair w ∧
      w.shared.log.filterMap recorder = [(3,"a",.executionFailed)] ∧
      policyApproved w.shared.state "a" = true ∧ w.hasReturned 3 = true ∧ ¬ StopsAutonomy w := by
  have played : ((commandPool sampleClock).machine.play (Machine.start emptyDB)
      recoveredRepair).map (fun w => (w.shared.log.filterMap recorder,policyApproved w.shared.state "a",
        w.hasReturned 3,w.shared.state.plans.map (fun p => (p.id,p.component,p.host)),
        movesIn (breakerScopeComponent "nginx") w.shared.log,
        movesIn (breakerScopeHost "web-1") w.shared.log,
        breakerNow w.shared.state (breakerScopeComponent "nginx"))) =
      some ([(3,"a",.executionFailed)],true,true,[("a","nginx","web-1")],[],[],.closed) := by
    rfl
  obtain ⟨w,reached,seen⟩ := (commandPool sampleClock).machine.reachable_of_play played
  simp only [Prod.mk.injEq] at seen
  obtain ⟨records,policy,returned,plans,component,host,closed⟩ := seen
  obtain ⟨p,memP,isP⟩ : ∃ p ∈ w.shared.state.plans, (p.id,p.component,p.host) = ("a","nginx","web-1") :=
    mem_map.mp (by rw [plans]; simp)
  simp only [Prod.mk.injEq] at isP
  obtain ⟨isID,isComponent,isHost⟩ := isP
  refine ⟨w,reached,records,policy,returned,?_⟩
  exact not_stopsAutonomy records (by decide) policy returned memP isID
    (by rw [isComponent]; exact component) (by rw [isHost]; exact host)
    (by rw [isComponent]; exact closed)

/-- An auto-execute whose repair fails, and the next one, for a plan of the same
    host. -/
def failedRepair : List (Label Choice Command) :=
  [.spawn 0 (.setMode .enforced "operator"),.call 0 .proceed,
    .spawn 1 (.propose ⟨samplePlan "a",0,10 * minute⟩),.call 1 .proceed,
    .spawn 2 (.autoExecute ⟨"a","staging",defaultConfig.defaults,0,0,0⟩)] ++
    allowingReads 2 "hash-a" ++ approveAndStart 2 ++
    [.call 2 (.applied ⟨some .executionFailed,""⟩),
      .spawn 3 (.autoExecute ⟨"b","staging",defaultConfig.defaults,0,0,0⟩),
      .call 2 .proceed,.call 3 .proceed,.call 2 .proceed,.call 3 .proceed,.call 2 .proceed]

theorem failed_repair_trips_both : ∃ w,
    (commandPool sampleClock).machine.Reachable emptyDB failedRepair w ∧
      w.shared.log.filterMap recorder = [(2,"a",.executionFailed)] ∧
      policyApproved w.shared.state "a" = true ∧ w.hasReturned 2 = true ∧ StopsAutonomy w := by
  have played : ((commandPool sampleClock).machine.play (Machine.start emptyDB)
      failedRepair).map (fun w => (w.shared.log.filterMap recorder,policyApproved w.shared.state "a",
        w.hasReturned 2,everyCall (ownTrips w) [] w.shared.log)) =
      some ([(2,"a",.executionFailed)],true,true,true) := by
    rfl
  obtain ⟨w,reached,seen⟩ := (commandPool sampleClock).machine.reachable_of_play played
  simp only [Prod.mk.injEq] at seen
  obtain ⟨records,policy,returned,trips⟩ := seen
  exact ⟨w,reached,records,policy,returned,failed_repair_stops_autonomy reached trips⟩

end Pilot.Remediation
