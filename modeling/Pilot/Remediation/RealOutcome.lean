import Pilot.Remediation.History

/-!
Is the recorded outcome of an execution the one it had? Orphan recovery
records a failed execution for every plan it finds EXECUTING, and it cannot
tell an orphan from a plan another process is working on.
-/
namespace Pilot.Remediation
open Pilot.Table Pilot.Concurrent Pilot.Transition List

def Obtained (log : List (Event Ans)) (pid : Nat) (planID : String) (result : Outcome) : Prop :=
  planID ∈ (own pid log).filterMap started ∧
    ∃ p answer, ⟨pid,.repairApply p,answer⟩ ∈ own pid log ∧ finalResult answer = result

def Reported (log : List (Event Ans)) (pid : Nat) (planID : String) : Prop :=
  ∃ r answer, r.planID = planID ∧ ⟨pid,.recordRun r,answer⟩ ∈ own pid log

/-- Runs are recorded with what the executing process has obtained, by that
    process or once it is through with the plan, and an execution that has
    returned has its one run. -/
structure Faithful (w : World Ans DB Command Exit) : Prop where
  truthful : ∀ front back pid r, w.shared.log = front ++ ⟨pid,.recordRun r,.ok ()⟩ :: back →
    ∃ runner, Obtained front runner r.planID r.result ∧
      (runner = pid ∨ Reported front runner r.planID)
  complete : ∀ pid cmd planID, w.Returned pid cmd →
    planID ∈ (own pid w.shared.log).filterMap started →
    ∃ r, w.shared.state.runs.filter (fun run => run.planID == planID) = [r] ∧
      Obtained w.shared.log pid planID r.result

/-- A recovery selects while no plan is EXECUTING, and a run can be recorded. -/
def undisturbed (e : Event Ans) : Bool :=
  match e with
  | ⟨_,.selectExecuting,.ok ids⟩ => ids.isEmpty
  | ⟨_,.recordRun _,.error _⟩ => false
  | _ => true

variable {pid : Nat} {log : List (Event Ans)}

theorem Obtained.append (obtained : Obtained log pid planID result) :
    Obtained (log ++ more) pid planID result := by
  obtain ⟨entered,p,answer,applied,same⟩ := obtained
  refine ⟨?_,p,answer,?_,same⟩
  · rw [own_append,filterMap_append]
    exact mem_append_left _ entered
  · rw [own_append]
    exact mem_append_left _ applied

variable {r : RemediationRun}

theorem obtained_of_executed (executed : Executed pid log r) : Obtained log pid r.planID r.result := by
  obtain ⟨quiet,n,p,answer,ownLog,hit,_,isID,result⟩ := executed
  refine ⟨?_,p,answer,?_,result⟩
  · rw [ownLog]
    simp [work,started,hit,isID]
  · rw [ownLog]
    simp [work]

variable {C : Clock} {w : World Ans DB Command Exit} {labels : List (Label Choice Command)}

theorem reported_of_returned (holds : (commandPool C).rule.Holds w)
    (returned : w.Returned pid cmd) (entered : planID ∈ (own pid w.shared.log).filterMap started) :
    ∃ r answer, r.planID = planID ∧ ⟨pid,.recordRun r,answer⟩ ∈ own pid w.shared.log := by
  obtain ⟨_,quiet,tail,ownLog,none_,shape⟩ := (commandPool C).rule.post_of_returned holds returned
  rw [ownLog,filterMap_append,none_,nil_append] at entered
  rw [ownLog]
  cases shape with
  | idle => cases entered
  | unrecorded n p answer r err hit ofPlan result =>
    have isID : planID = p.id := by simpa [work,started,hit] using entered
    exact ⟨r,.error err,ofPlan.trans isID.symm,by simp⟩
  | recorded n p answer r hit ofPlan result good
  | tripped n p answer r hit ofPlan result known reason now first second =>
    have isID : planID = p.id := by simpa [work,started,hit] using entered
    exact ⟨r,.ok (),ofPlan.trans isID.symm,by simp⟩

theorem mem_of_own (mem : e ∈ own pid log) : e ∈ log :=
  mem_of_mem_filter mem

theorem truthful_of_undisturbed (run : (commandPool C).machine.Reachable emptyDB labels w)
    (quiet : w.shared.log.all undisturbed = true)
    (split : w.shared.log = front ++ ⟨pid,.recordRun r,.ok ()⟩ :: back) :
    Obtained front pid r.planID r.result := by
  obtain ⟨u,cmd,moment⟩ := moment_of_log run split
  obtain ⟨-,kind⟩ := moment.pre.2 rfl
  rw [moment.log] at kind
  rcases kind with executed | ⟨-,-,-,ids,selected,mem⟩
  · exact obtained_of_executed executed
  · have inLog : ⟨pid,.selectExecuting,.ok ids⟩ ∈ w.shared.log := by
      rw [split]
      exact mem_append_left _ (mem_of_own selected)
    have none_ := all_eq_true.mp quiet _ inLog
    simp only [undisturbed,List.isEmpty_iff] at none_
    rw [none_] at mem
    cases mem

/-- The recorded outcome is the real one, if no recovery selects while a plan is
    EXECUTING and no run is refused by the store. -/
theorem recorded_outcome_is_real {labels : List (Label Choice Command)} {w : World Ans DB Command Exit}
    (run : (commandPool C).machine.Reachable emptyDB labels w)
    (quiet : w.shared.log.all undisturbed = true) : Faithful w := by
  have holds := commands_hold C run
  have recorded := recorded_run run
  refine ⟨fun front back pid r split => ⟨pid,truthful_of_undisturbed run quiet split,.inl rfl⟩,?_⟩
  intro pid cmd planID returned entered
  have stored : ∃ r ∈ w.shared.state.runs, r.planID = planID := by
    obtain ⟨r,answer,rfl,reported⟩ := reported_of_returned holds returned entered
    cases answer with
    | ok _ => exact ⟨r,run_mem recorded (mem_of_own reported),rfl⟩
    | error err => exact absurd (all_eq_true.mp quiet _ (mem_of_own reported)) (by simp [undisturbed])
  obtain ⟨r,mem,rfl⟩ := stored
  refine ⟨r,filter_key recorded.oneRun mem,?_⟩
  obtain ⟨front,recorder,back,split⟩ := run_split recorded mem
  have later : Obtained w.shared.log recorder r.planID r.result := by
    rw [split]
    exact (truthful_of_undisturbed run quiet split).append
  rw [one_starter holds.inv entered later.1]
  exact later

def notCrash : Label Choice Command → Bool
  | .crash _ => false
  | _ => true

/-- Execution of one plan, overtaken by the recovery of an auto-execute that
    was started for another. -/
def overtakenExecution : List (Label Choice Command) :=
  [.spawn 0 (.propose ⟨samplePlan "a",0,10 * minute⟩),.call 0 .proceed,
    .spawn 1 (.approve ⟨"a","hash-a","operator",""⟩ 0),.call 1 .proceed,.call 1 .proceed,
    .spawn 2 (.execute "a" 0 0),.call 2 .proceed,.call 2 .proceed,
    .spawn 3 (.autoExecute ⟨"b","staging",defaultConfig.defaults,0,0,0⟩),
    .call 3 .proceed,.call 3 .proceed,
    .call 2 (.applied ⟨some .appliedVerified,""⟩),.call 2 .proceed]

def appliedResult (e : Event Ans) : Option Outcome :=
  match e with
  | ⟨_,.repairApply _,answer⟩ => some (finalResult answer)
  | _ => none

theorem not_faithful (recorded : Recorded w.shared) (stored : r ∈ w.shared.state.runs)
    (other : r.result ∉ w.shared.log.filterMap appliedResult) : ¬ Faithful w := by
  intro faithful
  obtain ⟨front,pid,back,split⟩ := run_split recorded stored
  obtain ⟨runner,⟨_,p,answer,applied,same⟩,_⟩ := faithful.truthful front back pid r split
  have inLog : ⟨runner,.repairApply p,answer⟩ ∈ w.shared.log := by
    rw [split]
    exact mem_append_left _ (mem_of_own applied)
  exact other (mem_filterMap.mpr ⟨_,inLog,congrArg some same⟩)

theorem live_execution_closed_by_recovery :
    overtakenExecution.all notCrash = true ∧ ∃ w,
      (commandPool sampleClock).machine.Reachable emptyDB overtakenExecution w ∧
      w.shared.state.runs.map (fun r => (r.planID,r.result)) = [("a",.executionFailed)] ∧
      w.shared.log.filterMap appliedResult = [.appliedVerified] ∧ ¬ Faithful w := by
  have played : ((commandPool sampleClock).machine.play (Machine.start emptyDB)
      overtakenExecution).map (fun w => (w.shared.state.runs.map (fun r => (r.planID,r.result)),
        w.shared.log.filterMap appliedResult)) =
      some ([("a",.executionFailed)],[.appliedVerified]) := by
    decide
  obtain ⟨w,reached,seen⟩ := (commandPool sampleClock).machine.reachable_of_play played
  obtain ⟨runs,applied⟩ := Prod.mk.inj seen
  refine ⟨rfl,w,reached,runs,applied,?_⟩
  obtain ⟨r,mem,isRun⟩ : ∃ r ∈ w.shared.state.runs, (r.planID,r.result) = ("a",.executionFailed) :=
    mem_map.mp (by rw [runs]; simp)
  refine not_faithful (recorded_run reached) mem ?_
  rw [applied,(Prod.mk.inj isRun).2]
  decide

/-- The recovery of an auto-execute comes before the execution of another plan,
    and the rest of the auto-execute falls into it. -/
def interleavedExecution : List (Label Choice Command) :=
  [.spawn 0 (.propose ⟨samplePlan "a",0,10 * minute⟩),.call 0 .proceed,
    .spawn 1 (.approve ⟨"a","hash-a","operator",""⟩ 0),.call 1 .proceed,.call 1 .proceed,
    .spawn 2 (.execute "a" 0 0),.spawn 3 (.autoExecute ⟨"b","staging",defaultConfig.defaults,0,0,0⟩),
    .call 3 .proceed,.call 2 .proceed,.call 2 .proceed,.call 3 .proceed,
    .call 2 (.applied ⟨some .appliedVerified,""⟩),.call 2 .proceed]

theorem interleaved_execution_is_recorded : ∃ w,
    (commandPool sampleClock).machine.Reachable emptyDB interleavedExecution w ∧
      w.shared.state.runs.map (fun r => (r.planID,r.result)) = [("a",.appliedVerified)] ∧
      w.hasReturned 2 = true ∧ w.hasReturned 3 = true ∧ Faithful w := by
  have played : ((commandPool sampleClock).machine.play (Machine.start emptyDB)
      interleavedExecution).map (fun w => (w.shared.state.runs.map (fun r => (r.planID,r.result)),
        w.hasReturned 2,w.hasReturned 3,w.shared.log.all undisturbed)) =
      some ([("a",.appliedVerified)],true,true,true) := by
    decide
  obtain ⟨w,reached,seen⟩ := (commandPool sampleClock).machine.reachable_of_play played
  simp only [Prod.mk.injEq] at seen
  obtain ⟨runs,executed,ended,quiet⟩ := seen
  exact ⟨w,reached,runs,executed,ended,recorded_outcome_is_real reached quiet⟩

end Pilot.Remediation
