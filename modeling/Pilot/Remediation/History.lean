import Pilot.Remediation.Commands

/-!
What the call log says of the tables: the approvals and runs are the recorded
ones in their order, a plan has one run, and one process at most has moved it
to EXECUTING.
-/
namespace Pilot.Remediation
open Pilot.Table Pilot.Concurrent Pilot.Transition List

def recordedApproval (e : Event Ans) : Option Approval :=
  match e with
  | ⟨_,.recordDecision a _,.ok n⟩ => if n = 0 then none else some a
  | _ => none

def recordedRun (e : Event Ans) : Option RemediationRun :=
  match e with
  | ⟨_,.recordRun r,.ok _⟩ => some r
  | _ => none

structure Recorded (s : Shared Ans DB) : Prop where
  approvals : s.state.approvals = s.log.filterMap recordedApproval
  runs : s.state.runs = s.log.filterMap recordedRun
  oneRun : (s.state.runs.map RemediationRun.planID).Nodup

variable {s : Shared Ans DB}

section
variable {pid : Nat} {op : Op} {answer : Except String (Ans op)} {db : DB} (recorded : Recorded s)
include recorded

theorem recorded_quiet (approvals : db.approvals = s.state.approvals)
    (runs : db.runs = s.state.runs) (noApproval : recordedApproval ⟨pid,op,answer⟩ = none)
    (noRun : recordedRun ⟨pid,op,answer⟩ = none) : Recorded (s.push pid op answer db) where
  approvals := by
    simp [Shared.push,approvals,recorded.approvals,noApproval]
  runs := by
    simp [Shared.push,runs,recorded.runs,noRun]
  oneRun := by
    simpa [Shared.push,runs] using recorded.oneRun

theorem recorded_effect (effect : Effect s.state op answer db) : Recorded (s.push pid op answer db) := by
  cases effect with
  | failed err =>
    exact recorded_quiet recorded rfl rfl (by cases op <;> rfl) (by cases op <;> rfl)
  | aside quiet plans approvals runs =>
    refine recorded_quiet recorded approvals runs ?_ ?_
    · cases op <;> first | rfl | cases quiet
    · cases op <;> first | rfl | cases quiet
  | inserted p free | expired id seen | started id | refused a next => exact recorded_quiet recorded rfl rfl rfl rfl
  | decided a next hit =>
    refine ⟨?_,?_,recorded.oneRun⟩
    · simp [Shared.push,moveState,recorded.approvals,recordedApproval,hit]
    · simp [Shared.push,moveState,recorded.runs,recordedRun]
  | ran r free known =>
    refine ⟨?_,?_,?_⟩
    · simp [Shared.push,moveState,recorded.approvals,recordedApproval]
    · simp [Shared.push,moveState,recorded.runs,recordedRun]
    refine nodup_insert recorded.oneRun ?_
    intro old mem
    simpa using any_eq_false.mp free old mem

end

variable {C : Clock} {labels : List (Label Choice Command)} {w : World Ans DB Command Exit}

theorem recorded_run (run : (commandPool C).machine.Reachable emptyDB labels w) : Recorded w.shared := by
  have first : Recorded ⟨emptyDB,[]⟩ := ⟨rfl,rfl,nodup_nil⟩
  refine (commandPool C).machine.fact_run Recorded first ?_ run
  intro s pid op choice answer db recorded served
  exact recorded_effect recorded (serve_effect served)

theorem recordedRun_some (isRun : recordedRun e = some r) : e = ⟨e.pid,.recordRun r,.ok ()⟩ := by
  unfold recordedRun at isRun
  split at isRun
  · cases isRun
    rfl
  · cases isRun

theorem run_split (recorded : Recorded s) (mem : r ∈ s.state.runs) :
    ∃ front pid back, s.log = front ++ ⟨pid,.recordRun r,.ok ()⟩ :: back := by
  rw [recorded.runs] at mem
  obtain ⟨e,among,isRun⟩ := mem_filterMap.mp mem
  obtain ⟨front,back,split⟩ := append_of_mem among
  exact ⟨front,e.pid,back,by rw [split,← recordedRun_some isRun]⟩

theorem run_mem (recorded : Recorded s) (logged : ⟨pid,.recordRun r,.ok ()⟩ ∈ s.log) :
    r ∈ s.state.runs := by
  rw [recorded.runs]
  exact mem_filterMap.mpr ⟨_,logged,rfl⟩

theorem one_starter (lawful : Lawful s) {id : String} (byP : id ∈ (own p s.log).filterMap started)
    (byQ : id ∈ (own q s.log).filterMap started) : p = q := by
  obtain ⟨e,memE,isE⟩ := mem_filterMap.mp byP
  obtain ⟨f,memF,isF⟩ := mem_filterMap.mp byQ
  obtain ⟨inLogE,pidE⟩ := mem_filter.mp memE
  obtain ⟨inLogF,pidF⟩ := mem_filter.mp memF
  have same := filterMap_inj lawful.once inLogE inLogF isE isF
  rw [← eq_of_beq pidE,← eq_of_beq pidF,same]

/-- What is known right before a logged call: its precondition, and that the
    tables have only grown since. -/
structure Moment (C : Clock) (w : World Ans DB Command Exit) (front : List (Event Ans))
    (e : Event Ans) (u : World Ans DB Command Exit) (cmd : Command) : Prop where
  reached : ∃ labels, (commandPool C).machine.Reachable emptyDB labels u
  log : u.shared.log = front
  isCmd : ∃ status, w.procs e.pid = some ⟨cmd,status⟩
  pre : (commandPool C).rule.pre cmd e.pid e.op u.shared
  served : ∃ choice db, serve e.op choice u.shared.state = some (e.answer,db) ∧
    Grows db w.shared.state
  grows : Grows u.shared.state w.shared.state

theorem moment_of_log (run : (commandPool C).machine.Reachable emptyDB labels w)
    (split : w.shared.log = front ++ e :: back) : ∃ u cmd, Moment C w front e u cmd := by
  obtain ⟨called⟩ := (commandPool C).machine.called_of_log run split
  have holds := commands_hold C called.reached
  have stepped : (commandPool C).machine.Step called.before (.call e.pid called.choice)
      ⟨called.before.shared.push e.pid e.op e.answer called.answered,
        Machine.setStatus called.before e.pid called.cmd (.running (called.next e.answer))⟩ := by
    simp only [Machine.Step,Machine.step,called.running,called.served]
  have after := (commandPool C).rule.holds_step (commandPool_obeyed C) holds stepped
  have later := (commandPool C).rule.grows_run (commandPool_obeyed C) after called.after
  have first : Grows called.before.shared.state called.answered :=
    effect_grows (serve_effect called.served)
  have isCmd : Machine.setStatus called.before e.pid called.cmd
      (.running (called.next e.answer)) e.pid =
      some ⟨called.cmd,.running (called.next e.answer)⟩ := by
    simp [Machine.setStatus]
  exact ⟨called.before,called.cmd,⟨called.labels,called.reached⟩,called.log,
    (commandPool C).machine.cmd_run called.after isCmd,
    (commandPool C).rule.pre_of_holds holds called.running,
    ⟨called.choice,called.answered,called.served,later⟩,first.trans later⟩

/-- The calls of an auto-execute up to a policy decision that allows the plan. -/
def allowingReads (pid : Nat) (planHash : String) : List (Label Choice Command) :=
  [.call pid .proceed,.call pid .proceed,.call pid .proceed,
    .call pid (.incident (some .opened)),.call pid (.wire ⟨planHash,"","allowed",""⟩)] ++
    replicate 8 (.call pid .proceed) ++ [.call pid (.integrity "ok"),.call pid .proceed]

def approveAndStart (pid : Nat) : List (Label Choice Command) :=
  replicate 4 (.call pid .proceed)

end Pilot.Remediation
