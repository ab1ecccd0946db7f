import Pilot.Remediation.Discipline

/-!
The store's own functions as commands: any number of processes create plans,
decide on them, start them and record runs, in any interleaving of their
statements and with crashes in between.
-/
namespace Pilot.Remediation
open Concurrent.Rule (safe_bind)
open Pilot.Table Pilot.Concurrent Pilot.Transition

inductive StoreCall where
  | createPlan (p : ProposedPlan)
  | approve (r : DecisionRequest) (now : Int)
  | reject (r : DecisionRequest) (now : Int)
  | markExecuting (planID : String) (now : Int)
  | finishRun (planID : String) (result : Outcome) (auditRef verifyRef : String)
      (startedAt finishedAt : Int)
  | recover (now : Int)

variable (C : Clock)

def storeProgram : StoreCall → StoreProg Unit
  | .createPlan p => createPlan C p
  | .approve r now => do let _ ← approve C r now; .done ()
  | .reject r now => do let _ ← reject C r now; .done ()
  | .markExecuting planID now => do let _ ← markExecuting C planID now; .done ()
  | .finishRun planID result auditRef verifyRef startedAt finishedAt =>
    finishRun C planID result auditRef verifyRef startedAt finishedAt
  | .recover now => do let _ ← recoverOrphanedExecutingPlans C now; .done ()

def StoreCall.target : StoreCall → Option (String × Int)
  | .markExecuting planID now => some (planID,now)
  | _ => none

/-- A MarkExecuting that returns without error has moved the plan. -/
def StoreCall.post (cmd : StoreCall) (pid : Nat) (result : Except String Unit)
    (s : Shared Ans DB) : Prop :=
  match cmd, result with
  | .markExecuting planID _, .ok () => planID ∈ (own pid s.log).filterMap started
  | _, _ => True

def storePool : Pool StoreCall Unit where
  clock := C
  program := storeProgram C
  target := StoreCall.target
  extra := fun _ _ _ _ => True
  post := StoreCall.post

theorem storePool_stable (cmd : StoreCall) (pid : Nat) (result : Except String Unit) :
    (storePool C).rule.Stable pid ((storePool C).rule.post cmd pid result) := by
  intro s t holds later _
  change StoreCall.post cmd pid result t
  unfold StoreCall.post at *
  rw [later.own]
  exact holds

theorem storePool_program (cmd : StoreCall) (pid : Nat) (lawful : Lawful s) :
    (storePool C).rule.Safe cmd pid (storeProgram C cmd) ((storePool C).rule.post cmd pid) s := by
  cases cmd with
  | createPlan p =>
    refine safe_quiet (by intro id same; cases same) ?_ (fun _ _ _ _ _ _ => trivial)
      (fun _ _ _ _ => trivial)
    intro t _ _
    exact ⟨rfl,fun _ => trivial⟩
  | approve r now =>
    apply safe_bind
    exact safe_recordApprovalDecision (Or.inl ⟨rfl,rfl⟩) lawful (fun _ _ _ => trivial)
      (fun _ _ _ _ => trivial) (fun _ _ _ _ => trivial)
  | reject r now =>
    apply safe_bind
    exact safe_recordApprovalDecision (Or.inr ⟨rfl,rfl⟩) lawful (fun _ _ _ => trivial)
      (fun _ _ _ _ => trivial) (fun _ _ _ _ => trivial)
  | markExecuting planID now =>
    apply safe_bind
    refine safe_markExecuting rfl ?_ (fun _ _ _ _ => trivial)
    intro t p _ _ isID entered
    obtain ⟨quiet,n,hit,ownLog,_⟩ := entered.own
    change planID ∈ (own pid t.log).filterMap started
    rw [ownLog,isID]
    simp [started,hit]
  | finishRun planID result auditRef verifyRef startedAt finishedAt =>
    exact safe_quiet (by intro id same; cases same) (fun _ _ _ => ⟨trivial,fun _ => trivial⟩)
      (fun _ _ _ _ _ _ => trivial) (fun _ _ _ _ => trivial)
  | recover now =>
    apply safe_bind
    exact safe_recover (fun _ _ _ _ _ _ _ => trivial) (fun _ _ _ _ => trivial)
      (fun _ _ _ _ => trivial)

theorem storePool_obeyed : (storePool C).rule.Obeyed :=
  ⟨storePool_stable C,fun cmd pid _ lawful _ => storePool_program C cmd pid lawful⟩

/-- What the tables say of a plan whose MarkExecuting is about to succeed. -/
structure Sound (db : DB) (planID : String) (now : Int) (p : Plan) (a : Approval) : Prop where
  isID : p.id = planID
  stored : p ∈ db.plans
  inTime : p.expired C now = false
  single : db.approvals.filter (fun b => b.planID == planID) = [a]
  approved : a.decision = .approved
  sameHash : a.planHash = p.planHash

variable {w : World Ans DB StoreCall Unit}

theorem sound_start (holds : (storePool C).rule.Holds w)
    (running : w.procs pid = some ⟨cmd,.running (.call (.startPlan planID) next)⟩)
    (hit : w.shared.state.plans.countP (inState planID .approved) ≠ 0) :
    ∃ now, cmd = .markExecuting planID now ∧ ∃ p a, Sound C w.shared.state planID now p a := by
  have lawful : Lawful w.shared := holds.inv
  obtain ⟨⟨now,aimed,p,mem,isID,inTime⟩,_⟩ := (storePool C).rule.pre_of_holds holds running
  obtain ⟨q,memQ,idQ,approved⟩ := hit_of_count hit
  have same : q = p := unique_row lawful.ids memQ mem (idQ.trans isID.symm)
  subst same
  obtain ⟨a,memA,ofQ,isApproved⟩ := lawful.backed q memQ (by rw [approved]; rfl)
  obtain ⟨r,memR,idR,hash,_⟩ := lawful.bound a memA
  have sameR : r = q := unique_row lawful.ids memR memQ (idR.trans ofQ)
  subst sameR
  refine ⟨now,?_,r,a,isID,memR,inTime,?_,isApproved,hash.symm⟩
  · cases cmd with
    | markExecuting other at_ => cases aimed; rfl
    | _ => cases aimed
  · rw [← isID,idR]
    exact filter_key lawful.single memA

/-- The discipline in one state: what was started was started once, decisions
    are single, and what MarkExecuting reports it has done. -/
structure Disciplined (w : World Ans DB StoreCall Unit) : Prop where
  startedOnce : (w.shared.log.filterMap started).Nodup
  reported : ∀ pid planID now,
    w.procs pid = some ⟨.markExecuting planID now,.running (.done ())⟩ →
    planID ∈ (own pid w.shared.log).filterMap started
  oneDecision : (w.shared.state.approvals.map Approval.planID).Nodup
  ids : (w.shared.state.plans.map Plan.id).Nodup

theorem disciplined (holds : (storePool C).rule.Holds w) : Disciplined w := by
  have lawful : Lawful w.shared := holds.inv
  refine ⟨lawful.once,?_,lawful.single,lawful.ids⟩
  intro pid planID now returned
  exact holds.safe pid _ _ returned

section
variable {t : World Ans DB StoreCall Unit} {p : Plan} (holds : (storePool C).rule.Holds w)
include holds

theorem terminal_step (taken : (storePool C).machine.Step w l t) (mem : p ∈ w.shared.state.plans)
    (done : p.state.terminal = true) : p ∈ t.shared.state.plans := by
  cases (storePool C).machine.step_cases taken with
  | spawn pid cmd free eq | crash pid cmd rest running eq => subst eq; exact mem
  | call pid cmd op next choice answer db running served eq =>
    subst eq
    have pre := (storePool C).rule.pre_of_holds holds running
    exact terminal_effect pre.1 (serve_effect served) mem done

theorem terminal_run (run : Run (storePool C).machine.Step w labels t)
    (mem : p ∈ w.shared.state.plans) (done : p.state.terminal = true) :
    p ∈ t.shared.state.plans := by
  refine run_preserves (storePool C).rule.Holds (fun u => p ∈ u.shared.state.plans) ?_ ?_ run
    holds mem
  · intro s l t holds taken
    exact (storePool C).rule.holds_step (storePool_obeyed C) holds taken
  · intro s l t holds taken memS
    exact terminal_step C holds taken memS done

end

/-- The approval discipline over every interleaving of the store's functions:
    every reachable state is disciplined, a start that hits its plan is
    covered by the one decision on it and in time, and a plan in a terminal
    state is the same row ever after. -/
theorem approval_discipline {labels : List (Label Choice StoreCall)}
    {w : World Ans DB StoreCall Unit} (run : (storePool C).machine.Reachable emptyDB labels w) :
    Disciplined w ∧
    (∀ pid choice t planID, (storePool C).machine.Step w (.call pid choice) t →
      t.shared.log.filterMap started = w.shared.log.filterMap started ++ [planID] →
      ∃ now rest, w.procs pid = some ⟨.markExecuting planID now,rest⟩ ∧
        ∃ p a, Sound C w.shared.state planID now p a) ∧
    (∀ more t, Run (storePool C).machine.Step w more t → ∀ p ∈ w.shared.state.plans,
      p.state.terminal = true → p ∈ t.shared.state.plans) := by
  have holds := (storePool C).rule.holds_run (storePool_obeyed C) lawful_empty run
  refine ⟨disciplined C holds,?_,?_⟩
  · intro pid choice t planID taken grown
    cases (storePool C).machine.step_cases taken with
    | call _ cmd op next _ answer db running served eq =>
      subst eq
      have new : started ⟨pid,op,answer⟩ = some planID := by
        cases found : started ⟨pid,op,answer⟩ with
        | none => simp [Shared.push,found] at grown
        | some other => simpa [Shared.push,found] using grown
      obtain ⟨n,hit,same⟩ := started_some new
      cases same
      have count := started_count served
      obtain ⟨now,rfl,sound⟩ := sound_start C holds running (count ▸ hit)
      exact ⟨now,_,running,sound⟩
  · intro more t later p mem done
    exact terminal_run C holds later mem done

def sampleCalls : List (Label Choice StoreCall) :=
  [.spawn 0 (.createPlan ⟨samplePlan "p",0,10 * minute⟩),.call 0 .proceed,
    .spawn 1 (.approve ⟨"p","hash-p","operator",""⟩ 0),.call 1 .proceed,.call 1 .proceed,
    .spawn 2 (.markExecuting "p" 0),.call 2 .proceed,.call 2 .proceed]

theorem approval_discipline_of_a_start : ∃ w,
    (storePool sampleClock).machine.Reachable emptyDB sampleCalls w ∧
      w.shared.log.filterMap started = ["p"] ∧ Disciplined w := by
  have played : ((storePool sampleClock).machine.play (Machine.start emptyDB) sampleCalls).map
      (fun w => w.shared.log.filterMap started) = some ["p"] := by
    decide
  obtain ⟨w,reached,entered⟩ := (storePool sampleClock).machine.reachable_of_play played
  exact ⟨w,reached,entered,(approval_discipline sampleClock reached).1⟩

end Pilot.Remediation
