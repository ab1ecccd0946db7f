import Pilot.Remediation.Store

/-!
What a call can do to the remediation tables, said once. A call fails, only
reads, or has one of a few effects; plans keep every column but their state,
and approvals and runs are only ever appended.
-/
namespace Pilot.Remediation
open Pilot.Table Pilot.Concurrent List

/-- The calls that change none of the plan, approval and run tables. -/
def Op.aside : Op → Bool
  | .insertPlan _ | .expirePlan _ _ | .startPlan _ | .recordDecision _ _ | .recordRun _ => false
  | _ => true

inductive Effect (db : DB) : (op : Op) → Except String (Ans op) → DB → Prop where
  | failed {op : Op} (err : String) : Effect db op (.error err) db
  | aside {op : Op} {answer : Except String (Ans op)} {db' : DB} (quiet : op.aside = true)
      (plans : db'.plans = db.plans) (approvals : db'.approvals = db.approvals)
      (runs : db'.runs = db.runs) : Effect db op answer db'
  | inserted (p : Plan) (free : db.plans.any (ofPlan p.id) = false) :
      Effect db (.insertPlan p) (.ok ()) { db with plans := db.plans ++ [p] }
  | expired (id : String) (seen : PlanState) :
      Effect db (.expirePlan id seen) (.ok ()) (moveState db id seen .expired)
  | started (id : String) : Effect db (.startPlan id)
      (.ok (db.plans.countP (inState id .approved))) (moveState db id .approved .executing)
  | refused (a : Approval) (next : PlanState) : Effect db (.recordDecision a next) (.ok 0) db
  | decided (a : Approval) (next : PlanState)
      (hit : db.plans.countP (inState a.planID .proposed) ≠ 0) :
      Effect db (.recordDecision a next) (.ok (db.plans.countP (inState a.planID .proposed)))
        { moveState db a.planID .proposed next with approvals := db.approvals ++ [a] }
  | ran (r : RemediationRun) (free : db.runs.any (fun old => old.planID == r.planID) = false)
      (known : db.plans.any (ofPlan r.planID) = true) : Effect db (.recordRun r) (.ok ())
        { moveState db r.planID .executing (.finished r.result) with runs := db.runs ++ [r] }

variable (db : DB)

theorem effect_recordDecision (a : Approval) (next : PlanState) :
    Effect db (.recordDecision a next) (recordDecision db a next).1 (recordDecision db a next).2 := by
  unfold recordDecision
  split
  · exact .failed _
  dsimp only
  split
  · exact .refused a next
  · rename_i hit
    exact .decided a next hit

theorem effect_recordRun (r : RemediationRun) :
    Effect db (.recordRun r) (recordRun db r).1 (recordRun db r).2 := by
  unfold recordRun
  split
  · exact .failed _
  rename_i free
  split
  · exact .failed _
  · rename_i known
    exact .ran r (by simpa using free) (by simpa using known)

theorem tripBreaker_tables (scope reason now : String) :
    (tripBreaker db scope reason now).plans = db.plans ∧
      (tripBreaker db scope reason now).approvals = db.approvals ∧
      (tripBreaker db scope reason now).runs = db.runs := by
  unfold tripBreaker
  split
  · exact ⟨rfl,rfl,rfl⟩
  · exact ⟨rfl,rfl,rfl⟩

theorem serve_effect {op : Op} {choice : Choice} {db db' : DB} {answer : Except String (Ans op)}
    (served : serve op choice db = some (answer,db')) : Effect db op answer db' := by
  cases choice with
  | fault err | toolError err =>
    cases op <;> simp only [serve,Option.some.injEq,Prod.mk.injEq,reduceCtorEq] at served <;>
      obtain ⟨rfl,rfl⟩ := served <;> exact .failed _
  | incident _ | wire _ | applied _ | integrity _ =>
    cases op <;> simp only [serve,Option.some.injEq,Prod.mk.injEq,reduceCtorEq] at served
    obtain ⟨rfl,rfl⟩ := served
    exact .aside rfl rfl rfl rfl
  | proceed =>
    cases op with
    | insertPlan p =>
      simp only [serve] at served
      split at served
      · cases served; exact .failed _
      · rename_i free
        cases served
        exact .inserted p (by simpa using free)
    | expirePlan id seen => cases served; exact .expired id seen
    | startPlan id => cases served; exact .started id
    | recordDecision a next =>
      simp only [serve,Option.some.injEq] at served
      have effect := effect_recordDecision db a next
      rw [served] at effect
      exact effect
    | recordRun r =>
      simp only [serve,Option.some.injEq] at served
      have effect := effect_recordRun db r
      rw [served] at effect
      exact effect
    | tripBreaker scope reason now =>
      cases served
      obtain ⟨plans,approvals,runs⟩ := tripBreaker_tables db scope reason now
      exact .aside rfl plans approvals runs
    | integrityCheck => cases served
    | selectIncident id => cases served
    | repairPlan incidentID host component action => cases served
    | repairApply p => cases served
    | _ => cases served; exact .aside rfl rfl rfl rfl

def Plan.fixed (p : Plan) : Plan := { p with state := .proposed }

variable {p : Plan}

theorem column_of_fixed {α : Type} (column : Plan → α) (kept : ∀ p, column p.fixed = column p)
    {q : Plan} (same : p.fixed = q.fixed) : column p = column q := by
  rw [← kept p,same,kept q]

theorem id_of_fixed {q : Plan} (same : p.fixed = q.fixed) : p.id = q.id :=
  column_of_fixed Plan.id (fun _ => rfl) same

variable {id : String}

theorem inState_iff {state : PlanState} : inState id state p = true ↔ p.id = id ∧ p.state = state := by
  simp [inState]

theorem ofPlan_iff : ofPlan id p = true ↔ p.id = id := by
  simp [ofPlan]

/-- What every call does to the tables, whoever makes it. -/
structure Grows (db db' : DB) : Prop where
  plans : ∀ p ∈ db.plans, ∃ q ∈ db'.plans, q.fixed = p.fixed
  approvals : db.approvals <+: db'.approvals
  runs : db.runs <+: db'.runs

theorem Grows.refl : Grows db db :=
  ⟨fun p mem => ⟨p,mem,rfl⟩,prefix_refl _,prefix_refl _⟩

theorem Grows.trans {a b c : DB} (first : Grows a b) (second : Grows b c) : Grows a c := by
  refine ⟨?_,first.approvals.trans second.approvals,first.runs.trans second.runs⟩
  intro p mem
  obtain ⟨q,memQ,same⟩ := first.plans p mem
  obtain ⟨r,memR,again⟩ := second.plans q memQ
  exact ⟨r,memR,again.trans same⟩

theorem mem_moveState {db : DB} {seen next : PlanState} :
    p ∈ (moveState db id seen next).plans ↔
      (∃ q ∈ db.plans, q.id = id ∧ q.state = seen ∧ p = setState next q) ∨
      (p ∈ db.plans ∧ ¬ (p.id = id ∧ p.state = seen)) := by
  simp only [moveState,mem_updateWhere,inState_iff]
  constructor
  · rintro (⟨q,mem,⟨isID,isSeen⟩,rfl⟩ | ⟨mem,miss⟩)
    · exact Or.inl ⟨q,mem,isID,isSeen,rfl⟩
    refine Or.inr ⟨mem,?_⟩
    intro hit
    rw [inState_iff.mpr hit] at miss
    cases miss
  · rintro (⟨q,mem,isID,isSeen,rfl⟩ | ⟨mem,miss⟩)
    · exact Or.inl ⟨q,mem,⟨isID,isSeen⟩,rfl⟩
    · refine Or.inr ⟨mem,?_⟩
      by_contra hit
      exact miss (inState_iff.mp (by simpa using hit))

theorem survives_moveState {db : DB} (id : String) (seen next : PlanState)
    (mem : p ∈ db.plans) : ∃ q ∈ (moveState db id seen next).plans, q.fixed = p.fixed := by
  by_cases hit : p.id = id ∧ p.state = seen
  · exact ⟨setState next p,mem_moveState.mpr (Or.inl ⟨p,mem,hit.1,hit.2,rfl⟩),rfl⟩
  · exact ⟨p,mem_moveState.mpr (Or.inr ⟨mem,hit⟩),rfl⟩

theorem ids_moveState (id : String) (seen next : PlanState) :
    (moveState db id seen next).plans.map Plan.id = db.plans.map Plan.id :=
  column_updateWhere (f := setState next) Plan.id (fun _ => rfl) db.plans

theorem effect_grows {op : Op} {answer : Except String (Ans op)} {db db' : DB}
    (effect : Effect db op answer db') : Grows db db' := by
  cases effect with
  | failed err => exact Grows.refl db
  | aside quiet plans approvals runs =>
    refine ⟨?_,by rw [approvals],by rw [runs]⟩
    intro p mem
    exact ⟨p,plans ▸ mem,rfl⟩
  | inserted p free =>
    refine ⟨?_,prefix_refl _,prefix_refl _⟩
    intro q mem
    exact ⟨q,mem_append_left _ mem,rfl⟩
  | expired id seen =>
    exact ⟨fun p => survives_moveState id seen .expired,prefix_refl _,prefix_refl _⟩
  | started id =>
    exact ⟨fun p => survives_moveState id .approved .executing,prefix_refl _,prefix_refl _⟩
  | refused a next => exact Grows.refl db
  | decided a next hit =>
    exact ⟨fun p => survives_moveState a.planID .proposed next,prefix_append _ _,prefix_refl _⟩
  | ran r free known =>
    exact ⟨fun p => survives_moveState r.planID .executing (.finished r.result),
      prefix_refl _,prefix_append _ _⟩

end Pilot.Remediation
