import Pilot.Remediation.History

/-!
The autonomy caps: one policy-approved plan of an incident is executed, and a
policy approval stays within the budgets of its host and component. An
auto-execute reads the counts, decides, and only then records its approval,
so what others record in between is not in what it has read.
-/
namespace Pilot.Remediation
open Pilot.Table Pilot.Concurrent Pilot.Transition List Plan

/-- An approval that counts as an action against a key of a plan column. -/
def counted (column : Plan → String) (plans : List Plan) (key since : String) (a : Approval) :
    Bool :=
  (plans.find? (ofPlan a.planID)).any (fun p => column p == key) && a.decision == .approved &&
    decide (since ≤ a.createdAt)

def actionsIn (column : Plan → String) (plans : List Plan) (key since : String)
    (log : List (Event Ans)) : Nat :=
  (log.filterMap recordedApproval).countP (counted column plans key since)

def approvedSince (column : Plan → String) (db : DB) (key since : String) : Nat :=
  (joined db).countP (fun ap => column ap.2 == key && ap.1.decision == .approved &&
    decide (since ≤ ap.1.createdAt))

theorem countP_flatMap_single {α β : Type} {f : α → List β} {p : β → Bool} {q : α → Bool}
    (each : ∀ a, (f a).countP p = if q a then 1 else 0) (rows : List α) :
    (rows.flatMap f).countP p = rows.countP q := by
  induction rows with
  | nil => rfl
  | cons a rest ih =>
    rw [flatMap_cons,countP_append,countP_cons,ih,each]
    omega

variable {db : DB} {p : Plan} {a : Approval} {w : World Ans DB Command Exit} {pid : Nat}
  {labels : List (Label Choice Command)}

theorem approvedSince_eq (ids : (db.plans.map Plan.id).Nodup) (column : Plan → String)
    (key since : String) : approvedSince column db key since =
      db.approvals.countP (counted column db.plans key since) := by
  apply countP_flatMap_single
  intro a
  cases found : db.plans.find? (ofPlan a.planID) with
  | none =>
    have none_ : db.plans.filter (ofPlan a.planID) = [] := by
      rw [filter_eq_nil_iff]
      exact find?_eq_none.mp found
    simp [counted,found,none_]
  | some p =>
    have isID : p.id = a.planID := ofPlan_iff.mp (find?_some found)
    have one : db.plans.filter (ofPlan a.planID) = [p] := by
      rw [← isID]
      exact filter_key ids (mem_of_find?_eq_some found)
    simp [counted,found,one,countP_cons]

theorem find?_plan {id : String} (ids : (db.plans.map Plan.id).Nodup) (mem : p ∈ db.plans)
    (isID : p.id = id) : db.plans.find? (ofPlan id) = some p := by
  cases found : db.plans.find? (ofPlan id) with
  | none => exact absurd (ofPlan_iff.mpr isID) (find?_eq_none.mp found p mem)
  | some q =>
    rw [unique_row ids (mem_of_find?_eq_some found) mem
      ((ofPlan_iff.mp (find?_some found)).trans isID.symm)]

variable {db' : DB}

theorem find?_grows (grows : Grows db db') (ids : (db'.plans.map Plan.id).Nodup) {id : String}
    (found : db.plans.find? (ofPlan id) = some p) :
    ∃ q, db'.plans.find? (ofPlan id) = some q ∧ q.fixed = p.fixed := by
  obtain ⟨q,mem,same⟩ := grows.plans p (mem_of_find?_eq_some found)
  have isID : q.id = id := (id_of_fixed same).trans (ofPlan_iff.mp (find?_some found))
  exact ⟨q,find?_plan ids mem isID,same⟩

variable {column : Plan → String}

theorem counted_grows (grows : Grows db db') (ids : (db'.plans.map Plan.id).Nodup)
    (kept : ∀ p, column p.fixed = column p) (key since : String)
    (bound : ∃ p ∈ db.plans, p.id = a.planID) :
    counted column db'.plans key since a = counted column db.plans key since a := by
  obtain ⟨p,mem,isID⟩ := bound
  cases found : db.plans.find? (ofPlan a.planID) with
  | none => exact absurd (ofPlan_iff.mpr isID) (find?_eq_none.mp found p mem)
  | some q =>
    obtain ⟨r,found',same⟩ := find?_grows grows ids found
    simp [counted,found,found',column_of_fixed column kept same]

variable {C : Clock} {e : Event Ans}

theorem reading_eq (lawful : Lawful w.shared) (moment : Moment C w front e u cmd)
    (kept : ∀ p, column p.fixed = column p) (key since : String) :
    approvedSince column u.shared.state key since =
      actionsIn column w.shared.state.plans key since front := by
  obtain ⟨labels,reached⟩ := moment.reached
  have lawfulU : Lawful u.shared := (commands_hold C reached).inv
  have recorded := recorded_run reached
  rw [approvedSince_eq lawfulU.ids,actionsIn,← moment.log,← recorded.approvals]
  apply countP_congr
  intro a mem
  obtain ⟨p,memP,isID,_⟩ := lawfulU.bound a mem
  rw [counted_grows moment.grows lawful.ids kept key since ⟨p,memP,isID⟩]

section
variable (column : Plan → String) (plans : List Plan) (key since : String)

theorem actionsIn_append
    (first second : List (Event Ans)) : actionsIn column plans key since (first ++ second) =
      actionsIn column plans key since first + actionsIn column plans key since second := by
  simp [actionsIn]

theorem actionsIn_skip (skip : recordedApproval e = none) (rest : List (Event Ans)) :
    actionsIn column plans key since (e :: rest) = actionsIn column plans key since rest := by
  simp [actionsIn,skip]

end

/-- An approval written by an auto-execute, which may have crashed since. -/
structure PolicyApproval (w : World Ans DB Command Exit) (front : List (Event Ans)) (pid : Nat)
    (args : AutoArgs) (a : Approval) (p : Plan) : Prop where
  split : ∃ n back, n ≠ 0 ∧
    w.shared.log = front ++ ⟨pid,.recordDecision a .approved,.ok n⟩ :: back
  auto : ∃ status, w.procs pid = some ⟨.autoExecute args,status⟩
  stored : p ∈ w.shared.state.plans
  isID : p.id = a.planID

def AutoArgs.hostSince (C : Clock) (args : AutoArgs) : String :=
  C.rfc3339 (args.now - args.defaults.hostWindow)

def AutoArgs.componentSince (C : Clock) (args : AutoArgs) : String :=
  C.rfc3339 (args.now - args.defaults.componentWindow)

/-- What a process had read of the counts before it wrote a policy approval. -/
structure Readings (C : Clock) (front : List (Event Ans)) (pid : Nat) (args : AutoArgs)
    (a : Approval) (p : Plan) (hostCount componentCount : Nat) : Prop where
  host : ⟨pid,.countHostApprovals p.host (args.hostSince C),.ok hostCount⟩ ∈ front
  inHostBudget : (hostCount : Int) < args.defaults.hostBudget
  component :
    ⟨pid,.countComponentApprovals p.component (args.componentSince C),.ok componentCount⟩ ∈ front
  inComponentBudget : (componentCount : Int) < args.defaults.componentBudget
  runs : ⟨pid,.countPolicyRuns p.incidentID,.ok (0 : Nat)⟩ ∈ front
  approved : a.decision = .approved
  actor : isPolicyActor a.actor = true

variable (run : (commandPool C).machine.Reachable emptyDB labels w)

include run in
theorem readings_of_approval (approval : PolicyApproval w front pid args a p) :
    ∃ hostCount componentCount, Readings C front pid args a p hostCount componentCount := by
  have lawful : Lawful w.shared := (commands_hold C run).inv
  obtain ⟨n,back,_,split⟩ := approval.split
  obtain ⟨u,cmd,moment⟩ := moment_of_log run split
  obtain ⟨_,isCmd⟩ := moment.isCmd
  obtain ⟨_,isAuto⟩ := approval.auto
  rw [isAuto] at isCmd
  cases isCmd
  obtain ⟨_,q,hostCount,componentCount,admitted⟩ := moment.pre.2 rfl args rfl
  obtain ⟨q',memQ',sameQ'⟩ := admitted.known
  obtain ⟨r,memR,sameR⟩ := moment.grows.plans q' memQ'
  have same : r.fixed = q.fixed := sameR.trans sameQ'
  have isP : r = p := unique_row lawful.ids memR approval.stored ((id_of_fixed same).trans
    (admitted.isID.trans (admitted.ofPlan.symm.trans approval.isID.symm)))
  subst isP
  have inFront : ∀ e ∈ own pid u.shared.log, e ∈ front := by
    intro e mem
    rw [← moment.log]
    exact mem_of_mem_filter mem
  have host : r.host = q.host := column_of_fixed host (fun _ => rfl) same
  have component : r.component = q.component := column_of_fixed component (fun _ => rfl) same
  have incident : r.incidentID = q.incidentID :=
    column_of_fixed incidentID (fun _ => rfl) same
  refine ⟨hostCount,componentCount,?_,admitted.inHostBudget,?_,admitted.inComponentBudget,?_,
    admitted.approved,admitted.actor⟩
  · rw [host]
    exact inFront _ admitted.readHost
  · rw [component]
    exact inFront _ admitted.readComponent
  · rw [incident]
    exact inFront _ admitted.readRuns

variable {choice : Choice}

theorem serve_countHost {host since : String}
    (served : serve (.countHostApprovals host since) choice db = some (.ok c,db')) :
    c = approvedSince Plan.host db host since := by
  cases choice <;> simp only [serve,Option.some.injEq,Prod.mk.injEq,reduceCtorEq,false_and,
    Except.ok.injEq] at served
  exact served.1.symm

theorem serve_countComponent {component since : String}
    (served : serve (.countComponentApprovals component since) choice db = some (.ok c,db')) :
    c = approvedSince Plan.component db component since := by
  cases choice <;> simp only [serve,Option.some.injEq,Prod.mk.injEq,reduceCtorEq,false_and,
    Except.ok.injEq] at served
  exact served.1.symm

theorem serve_countRuns {incidentID : String}
    (served : serve (.countPolicyRuns incidentID) choice db = some (.ok c,db')) :
    c = countPolicyRuns db incidentID := by
  cases choice <;> simp only [serve,Option.some.injEq,Prod.mk.injEq,reduceCtorEq,false_and,
    Except.ok.injEq] at served
  exact served.1.symm

section
variable {front before between : List (Event Ans)}
  {args : AutoArgs} (approval : PolicyApproval w front pid args a p) {c : Nat} {key since : String}
include run approval

theorem actions_after (kept : ∀ p, column p.fixed = column p)
    (reading : front = before ++ e :: between) (skip : recordedApproval e = none)
    (counts : ∀ choice db db', serve e.op choice db = some (e.answer,db') →
      c = approvedSince column db key since) :
    actionsIn column w.shared.state.plans key since front =
      c + actionsIn column w.shared.state.plans key since between := by
  obtain ⟨n,back,_,split⟩ := approval.split
  rw [reading,append_assoc,cons_append] at split
  obtain ⟨u,cmd,moment⟩ := moment_of_log run split
  obtain ⟨choice,db,served,_⟩ := moment.served
  rw [reading,actionsIn_append,actionsIn_skip _ _ _ _ skip,counts choice _ db served,
    reading_eq (commands_hold C run).inv moment kept]

theorem actions_after_host
    (reading : front = before ++ ⟨pid,.countHostApprovals key since,.ok c⟩ :: between) :
    actionsIn Plan.host w.shared.state.plans key since front =
      c + actionsIn Plan.host w.shared.state.plans key since between :=
  actions_after run approval (fun _ => rfl) reading rfl (fun _ _ _ served => serve_countHost served)

theorem actions_after_component
    (reading : front = before ++ ⟨pid,.countComponentApprovals key since,.ok c⟩ :: between) :
    actionsIn Plan.component w.shared.state.plans key since front =
      c + actionsIn Plan.component w.shared.state.plans key since between :=
  actions_after run approval (fun _ => rfl) reading rfl (fun _ _ _ served => serve_countComponent served)

end

include run in
theorem decided_of_run (stored : r ∈ w.shared.state.runs) : Decided r.planID w.shared.state := by
  obtain ⟨front,pid,back,split⟩ := run_split (recorded_run run) stored
  obtain ⟨u,cmd,moment⟩ := moment_of_log run split
  exact (moment.pre.2 rfl).1.grows moment.grows

theorem policyRuns_pos {incidentID : String} (run : r ∈ db.runs) (approval : a ∈ db.approvals)
    (plan : p ∈ db.plans) (ofRun : p.id = r.planID) (ofPlan_ : a.planID = p.id)
    (approved : a.decision = .approved) (actor : isPolicyActor a.actor = true)
    (incident : p.incidentID = incidentID) : countPolicyRuns db incidentID ≠ 0 := by
  rw [← Nat.pos_iff_ne_zero,countPolicyRuns,countP_pos_iff]
  have inJoin : (a,p) ∈ joined db := by
    simp only [joined,mem_flatMap,mem_map,mem_filter]
    exact ⟨a,approval,p,⟨plan,ofPlan_iff.mpr ofPlan_.symm⟩,rfl⟩
  refine ⟨(a,p),?_,by simp [approved,actor,incident]⟩
  simp only [mem_flatMap,mem_filter]
  exact ⟨r,run,inJoin,by simp [ofRun]⟩

include run in
theorem no_run_before_reading {front other before between : List (Event Ans)} {qid : Nat}
    {b : Approval} {q : Plan} (first : PolicyApproval w other qid args' b q)
    (second : PolicyApproval w front pid args a p) (sameIncident : q.incidentID = p.incidentID)
    (reading : front = before ++ ⟨pid,.countPolicyRuns p.incidentID,.ok (0 : Nat)⟩ :: between) :
    ∀ r ∈ before.filterMap recordedRun, r.planID ≠ b.planID := by
  intro r mem ofB
  have lawful : Lawful w.shared := (commands_hold C run).inv
  obtain ⟨n,back,_,split⟩ := second.split
  rw [reading,append_assoc,cons_append] at split
  obtain ⟨u,cmd,moment⟩ := moment_of_log run split
  obtain ⟨labelsU,reached⟩ := moment.reached
  have lawfulU : Lawful u.shared := (commands_hold C reached).inv
  have stored : r ∈ u.shared.state.runs := by
    rw [(recorded_run reached).runs,moment.log]
    exact mem
  -- the approval the run rests on is the policy approval of that plan
  obtain ⟨d,memD,ofD,approved⟩ := decided_of_run reached stored
  obtain ⟨_,_,readings⟩ := readings_of_approval run first
  have inW : b ∈ w.shared.state.approvals := by
    obtain ⟨m,_,hit,splitB⟩ := first.split
    rw [(recorded_run run).approvals,splitB]
    exact mem_filterMap.mpr ⟨_,mem_append_right _ mem_cons_self,by
      simp [recordedApproval,hit]⟩
  have isB : d = b := unique_row lawful.single (moment.grows.approvals.subset memD) inW
    (ofD.trans ofB)
  subst isB
  obtain ⟨s,memS,idS,_⟩ := lawfulU.bound d memD
  obtain ⟨t,memT,sameT⟩ := moment.grows.plans s memS
  have isQ : t = q := unique_row lawful.ids memT first.stored
    ((id_of_fixed sameT).trans (idS.trans first.isID.symm))
  subst isQ
  have incident : s.incidentID = p.incidentID :=
    (column_of_fixed incidentID (fun _ => rfl) sameT).symm.trans sameIncident
  obtain ⟨choice,db,served,_⟩ := moment.served
  exact policyRuns_pos stored memD memS (idS.trans ofB.symm) idS.symm approved readings.actor
    incident (serve_countRuns served).symm

def Ran (w : World Ans DB Command Exit) (a : Approval) : Prop :=
  a.planID ∈ w.shared.log.filterMap started

/-- The caps: of two policy-approved plans of one incident at most one runs,
    and an approval, itself counted, fits both budgets when it is recorded. -/
structure Capped (C : Clock) (w : World Ans DB Command Exit) : Prop where
  oneAttempt : ∀ front other pid qid args args' a b p q, PolicyApproval w front pid args a p →
    PolicyApproval w other qid args' b q → Ran w a → Ran w b → p.incidentID = q.incidentID →
    a.planID = b.planID
  hostBudget : ∀ front pid args a p, PolicyApproval w front pid args a p →
    (actionsIn host w.shared.state.plans p.host (args.hostSince C) front : Int) + 1 ≤
      args.defaults.hostBudget
  componentBudget : ∀ front pid args a p, PolicyApproval w front pid args a p →
    (actionsIn component w.shared.state.plans p.component (args.componentSince C) front : Int)
      + 1 ≤ args.defaults.componentBudget

/-- The call approves a plan with the key in a column. -/
def approvesFor (plans : List Plan) (column : Plan → String) (key : String) (e : Event Ans) : Bool :=
  (recordedApproval e).any fun a => a.decision == .approved &&
    (plans.find? (ofPlan a.planID)).any (fun p => column p == key)

/-- What a call counts the approvals, or the policy runs, of. -/
def countedHost : Op → Option String
  | .countHostApprovals host _ => some host
  | _ => none

def countedComponent : Op → Option String
  | .countComponentApprovals component _ => some component
  | _ => none

def countedIncident : Op → Option String
  | .countPolicyRuns incidentID => some incidentID
  | _ => none

/-- Since the process first counted for the key, nothing was approved for it. -/
def quietSince (plans : List Plan) (column : Plan → String) (counted : Op → Option String) (pid : Nat)
    (key : String) (front : List (Event Ans)) : Bool :=
  (front.dropWhile (fun e => !(e.pid == pid && counted e.op == some key))).all
    (fun e => !approvesFor plans column key e)

/-- Every plan of the incident that the policy has approved has its run recorded. -/
def repairsRecorded (plans : List Plan) (key : String) (front : List (Event Ans)) : Bool :=
  (front.filterMap recordedApproval).all fun a =>
    !((plans.find? (ofPlan a.planID)).any (fun p => p.incidentID == key) && isPolicyActor a.actor) ||
      (front.filterMap recordedRun).any (fun r => r.planID == a.planID)

/-- When a process records its decision, nothing was approved for the host, the
    component or the incident of its plan since it has counted there; and it
    counts the runs of an incident when no repair of it is under way. -/
def inTurn (plans : List Plan) (front : List (Event Ans)) (e : Event Ans) : Bool :=
  match e with
  | ⟨pid,.recordDecision a _,_⟩ => (plans.find? (ofPlan a.planID)).all fun p =>
    quietSince plans host countedHost pid p.host front &&
      quietSince plans component countedComponent pid p.component front &&
      quietSince plans incidentID countedIncident pid p.incidentID front
  | ⟨_,.countPolicyRuns key,_⟩ => repairsRecorded plans key front
  | _ => true

theorem quiet_between {of : Op → Option String} (reading : front = before ++ e :: between)
    (quiet : quietSince plans column of pid key front = true) (isOwn : e.pid = pid)
    (isCount : of e.op = some key) : ∀ d ∈ between, approvesFor plans column key d = false := by
  subst reading
  intro d mem
  have kept : d ∈ (before ++ e :: between).dropWhile
      (fun d => !(d.pid == pid && of d.op == some key)) := by
    rw [dropWhile_append]
    split
    · rw [dropWhile_cons_of_neg (by simp [isOwn,isCount])]
      exact mem_cons_of_mem _ mem
    · exact mem_append_right _ (mem_cons_of_mem _ mem)
  simpa using all_eq_true.mp quiet d kept

theorem actionsIn_quiet (quiet : ∀ d ∈ between, approvesFor plans column key d = false) :
    actionsIn column plans key since between = 0 := by
  rw [actionsIn,countP_eq_zero]
  intro a mem found
  obtain ⟨d,inside,isApproval⟩ := mem_filterMap.mp mem
  have silent := quiet d inside
  simp only [approvesFor,isApproval,Option.any_some] at silent
  simp only [counted,Bool.and_eq_true] at found
  rw [found.1.1,found.1.2] at silent
  cases silent

section
variable {front : List (Event Ans)} {args : AutoArgs} (approval : PolicyApproval w front pid args a p)
  (turns : everyCall (inTurn w.shared.state.plans) [] w.shared.log = true)
include run approval turns

theorem turn_of_approval :
    quietSince w.shared.state.plans host countedHost pid p.host front = true ∧
    quietSince w.shared.state.plans component countedComponent pid p.component front = true ∧
    quietSince w.shared.state.plans incidentID countedIncident pid p.incidentID front = true := by
  obtain ⟨n,back,_,split⟩ := approval.split
  have mine := everyCall_split (split ▸ turns)
  have found := find?_plan (commands_hold C run).inv.ids approval.stored approval.isID
  simpa [inTurn,found,and_assoc] using mine

/-- A policy approval that another one of its incident has preceded. -/
theorem no_earlier_approval (theirs : PolicyApproval w other qid args' b q)
    (incident : q.incidentID = p.incidentID) :
    ∀ n, ⟨qid,.recordDecision b .approved,.ok n⟩ ∈ front → n ≠ 0 → False := by
  intro n mem hit
  obtain ⟨_,_,mine⟩ := readings_of_approval run approval
  obtain ⟨_,_,readings⟩ := readings_of_approval run theirs
  have found := find?_plan (commands_hold C run).inv.ids theirs.stored theirs.isID
  have isApproval : recordedApproval ⟨qid,.recordDecision b .approved,.ok n⟩ = some b := by
    simp [recordedApproval,hit]
  obtain ⟨before,between,reading⟩ := append_of_mem mine.runs
  rw [reading] at mem
  rcases mem_append.mp mem with early | late
  · -- the run was recorded before the reading, which counts it
    obtain ⟨m,back,_,split⟩ := approval.split
    rw [reading,append_assoc,cons_append] at split
    have recorded := everyCall_split (split ▸ turns)
    simp only [inTurn,nil_append,repairsRecorded] at recorded
    have ran := all_eq_true.mp recorded b (mem_filterMap.mpr ⟨_,early,isApproval⟩)
    simp only [found,Option.any_some,incident,beq_self_eq_true,readings.actor,Bool.and_self,
      Bool.not_true,Bool.false_or] at ran
    obtain ⟨r,memR,ofB⟩ := any_eq_true.mp ran
    exact no_run_before_reading run theirs approval incident reading r memR (by simpa using ofB)
  · rcases mem_cons.mp late with same | late
    · cases same
    have quiet := quiet_between reading (turn_of_approval run approval turns).2.2 rfl rfl _ late
    simp [approvesFor,isApproval,found,readings.approved,incident] at quiet

end

theorem earlier_or_later (same : front ++ d :: back = other ++ e :: back') :
    d = e ∨ e ∈ front ∨ d ∈ other := by
  rcases append_eq_append_iff.mp same with ⟨xs,rfl,rest⟩ | ⟨xs,rfl,rest⟩
  · cases xs with
    | nil =>
      rw [nil_append] at rest
      exact .inl (cons.inj rest).1
    | cons x xs =>
      rw [cons_append] at rest
      exact .inr (.inr (by rw [(cons.inj rest).1]; simp))
  · cases xs with
    | nil =>
      rw [nil_append] at rest
      exact .inl (cons.inj rest).1.symm
    | cons x xs =>
      rw [cons_append] at rest
      exact .inr (.inl (by rw [(cons.inj rest).1]; simp))

/-- The caps hold in every run in which nothing is approved for the host, the
    component or the incident of a plan between the counts and the decision of
    its auto-execute, and the runs of an incident are counted when no repair of
    it is under way. -/
theorem autonomy_caps {labels : List (Label Choice Command)} {w : World Ans DB Command Exit}
    (run : (commandPool C).machine.Reachable emptyDB labels w)
    (turns : everyCall (inTurn w.shared.state.plans) [] w.shared.log = true) : Capped C w := by
  refine ⟨?_,?_,?_⟩
  · intro front other pid qid args args' a b p q mine theirs _ _ incident
    obtain ⟨n,back,hit,split⟩ := mine.split
    obtain ⟨m,back',hit',split'⟩ := theirs.split
    rcases earlier_or_later (split.symm.trans split') with same | early | late
    · cases same
      rfl
    · exact (no_earlier_approval run mine turns theirs incident.symm m early hit').elim
    · exact (no_earlier_approval run theirs turns mine incident n late hit).elim
  · intro front pid args a p approval
    obtain ⟨_,_,readings⟩ := readings_of_approval run approval
    obtain ⟨before,between,reading⟩ := append_of_mem readings.host
    have quiet := quiet_between reading (turn_of_approval run approval turns).1 rfl rfl
    have small := readings.inHostBudget
    rw [actions_after_host run approval reading,actionsIn_quiet quiet]
    omega
  · intro front pid args a p approval
    obtain ⟨_,_,readings⟩ := readings_of_approval run approval
    obtain ⟨before,between,reading⟩ := append_of_mem readings.component
    have quiet := quiet_between reading (turn_of_approval run approval turns).2.1 rfl rfl
    have small := readings.inComponentBudget
    rw [actions_after_component run approval reading,actionsIn_quiet quiet]
    omega

theorem recordedApproval_some (isApproval : recordedApproval e = some a) :
    ∃ next n, n ≠ 0 ∧ e = ⟨e.pid,.recordDecision a next,.ok n⟩ := by
  unfold recordedApproval at isApproval
  split at isApproval
  · rename_i pid b next n
    split at isApproval
    · cases isApproval
    · rename_i hit
      cases isApproval
      exact ⟨next,n,hit,rfl⟩
  · cases isApproval

include run in
theorem policyApproval_of_log (mem : e ∈ w.shared.log) (isApproval : recordedApproval e = some a)
    (auto : w.procs e.pid = some ⟨.autoExecute args,status⟩) (stored : p ∈ w.shared.state.plans)
    (isID : p.id = a.planID) : ∃ front, PolicyApproval w front e.pid args a p := by
  obtain ⟨next,n,hit,isEvent⟩ := recordedApproval_some isApproval
  obtain ⟨front,back,split⟩ := append_of_mem mem
  rw [isEvent] at split
  obtain ⟨u,cmd,moment⟩ := moment_of_log run split
  obtain ⟨_,isCmd⟩ := moment.isCmd
  rw [auto] at isCmd
  cases isCmd
  obtain ⟨isNext,_⟩ := moment.pre.2 rfl args rfl
  subst isNext
  exact ⟨front,⟨n,back,hit,split⟩,⟨status,auto⟩,stored,isID⟩

/-- Two auto-executes for plans of one incident and one host that both read
    the counts before either approves, under a host budget of one. -/
def overlappingRepairs : List (Label Choice Command) :=
  [.spawn 0 (.setMode .enforced "operator"),.call 0 .proceed,
    .spawn 1 (.propose ⟨samplePlan "a",0,10 * minute⟩),.call 1 .proceed,
    .spawn 2 (.propose ⟨samplePlan "b",0,10 * minute⟩),.call 2 .proceed,
    .spawn 3 (.autoExecute ⟨"a","staging",⟨30 * minute,1,6 * hour,5,hour⟩,0,0,0⟩),
    .spawn 4 (.autoExecute ⟨"b","staging",⟨30 * minute,1,6 * hour,5,hour⟩,0,0,0⟩)] ++
    allowingReads 3 "hash-a" ++ allowingReads 4 "hash-b" ++ approveAndStart 3 ++ approveAndStart 4

def approver (e : Event Ans) : Option (Nat × String) :=
  (recordedApproval e).map (fun a => (e.pid,a.planID))

def autoPlan (w : World Ans DB Command Exit) (pid : Nat) : Option String :=
  match w.procs pid with
  | some ⟨.autoExecute args,_⟩ => some args.planID
  | _ => none

theorem autoPlan_some (isAuto : autoPlan w pid = some planID) :
    ∃ args status, w.procs pid = some ⟨.autoExecute args,status⟩ := by
  unfold autoPlan at isAuto
  split at isAuto
  · rename_i args status isCmd
    exact ⟨args,status,isCmd⟩
  · cases isAuto

include run in
theorem policyApproval_seen (incidentID : String)
    (wrote : (pid,planID) ∈ w.shared.log.filterMap approver) (auto : autoPlan w pid = some planID)
    (stored : (planID,incidentID) ∈ w.shared.state.plans.map (fun p => (p.id,p.incidentID))) :
    ∃ front args a p, PolicyApproval w front pid args a p ∧ a.planID = planID ∧
      p.incidentID = incidentID := by
  obtain ⟨e,mem,isApprover⟩ := mem_filterMap.mp wrote
  obtain ⟨a,isApproval,same⟩ := Option.map_eq_some_iff.mp isApprover
  obtain ⟨p,memP,isPlan⟩ := mem_map.mp stored
  obtain ⟨args,status,isCmd⟩ := autoPlan_some auto
  simp only [Prod.mk.injEq] at same isPlan
  obtain ⟨rfl,rfl⟩ := same
  obtain ⟨front,approval⟩ := policyApproval_of_log run mem isApproval isCmd memP isPlan.1
  exact ⟨front,args,a,p,approval,rfl,isPlan.2⟩

theorem overlapping_repairs_exceed_caps : ∃ w,
    (commandPool sampleClock).machine.Reachable emptyDB overlappingRepairs w ∧
      w.shared.log.filterMap started = ["a","b"] ∧
      w.shared.log.filterMap approver = [(3,"a"),(4,"b")] ∧ ¬ Capped sampleClock w := by
  have played : ((commandPool sampleClock).machine.play (Machine.start emptyDB)
      overlappingRepairs).map (fun w => (w.shared.log.filterMap started,
        w.shared.log.filterMap approver,autoPlan w 3,autoPlan w 4,
        w.shared.state.plans.map (fun p => (p.id,p.incidentID)))) =
      some (["a","b"],[(3,"a"),(4,"b")],some "a",some "b",[("a","inc-1"),("b","inc-1")]) := by
    rfl
  obtain ⟨w,reached,seen⟩ := (commandPool sampleClock).machine.reachable_of_play played
  simp only [Prod.mk.injEq] at seen
  obtain ⟨ran,wrote,autoA,autoB,plans⟩ := seen
  refine ⟨w,reached,ran,wrote,?_⟩
  intro capped
  obtain ⟨_,_,a,_,mine,isA,incidentA⟩ := policyApproval_seen reached "inc-1"
    (by rw [wrote]; simp) autoA (by rw [plans]; simp)
  obtain ⟨_,_,b,_,theirs,isB,incidentB⟩ := policyApproval_seen reached "inc-1"
    (by rw [wrote]; simp) autoB (by rw [plans]; simp)
  have same := capped.oneAttempt _ _ _ _ _ _ _ _ _ _ mine theirs
    (by rw [Ran,ran,isA]; simp) (by rw [Ran,ran,isB]; simp) (incidentA.trans incidentB.symm)
  rw [isA,isB] at same
  exact absurd same (by decide)

/-- Two auto-executes for plans of one host and different incidents, one of which
    counts when the other has approved, under a host budget of two. -/
def repairsInTurn : List (Label Choice Command) :=
  [.spawn 0 (.setMode .enforced "operator"),.call 0 .proceed,
    .spawn 1 (.propose ⟨samplePlan "a",0,10 * minute⟩),.call 1 .proceed,
    .spawn 2 (.propose ⟨{ samplePlan "b" with incidentID := "inc-2", component := "redis" },0,10 * minute⟩),
    .call 2 .proceed,
    .spawn 3 (.autoExecute ⟨"a","staging",⟨30 * minute,2,6 * hour,5,hour⟩,0,0,0⟩),
    .spawn 4 (.autoExecute ⟨"b","staging",⟨30 * minute,2,6 * hour,5,hour⟩,0,0,0⟩),
    .call 4 .proceed] ++ allowingReads 3 "hash-a" ++ approveAndStart 3 ++
    (allowingReads 4 "hash-b").tail ++ approveAndStart 4

theorem repairs_in_turn_are_capped : ∃ w,
    (commandPool sampleClock).machine.Reachable emptyDB repairsInTurn w ∧
      w.shared.log.filterMap started = ["a","b"] ∧
      w.shared.log.filterMap approver = [(3,"a"),(4,"b")] ∧ Capped sampleClock w := by
  have played : ((commandPool sampleClock).machine.play (Machine.start emptyDB)
      repairsInTurn).map (fun w => (w.shared.log.filterMap started,w.shared.log.filterMap approver,
        everyCall (inTurn w.shared.state.plans) [] w.shared.log)) =
      some (["a","b"],[(3,"a"),(4,"b")],true) := by
    rfl
  obtain ⟨w,reached,seen⟩ := (commandPool sampleClock).machine.reachable_of_play played
  simp only [Prod.mk.injEq] at seen
  obtain ⟨ran,wrote,turns⟩ := seen
  exact ⟨w,reached,ran,wrote,autonomy_caps reached turns⟩

end Pilot.Remediation
