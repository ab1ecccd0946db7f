import Pilot.Remediation.Effects

/-!
The approval discipline of remediation plans. The store's functions read,
decide and write in separate calls; what a process has read of a plan's fixed
columns stays true, and every state change is a compare-and-set, so the
tables stay lawful however the calls of different processes interleave.
-/
namespace Pilot.Remediation
open Concurrent.Rule (safe_bind safe_query safe_wrapError)
open Pilot.Table Pilot.Concurrent Pilot.Transition List

def PlanState.terminal : PlanState → Bool
  | rejected | expired | finished _ => true
  | proposed | approved | executing => false

/-- The states a plan can be in once the decision is recorded. -/
def PlanState.follows : PlanState → ApprovalDecision → Bool
  | approved, .approved | executing, .approved | expired, .approved | finished _, .approved
  | rejected, .rejected => true
  | _, _ => false

def PlanState.needsApproval : PlanState → Bool
  | approved | executing | finished _ => true
  | proposed | rejected | expired => false

def PlanState.entered : PlanState → Bool
  | executing | finished _ => true
  | proposed | approved | rejected | expired => false

def started (e : Event Ans) : Option String :=
  match e with
  | ⟨_,.startPlan id,.ok n⟩ => if n = 0 then none else some id
  | _ => none

variable {id : String}

theorem started_some (isStart : started e = some id) : ∃ n, n ≠ 0 ∧ e = ⟨e.pid,.startPlan id,.ok n⟩ := by
  unfold started at isStart
  split at isStart
  · rename_i pid other n
    split at isStart
    · cases isStart
    · rename_i hit
      cases isStart
      exact ⟨n,hit,rfl⟩
  · cases isStart

variable {db : DB}

theorem started_count (served : serve (.startPlan id) choice db = some (.ok n,db')) :
    n = db.plans.countP (inState id .approved) := by
  cases choice <;> simp only [serve,Option.some.injEq,Prod.mk.injEq,reduceCtorEq,false_and,
    Except.ok.injEq] at served
  exact served.1.symm

structure Lawful (s : Shared Ans DB) : Prop where
  ids : (s.state.plans.map Plan.id).Nodup
  single : (s.state.approvals.map Approval.planID).Nodup
  bound : ∀ a ∈ s.state.approvals, ∃ p ∈ s.state.plans, p.id = a.planID ∧
    p.planHash = a.planHash ∧ p.state.follows a.decision = true
  backed : ∀ p ∈ s.state.plans, p.state.needsApproval = true →
    ∃ a ∈ s.state.approvals, a.planID = p.id ∧ a.decision = .approved
  running : ∀ id ∈ s.log.filterMap started, ∃ p ∈ s.state.plans, p.id = id ∧
    p.state.entered = true
  once : (s.log.filterMap started).Nodup

def emptyDB : DB := ⟨[],[],[],[],[],.disabled⟩

theorem lawful_empty : Lawful ⟨emptyDB,[]⟩ := by
  refine ⟨by simp [emptyDB],by simp [emptyDB],?_,?_,?_,by simp⟩
  · intro a mem; cases mem
  · intro p mem; cases mem
  · intro id mem; cases mem

/-- What a process must have made sure of before it makes a call. -/
def Sanctioned (C : Clock) (target : Option (String × Int)) (op : Op) (s : Shared Ans DB) : Prop :=
  match op with
  | .insertPlan p => p.state = .proposed
  | .expirePlan _ seen => seen = .proposed ∨ seen = .approved
  | .startPlan id => ∃ now, target = some (id,now) ∧
      ∃ p ∈ s.state.plans, p.id = id ∧ p.expired C now = false
  | .recordDecision a next =>
    (a.decision = .approved ∧ next = .approved ∨ a.decision = .rejected ∧ next = .rejected) ∧
      ∃ p ∈ s.state.plans, p.id = a.planID ∧ p.planHash = a.planHash
  | _ => True

/-- A state change that no recorded decision and no earlier start forbids. -/
structure Advance (seen next : PlanState) : Prop where
  follows : ∀ d, seen.follows d = true → next.follows d = true
  approved : next.needsApproval = true → seen.needsApproval = true
  entered : seen.entered = true → next.entered = true

variable {s : Shared Ans DB} {log : List (Event Ans)}

theorem lawful_move {next : PlanState} (lawful : Lawful s) (advance : Advance seen next)
    (quiet : log.filterMap started = s.log.filterMap started) :
    Lawful ⟨{ moveState s.state id seen next with runs := runs },log⟩ where
  ids := by
    simp only [ids_moveState]
    exact lawful.ids
  single := lawful.single
  bound := by
    intro a mem
    obtain ⟨p,memP,isID,hash,follows⟩ := lawful.bound a mem
    by_cases hit : p.id = id ∧ p.state = seen
    · exact ⟨setState next p,mem_moveState.mpr (Or.inl ⟨p,memP,hit.1,hit.2,rfl⟩),isID,hash,
        advance.follows _ (hit.2 ▸ follows)⟩
    · exact ⟨p,mem_moveState.mpr (Or.inr ⟨memP,hit⟩),isID,hash,follows⟩
  backed := by
    intro p mem needs
    rcases mem_moveState.mp mem with ⟨q,memQ,_,isSeen,rfl⟩ | ⟨memP,_⟩
    · exact lawful.backed q memQ (isSeen ▸ advance.approved needs)
    · exact lawful.backed p memP needs
  running := by
    rw [quiet]
    intro other mem
    obtain ⟨p,memP,isID,entered⟩ := lawful.running other mem
    by_cases hit : p.id = id ∧ p.state = seen
    · exact ⟨setState next p,mem_moveState.mpr (Or.inl ⟨p,memP,hit.1,hit.2,rfl⟩),isID,
        advance.entered (hit.2 ▸ entered)⟩
    · exact ⟨p,mem_moveState.mpr (Or.inr ⟨memP,hit⟩),isID,entered⟩
  once := by
    rw [quiet]
    exact lawful.once

theorem lawful_aside (lawful : Lawful s) (plans : db.plans = s.state.plans)
    (approvals : db.approvals = s.state.approvals)
    (quiet : log.filterMap started = s.log.filterMap started) : Lawful ⟨db,log⟩ where
  ids := by rw [plans]; exact lawful.ids
  single := by rw [approvals]; exact lawful.single
  bound := by rw [plans,approvals]; exact lawful.bound
  backed := by rw [plans,approvals]; exact lawful.backed
  running := by rw [plans,quiet]; exact lawful.running
  once := by rw [quiet]; exact lawful.once

theorem started_error (pid : Nat) (op : Op) (err : String) : started ⟨pid,op,.error err⟩ = none := by
  cases op <;> rfl

theorem started_aside (pid : Nat) (answer : Except String (Ans op)) (quiet : op.aside = true) :
    started ⟨pid,op,answer⟩ = none := by
  cases op <;> first | rfl | cases quiet

theorem filterMap_push (nothing : started e = none) :
    (log ++ [e]).filterMap started = log.filterMap started := by
  simp [filterMap_append,nothing]

variable {p : Plan}

theorem lawful_insert (lawful : Lawful s) (proposed : p.state = .proposed)
    (free : s.state.plans.any (ofPlan p.id) = false)
    (quiet : log.filterMap started = s.log.filterMap started) :
    Lawful ⟨{ s.state with plans := s.state.plans ++ [p] },log⟩ where
  ids := by
    refine nodup_insert lawful.ids ?_
    intro q mem same
    exact any_eq_false.mp free q mem (ofPlan_iff.mpr same)
  single := lawful.single
  bound := by
    intro a mem
    obtain ⟨q,memQ,rest⟩ := lawful.bound a mem
    exact ⟨q,mem_append_left _ memQ,rest⟩
  backed := by
    rw [forall_mem_append,forall_mem_singleton,proposed]
    exact ⟨lawful.backed,nofun⟩
  running := by
    rw [quiet]
    intro id mem
    obtain ⟨q,memQ,rest⟩ := lawful.running id mem
    exact ⟨q,mem_append_left _ memQ,rest⟩
  once := by
    rw [quiet]
    exact lawful.once

theorem hit_of_count (hit : db.plans.countP (inState id state) ≠ 0) :
    ∃ p ∈ db.plans, p.id = id ∧ p.state = state := by
  have positive : 0 < db.plans.countP (inState id state) := Nat.pos_of_ne_zero hit
  obtain ⟨p,mem,found⟩ := countP_pos_iff.mp positive
  exact ⟨p,mem,inState_iff.mp found⟩

theorem lawful_start (lawful : Lawful s) (pid : Nat) (id : String) :
    Lawful (s.push pid (.startPlan id) (.ok (s.state.plans.countP (inState id .approved)))
      (moveState s.state id .approved .executing)) := by
  have advance : Advance .approved .executing := ⟨fun d => by cases d <;> decide,by decide,by decide⟩
  by_cases hit : s.state.plans.countP (inState id .approved) = 0
  · exact lawful_move lawful advance (filterMap_push (by simp [started,hit]))
  obtain ⟨p,mem,isID,approved⟩ := hit_of_count hit
  have moved : Lawful ⟨moveState s.state id .approved .executing,s.log⟩ :=
    lawful_move lawful advance rfl
  have fresh : id ∉ s.log.filterMap started := by
    intro before
    obtain ⟨q,memQ,idQ,entered⟩ := lawful.running id before
    rw [unique_row lawful.ids memQ mem (idQ.trans isID.symm),approved] at entered
    cases entered
  have grown : (s.push pid (.startPlan id) (.ok (s.state.plans.countP (inState id .approved)))
      (moveState s.state id .approved .executing)).log.filterMap started =
      s.log.filterMap started ++ [id] := by
    simp [Shared.push,filterMap_append,started,hit]
  refine ⟨moved.ids,moved.single,moved.bound,moved.backed,?_,?_⟩
  · rw [grown]
    rw [forall_mem_append,forall_mem_singleton]
    refine ⟨moved.running,?_⟩
    exact ⟨setState .executing p,mem_moveState.mpr (Or.inl ⟨p,mem,isID,approved,rfl⟩),isID,rfl⟩
  · rw [grown]
    exact Nodup.append lawful.once (by simp) (by simpa using fresh)

theorem lawful_decide {next : PlanState} (lawful : Lawful s)
    (kind : a.decision = .approved ∧ next = .approved ∨ a.decision = .rejected ∧ next = .rejected)
    (same : ∃ p ∈ s.state.plans, p.id = a.planID ∧ p.planHash = a.planHash)
    (hit : s.state.plans.countP (inState a.planID .proposed) ≠ 0)
    (quiet : log.filterMap started = s.log.filterMap started) :
    Lawful ⟨{ moveState s.state a.planID .proposed next with
      approvals := s.state.approvals ++ [a] },log⟩ := by
  obtain ⟨p,mem,isID,proposed⟩ := hit_of_count hit
  obtain ⟨q,memQ,idQ,hash⟩ := same
  rw [unique_row lawful.ids memQ mem (idQ.trans isID.symm)] at hash
  have target : setState next p ∈ (moveState s.state a.planID .proposed next).plans :=
    mem_moveState.mpr (Or.inl ⟨p,mem,isID,proposed,rfl⟩)
  -- a plan with a decision is not proposed any more
  have other : ∀ r ∈ s.state.plans, r.state ≠ .proposed →
      r ∈ (moveState s.state a.planID .proposed next).plans :=
    fun r memR open_ => mem_moveState.mpr (Or.inr ⟨memR,fun both => open_ both.2⟩)
  have undecided : ∀ old ∈ s.state.approvals, old.planID ≠ a.planID := by
    intro old memOld samePlan
    obtain ⟨r,memR,idR,_,follows⟩ := lawful.bound old memOld
    rw [unique_row lawful.ids memR mem (idR.trans (samePlan.trans isID.symm)),proposed] at follows
    cases old.decision <;> cases follows
  refine ⟨by simp only [ids_moveState]; exact lawful.ids,?_,?_,?_,?_,by rw [quiet]; exact lawful.once⟩
  · exact nodup_insert lawful.single undecided
  · intro b memB
    rcases mem_append.mp memB with old | new
    · obtain ⟨r,memR,idR,hashR,follows⟩ := lawful.bound b old
      refine ⟨r,other r memR ?_,idR,hashR,follows⟩
      intro isProposed
      rw [isProposed] at follows
      cases b.decision <;> cases follows
    · simp only [mem_singleton] at new
      subst new
      refine ⟨setState next p,target,isID,hash,?_⟩
      rcases kind with ⟨approved,rfl⟩ | ⟨rejected,rfl⟩
      · rw [approved]; rfl
      · rw [rejected]; rfl
  · intro r memR needs
    rcases mem_moveState.mp memR with ⟨old,_,idOld,_,rfl⟩ | ⟨memOld,_⟩
    · refine ⟨a,by simp,idOld.symm,?_⟩
      rcases kind with ⟨approved,_⟩ | ⟨_,rfl⟩
      · exact approved
      · cases needs
    · obtain ⟨b,memB,rest⟩ := lawful.backed r memOld needs
      exact ⟨b,mem_append_left _ memB,rest⟩
  · rw [quiet]
    intro id among
    obtain ⟨r,memR,idR,entered⟩ := lawful.running id among
    refine ⟨r,other r memR ?_,idR,entered⟩
    intro isProposed
    rw [isProposed] at entered
    cases entered

theorem advance_expired (open_ : seen = .proposed ∨ seen = .approved) : Advance seen .expired := by
  rcases open_ with rfl | rfl
  · exact ⟨fun d => by cases d <;> decide,by decide,by decide⟩
  · exact ⟨fun d => by cases d <;> decide,by decide,by decide⟩

theorem advance_finished (result : Outcome) : Advance .executing (.finished result) := by
  refine ⟨?_,fun _ => rfl,fun _ => rfl⟩
  intro d follows
  cases d with
  | approved => rfl
  | rejected => cases follows

variable {target : Option (String × Int)}

theorem lawful_effect (lawful : Lawful s) (ok : Sanctioned C target op s)
    (effect : Effect s.state op answer db) : Lawful (s.push pid op answer db) := by
  cases effect with
  | failed err => exact lawful_aside lawful rfl rfl (filterMap_push (started_error _ _ _))
  | aside quiet plans approvals runs =>
    exact lawful_aside lawful plans approvals (filterMap_push (started_aside _ _ quiet))
  | inserted p free => exact lawful_insert lawful ok free (filterMap_push rfl)
  | expired id seen => exact lawful_move lawful (advance_expired ok) (filterMap_push rfl)
  | started id => exact lawful_start lawful pid id
  | refused a next => exact lawful_aside lawful rfl rfl (filterMap_push rfl)
  | decided a next hit => exact lawful_decide lawful ok.1 ok.2 hit (filterMap_push rfl)
  | ran r free known => exact lawful_move lawful (advance_finished r.result) (filterMap_push rfl)

theorem terminal_effect (ok : Sanctioned C target op s) (effect : Effect s.state op answer db)
    (mem : p ∈ s.state.plans) (done : p.state.terminal = true) : p ∈ db.plans := by
  have stays : ∀ id seen next, seen.terminal = false → p ∈ (moveState s.state id seen next).plans := by
    intro id seen next open_
    refine mem_moveState.mpr (Or.inr ⟨mem,?_⟩)
    rintro ⟨_,same⟩
    rw [same,open_] at done
    cases done
  cases effect with
  | failed err => exact mem
  | aside quiet plans approvals runs => exact plans ▸ mem
  | inserted q free => exact mem_append_left _ mem
  | expired id seen =>
    rcases ok with rfl | rfl
    · exact stays _ _ _ rfl
    · exact stays _ _ _ rfl
  | started id => exact stays _ _ _ rfl
  | refused a next => exact mem
  | decided a next hit | ran r free known => exact stays _ _ _ rfl

/-- The calls whose preconditions a pool of commands may strengthen. -/
def Op.marked : Op → Bool
  | .recordDecision _ _ | .recordRun _ => true
  | _ => false

/-- Commands over the store, with what is asked of them beyond the discipline. -/
structure Pool (Cmd Exit : Type) where
  clock : Clock
  program : Cmd → StoreProg Exit
  target : Cmd → Option (String × Int)
  extra : Cmd → Nat → Op → Shared Ans DB → Prop
  post : Cmd → Nat → Except String Exit → Shared Ans DB → Prop

section Programs
variable {Cmd Exit : Type} (D : Pool Cmd Exit)

def Pool.machine : Machine Ans DB Choice Cmd Exit := ⟨serve,D.program⟩

def Pool.rule : Rule D.machine where
  inv := Lawful
  pre cmd pid op s := Sanctioned D.clock (D.target cmd) op s ∧
    (op.marked = true → D.extra cmd pid op s)
  post := D.post
  grows := Grows
  refl := Grows.refl
  trans := Grows.trans
  keeps := by
    intro s cmd pid op choice answer db lawful pre served
    have effect := serve_effect served
    exact ⟨lawful_effect lawful pre.1 effect,effect_grows effect⟩

structure Extends (pid : Nat) (s t : Shared Ans DB) : Prop where
  own : own pid s.log <+: own pid t.log
  started : (Concurrent.own pid t.log).filterMap started =
    (Concurrent.own pid s.log).filterMap started
  state : Grows s.state t.state

theorem Extends.refl (pid : Nat) (s : Shared Ans DB) : Extends pid s s :=
  ⟨prefix_refl _,rfl,Grows.refl _⟩

variable {s : Shared Ans DB} {op : Op} {t : Shared Ans DB}

theorem Extends.trans (first : Extends pid s t) (second : Extends pid t u) : Extends pid s u :=
  ⟨first.own.trans second.own,second.started.trans first.started,first.state.trans second.state⟩

theorem Extends.mem (ext : Extends pid s t) (mem : e ∈ Concurrent.own pid s.log) :
    e ∈ Concurrent.own pid t.log :=
  ext.own.subset mem

variable {D} {pid : Nat}

theorem extends_later (later : D.rule.Later pid s t) : Extends pid s t :=
  ⟨by rw [later.own],by rw [later.own],later.state⟩

theorem extends_push (quiet : started ⟨pid,op,answer⟩ = none) (grows : Grows s.state db) :
    Extends pid s (s.push pid op answer db) := by
  refine ⟨?_,?_,grows⟩
  · rw [own_push]
    exact prefix_append _ _
  · rw [own_push]
    exact filterMap_push quiet

def Reads (db : DB) : (op : Op) → Ans op → Prop
  | .selectPlan id, found => ∀ p, found = some p → p ∈ db.plans ∧ p.id = id
  | .selectExecuting, ids => ∀ id ∈ ids, ∃ p ∈ db.plans, p.id = id ∧ p.state = .executing
  | _, _ => True

theorem serve_reads (served : serve op choice db = some (.ok value,db')) : Reads db' op value := by
  cases op with
  | selectPlan id =>
    cases choice <;> simp only [serve,Option.some.injEq,Prod.mk.injEq,reduceCtorEq,
      false_and,Except.ok.injEq] at served
    obtain ⟨rfl,rfl⟩ := served
    intro p found
    exact ⟨mem_of_find?_eq_some found,ofPlan_iff.mp (find?_some found)⟩
  | selectExecuting =>
    cases choice <;> simp only [serve,Option.some.injEq,Prod.mk.injEq,reduceCtorEq,
      false_and,Except.ok.injEq] at served
    obtain ⟨rfl,rfl⟩ := served
    intro id mem
    obtain ⟨p,among,rfl⟩ := mem_map.mp mem
    obtain ⟨memP,executing⟩ := mem_filter.mp among
    exact ⟨p,memP,rfl,by simpa using executing⟩
  | _ => trivial

theorem safe_quiet (notStart : ∀ id, op ≠ .startPlan id)
    (pre : ∀ t, Extends pid s t → Lawful t → D.rule.pre cmd pid op t)
    (value : ∀ t v, Extends pid s t → Lawful t → ⟨pid,op,.ok v⟩ ∈ own pid t.log →
      Reads t.state op v → post (.ok v) t)
    (failed : ∀ t err, Extends pid s t → Lawful t → post (.error (wrap err)) t) :
    D.rule.Safe cmd pid (Prog.query op wrap) post s := by
  apply safe_query
  intro t later lawful
  refine ⟨pre t (extends_later later) lawful,?_⟩
  intro choice answer db served grows kept
  have quiet : started ⟨pid,op,answer⟩ = none := by
    cases op <;> first | rfl | exact absurd rfl (notStart _)
  have ext : Extends pid s (t.push pid op answer db) :=
    (extends_later later).trans (extends_push quiet grows)
  cases answer with
  | error err => exact failed _ err ext kept
  | ok v =>
    refine value _ v ext kept ?_ (serve_reads served)
    rw [own_push]
    simp

section
variable (aside : op.aside = true)
include aside

theorem not_marked_of_aside : op.marked = false := by
  cases op <;> first | rfl | cases aside

theorem sanctioned_of_aside : Sanctioned C target op s := by
  cases op <;> trivial

theorem pre_of_aside : D.rule.pre cmd pid op t := by
  refine ⟨sanctioned_of_aside aside,?_⟩
  intro marked
  rw [not_marked_of_aside aside] at marked
  cases marked

theorem safe_read
    (value : ∀ t v, Extends pid s t → Lawful t → ⟨pid,op,.ok v⟩ ∈ own pid t.log →
      Reads t.state op v → post (.ok v) t)
    (failed : ∀ t err, Extends pid s t → Lawful t → post (.error (wrap err)) t) :
    D.rule.Safe cmd pid (Prog.query op wrap) post s := by
  refine safe_quiet ?_ ?_ value failed
  · rintro id rfl
    cases aside
  · intro t _ _
    exact pre_of_aside aside

end

def Known (p : Plan) (s : Shared Ans DB) : Prop := ∃ q ∈ s.state.plans, q.fixed = p.fixed

theorem Known.extends (known : Known p s) (ext : Extends pid s t) : Known p t := by
  obtain ⟨q,mem,same⟩ := known
  obtain ⟨r,memR,again⟩ := ext.state.plans q mem
  exact ⟨r,memR,again.trans same⟩

theorem safe_getPlan (missing : ∀ t, Extends pid s t → Lawful t → post (.ok none) t)
    (found : ∀ t p, Extends pid s t → Lawful t → p.id = id → Known p t → post (.ok (some p)) t)
    (failed : ∀ t err, Extends pid s t → Lawful t → post (.error err) t) :
    D.rule.Safe cmd pid (getPlan id) post s := by
  refine safe_read rfl ?_ (fun t err => failed t _)
  intro t v ext lawful _ reads
  cases v with
  | none => exact missing t ext lawful
  | some p =>
    obtain ⟨mem,isID⟩ := reads p rfl
    exact found t p ext lawful isID ⟨p,mem,rfl⟩

variable {now : Int}

theorem safe_expire (lawful : Lawful s) (known : Known p s)
    (value : ∀ t q, Extends pid s t → Lawful t → q.fixed = p.fixed → Known q t →
      (q.state = .proposed ∨ q.state = .approved → q.expired D.clock now = false) → post (.ok q) t)
    (failed : ∀ t err, Extends pid s t → Lawful t → post (.error err) t) :
    D.rule.Safe cmd pid (expireIfPastDeadline D.clock p now) post s := by
  unfold expireIfPastDeadline
  split
  · rename_i settled
    refine value s p (Extends.refl pid s) lawful rfl known ?_
    rintro (isProposed | isApproved)
    · exact absurd isProposed settled.1
    · exact absurd isApproved settled.2
  rename_i open_
  split
  · rename_i fresh
    exact value s p (Extends.refl pid s) lawful rfl known (fun _ => by simpa using fresh)
  apply safe_bind
  refine safe_quiet (by intro id same; cases same) ?_ ?_ (fun t err => failed t _)
  · intro t _ _
    refine ⟨?_,fun marked => by cases marked⟩
    by_cases isProposed : p.state = .proposed
    · exact Or.inl isProposed
    · exact Or.inr (by by_contra other; exact open_ ⟨isProposed,other⟩)
  · intro t _ ext lawfulT _ _
    refine value t { p with state := .expired } ext lawfulT rfl (known.extends ext) ?_
    rintro (bad | bad) <;> cases bad

/-- What a process knows right after it moved a plan to EXECUTING. -/
structure Entered (C : Clock) (pid : Nat) (now : Int) (s : Shared Ans DB) (p : Plan)
    (t : Shared Ans DB) : Prop where
  own : ∃ quiet n, n ≠ 0 ∧ own pid t.log = quiet ++ [⟨pid,.startPlan p.id,.ok n⟩] ∧
    quiet.filterMap started = (Concurrent.own pid s.log).filterMap started
  known : Known p t
  inTime : p.expired C now = false

theorem safe_markExecuting (aimed : D.target cmd = some (id,now))
    (value : ∀ t p, Lawful t → Grows s.state t.state → p.id = id →
      Entered D.clock pid now s p t → post (.ok p) t)
    (failed : ∀ t err, Extends pid s t → Lawful t → post (.error err) t) :
    D.rule.Safe cmd pid (markExecuting D.clock id now) post s := by
  apply safe_bind
  refine safe_getPlan (fun t ext lawful => failed t _ ext lawful) ?_
    (fun t err ext lawful => failed t _ ext lawful)
  intro t found ext lawful isID known
  apply safe_bind
  refine safe_expire lawful known ?_ (fun u err more lawfulU => failed u _ (ext.trans more) lawfulU)
  intro u p more lawfulU same knownP inTime
  dsimp only
  split
  · exact failed u _ (ext.trans more) lawfulU
  rename_i approved
  have fresh := inTime (Or.inr (by simpa using approved))
  have idP : p.id = id := (id_of_fixed same).trans isID
  apply safe_bind
  apply safe_query
  intro v later lawfulV
  have before : Extends pid s v := (ext.trans more).trans (extends_later later)
  refine ⟨⟨?_,fun marked => by cases marked⟩,?_⟩
  · obtain ⟨q,mem,sameQ⟩ := knownP.extends (extends_later later)
    refine ⟨now,aimed,q,mem,(id_of_fixed sameQ).trans idP,?_⟩
    have deadline : q.expiresAt = p.expiresAt :=
      column_of_fixed Plan.expiresAt (fun _ => rfl) sameQ
    simpa only [Plan.expired,deadline] using fresh
  intro choice answer db served grows kept
  cases answer with
  | error err => exact failed _ _ (before.trans (extends_push rfl grows)) kept
  | ok n =>
    dsimp only
    split
    · rename_i none_
      subst none_
      exact failed _ _ (before.trans (extends_push rfl grows)) kept
    rename_i hit
    refine value _ { p with state := .executing } kept (before.state.trans grows) idP
      ⟨⟨own pid v.log,n,hit,?_,before.started⟩,?_,fresh⟩
    · rw [own_push,idP]
    · obtain ⟨q,mem,sameQ⟩ := knownP.extends (extends_later later)
      obtain ⟨r,memR,sameR⟩ := grows.plans q mem
      exact ⟨r,memR,sameR.trans sameQ⟩

theorem safe_recordApprovalDecision {next : PlanState}
    (kind : decision = .approved ∧ next = .approved ∨ decision = .rejected ∧ next = .rejected)
    (lawful : Lawful s)
    (extra : ∀ t, Extends pid s t → Lawful t → D.extra cmd pid (.recordDecision
      ⟨r.planID,r.planHash,decision,r.actor,r.reason,D.clock.rfc3339 now⟩ next) t)
    (value : ∀ t a, Extends pid s t → Lawful t → post (.ok a) t)
    (failed : ∀ t err, Extends pid s t → Lawful t → post (.error err) t) :
    D.rule.Safe cmd pid (recordApprovalDecision D.clock r decision next now) post s := by
  unfold recordApprovalDecision
  split
  · exact failed s _ (Extends.refl pid s) lawful
  apply safe_bind
  refine safe_getPlan (fun t ext lawful => failed t _ ext lawful) ?_
    (fun t err ext lawful => failed t _ ext lawful)
  intro t found ext lawful isID known
  apply safe_bind
  refine safe_expire lawful known ?_
    (fun u err more lawfulU => failed u _ (ext.trans more) lawfulU)
  intro u p more lawfulU same knownP inTime
  have before := ext.trans more
  dsimp only
  split
  · exact failed u _ before lawfulU
  split
  · exact failed u _ before lawfulU
  rename_i sameHash
  apply safe_bind
  refine safe_quiet (by intro id same; cases same) ?_ ?_
    (fun v err last lawfulV => failed v _ (before.trans last) lawfulV)
  · intro v last lawfulV
    refine ⟨⟨kind,?_⟩,fun _ => extra v (before.trans last) lawfulV⟩
    obtain ⟨q,mem,sameQ⟩ := knownP.extends last
    have hash : q.planHash = p.planHash :=
      column_of_fixed Plan.planHash (fun _ => rfl) sameQ
    refine ⟨q,mem,(id_of_fixed sameQ).trans ((id_of_fixed same).trans isID),?_⟩
    rw [hash]
    simpa using sameHash
  · intro v n last lawfulV _ _
    dsimp only
    split
    · exact failed v _ (before.trans last) lawfulV
    · exact value v _ (before.trans last) lawfulV

def Decided (planID : String) (db : DB) : Prop :=
  ∃ a ∈ db.approvals, a.planID = planID ∧ a.decision = .approved

theorem Decided.grows (decided : Decided planID db) (grows : Grows db db') : Decided planID db' := by
  obtain ⟨a,mem,rest⟩ := decided
  exact ⟨a,grows.approvals.subset mem,rest⟩

/-- The process has found the plan EXECUTING. -/
def Selected (pid : Nat) (log : List (Event Ans)) (planID : String) : Prop :=
  ∃ ids, ⟨pid,.selectExecuting,.ok ids⟩ ∈ own pid log ∧ planID ∈ ids

theorem safe_recover
    (extra : ∀ t r, Extends pid s t → Lawful t → r.result = .executionFailed →
      Decided r.planID t.state → Selected pid t.log r.planID → D.extra cmd pid (.recordRun r) t)
    (value : ∀ t n, Extends pid s t → Lawful t → post (.ok n) t)
    (failed : ∀ t err, Extends pid s t → Lawful t → post (.error err) t) :
    D.rule.Safe cmd pid (recoverOrphanedExecutingPlans D.clock now) post s := by
  apply safe_bind
  refine safe_read rfl ?_ (fun t err ext lawful => failed t _ ext lawful)
  intro t ids ext lawful logged reads
  have decided : ∀ id ∈ ids, Decided id t.state := by
    intro id mem
    obtain ⟨p,memP,isID,executing⟩ := reads id mem
    obtain ⟨a,memA,ofP,approved⟩ := lawful.backed p memP (by rw [executing]; rfl)
    exact ⟨a,memA,ofP.trans isID,approved⟩
  suffices loop : ∀ rest u recovered, Extends pid s u → Lawful u →
      (∀ id ∈ rest, Decided id u.state ∧ Selected pid u.log id) →
      D.rule.Safe cmd pid (recoverEach D.clock now rest recovered) post u from
    loop ids t 0 ext lawful fun id mem => ⟨decided id mem,ids,logged,mem⟩
  intro rest
  induction rest with
  | nil =>
    intro u recovered extU lawfulU _
    exact value u recovered extU lawfulU
  | cons id rest ih =>
    intro u recovered extU lawfulU seen
    obtain ⟨⟨head,chosen⟩,others⟩ := forall_mem_cons.mp seen
    have keep : ∀ {v id}, Extends pid u v → Selected pid u.log id → Selected pid v.log id := by
      rintro v id more ⟨ids,logged,mem⟩
      exact ⟨ids,more.mem logged,mem⟩
    apply safe_bind
    apply safe_wrapError
    refine safe_quiet (by intro other same; cases same) ?_ ?_ ?_
    · intro v more lawfulV
      exact ⟨trivial,fun _ => extra v _ (extU.trans more) lawfulV rfl (head.grows more.state)
        (keep more chosen)⟩
    · intro v _ more lawfulV _ _
      exact ih v (recovered + 1) (extU.trans more) lawfulV
        (fun other mem => ⟨(others other mem).1.grows more.state,keep more (others other mem).2⟩)
    · intro v err more lawfulV
      exact failed v _ (extU.trans more) lawfulV

end Programs
end Pilot.Remediation
