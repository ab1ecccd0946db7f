import Mathlib.Data.List.Infix
import Pilot.Library.Transition

/-!
Programs that share a store and use it one atomic call at a time. Any number
of processes run any mix of programs, their calls interleave freely and each
may crash between two calls. A log keeps every call with its answer. The rule
at the end is for invariants whose calls are only safe because of what their
process has learned before: it asks for one pass over each program.
-/
namespace Pilot.Concurrent
open Pilot.Transition List

variable {Op : Type} {Ans : Op → Type} {State Choice Cmd Exit α β : Type}

/-- A call is answered with a value or with an error text. -/
inductive Prog {Op : Type} (Ans : Op → Type) (α : Type) where
  | done (value : α)
  | fail (err : String)
  | call (op : Op) (next : Except String (Ans op) → Prog Ans α)

namespace Prog

def bind : Prog Ans α → (α → Prog Ans β) → Prog Ans β
  | .done value, f => f value
  | .fail err, _ => .fail err
  | .call op next, f => .call op (fun answer => (next answer).bind f)

instance : Monad (Prog Ans) where
  pure := .done
  bind := bind

def query (op : Op) (wrap : String → String) : Prog Ans (Ans op) :=
  .call op (fun answer => match answer with
    | .ok value => .done value
    | .error err => .fail (wrap err))

/-- The program's own failure as a value the caller looks at. -/
def attempt : Prog Ans α → Prog Ans (Except String α)
  | .done value => .done (.ok value)
  | .fail err => .done (.error err)
  | .call op next => .call op (fun answer => (next answer).attempt)

def wrapError (wrap : String → String) (m : Prog Ans α) : Prog Ans α :=
  m.attempt.bind (fun result => match result with
    | .ok value => .done value
    | .error err => .fail (wrap err))

end Prog

structure Event {Op : Type} (Ans : Op → Type) where
  pid : Nat
  op : Op
  answer : Except String (Ans op)

/-- What all processes see, and the history of how it came about. -/
structure Shared {Op : Type} (Ans : Op → Type) (State : Type) where
  state : State
  log : List (Event Ans)

def Shared.push (s : Shared Ans State) (pid : Nat) (op : Op)
    (answer : Except String (Ans op)) (state : State) : Shared Ans State :=
  ⟨state,s.log ++ [⟨pid,op,answer⟩]⟩

def own (pid : Nat) (log : List (Event Ans)) : List (Event Ans) :=
  log.filter (fun e => e.pid == pid)

inductive Status {Op : Type} (Ans : Op → Type) (Exit : Type) where
  | running (rest : Prog Ans Exit)
  | crashed

structure Process {Op : Type} (Ans : Op → Type) (Cmd Exit : Type) where
  cmd : Cmd
  status : Status Ans Exit

structure World {Op : Type} (Ans : Op → Type) (State Cmd Exit : Type) where
  shared : Shared Ans State
  procs : Nat → Option (Process Ans Cmd Exit)

def World.Returned (w : World Ans State Cmd Exit) (pid : Nat) (cmd : Cmd) : Prop :=
  (∃ value, w.procs pid = some ⟨cmd,.running (.done value)⟩) ∨
    ∃ err, w.procs pid = some ⟨cmd,.running (.fail err)⟩

def World.hasReturned (w : World Ans State Cmd Exit) (pid : Nat) : Bool :=
  match w.procs pid with
  | some ⟨_,.running (.done _)⟩ | some ⟨_,.running (.fail _)⟩ => true
  | _ => false

variable {w : World Ans State Cmd Exit}

theorem returned_of_hasReturned (seen : w.hasReturned pid = true) : ∃ cmd, w.Returned pid cmd := by
  unfold World.hasReturned at seen
  split at seen
  · rename_i cmd value isDone
    exact ⟨cmd,Or.inl ⟨value,isDone⟩⟩
  · rename_i cmd err isFail
    exact ⟨cmd,Or.inr ⟨err,isFail⟩⟩
  · cases seen

inductive Label (Choice Cmd : Type) where
  | spawn (pid : Nat) (cmd : Cmd)
  | call (pid : Nat) (choice : Choice)
  | crash (pid : Nat)

/-- The store's answer to a call may depend on a choice of its environment. -/
structure Machine {Op : Type} (Ans : Op → Type) (State Choice Cmd Exit : Type) where
  serve : (op : Op) → Choice → State → Option (Except String (Ans op) × State)
  program : Cmd → Prog Ans Exit

variable {labels : List (Label Choice Cmd)} {state : State} {l : Label Choice Cmd}

namespace Machine
variable (M : Machine Ans State Choice Cmd Exit)

def start (state : State) : World Ans State Cmd Exit := ⟨⟨state,[]⟩,fun _ => none⟩

def setStatus (w : World Ans State Cmd Exit) (pid : Nat) (cmd : Cmd)
    (status : Status Ans Exit) : Nat → Option (Process Ans Cmd Exit) :=
  fun p => if p = pid then some ⟨cmd,status⟩ else w.procs p

def step (w : World Ans State Cmd Exit) : Label Choice Cmd → Option (World Ans State Cmd Exit)
  | .spawn pid cmd =>
    match w.procs pid with
    | none => some { w with procs := setStatus w pid cmd (.running (M.program cmd)) }
    | some _ => none
  | .call pid choice =>
    match w.procs pid with
    | some ⟨cmd,.running (.call op next)⟩ =>
      match M.serve op choice w.shared.state with
      | some (answer,state) =>
        some ⟨w.shared.push pid op answer state,setStatus w pid cmd (.running (next answer))⟩
      | none => none
    | _ => none
  | .crash pid =>
    match w.procs pid with
    | some ⟨cmd,.running _⟩ => some { w with procs := setStatus w pid cmd .crashed }
    | _ => none

def play (w : World Ans State Cmd Exit) :
    List (Label Choice Cmd) → Option (World Ans State Cmd Exit)
  | [] => some w
  | l :: rest =>
    match M.step w l with
    | some t => play t rest
    | none => none

abbrev Step (w : World Ans State Cmd Exit) (l : Label Choice Cmd)
    (t : World Ans State Cmd Exit) : Prop := M.step w l = some t

abbrev Reachable (state : State) (labels : List (Label Choice Cmd))
    (w : World Ans State Cmd Exit) : Prop := Run M.Step (start state) labels w

theorem run_play (played : M.play w labels = some t) : Run M.Step w labels t := by
  induction labels generalizing w with
  | nil => cases played; exact .start _
  | cons l rest ih =>
    simp only [play] at played
    split at played
    · rename_i u taken
      exact run_append (.next (.start w) taken) (ih played)
    · cases played

theorem reachable_of_play {β : Type} {observe : World Ans State Cmd Exit → β} {seen : β}
    (played : (M.play (start state) labels).map observe = some seen) :
    ∃ w, M.Reachable state labels w ∧ observe w = seen := by
  obtain ⟨w,reached,isSeen⟩ := Option.map_eq_some_iff.mp played
  exact ⟨w,M.run_play reached,isSeen⟩

inductive Kind (w t : World Ans State Cmd Exit) : Label Choice Cmd → Prop where
  | spawn (pid : Nat) (cmd : Cmd) (free : w.procs pid = none)
      (eq : t = { w with procs := setStatus w pid cmd (.running (M.program cmd)) }) :
      Kind w t (.spawn pid cmd)
  | call (pid : Nat) (cmd : Cmd) (op : Op) (next : Except String (Ans op) → Prog Ans Exit)
      (choice : Choice) (answer : Except String (Ans op)) (state : State)
      (running : w.procs pid = some ⟨cmd,.running (.call op next)⟩)
      (served : M.serve op choice w.shared.state = some (answer,state))
      (eq : t = ⟨w.shared.push pid op answer state,setStatus w pid cmd (.running (next answer))⟩) :
      Kind w t (.call pid choice)
  | crash (pid : Nat) (cmd : Cmd) (rest : Prog Ans Exit)
      (running : w.procs pid = some ⟨cmd,.running rest⟩)
      (eq : t = { w with procs := setStatus w pid cmd .crashed }) :
      Kind w t (.crash pid)

theorem step_cases (taken : M.Step w l t) : M.Kind w t l := by
  cases l with
  | spawn pid cmd =>
    simp only [Step,step] at taken
    split at taken
    · rename_i free
      cases taken
      exact .spawn pid cmd free rfl
    · cases taken
  | call pid choice =>
    simp only [Step,step] at taken
    split at taken
    · rename_i cmd op next running
      split at taken
      · rename_i answer state served
        cases taken
        exact .call pid cmd op next choice answer state running served rfl
      · cases taken
    · cases taken
  | crash pid =>
    simp only [Step,step] at taken
    split at taken
    · rename_i cmd rest running
      cases taken
      exact .crash pid cmd rest running rfl
    · cases taken

theorem fact_run (fact : Shared Ans State → Prop) (first : fact ⟨state,[]⟩)
    (keep : ∀ s pid op choice answer next, fact s →
      M.serve op choice s.state = some (answer,next) → fact (s.push pid op answer next))
    (run : M.Reachable state labels w) : fact w.shared := by
  refine run_invariant (fun w => fact w.shared) ?_ run first
  intro s l t kept taken
  cases M.step_cases taken with
  | spawn pid cmd free eq | crash pid cmd rest running eq => subst eq; exact kept
  | call pid cmd op next choice answer answered running served eq =>
    subst eq
    exact keep _ _ _ _ _ _ kept served

/-- The moment at which a logged call was made: the world right before it,
    the process that made it, and the run from there on. -/
structure Called (state : State) (w : World Ans State Cmd Exit) (front : List (Event Ans))
    (e : Event Ans) where
  before : World Ans State Cmd Exit
  labels : List (Label Choice Cmd)
  reached : M.Reachable state labels before
  log : before.shared.log = front
  cmd : Cmd
  next : Except String (Ans e.op) → Prog Ans Exit
  running : before.procs e.pid = some ⟨cmd,.running (.call e.op next)⟩
  choice : Choice
  answered : State
  served : M.serve e.op choice before.shared.state = some (e.answer,answered)
  rest : List (Label Choice Cmd)
  after : Run M.Step ⟨before.shared.push e.pid e.op e.answer answered,
    setStatus before e.pid cmd (.running (next e.answer))⟩ rest w

theorem called_next (called : Nonempty (M.Called state w front e)) (taken : M.Step w l t) :
    Nonempty (M.Called state t front e) := by
  obtain ⟨c⟩ := called
  exact ⟨{ c with rest := c.rest ++ [l], after := .next c.after taken }⟩

theorem called_of_log (run : M.Reachable state labels w)
    (split : w.shared.log = front ++ e :: back) : Nonempty (M.Called state w front e) := by
  induction run generalizing back with
  | start => simp [start] at split
  | next before taken ih =>
    rename_i u t labels l
    cases M.step_cases taken with
    | spawn pid cmd free eq | crash pid cmd rest running eq => exact M.called_next (ih (by rw [← split,eq])) taken
    | call pid cmd op next choice answer answered running served eq =>
      have logged : u.shared.log ++ [⟨pid,op,answer⟩] = front ++ e :: back := by
        rw [← split,eq]
        rfl
      rcases eq_nil_or_concat back with rfl | ⟨earlier,last,rfl⟩
      · obtain ⟨sameLog,sameEvent⟩ := append_inj' logged rfl
        cases sameEvent
        subst eq
        exact ⟨⟨u,labels,before,sameLog,cmd,next,running,choice,answered,served,[],.start _⟩⟩
      · rw [concat_eq_append,← cons_append,← append_assoc] at logged
        obtain ⟨sameLog,_⟩ := append_inj' logged rfl
        exact M.called_next (ih sameLog) taken

theorem cmd_step (taken : M.Step w l t) (isCmd : w.procs pid = some ⟨cmd,status⟩) :
    ∃ later, t.procs pid = some ⟨cmd,later⟩ := by
  cases M.step_cases taken with
  | spawn other cmd' free eq =>
    subst eq
    by_cases same : pid = other
    · rw [same,free] at isCmd
      cases isCmd
    · exact ⟨status,by simpa [setStatus,same] using isCmd⟩
  | call other cmd' op next choice answer answered running served eq
  | crash other cmd' rest running eq =>
    subst eq
    by_cases same : pid = other
    · subst same
      rw [running] at isCmd
      cases isCmd
      exact ⟨_,by simp [setStatus]; rfl⟩
    · exact ⟨status,by simpa [setStatus,same] using isCmd⟩

theorem cmd_run (run : Run M.Step w labels t) (isCmd : w.procs pid = some ⟨cmd,status⟩) :
    ∃ later, t.procs pid = some ⟨cmd,later⟩ := by
  refine run_invariant (fun u => ∃ later, u.procs pid = some ⟨cmd,later⟩) ?_ run ⟨status,isCmd⟩
  rintro s l t ⟨later,isLater⟩ taken
  exact M.cmd_step taken isLater

end Machine

theorem own_append (pid : Nat) (log more : List (Event Ans)) :
    own pid (log ++ more) = own pid log ++ own pid more := by
  simp [own]

theorem own_push (s : Shared Ans State) (pid : Nat) (op : Op) (answer : Except String (Ans op))
    (state : State) :
    own pid (s.push pid op answer state).log = own pid s.log ++ [⟨pid,op,answer⟩] := by
  simp [own,Shared.push]

theorem own_push_ne (s : Shared Ans State) (ne : pid ≠ other) (op : Op)
    (answer : Except String (Ans op)) (state : State) :
    own pid (s.push other op answer state).log = own pid s.log := by
  simp [own,Shared.push,ne.symm]

/-- Every call of a log meets a condition on the calls before it. -/
def everyCall (cond : List (Event Ans) → Event Ans → Bool) (before : List (Event Ans)) :
    List (Event Ans) → Bool
  | [] => true
  | e :: rest => cond before e && everyCall cond (before ++ [e]) rest

theorem everyCall_split {cond : List (Event Ans) → Event Ans → Bool}
    (every : everyCall cond before (front ++ e :: back) = true) : cond (before ++ front) e = true := by
  induction front generalizing before with
  | nil =>
    rw [nil_append,everyCall,Bool.and_eq_true] at every
    rw [append_nil]
    exact every.1
  | cons d front ih =>
    rw [cons_append,everyCall,Bool.and_eq_true] at every
    have later := ih every.2
    rwa [append_assoc,singleton_append] at later

/-- Assumptions and guarantees of a pool of processes. `pre` is what a process
    must know before a call, `grows` what every call does to the state. -/
structure Rule (M : Machine Ans State Choice Cmd Exit) where
  inv : Shared Ans State → Prop
  pre : Cmd → Nat → Op → Shared Ans State → Prop
  post : Cmd → Nat → Except String Exit → Shared Ans State → Prop
  grows : State → State → Prop
  refl : ∀ s, grows s s
  trans : ∀ {s t u}, grows s t → grows t u → grows s u
  keeps : ∀ {s cmd pid op choice answer state}, inv s → pre cmd pid op s →
    M.serve op choice s.state = some (answer,state) →
    inv (s.push pid op answer state) ∧ grows s.state state

namespace Rule
variable {M : Machine Ans State Choice Cmd Exit} (R : Rule M)

/-- The moments a process may find itself in after the others took steps. -/
structure Later (pid : Nat) (s t : Shared Ans State) : Prop where
  log : s.log <+: t.log
  own : own pid t.log = own pid s.log
  state : R.grows s.state t.state

theorem later_refl (pid : Nat) (s : Shared Ans State) : R.Later pid s s :=
  ⟨prefix_refl _,rfl,R.refl _⟩

variable {s : Shared Ans State}

theorem Later.trans (first : R.Later pid s t) (second : R.Later pid t u) : R.Later pid s u :=
  ⟨first.log.trans second.log,second.own.trans first.own,R.trans first.state second.state⟩

/-- Every call the program makes meets its precondition, whatever the others
    do in between, and the result meets the postcondition. -/
def Safe (cmd : Cmd) (pid : Nat) : Prog Ans α → (Except String α → Shared Ans State → Prop) →
    Shared Ans State → Prop
  | .done value, post, s => post (.ok value) s
  | .fail err, post, s => post (.error err) s
  | .call op next, post, s => ∀ t, R.Later pid s t → R.inv t → R.pre cmd pid op t ∧
      ∀ choice answer state, M.serve op choice t.state = some (answer,state) →
        R.grows t.state state → R.inv (t.push pid op answer state) →
        Safe cmd pid (next answer) post (t.push pid op answer state)

variable {cmd : Cmd} {pid : Nat}

/-- Facts about what a process did and about what only grows survive the
    steps of the others. -/
def Stable (pid : Nat) (P : Shared Ans State → Prop) : Prop :=
  ∀ s t, P s → R.Later pid s t → R.inv t → P t

variable {m : Prog Ans α}

theorem Safe.later {post : Except String α → Shared Ans State → Prop}
    (stable : ∀ result, R.Stable pid (post result)) (safe : R.Safe cmd pid m post s)
    (later : R.Later pid s t) (inv : R.inv t) : R.Safe cmd pid m post t := by
  cases m with
  | done value | fail err => exact stable _ s t safe later inv
  | call op next =>
    intro u after holds
    exact safe u (later.trans R after) holds

theorem Safe.mono {post wider : Except String α → Shared Ans State → Prop} (safe : R.Safe cmd pid m post s)
    (sub : ∀ result t, post result t → wider result t) : R.Safe cmd pid m wider s := by
  induction m generalizing s with
  | done value | fail err => exact sub _ _ safe
  | call op next ih =>
    intro t later inv
    obtain ⟨pre,rest⟩ := safe t later inv
    refine ⟨pre,?_⟩
    intro choice answer state served grows kept
    exact ih answer (rest choice answer state served grows kept)

theorem safe_bind {post : Except String β → Shared Ans State → Prop}
    (safe : R.Safe cmd pid m (fun result t => match result with
      | .ok value => R.Safe cmd pid (f value) post t
      | .error err => post (.error err) t) s) :
    R.Safe cmd pid (m >>= f) post s := by
  induction m generalizing s with
  | done value => exact safe
  | fail err => exact safe
  | call op next ih =>
    intro t later inv
    obtain ⟨pre,rest⟩ := safe t later inv
    refine ⟨pre,?_⟩
    intro choice answer state served grows kept
    exact ih answer (rest choice answer state served grows kept)

theorem safe_attempt {post : Except String (Except String α) → Shared Ans State → Prop}
    (safe : R.Safe cmd pid m (fun result t => post (.ok result) t) s) :
    R.Safe cmd pid m.attempt post s := by
  induction m generalizing s with
  | done value => exact safe
  | fail err => exact safe
  | call op next ih =>
    intro t later inv
    obtain ⟨pre,rest⟩ := safe t later inv
    refine ⟨pre,?_⟩
    intro choice answer state served grows kept
    exact ih answer (rest choice answer state served grows kept)

variable {wrap : String → String}

theorem safe_wrapError {post : Except String α → Shared Ans State → Prop}
    (safe : R.Safe cmd pid m (fun result t => match result with
      | .ok value => post (.ok value) t
      | .error err => post (.error (wrap err)) t) s) :
    R.Safe cmd pid (m.wrapError wrap) post s := by
  apply safe_bind
  apply safe_attempt
  refine safe.mono R ?_
  intro result t holds
  cases result with
  | ok value => exact holds
  | error err => exact holds

theorem safe_query {post : Except String (Ans op) → Shared Ans State → Prop}
    (safe : ∀ t, R.Later pid s t → R.inv t → R.pre cmd pid op t ∧
      ∀ choice answer state, M.serve op choice t.state = some (answer,state) →
        R.grows t.state state → R.inv (t.push pid op answer state) →
        match answer with
        | .ok value => post (.ok value) (t.push pid op (.ok value) state)
        | .error err => post (.error (wrap err)) (t.push pid op (.error err) state)) :
    R.Safe cmd pid (Prog.query op wrap) post s := by
  intro t later inv
  obtain ⟨pre,rest⟩ := safe t later inv
  refine ⟨pre,?_⟩
  intro choice answer state served grows kept
  have next := rest choice answer state served grows kept
  cases answer with
  | ok value => exact next
  | error err => exact next

/-- What holds of the world along every run: the invariant, and every
    process is at a safe point of its program. -/
structure Holds (w : World Ans State Cmd Exit) : Prop where
  inv : R.inv w.shared
  fresh : ∀ pid, w.procs pid = none → own pid w.shared.log = []
  safe : ∀ pid cmd rest, w.procs pid = some ⟨cmd,.running rest⟩ →
    R.Safe cmd pid rest (R.post cmd pid) w.shared

/-- What is asked of the programs: each is safe from its first call on. -/
structure Obeyed : Prop where
  stable : ∀ cmd pid result, R.Stable pid (R.post cmd pid result)
  program : ∀ cmd pid s, R.inv s → own pid s.log = [] →
    R.Safe cmd pid (M.program cmd) (R.post cmd pid) s

theorem holds_start (first : R.inv ⟨state,[]⟩) : R.Holds (Machine.start state) :=
  ⟨first,fun _ _ => rfl,fun _ _ _ running => by cases running⟩

theorem later_push (ne : pid ≠ other) (grows : R.grows s.state state) :
    R.Later pid s (s.push other op answer state) :=
  ⟨prefix_append _ _,own_push_ne s ne op answer state,grows⟩

theorem holds_step (obeyed : R.Obeyed) {t : World Ans State Cmd Exit} (holds : R.Holds w)
    (taken : M.Step w l t) : R.Holds t := by
  cases M.step_cases taken with
  | spawn pid cmd free eq =>
    subst eq
    refine ⟨holds.inv,?_,?_⟩
    · intro p idle
      simp only [Machine.setStatus] at idle
      split at idle
      · cases idle
      · exact holds.fresh p idle
    · intro p cmd' rest running
      simp only [Machine.setStatus] at running
      split at running
      · rename_i same
        subst same
        cases running
        exact obeyed.program cmd p _ holds.inv (holds.fresh p free)
      · exact holds.safe p cmd' rest running
  | call pid cmd op next choice answer state running served eq =>
    subst eq
    obtain ⟨pre,rest⟩ := holds.safe pid cmd _ running _ (R.later_refl pid _) holds.inv
    obtain ⟨kept,grows⟩ := R.keeps holds.inv pre served
    refine ⟨kept,?_,?_⟩
    · intro p idle
      simp only [Machine.setStatus] at idle
      split at idle
      · cases idle
      rename_i ne
      rw [own_push_ne _ ne]
      exact holds.fresh p idle
    · intro p cmd' rest' running'
      simp only [Machine.setStatus] at running'
      split at running'
      · rename_i same
        subst same
        cases running'
        exact rest choice answer state served grows kept
      · rename_i ne
        exact (holds.safe p cmd' rest' running').later R (obeyed.stable cmd' p)
          (R.later_push ne grows) kept
  | crash pid cmd rest running eq =>
    subst eq
    refine ⟨holds.inv,?_,?_⟩
    · intro p idle
      simp only [Machine.setStatus] at idle
      split at idle
      · cases idle
      · exact holds.fresh p idle
    · intro p cmd' rest' running'
      simp only [Machine.setStatus] at running'
      split at running'
      · cases running'
      · exact holds.safe p cmd' rest' running'

theorem holds_run (obeyed : R.Obeyed) (first : R.inv ⟨state,[]⟩)
    (run : M.Reachable state labels w) : R.Holds w := by
  refine run_invariant R.Holds ?_ run (R.holds_start first)
  intro s l t holds taken
  exact R.holds_step obeyed holds taken

theorem post_of_returned (holds : R.Holds w) (returned : w.Returned pid cmd) :
    ∃ result, R.post cmd pid result w.shared := by
  rcases returned with ⟨value,isDone⟩ | ⟨err,isFail⟩
  · exact ⟨.ok value,holds.safe pid cmd _ isDone⟩
  · exact ⟨.error err,holds.safe pid cmd _ isFail⟩

theorem pre_of_holds {next} (holds : R.Holds w)
    (running : w.procs pid = some ⟨cmd,.running (.call op next)⟩) : R.pre cmd pid op w.shared :=
  (holds.safe pid cmd _ running _ (R.later_refl pid _) holds.inv).1

theorem grows_run (obeyed : R.Obeyed) (holds : R.Holds w) (run : Run M.Step w labels t) :
    R.grows w.shared.state t.shared.state := by
  refine run_preserves R.Holds (fun u => R.grows w.shared.state u.shared.state) ?_ ?_ run holds
    (R.refl _)
  · intro s l t holds taken
    exact R.holds_step obeyed holds taken
  intro s l t holds taken grown
  cases M.step_cases taken with
  | spawn pid cmd free eq | crash pid cmd rest running eq => subst eq; exact grown
  | call pid cmd op next choice answer state running served eq =>
    subst eq
    exact R.trans grown (R.keeps holds.inv (R.pre_of_holds holds running) served).2

end Rule
end Pilot.Concurrent
