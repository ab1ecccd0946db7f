import Mathlib.Logic.Function.Basic
import Pilot.Library.Go
import Pilot.Library.Transition

/-!
Plans and their applies on one workspace, after `cmd/pilot/cmd/mcp_edit_tools.go`
and `edit_workspace_apply.go`. An apply compares the revision of the workspace
with its plan's, then takes the lock, and then runs the scenario. The revision
that it computes under the lock is reported and compared with nothing, so that
another apply may run between the comparison and the lock. Where none does, each
apply runs on the workspace of its plan.
-/
namespace Pilot.Workspace
open Pilot.Transition

export Go (Bytes bytesOf)

structure ManagedFileEntry where
  relPath : String
  mode : Nat
  isSymlink : Bool
  content : Bytes
  deriving DecidableEq

structure Hashing where
  sha256Hex : Bytes → String
  modeString : Nat → String

section
variable (H : Hashing)

def revisionFields (e : ManagedFileEntry) : List String :=
  [e.relPath,H.modeString e.mode,toString e.isSymlink,H.sha256Hex e.content]

def revisionOfEntries (entries : List ManagedFileEntry) : String :=
  "sha256:" ++ H.sha256Hex (entries.flatMap fun e => (revisionFields H e).flatMap fun f => bytesOf f ++ [0])

end

structure PlanMetadata (Scenario : Type) where
  workspaceRevision : String
  scenario : Scenario
  deriving DecidableEq

structure Attempt (PlanID : Type) where
  plan : PlanID
  (expectedRevision currentRevision revisionBefore : String)
  start : List ManagedFileEntry
  deriving DecidableEq

inductive Call (PlanID Scenario : Type) where
  | idle
  | planning (revision : String) (scenario : Scenario)
  | compared (plan : PlanID) (expectedRevision currentRevision : String)
  | locked (plan : PlanID) (expectedRevision currentRevision : String)
  | running (attempt : Attempt PlanID)
  | applied (attempt : Attempt PlanID)
  | failed
  deriving DecidableEq

structure World (Proc PlanID Scenario : Type) where
  files : List ManagedFileEntry
  plans : PlanID → Option (PlanMetadata Scenario)
  holder : Option Proc
  calls : Proc → Call PlanID Scenario

inductive Act (Proc PlanID Scenario : Type) where
  | plan (p : Proc) (baseRevision : String) (scenario : Scenario)
  /-- The plan is written under a new id. -/
  | record (p : Proc) (id : PlanID)
  | compare (p : Proc) (id : PlanID) (expectedRevision : String)
  | lock (p : Proc)
  | start (p : Proc)
  /-- A step of the scenario, or of its rollback. -/
  | write (p : Proc) (files : List ManagedFileEntry)
  | finish (p : Proc) (ok : Bool)

section
variable (H : Hashing) {Proc PlanID Scenario : Type} [DecidableEq Proc] [DecidableEq PlanID]

def World.become (w : World Proc PlanID Scenario) (p : Proc) (call : Call PlanID Scenario) :
    World Proc PlanID Scenario :=
  { w with calls := Function.update w.calls p call }

def World.act (w : World Proc PlanID Scenario) : Act Proc PlanID Scenario → World Proc PlanID Scenario
  | .plan p baseRevision scenario =>
    match w.calls p with
    | .idle =>
      if baseRevision = "" ∨ baseRevision ≠ revisionOfEntries H w.files then w.become p .failed
      else w.become p (.planning (revisionOfEntries H w.files) scenario)
    | _ => w
  | .record p id =>
    match w.calls p, w.plans id with
    | .planning revision scenario, none =>
      { w.become p .idle with plans := Function.update w.plans id (some ⟨revision,scenario⟩) }
    | _, _ => w
  | .compare p id expected =>
    match w.calls p with
    | .idle =>
      match w.plans id with
      | none => w.become p .failed
      | some planMeta =>
        let current := revisionOfEntries H w.files
        if current ≠ planMeta.workspaceRevision ∨ current ≠ expected then w.become p .failed
        else w.become p (.compared id expected current)
    | _ => w
  | .lock p =>
    match w.calls p, w.holder with
    | .compared id expected current, none => { w.become p (.locked id expected current) with holder := some p }
    | .compared _ _ _, some _ => w.become p .failed
    | _, _ => w
  | .start p =>
    match w.calls p with
    | .locked id expected current =>
      w.become p (.running ⟨id,expected,current,revisionOfEntries H w.files,w.files⟩)
    | _ => w
  | .write p files =>
    match w.calls p with
    | .running _ => { w with files := files }
    | _ => w
  | .finish p ok =>
    match w.calls p with
    | .running attempt => { w.become p (if ok then .applied attempt else .failed) with holder := none }
    | _ => w

def World.run (w : World Proc PlanID Scenario) (acts : List (Act Proc PlanID Scenario)) :
    World Proc PlanID Scenario :=
  acts.foldl (World.act H) w

def World.initial (files : List ManagedFileEntry) : World Proc PlanID Scenario :=
  ⟨files,fun _ => none,none,fun _ => .idle⟩

end

section
variable {H : Hashing} {Proc PlanID Scenario : Type}

def Compared (w : World Proc PlanID Scenario) (plan : PlanID) (expected current : String) : Prop :=
  ∃ planMeta, w.plans plan = some planMeta ∧ current = planMeta.workspaceRevision ∧ current = expected

/-- The apply has compared its revision and has not started its scenario. -/
def Call.waiting : Call PlanID Scenario → Bool
  | .compared _ _ _ => true
  | .locked _ _ _ => true
  | _ => false

/-- A write leaves the revision, or no apply is between its comparison and the
    start of its scenario. -/
def Quiet (H : Hashing) (w : World Proc PlanID Scenario) : Act Proc PlanID Scenario → Prop
  | .write _ files => revisionOfEntries H files = revisionOfEntries H w.files ∨
      ∀ q, (w.calls q).waiting = false
  | _ => True

def Known (H : Hashing) (w : World Proc PlanID Scenario) : Call PlanID Scenario → Prop
  | .compared plan expected current | .locked plan expected current =>
    Compared w plan expected current ∧ current = revisionOfEntries H w.files
  | .running a | .applied a =>
    Compared w a.plan a.expectedRevision (revisionOfEntries H a.start)
  | _ => True

def PlansKept (w v : World Proc PlanID Scenario) : Prop :=
  ∀ id planMeta, w.plans id = some planMeta → v.plans id = some planMeta

theorem Compared.mono (is : Compared w plan expected current) (kept : PlansKept w v) :
    Compared v plan expected current := by
  obtain ⟨planMeta,there,same⟩ := is
  exact ⟨planMeta,kept plan planMeta there,same⟩

theorem Known.mono (is : Known H w call) (kept : PlansKept w v)
    (files : call.waiting = true → revisionOfEntries H v.files = revisionOfEntries H w.files) :
    Known H v call := by
  cases call with
  | idle | planning | failed => trivial
  | compared | locked => exact ⟨is.1.mono kept,is.2.trans (files rfl).symm⟩
  | running a | applied a => exact Compared.mono is kept

variable [DecidableEq Proc]

/-- One call moves on, and the files stay. -/
theorem known_of_moved {w v : World Proc PlanID Scenario} (p : Proc) (call : Call PlanID Scenario)
    (known : ∀ q, Known H w (w.calls q)) (kept : PlansKept w v) (files : v.files = w.files)
    (calls : v.calls = Function.update w.calls p call) (is : Known H v call) :
    ∀ q, Known H v (v.calls q) := by
  intro q
  rw [calls]
  by_cases here : q = p
  · subst here
    rwa [Function.update_self]
  · rw [Function.update_of_ne here]
    exact (known q).mono kept fun _ => by rw [files]

variable [DecidableEq PlanID]

theorem act_known (w : World Proc PlanID Scenario) (a : Act Proc PlanID Scenario)
    (known : ∀ p, Known H w (w.calls p)) (quiet : Quiet H w a) :
    ∀ p, Known H (w.act H a) ((w.act H a).calls p) := by
  have same : PlansKept w w := fun _ _ there => there
  cases a <;> dsimp only [World.act]
  case plan p base scenario =>
    split
    · split
      · exact known_of_moved p .failed known same rfl rfl trivial
      · exact known_of_moved p (.planning _ scenario) known same rfl rfl trivial
    · exact known
  case record p id =>
    split
    · rename_i revision scenario planning free
      refine known_of_moved p .idle known ?_ rfl rfl trivial
      intro other planMeta there
      have differ : other ≠ id := by
        intro here
        rw [here,free] at there
        cases there
      exact (Function.update_of_ne differ _ _).trans there
    · exact known
  case compare p id expected =>
    split
    · split
      · exact known_of_moved p .failed known same rfl rfl trivial
      rename_i planMeta there
      split
      · exact known_of_moved p .failed known same rfl rfl trivial
      · rename_i agree
        rw [not_or,not_not,not_not] at agree
        exact known_of_moved p (.compared id expected _) known same rfl rfl ⟨⟨planMeta,there,agree⟩,rfl⟩
    · exact known
  case lock p =>
    have mine := known p
    split
    · rename_i id expected current at_ _
      rw [at_] at mine
      exact known_of_moved p (.locked id expected current) known same rfl rfl mine
    · exact known_of_moved p .failed known same rfl rfl trivial
    · exact known
  case start p =>
    have mine := known p
    split
    · rename_i id expected current at_
      rw [at_] at mine
      obtain ⟨compared,unmoved⟩ := mine
      exact known_of_moved p (.running _) known same rfl rfl (by rwa [unmoved] at compared)
    · exact known
  case write p files =>
    split
    · intro q
      refine (known q).mono same fun waits => ?_
      rcases quiet with unmoved | nobody
      · exact unmoved
      · rw [nobody q] at waits
        cases waits
    · exact known
  case finish p ok =>
    have mine := known p
    split
    · rename_i attempt at_
      rw [at_] at mine
      cases ok with
      | true => exact known_of_moved p (.applied attempt) known same rfl rfl mine
      | false => exact known_of_moved p .failed known same rfl rfl trivial
    · exact known

end

section Sample

def fileA : Bytes := [97]
def fileB : Bytes := [98]

def hostsFile (content : Bytes) : List ManagedFileEntry := [⟨"hosts.yml",0o644,false,content⟩]

def digestA : String := "ca978112ca1bbdcafac231b39a23dc4da786eff8147c4e72b9807785afee48bb"
def digestB : String := "3e23e8160039594a33894f6564e1b1348bbd7a0088d42c4acb73eeaed59c009d"
def revisionA : String := "b4903ae1eeccd49aae57291a3b4a690a71aa446ddd8bff8df3c2a3af8732d73c"
def revisionB : String := "f109635f06565d66d6ddf263818f104c08507d3a26ff72ee54eeebaf28e61879"

def hostsText (digest : String) : Bytes :=
  ["hosts.yml","-rw-r--r--","false",digest].flatMap fun f => bytesOf f ++ [0]

def sampleHashing : Hashing where
  sha256Hex bytes :=
    if bytes = fileA then digestA
    else if bytes = fileB then digestB
    else if bytes = hostsText digestA then revisionA
    else if bytes = hostsText digestB then revisionB
    else ""
  modeString _ := "-rw-r--r--"

theorem revision_fileB : revisionOfEntries sampleHashing (hostsFile fileB) = "sha256:" ++ revisionB := by
  decide +kernel

/-- Two applies of one plan, both compared before either has run. -/
def racingApplies : List (Act Bool Unit Unit) :=
  [.plan false ("sha256:" ++ revisionA) (),.record false (),
   .compare false () ("sha256:" ++ revisionA),.compare true () ("sha256:" ++ revisionA),
   .lock false,.start false,.write false (hostsFile fileB),.finish false true,
   .lock true,.start true,.write true (hostsFile fileA),.finish true true]

/-- Two plans are applied one after the other, and a third apply finds the lock
    taken. -/
def orderedApplies : List (Act (Fin 3) Bool Unit) :=
  [.plan 0 ("sha256:" ++ revisionA) (),.record 0 false,
   .compare 0 false ("sha256:" ++ revisionA),.compare 1 false ("sha256:" ++ revisionA),
   .lock 0,.lock 1,.start 0,.write 0 (hostsFile fileB),.finish 0 true,
   .plan 2 ("sha256:" ++ revisionB) (),.record 2 true,.compare 2 true ("sha256:" ++ revisionB),
   .lock 2,.start 2,.write 2 (hostsFile fileA),.finish 2 true]

end Sample

end Pilot.Workspace
