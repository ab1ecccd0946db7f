import Pilot.Workspace.Apply
import Pilot.Library.Fold

/-!
The rollback of a roster, after `cmd/pilot/cmd/edit_workspace_backup.go`,
`internal/inventory/roster_journal.go` and `roster_restore.go`. Other processes
write rosters without the workspace lock, so the rollback puts back what the
first journaled write of the session replaced, and only while the file still
holds what the last one left. It first compares the file with the snapshot,
and bytes that are the snapshot's again are not looked into any further.
-/
namespace Pilot.Workspace
open List

/-- A write of the session, as the journal has it; `before` is none for a roster
    that did not exist. -/
structure RosterWrite where
  before : Option Bytes
  after : Bytes
  failed : Bool
  deriving DecidableEq

inductive RosterError where
  | rosterChanged
  | mutationLocked
  | rosterLockFile
  | other (why : String)
  deriving DecidableEq

inductive LockState where
  | free
  | held
  | unusable
  | refused (why : String)
  deriving DecidableEq

def lockRosterFile : LockState → Except RosterError Unit
  | .free => .ok ()
  | .held => .error .mutationLocked
  | .unusable => .error .rosterLockFile
  | .refused why => .error (.other why)

def rosterStillHolds (current : Option Bytes) (expected : Bytes) : Except RosterError Unit :=
  match current with
  | none => .error (.other "no such file or directory")
  | some bytes => if bytes = expected then .ok () else .error .rosterChanged

/-- What the file holds afterwards. -/
def RestoreRosterFile (lock : LockState) (current : Option Bytes) (expected original : Bytes) :
    Except RosterError (Option Bytes) := do
  lockRosterFile lock
  if current = some original then
    return current
  rosterStillHolds current expected
  return some original

def RemoveRosterFile (lock : LockState) (current : Option Bytes) (expected : Bytes) :
    Except RosterError (Option Bytes) := do
  lockRosterFile lock
  rosterStillHolds current expected
  return none

structure RollbackReport where
  left : List String
  leftPlaintext : Bool
  (kept notes : List String)
  deriving DecidableEq

structure RosterFile where
  rels : List String
  shown : String
  (before after : Option Bytes)
  writes : List RosterWrite
  touched : Bool

section
variable (isAnsibleVaultEncrypted : Bytes → Bool)

def rosterEncrypted (before after : Option Bytes) : Bool :=
  before.any isAnsibleVaultEncrypted || after.any isAnsibleVaultEncrypted

def leave (f : RosterFile) (why : String) (report : RollbackReport) : RollbackReport :=
  { report with
    left := report.left ++ [f.shown ++ " (" ++ why ++ ")"]
    leftPlaintext := report.leftPlaintext || !rosterEncrypted isAnsibleVaultEncrypted f.before f.after }

def keep (f : RosterFile) (note : String) (report : RollbackReport) : RollbackReport :=
  { report with
    kept := report.kept ++ f.rels
    notes := report.notes ++ [String.intercalate ", " f.rels ++ ": " ++ note] }

/-- Why the writes do not form one chain; `prev` is the write before the list. -/
def chainBreak (prev : Option RosterWrite) : List RosterWrite → Option String
  | [] => none
  | w :: rest =>
      if w.failed then
        some "a write of this apply to it failed part-way, so what it holds is unknown"
      else if prev.any fun q => w.before ≠ some q.after then
        some ("another pilot process changed it between this apply's writes to it, so undoing them would undo " ++
          "that change too")
      else chainBreak (some w) rest

def undoWrites (lock : LockState) (current : Option Bytes) (first last : RosterWrite) :
    Except RosterError (Option Bytes) :=
  match first.before with
  | some original => RestoreRosterFile lock current last.after original
  | none => RemoveRosterFile lock current last.after

/-- What the file holds afterwards, and the report. `current` is what it holds
    when the rollback has its lock. -/
def restoreRosterFile (f : RosterFile) (lock : LockState) (current : Option Bytes)
    (report : RollbackReport) : Except String (Option Bytes × RollbackReport) :=
  if f.before = f.after then .ok (current,report)
  else
    match f.writes with
    | [] =>
        if f.touched then
          .ok (current,leave isAnsibleVaultEncrypted f ("it changed while a step ran, but this apply recorded no " ++
            "write to it; pilot cannot tell whose change it is, so it was not rolled back") report)
        else
          .ok (current,keep f ("another pilot process changed it during this apply, which never wrote it; the " ++
            "rollback kept that change") report)
    | first :: rest =>
        match chainBreak none (first :: rest) with
        | some why => .ok (current,leave isAnsibleVaultEncrypted f why report)
        | none =>
            if f.after = none then
              .ok (current,leave isAnsibleVaultEncrypted f "it was removed after this apply wrote it" report)
            else
              match undoWrites lock current first (rest.getLastD first) with
              | .error .rosterChanged =>
                  .ok (current,leave isAnsibleVaultEncrypted f ("another pilot process changed it after this " ++
                    "apply wrote it") report)
              | .error .mutationLocked =>
                  .ok (current,leave isAnsibleVaultEncrypted f "another pilot process holds its lock" report)
              | .error .rosterLockFile =>
                  .ok (current,leave isAnsibleVaultEncrypted f "its lock file cannot be used" report)
              | .error (.other why) => .error ("rollback: restore " ++ f.shown ++ ": " ++ why)
              | .ok content =>
                  if first.before ≠ f.before then
                    .ok (content,keep f ("another pilot process changed it during this apply before this apply " ++
                      "wrote it; the rollback undid only this apply's writes and kept that change") report)
                  else .ok (content,report)

end

def Named (f : RosterFile) (report : RollbackReport) : Prop :=
  (∃ why, f.shown ++ " (" ++ why ++ ")" ∈ report.left) ∨ ∀ rel ∈ f.rels, rel ∈ report.kept

variable {encrypted : Bytes → Bool}

theorem leave_named (f : RosterFile) (why : String)
    (report : RollbackReport) : Named f (leave encrypted f why report) :=
  Or.inl ⟨why,mem_append_right _ (mem_singleton_self _)⟩

theorem keep_named (f : RosterFile) (note : String) (report : RollbackReport) :
    Named f (keep f note report) :=
  Or.inr fun _ rel => mem_append_right _ rel

theorem rosterStillHolds_ok : rosterStillHolds current expected = .ok () ↔ current = some expected := by
  cases current with
  | none | some bytes => simp [rosterStillHolds]

theorem lockRosterFile_ok : lockRosterFile lock = .ok () ↔ lock = .free := by
  cases lock <;> simp [lockRosterFile]

theorem undoWrites_ok (done : undoWrites lock current first last = .ok r) :
    lock = .free ∧ r = first.before ∧ (current = some last.after ∨ current = first.before) := by
  unfold undoWrites at done
  cases start : first.before with
  | none =>
    rw [start] at done
    obtain ⟨_,locked,done⟩ := Fold.bind_ok done
    obtain ⟨_,holds,done⟩ := Fold.bind_ok done
    cases done
    exact ⟨lockRosterFile_ok.mp locked,rfl,Or.inl (rosterStillHolds_ok.mp holds)⟩
  | some original =>
    rw [start] at done
    obtain ⟨_,locked,done⟩ := Fold.bind_ok done
    split at done
    · rename_i same
      cases done
      exact ⟨lockRosterFile_ok.mp locked,same,Or.inr same⟩
    · obtain ⟨_,holds,done⟩ := Fold.bind_ok done
      cases done
      exact ⟨lockRosterFile_ok.mp locked,rfl,Or.inl (rosterStillHolds_ok.mp holds)⟩

theorem undoWrites_holds (holds : current = some last.after) :
    undoWrites .free current first last = .ok first.before := by
  unfold undoWrites
  cases first.before with
  | none => simp [RemoveRosterFile,lockRosterFile,rosterStillHolds_ok.mpr holds,bind,Except.bind,pure,Except.pure]
  | some original =>
    simp only [RestoreRosterFile,lockRosterFile,rosterStillHolds_ok.mpr holds,bind,Except.bind,pure,Except.pure]
    split
    · rename_i same
      rw [same]
    · rfl

inductive Outcome (f : RosterFile) (lock : LockState) (current r : Option Bytes)
    (report report' : RollbackReport) : Prop
  | unchanged (same : f.before = f.after) (result : r = current) (quiet : report' = report)
  | notUndone (differ : f.before ≠ f.after) (result : r = current) (named : Named f report')
      (why : ∀ first rest, f.writes = first :: rest → chainBreak none (first :: rest) = none →
        f.after ≠ none → ¬(lock = .free ∧ current = some (rest.getLastD first).after))
  | undone (differ : f.before ≠ f.after) (first : RosterWrite) (rest : List RosterWrite)
      (writes : f.writes = first :: rest) (chained : chainBreak none (first :: rest) = none)
      (there : f.after ≠ none) (result : r = first.before)
      (found : lock = .free ∧ (current = some (rest.getLastD first).after ∨ current = first.before))
      (named : first.before ≠ f.before → Named f report')

theorem restoreRosterFile_outcome
    (done : restoreRosterFile encrypted f lock current report = .ok (r,report')) :
    Outcome f lock current r report report' := by
  unfold restoreRosterFile at done
  split at done
  · rename_i same
    cases done
    exact .unchanged same rfl rfl
  rename_i differ
  split at done
  · rename_i none_
    have vacuous : ∀ first rest, f.writes = first :: rest → chainBreak none (first :: rest) = none →
        f.after ≠ none → ¬(lock = .free ∧ current = some (rest.getLastD first).after) := by
      intro first rest some_
      rw [none_] at some_
      cases some_
    split at done
    · cases done
      exact .notUndone differ rfl (leave_named _ _ _) vacuous
    · cases done
      exact .notUndone differ rfl (keep_named _ _ _) vacuous
  rename_i first rest writes
  -- the other cases keep the same first write
  have only : ∀ {P : RosterWrite → List RosterWrite → Prop}, P first rest →
      ∀ first' rest', f.writes = first' :: rest' → P first' rest' := by
    intro P here first' rest' writes'
    rw [writes] at writes'
    cases writes'
    exact here
  split at done
  · rename_i why broken
    cases done
    refine .notUndone differ rfl (leave_named _ _ _) (only ?_)
    intro chained
    rw [broken] at chained
    cases chained
  rename_i chained
  split at done
  · rename_i gone
    cases done
    exact .notUndone differ rfl (leave_named _ _ _) (only fun _ there => absurd gone there)
  rename_i there
  have failed {e : RosterError} (err : undoWrites lock current first (rest.getLastD first) = .error e) :
      ¬(lock = .free ∧ current = some (rest.getLastD first).after) := by
    rintro ⟨rfl,holds⟩
    rw [undoWrites_holds holds] at err
    cases err
  split at done
  iterate 3
    rename_i err
    cases done
    exact .notUndone differ rfl (leave_named _ _ _) (only fun _ _ => failed err)
  · cases done
  rename_i content undid
  obtain ⟨free,back,found⟩ := undoWrites_ok undid
  split at done
  · cases done
    exact .undone differ first rest writes chained there back ⟨free,found⟩ fun _ => keep_named _ _ _
  · rename_i same
    cases done
    exact .undone differ first rest writes chained there back ⟨free,found⟩ fun other => absurd other same

inductive FileAct where
  | session (data : Bytes)
  | foreign (content : Option Bytes)
  deriving DecidableEq

def replay (content : Option Bytes) : List FileAct → Option Bytes × List RosterWrite
  | [] => (content,[])
  | .foreign other :: rest => replay other rest
  | .session data :: rest =>
      let later := replay (some data) rest
      (later.1,⟨content,data,false⟩ :: later.2)

/-- Some run of foreign writes leaves other bytes than it found. The run at hand
    found `found` and has left `content` so far. -/
def LaterRunEffective (found : Bytes) (content : Option Bytes) : List FileAct → Prop
  | [] => content ≠ some found
  | .foreign other :: rest => LaterRunEffective found other rest
  | .session data :: rest => content ≠ some found ∨ LaterRunEffective data (some data) rest

/-- An effective foreign run follows the session's first write. -/
def EffectiveRun : List FileAct → Prop
  | [] => False
  | .foreign _ :: rest => EffectiveRun rest
  | .session data :: rest => LaterRunEffective data (some data) rest

instance decidableLaterRun (found : Bytes) (content : Option Bytes) :
    (acts : List FileAct) → Decidable (LaterRunEffective found content acts)
  | [] => inferInstanceAs (Decidable (content ≠ some found))
  | .foreign other :: rest => decidableLaterRun found other rest
  | .session data :: rest =>
      have := decidableLaterRun data (some data) rest
      inferInstanceAs (Decidable (content ≠ some found ∨ LaterRunEffective data (some data) rest))

instance decidableEffectiveRun : (acts : List FileAct) → Decidable (EffectiveRun acts)
  | [] => inferInstanceAs (Decidable False)
  | .foreign _ :: rest => decidableEffectiveRun rest
  | .session data :: rest => decidableLaterRun data (some data) rest

variable {rest : List RosterWrite}

theorem chainBreak_cons (whole : w.failed = false) :
    chainBreak (some q) (w :: rest) = none ↔ w.before = some q.after ∧ chainBreak (some w) rest = none := by
  rw [chainBreak]
  by_cases follows : w.before = some q.after
  · simp [whole,follows]
  · simp [whole,follows]

/-- The journal tells effective runs: its records form a chain up to the bytes
    that the file holds, when no run was effective. -/
theorem laterRun_iff_chain (w : RosterWrite) (content : Option Bytes) (acts : List FileAct) :
    ¬LaterRunEffective w.after content acts ↔
      chainBreak (some w) (replay content acts).2 = none ∧
        (replay content acts).1 = some ((replay content acts).2.getLastD w).after := by
  induction acts generalizing w content with
  | nil => simp [LaterRunEffective,replay,chainBreak]
  | cons a rest ih =>
    cases a with
    | foreign other => exact ih w other
    | session data =>
      have step := ih ⟨content,data,false⟩ (some data)
      simp only [LaterRunEffective,not_or,not_not,replay,getLastD_cons]
      rw [chainBreak_cons rfl,step,and_assoc]

theorem chainBreak_first (whole : w.failed = false) :
    chainBreak none (w :: rest) = chainBreak (some w) rest := by
  rw [chainBreak]
  simp [whole]

theorem effectiveRun_iff_chain (content : Option Bytes) (acts : List FileAct)
    (writes : (replay content acts).2 = first :: rest) :
    ¬EffectiveRun acts ↔ chainBreak none (first :: rest) = none ∧
      (replay content acts).1 = some (rest.getLastD first).after := by
  induction acts generalizing content with
  | nil => cases writes
  | cons a acts ih =>
    cases a with
    | foreign other => exact ih other writes
    | session data =>
      obtain ⟨rfl,rfl⟩ := writes
      rw [chainBreak_first rfl]
      exact laterRun_iff_chain ⟨content,data,false⟩ (some data) acts

theorem replay_foreign (content : Option Bytes) (acts : List FileAct) (later : List (Option Bytes)) :
    replay content (acts ++ later.map .foreign) =
      (later.getLastD (replay content acts).1,(replay content acts).2) := by
  induction acts generalizing content with
  | nil =>
    induction later generalizing content with
    | nil => rfl
    | cons c later ih => exact (ih c).trans (by cases later <;> rfl)
  | cons a acts ih =>
    cases a with
    | foreign other => exact ih other
    | session data =>
      simp [replay,ih]

/-- What the file held just before the session's first write, if it made one. -/
def beforeFirstWrite (content : Option Bytes) : List FileAct → Option (Option Bytes)
  | [] => none
  | .foreign other :: rest => beforeFirstWrite other rest
  | .session _ :: _ => some content

theorem beforeFirstWrite_eq :
    beforeFirstWrite content acts = (replay content acts).2.head?.map RosterWrite.before := by
  induction acts generalizing content with
  | nil => rfl
  | cons a acts ih =>
    cases a with
    | foreign other => exact ih
    | session data => rfl

def scannedFile (rel : String) (snapshot : Option Bytes) (acts : List FileAct) (touched : Bool) :
    RosterFile where
  rels := [rel]
  shown := rel
  before := snapshot
  after := (replay snapshot acts).1
  writes := (replay snapshot acts).2
  touched := touched

def RollbackReport.empty : RollbackReport := ⟨[],false,[],[]⟩

/-- The rollback of one `.vault/` file in `restoreManagedFiles`. A file without a
    recorded write that is not known for a roster is a plain one. -/
def restoreManagedFile (isAnsibleVaultEncrypted : Bytes → Bool) (known : Bool) (f : RosterFile)
    (lock : LockState) (current : Option Bytes) : Except String (Option Bytes × RollbackReport) :=
  if f.writes ≠ [] ∨ known = true then
    restoreRosterFile isAnsibleVaultEncrypted f lock current .empty
  else
    match f.before,f.after,current with
    | some content,_,_ => .ok (some content,.empty)
    | none,none,_ => .ok (current,.empty)
    | none,some _,some _ => .ok (none,.empty)
    | none,some _,none =>
        .error ("rollback: remove " ++ f.shown ++ " (created by the failed scenario): no such file or directory")

/-- The rollback undoes the session's writes and nobody else's: `whole` are the
    writes up to the rollback, which found `current` and left `r`. -/
structure OnlyOwnUndone (f : RosterFile) (whole : List FileAct) (current r : Option Bytes)
    (report : RollbackReport) : Prop where
  unwritten : beforeFirstWrite f.before whole = none → r = current
  undone : ∀ start, beforeFirstWrite f.before whole = some start → ¬EffectiveRun whole → r = start
  leftAlone : ∀ start, beforeFirstWrite f.before whole = some start → EffectiveRun whole → r = current
  named : r ≠ f.before → Named f report

/-- When the rollback is right about the file. -/
structure Attributable (known : Bool) (f : RosterFile) (whole : List FileAct) (lock : LockState)
    (current : Option Bytes) : Prop where
  recognised : beforeFirstWrite f.before whole = none → known = false → current = f.before
  noLateWrite : f.before = f.after → current = f.before
  attempted : ∀ start, beforeFirstWrite f.before whole = some start → ¬EffectiveRun whole →
    (f.before = f.after ∨ f.after = none ∨ lock ≠ .free) → current = start

theorem not_named_empty (rels : f.rels = [rel]) : ¬Named f .empty := by
  rintro (⟨why,left⟩ | kept)
  · exact absurd left not_mem_nil
  · exact absurd (kept rel (rels ▸ mem_singleton_self rel)) not_mem_nil

section
variable {known : Bool} {rel : String} {f : RosterFile} {lock : LockState}
  {current r : Option Bytes} {report : RollbackReport}

theorem roster_undoes_only_own_iff (outcome : Outcome f lock current r .empty report)
    (single : f.rels = [rel]) (roster : f.writes ≠ [] ∨ known = true)
    (start : beforeFirstWrite f.before whole = f.writes.head?.map RosterWrite.before)
    (chain : ∀ first rest, f.writes = first :: rest → (¬EffectiveRun whole ↔
      chainBreak none (first :: rest) = none ∧ current = some (rest.getLastD first).after)) :
    OnlyOwnUndone f whole current r report ↔ Attributable known f whole lock current := by
  have recognised : beforeFirstWrite f.before whole = none → known = false → current = f.before := by
    intro unwritten unknown
    rw [start,Option.map_eq_none_iff,head?_eq_none_iff] at unwritten
    cases roster with
    | inl wrote => exact absurd unwritten wrote
    | inr is => rw [unknown] at is; cases is
  cases outcome with
  | unchanged same result quiet =>
    subst result quiet
    constructor
    · intro claim
      have noLateWrite : r = f.before := by
        by_contra differ
        exact not_named_empty single (claim.named differ)
      exact ⟨recognised,fun _ => noLateWrite,fun s wrote calm _ => claim.undone s wrote calm⟩
    · intro cond
      refine ⟨fun _ => rfl,?_,fun _ _ _ => rfl,fun differ => absurd (cond.noLateWrite same) differ⟩
      intro s wrote calm
      exact cond.attempted s wrote calm (Or.inl same)
  | notUndone differ result named why =>
    subst result
    constructor
    · intro claim
      exact ⟨recognised,fun same => absurd same differ,fun s wrote calm _ => claim.undone s wrote calm⟩
    intro cond
    refine ⟨fun _ => rfl,?_,fun _ _ _ => rfl,fun _ => named⟩
    intro s wrote calm
    apply cond.attempted s wrote calm
    cases writes : f.writes with
    | nil => rw [start,writes] at wrote; cases wrote
    | cons first rest =>
      obtain ⟨chained,holds⟩ := (chain first rest writes).mp calm
      by_cases gone : f.after = none
      · exact Or.inr (Or.inl gone)
      · exact Or.inr (Or.inr fun free => why first rest writes chained gone ⟨free,holds⟩)
  | undone differ first rest writes chained there result found named =>
    subst result
    obtain ⟨free,found⟩ := found
    have begins : beforeFirstWrite f.before whole = some first.before := by rw [start,writes]; rfl
    constructor
    · intro _
      refine ⟨recognised,fun same => absurd same differ,?_⟩
      rintro _ _ _ (same | gone | busy)
      · exact absurd same differ
      · exact absurd gone there
      · exact absurd free busy
    intro _
    refine ⟨?_,?_,?_,named⟩
    · intro unwritten
      rw [begins] at unwritten
      cases unwritten
    · intro s wrote _
      rw [begins] at wrote
      exact Option.some.inj wrote
    · intro _ _ effective
      cases found with
      | inl holds => exact absurd effective ((chain first rest writes).mpr ⟨chained,holds⟩)
      | inr same => exact same.symm

theorem plain_undoes_only_own_iff
    (done : restoreManagedFile encrypted known f lock current = .ok (r,report))
    (single : f.rels = [rel]) (plain : f.writes = []) (unknown : known = false)
    (start : beforeFirstWrite f.before whole = f.writes.head?.map RosterWrite.before) :
    OnlyOwnUndone f whole current r report ↔ Attributable known f whole lock current := by
  have unwritten : beforeFirstWrite f.before whole = none := by rw [start,plain]; rfl
  have result : report = .empty ∧ (current = f.before → r = current) := by
    unfold restoreManagedFile at done
    rw [if_neg (by simp [plain,unknown])] at done
    cases before : f.before with
    | some content =>
      simp only [before] at done
      cases done
      exact ⟨rfl,Eq.symm⟩
    | none =>
      cases after : f.after with
      | none =>
        simp only [before,after] at done
        cases done
        exact ⟨rfl,fun _ => rfl⟩
      | some found =>
        cases current with
        | none =>
          simp only [before,after] at done
          cases done
        | some bytes =>
          simp only [before,after] at done
          cases done
          exact ⟨rfl,Eq.symm⟩
  obtain ⟨quiet,kept⟩ := result
  subst quiet
  have none_ (s) : beforeFirstWrite f.before whole ≠ some s := by simp [unwritten]
  constructor
  · intro claim
    have back : current = f.before := by
      rw [← claim.unwritten unwritten]
      by_contra differ
      exact not_named_empty single (claim.named differ)
    exact ⟨fun _ _ => back,fun _ => back,fun s wrote => absurd wrote (none_ s)⟩
  · intro cond
    have back := cond.recognised unwritten unknown
    exact ⟨fun _ => kept back,fun s wrote => absurd wrote (none_ s),fun s wrote => absurd wrote (none_ s),
      fun differ => absurd ((kept back).trans back) differ⟩

end

theorem rollback_undoes_only_own_iff {encrypted : Bytes → Bool} {known touched : Bool} {rel : String}
    {snapshot : Option Bytes} {acts : List FileAct} (later : List (Option Bytes)) {lock : LockState}
    {r : Option Bytes} {report : RollbackReport}
    (done : restoreManagedFile encrypted known (scannedFile rel snapshot acts touched) lock
      (later.getLastD (replay snapshot acts).1) = .ok (r,report)) :
    OnlyOwnUndone (scannedFile rel snapshot acts touched) (acts ++ later.map .foreign)
        (later.getLastD (replay snapshot acts).1) r report ↔
      Attributable known (scannedFile rel snapshot acts touched) (acts ++ later.map .foreign) lock
        (later.getLastD (replay snapshot acts).1) := by
  have end_ := replay_foreign snapshot acts later
  have start : beforeFirstWrite snapshot (acts ++ later.map .foreign) =
      (replay snapshot acts).2.head?.map RosterWrite.before := by
    rw [beforeFirstWrite_eq,end_]
  by_cases roster : (scannedFile rel snapshot acts touched).writes ≠ [] ∨ known = true
  · unfold restoreManagedFile at done
    rw [if_pos roster] at done
    refine roster_undoes_only_own_iff (restoreRosterFile_outcome done) rfl roster start ?_
    intro first rest writes
    have chain := effectiveRun_iff_chain snapshot (acts ++ later.map .foreign)
      (show (replay snapshot (acts ++ later.map .foreign)).2 = first :: rest by rw [end_]; exact writes)
    rw [end_] at chain
    exact chain
  · obtain ⟨plain,unknown⟩ := not_or.mp roster
    exact plain_undoes_only_own_iff done rfl (not_not.mp plain) (Bool.eq_false_iff.mpr unknown) start

def usersAnn : Bytes := bytesOf "users: [ann]\n"
def usersAnnBob : Bytes := bytesOf "users: [ann, bob]\n"
def usersAnnBobEve : Bytes := bytesOf "users: [ann, bob, eve]\n"

/-- Another process adds bob to the roster, and a step of the session removes bob
    again. The bytes are the snapshot's, so the rollback does not bring bob back. -/
theorem removed_entry_is_not_brought_back :
    let acts := [.foreign (some usersAnnBob),.session usersAnn]
    let f := scannedFile ".vault/ipa-identity.yaml" (some usersAnn) acts true
    restoreManagedFile (fun _ => false) true f .free (some usersAnn) = .ok (some usersAnn,.empty) ∧
      ¬OnlyOwnUndone f acts (some usersAnn) (some usersAnn) .empty := by
  intro acts f
  have differ : usersAnn ≠ usersAnnBob := by decide +kernel
  constructor
  · simp [f,acts,restoreManagedFile,restoreRosterFile,scannedFile,replay]
  · intro claim
    have back := claim.undone (some usersAnnBob) rfl (by simp [acts,EffectiveRun,LaterRunEffective])
    exact differ (Option.some.inj back)

/-- A session that adds eve to the same roster is undone, and bob stays. -/
theorem earlier_change_is_kept :
    let acts := [.foreign (some usersAnnBob),.session usersAnnBobEve]
    let f := scannedFile ".vault/ipa-identity.yaml" (some usersAnn) acts true
    ∃ report, OnlyOwnUndone f acts (some usersAnnBobEve) (some usersAnnBob) report := by
  intro acts f
  have ann : usersAnn ≠ usersAnnBobEve := by decide +kernel
  have bob : usersAnnBob ≠ usersAnnBobEve := by decide +kernel
  have before : usersAnnBob ≠ usersAnn := by decide +kernel
  have done : restoreManagedFile (fun _ => false) true f .free (some usersAnnBobEve) =
      .ok (some usersAnnBob,keep f ("another pilot process changed it during this apply before this apply wrote " ++
        "it; the rollback undid only this apply's writes and kept that change") .empty) := by
    simp [f,acts,restoreManagedFile,restoreRosterFile,scannedFile,replay,chainBreak,undoWrites,RestoreRosterFile,
      lockRosterFile,rosterStillHolds,ann,bob.symm,before,bind,Except.bind,pure,Except.pure]
  refine ⟨_,(rollback_undoes_only_own_iff [] done).mpr ⟨?_,?_,?_⟩⟩
  · intro unwritten
    cases unwritten
  · intro same
    exact absurd (Option.some.inj same) ann
  rintro _ _ _ (same | gone | busy)
  · exact absurd (Option.some.inj same) ann
  · cases gone
  · exact absurd rfl busy

end Pilot.Workspace
