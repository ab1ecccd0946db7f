import Pilot.Roster.References

/-!
`RemoveRosterUser` and `RemoveRosterGroup` of `internal/inventory/
roster_remove.go`: the entry and, with a cascade, the references to it are
cut out of the document's nodes, and the result is written if it validates.
-/
namespace Pilot.Roster
open Yaml

def RosterViolation.string (v : RosterViolation) : String := s!"[{v.rule}] {v.detail}"

variable (Y : Library) (F : Formats)

def removeScalarFromNodeSequence (value : String) (seq : Node) : Node :=
  seq.withContent
    (seq.content.filter (fun item => !(decide (item.kind = .scalar) && item.value == value)))

def decodedName (item : Node) : Option String :=
  match decodeMap Y item with
  | .ok m => some (stringField m "name")
  | .error _ => none

def removeNamedGroupFromNodeSequence (groupname : String) (seq : Node) : Node :=
  seq.withContent (seq.content.filter (fun item => decodedName Y item != some groupname))

/-- How the cascade edits a list. -/
inductive Prune where
  | names
  | namedGroups
  deriving DecidableEq

def Prune.onNode (name : String) : Prune → Node → Node
  | .names => removeScalarFromNodeSequence name
  | .namedGroups => removeNamedGroupFromNodeSequence Y name

def editNodes (edits : List (List Step × Prune)) (name : String) (top : Node) : Node :=
  edits.foldl (fun n e => editAt (e.2.onNode Y name) e.1 n) top

def Section.edits (s : Section) : List (List Step × Prune) := s.lists.map (fun l => (s.path l, .names))

def nfsPath (part : String) : List Step :=
  [.child "nfs",.child "servers",.items,.child "shares",.items,.child "acl",.child part,
    .child "named_groups"]

def EntryKind.edits : EntryKind → List (List Step × Prune)
  | user => userSections.flatMap Section.edits
  | group => groupSections.flatMap Section.edits ++ aclParts.map (fun part => (nfsPath part, .namedGroups))

def removeUserReferencesFromNode (top : Node) (username : String) : Node :=
  editNodes Y EntryKind.user.edits username top

def removeGroupReferencesFromNode (top : Node) (groupname : String) : Node :=
  editNodes Y EntryKind.group.edits groupname top

def EntryKind.removeReferencesFromNode : EntryKind → Node → String → Node
  | user => removeUserReferencesFromNode Y
  | group => removeGroupReferencesFromNode Y

def deleteSequenceEntryByName (listKey name : String) (top : Node) : Node :=
  editAt (fun list => list.withContent
    (list.content.eraseP (fun item => decodedName Y item == some name))) [.child listKey] top

def entryStep (listKey name : String) (found : Option Fields) (item : Node) :
    Except String (Option Fields) := do
  let m ← wrapError s!"decode {listKey} entry: " (decodeMap Y item)
  if stringField m "name" ≠ name then return found
  else if found.isSome then
    .error (s!"name {F.quote name} is ambiguous (more than one {listKey} entry already has it); fix the " ++
      "duplicate by hand first")
  else return some m

def findSequenceEntryFields (top : Node) (listKey name : String) : Except String Fields :=
  match findMappingChild top listKey with
  | some (.sequence items) => do
    match ← items.foldlM (entryStep Y F listKey name) none with
    | some fields => return fields
    | none => .error s!"no {listKey} entry named {F.quote name}"
  | _ => .error s!"no {listKey} entry named {F.quote name} (no {listKey}: list)"

def validateRosterNode (top : Node) : Except String (List RosterViolation) := do
  let m ← decodeMap Y top
  return validateRoster F m

def withoutEntry (kind : EntryKind) (name : String) (cascadeReferences : Bool) (top : Node) : Node :=
  deleteSequenceEntryByName Y kind.listKey name
    (if cascadeReferences then kind.removeReferencesFromNode Y top name else top)

def removeFrom (kind : EntryKind) (path name : String) (cascadeReferences : Bool) (top : Node) :
    Except String Node := do
  let fields ← wrapError s!"roster {path}: " (findSequenceEntryFields Y F top kind.listKey name)
  if stateOrDefault fields "present" = "absent" then
    .error s!"roster {path}: {kind.noun} {F.quote name} is already state: absent: {kind.errAbsentLifecycle}"
  else
    let current ← wrapError s!"roster {path}: " (decodeMap Y top)
    let refs := kind.references current name
    match refs.find? (fun ref => ref.cascade = .blocked) with
    | some ref =>
      .error (s!"roster {path}: cannot remove {kind.noun} {F.quote name}: blocked reference {ref.path} " ++
        s!"({ref.explanation})")
    | none =>
      if refs ≠ [] ∧ ¬ cascadeReferences then
        .error (s!"roster {path}: cannot remove {kind.noun} {F.quote name}: still referenced ({refs.length} " ++
          "reference(s)); rerun with --cascade-references")
      else
        let candidate := withoutEntry Y kind name cascadeReferences top
        match ← wrapError s!"roster {path}: " (validateRosterNode Y F candidate) with
        | [] => return candidate
        | v :: _ =>
          .error s!"roster {path}: candidate would be invalid after removing {kind.noun} {F.quote name}: {v.string}"

def removalCandidate (kind : EntryKind) (path text name : String) (cascadeReferences : Bool) :
    Except String Node :=
  if isVaultEncrypted text then .error errRosterEncrypted
  else do
    match ← wrapError s!"parse roster {path}: " (Y.parse text) with
    | some (.mapping content) => removeFrom Y F kind path name cascadeReferences (.mapping content)
    | _ => .error s!"roster {path}: expected a top-level YAML mapping"

/-- The file after the removal, and its error. The file is locked meanwhile
    and reads and writes succeed. -/
def removeEntry (kind : EntryKind) (path text name : String) (cascadeReferences : Bool) :
    String × Option String :=
  match removalCandidate Y F kind path text name cascadeReferences with
  | .ok candidate => (Y.render candidate, none)
  | .error err => (text, some err)

def removeRosterUser (path text username : String) (cascadeReferences : Bool) :
    String × Option String :=
  removeEntry Y F .user path text username cascadeReferences

def removeRosterGroup (path text groupname : String) (cascadeReferences : Bool) :
    String × Option String :=
  removeEntry Y F .group path text groupname cascadeReferences

/-- A removal from a document, with the document it may write. -/
structure RemovalInput (kind : EntryKind) (text name : String) (top : Node) (root : Fields) : Prop
    extends RosterDocument Y text top root where
  named : name ≠ ""
  rereads : Rereads Y (withoutEntry Y kind name true top)

/-- What a removal that succeeds has found. -/
structure Removed (kind : EntryKind) (name : String) (cascadeReferences : Bool) (top : Node)
    (written : Fields) : Prop where
  listed : ∃ fields, findSequenceEntryFields Y F top kind.listKey name = .ok fields
  decoded : decodeMap Y (withoutEntry Y kind name cascadeReferences top) = .ok written
  valid : validateRoster F written = []

section
variable {Y : Library} {F : Formats} {kind : EntryKind} {path text name : String} {cascade : Bool}
  {top : Node} {root : Fields}

theorem removeFrom_ok (ok : removeFrom Y F kind path name cascade top = .ok candidate) :
    candidate = withoutEntry Y kind name cascade top ∧ ∃ written, Removed Y F kind name cascade top written := by
  obtain ⟨fields,search,ok⟩ := Fold.bind_ok ok
  split at ok
  · cases ok
  obtain ⟨current,-,ok⟩ := Fold.bind_ok ok
  dsimp only at ok
  split at ok
  · cases ok
  split at ok
  · cases ok
  obtain ⟨violations,checked,ok⟩ := Fold.bind_ok ok
  obtain ⟨written,decoded,checked⟩ := Fold.bind_ok (wrapError_ok.mp checked)
  cases checked
  split at ok
  · rename_i valid
    cases ok
    exact ⟨rfl,written,⟨fields,wrapError_ok.mp search⟩,decoded,valid⟩
  · cases ok

theorem RosterDocument.removed (document : RosterDocument Y text top root)
    (ok : (removeEntry Y F kind path text name cascade).2 = none) :
    (removeEntry Y F kind path text name cascade).1 = Y.render (withoutEntry Y kind name cascade top) ∧
      ∃ written, Removed Y F kind name cascade top written := by
  unfold removeEntry at ok ⊢
  split at ok
  · rename_i candidate made
    rw [removalCandidate,document.unencrypted,document.parsed] at made
    obtain ⟨doc,same,made⟩ := Fold.bind_ok made
    cases same
    split at made
    · rename_i content is
      cases is
      obtain ⟨rfl,removed⟩ := removeFrom_ok made
      exact ⟨rfl,removed⟩
    · cases made
  · cases ok

theorem RemovalInput.read_written (input : RemovalInput Y kind text name top root)
    (removed : Removed Y F kind name true top written) (path : String) :
    readRosterAsMap Y path (Y.render (withoutEntry Y kind name true top)) = .ok written :=
  (input.rereads.document removed.decoded).read path

end

end Pilot.Roster
