import Pilot.Roster.Document

/-!
`internal/inventory/roster_references.go`: the references of a roster to a
user or a group. The two kinds of entry differ in their sections only, since
no reference to a user is blocked.
-/
namespace Pilot.Roster
open Yaml List

inductive RosterReferenceCascade where
  | removable | blocked
  deriving DecidableEq

structure RosterReference where
  (kind path : String)
  cascade : RosterReferenceCascade
  explanation : String
  deriving DecidableEq

def sortRosterReferences (refs : List RosterReference) : List RosterReference :=
  refs.insertionSort (fun a b => a.path ≤ b.path)

/-- A list of names in a block of an entry. -/
structure NameList where
  (kind block key : String)

def NameList.names (l : NameList) (entry : Fields) : List String :=
  stringListField (mapField entry l.block) l.key

/-- A list of entries, at the top of the roster or in a block of it, and the
    lists of names in an entry. -/
structure Section where
  key : String
  inner : Option String
  lists : List NameList

namespace Section

def entries (s : Section) (root : Fields) : List Fields :=
  match s.inner with
  | none => maps (listField root s.key)
  | some list => maps (listField (mapField root s.key) list)

def path (s : Section) (l : NameList) : List Step :=
  .child s.key :: (s.inner.toList.map .child ++ [.items,.child l.block,.child l.key])

def reference (s : Section) (l : NameList) (entry : Fields) : RosterReference :=
  let label := stringField entry "name"
  let place := ".".intercalate (s.key :: s.inner.toList)
  ⟨l.kind,s!"{place}[{label}].{l.block}.{l.key}",.removable,""⟩

def references (s : Section) (root : Fields) (name : String) : List RosterReference :=
  (s.entries root).flatMap fun entry =>
    (s.lists.filter (fun l => (l.names entry).contains name)).map (fun l => s.reference l entry)

end Section

def hbacUsers : Section := ⟨"hbac",some "rules",[⟨"hbac subject","subjects","users"⟩]⟩

def sudoUsers : Section := ⟨"sudo",some "rules",[⟨"sudo subject","subjects","users"⟩]⟩

def userSections : List Section :=
  [⟨"groups",none,[⟨"group membership","membership","users"⟩]⟩,hbacUsers,sudoUsers,
    ⟨"netgroups",none,[⟨"netgroup membership","membership","users"⟩]⟩]

def sudoGroups : Section :=
  ⟨"sudo",some "rules",[⟨"sudo subject","subjects","groups"⟩,⟨"sudo run_as","run_as","groups"⟩]⟩

def groupSections : List Section :=
  [⟨"groups",none,[⟨"group membership","membership","groups"⟩]⟩,
    ⟨"hbac",some "rules",[⟨"hbac subject","subjects","groups"⟩]⟩,sudoGroups,
    ⟨"netgroups",none,[⟨"netgroup membership","membership","groups"⟩]⟩]

structure NfsShare where
  (server share : Fields)

def NfsShare.place (s : NfsShare) : String :=
  let serverLabel := stringField s.server "host"
  let shareLabel := labelOf s.share
  s!"nfs.servers[{serverLabel}].shares[{shareLabel}]"

def NfsShare.namedGroups (s : NfsShare) (part : String) : List String :=
  namesOf (listField (mapField (mapField s.share "acl") part) "named_groups")

def NfsShare.ownership (s : NfsShare) : RosterReference :=
  ⟨"nfs ownership",s.place ++ ".ownership.group",.blocked,
    "required scalar reference — reassign the owning group explicitly before removing this roster group"⟩

def NfsShare.namedGroup (s : NfsShare) (part group : String) : RosterReference :=
  ⟨"nfs acl named_group",s.place ++ s!".acl.{part}.named_groups[{group}]",.removable,""⟩

def nfsShares (root : Fields) : List NfsShare :=
  (maps (listField (mapField root "nfs") "servers")).flatMap fun server =>
    (maps (listField server "shares")).map (fun share => ⟨server,share⟩)

def aclParts : List String := ["access","default"]

def nfsReferences (root : Fields) (group : String) : List RosterReference :=
  (nfsShares root).flatMap fun s =>
    (if stringField (mapField s.share "ownership") "group" = group then [s.ownership] else [])
    ++ aclParts.flatMap fun part =>
      ((s.namedGroups part).filter (· == group)).map (fun _ => s.namedGroup part group)

def rosterUserReferences (root : Fields) (username : String) : List RosterReference :=
  sortRosterReferences (userSections.flatMap (fun s => s.references root username))

def rosterGroupReferences (root : Fields) (groupname : String) : List RosterReference :=
  sortRosterReferences
    (groupSections.flatMap (fun s => s.references root groupname) ++ nfsReferences root groupname)

inductive EntryKind where
  | user | group
  deriving DecidableEq

namespace EntryKind

def noun : EntryKind → String
  | user => "user"
  | group => "group"

def listKey : EntryKind → String
  | user => "users"
  | group => "groups"

def references : EntryKind → Fields → String → List RosterReference
  | user => rosterUserReferences
  | group => rosterGroupReferences

def errAbsentLifecycle (kind : EntryKind) : String :=
  s!"inventory: roster {kind.noun} is already in state: absent lifecycle"

end EntryKind

def isNamed (name : String) (v : Value) : Bool := stringField (asMap (some v)) "name" == name

def findNamedEntry (entries : List Value) (name : String) : Option Nat × Bool :=
  (entries.findIdx? (isNamed name), decide (1 < entries.countP (isNamed name)))

theorem maps_of_valid (F : Formats) (kind : EntryKind) (valid : validateRoster F root = []) :
    ∀ v ∈ listField root kind.listKey, ∃ m, v = .map m := by
  have common : validateRosterCommon F root = [] := common_of_valid valid
  simp only [validateRosterCommon,checkUsers,checkGroups,append_eq_nil_iff,flatMap_eq_nil_iff] at common
  intro v mem
  by_contra other
  have junk : [] ∈ maps (listField root kind.listKey) := by
    have empty : asMap (some v) = [] := by
      cases v <;> first | rfl | exact absurd ⟨_,rfl⟩ other
    exact mem_map.mpr ⟨v,mem,empty⟩
  cases kind with
  | user =>
    exact absurd (common.1.1.1.1.1.1 [] junk) (by simp [checkUser,userNameMatches,stringField,field,asString])
  | group =>
    exact absurd (common.1.1.1.1.1.2 [] junk)
      (by simp [checkGroup,groupCategoryPrefix,stringField,field,asString])

end Pilot.Roster
