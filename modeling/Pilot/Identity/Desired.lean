import Pilot.Library.Fold
import Pilot.Roster.Value

/-!
The desired users and groups of `internal/identityreconcile/desired.go`.
What the engine takes from Go's libraries is a parameter: Unicode lower-casing
(idempotent), SHA-256, strict base64 and `%v` formatting. `FromRoster` is
modelled over any roster validator.
-/
namespace Pilot.Identity
open Pilot.Roster Fold

structure Platform where
  lower : String → String
  lower_lower : ∀ s, lower (lower s) = lower s
  sha256Hex : String → String
  base64 : String → Option (List UInt8)
  format : Value → String
  quote : String → String

structure DesiredUser where
  (name first last : String)
  (displayName email : Option String)
  (uid gid : Option Int)
  (shell home : String)
  (enabled hasInitialPassword preserveExisting : Bool)
  sshKeys : Option (List String)
  sshKeysInvalid : Nat
  deriving DecidableEq

structure DesiredGroup where
  (name description : String)
  gid : Option Int
  type : String
  authoritative : Bool
  (users groups : List String)
  (usersDeclared groupsDeclared : Bool)
  deriving DecidableEq

structure Desired where
  schemaVersion : Int
  principal : String
  users : List DesiredUser
  groups : List DesiredGroup
  (absentUsers absentGroups notInScope : List String)
  deriving DecidableEq

def given (m : Fields) (key : String) : Option Value :=
  match field m key with
  | some .null => none
  | v => v

def stringOr (m : Fields) (key default : String) : Except String String :=
  match given m key with
  | none => .ok default
  | some (.string s) => .ok s
  | some _ => .error s!"{key} must be a string"

def optionalString (m : Fields) (key : String) : Except String (Option String) :=
  match given m key with
  | none => .ok none
  | some (.string s) => .ok (some s)
  | some _ => .error s!"{key} must be a string"

def boolOr (m : Fields) (key : String) (default : Bool) : Except String Bool :=
  match given m key with
  | none => .ok default
  | some (.bool b) => .ok b
  | some _ => .error s!"{key} must be true or false (the Go engine does not apply Ansible's | bool coercion)"

def optionalID (m : Fields) (key : String) : Except String (Option Int) :=
  match given m key with
  | none => .ok none
  | some v =>
    match wholeNumber v with
    | some n => if n < 0 then .error s!"{key} must be a non-negative integer" else .ok (some n)
    | none => .error s!"{key} must be a non-negative integer"

def goType : Value → String
  | .null => "<nil>"
  | .bool _ => "bool"
  | .int _ => "int"
  | .uint64 _ => "uint64"
  | .float64 _ => "float64"
  | .string _ => "string"
  | .list _ => "[]interface {}"
  | .map _ => "map[string]interface {}"
  | .other goType => goType

def optionalMapping (parent : Fields) (key : String) : Except String Fields :=
  match given parent key with
  | none => .ok []
  | some (.map entries) => .ok entries
  | some v => .error s!"{key} must be a mapping, not {goType v}"

def appendUnique (names : List String) (s : String) : List String :=
  if names.contains s then names else names ++ [s]

/-- The wire format starts with the algorithm's length and name. -/
def wireAlgorithm (raw : List UInt8) : Option (List UInt8) :=
  match raw with
  | a :: b :: c :: d :: rest =>
    let size := ((a.toNat * 256 + b.toNat) * 256 + c.toNat) * 256 + d.toNat
    if rest.length < size then none else some (rest.take size)
  | _ => none

def words (line : String) : List String :=
  ((line.toList.splitOnP isSpace).filter (fun w => w ≠ [])).map String.ofList

section
variable (P : Platform)

def normalizeSSHKey (line : String) : Option String :=
  match words line with
  | typ :: body :: _ =>
    if ["ssh-","ecdsa-","sk-"].any (fun start => start.toList.isPrefixOf typ.toList) then
      match P.base64 body with
      | some raw =>
        if wireAlgorithm raw = some typ.toUTF8.toList then some (typ ++ " " ++ body) else none
      | none => none
    else none
  | _ => none

def nameList (m : Fields) (key : String) : Except String (List String × Bool) :=
  match given m key with
  | none => .ok ([], false)
  | some (.list items) =>
    if items.all (fun v => decide ((stringOf v).getD "" ≠ "")) then
      .ok (sortStrings ((items.filterMap stringOf).foldl
        (fun names s => appendUnique names (P.lower s)) []), true)
    else .error s!"{key} must hold names"
  | some _ => .error s!"{key} must be a list"

def within {α : Type} (place : String) : Except String α → Except String α
  | .error err => .error s!"{place}: {err}"
  | .ok value => .ok value

def declaredKeys (u : Fields) : Except String (Option (List String) × Nat) :=
  match given (mapField u "ssh_keys") "values" with
  | none => .ok (none, 0)
  | some (.list items) =>
    let read := items.map (fun v => normalizeSSHKey P ((stringOf v).getD ""))
    .ok (some (sortStrings (read.reduceOption.foldl appendUnique [])), read.countP Option.isNone)
  | some _ => .error "ssh_keys.values must be a list"

def desiredUser (u : Fields) (name state : String) : Except String DesiredUser := do
  let first ← stringOr u "first" name
  let last ← stringOr u "last" name
  let displayName ← optionalString u "display_name"
  let email ← optionalString u "email"
  let uid ← optionalID u "uid"
  let gid ← optionalID u "gid"
  let shell ← stringOr u "login_shell" "/bin/bash"
  let home ← stringOr u "home_directory" ("/home/" ++ name)
  let enabled ← boolOr u "enabled" (state ≠ "disabled")
  let pw := mapField u "password"
  let preserveExisting ← within "password" (boolOr pw "preserve_existing" true)
  let _ ← within "password" (boolOr pw "force_change" false)
  let keys ← declaredKeys P u
  return {
    name := name, first := first, last := last, displayName := displayName, email := email,
    uid := uid, gid := gid, shell := shell, home := home, enabled := enabled,
    hasInitialPassword := (given pw "initial").isSome, preserveExisting := preserveExisting,
    sshKeys := keys.1, sshKeysInvalid := keys.2 }

def desiredGroup (g : Fields) (name : String) : Except String DesiredGroup := do
  let description ← stringOr g "description" name
  let gid ← optionalID g "gid"
  let type ← stringOr g "type" "posix"
  let m := mapField g "membership"
  let authoritative ← within "membership" (boolOr m "authoritative" true)
  let users ← within "membership" (nameList P m "users")
  let groups ← within "membership" (nameList P m "groups")
  return {
    name := name, description := description, gid := gid, type := type,
    authoritative := authoritative, users := users.1, groups := groups.1,
    usersDeclared := users.2, groupsDeclared := groups.2 }

def addUser (d : Desired) (entry : Value × Nat) : Except String Desired := do
  let u := asMap (some entry.1)
  let name := stringField u "name"
  let place := s!"users[{entry.2}] ({name})"
  let state ← within place (stringOr u "state" "present")
  if state = "absent" then return { d with absentUsers := d.absentUsers ++ [name] }
  else
    let du ← within place (desiredUser P u name state)
    return { d with users := d.users ++ [du] }

def addGroup (d : Desired) (entry : Value × Nat) : Except String Desired := do
  let g := asMap (some entry.1)
  let name := stringField g "name"
  let place := s!"groups[{entry.2}] ({name})"
  let state ← within place (stringOr g "state" "present")
  if state = "absent" then return { d with absentGroups := d.absentGroups ++ [name] }
  else
    let dg ← within place (desiredGroup P g name)
    return { d with groups := d.groups ++ [dg] }

def isEmpty : Value → Bool
  | .null => true
  | .list items => items.isEmpty
  | .map entries => entries.isEmpty
  | _ => false

def notInScope (root : Fields) : List String :=
  let sections := (root.filter (fun e =>
    !(["schema_version","freeipa","users","groups","migration"].contains e.1) &&
      !isEmpty e.2)).map Prod.fst
  let authentication := (maps (listField root "users")).any
    (fun m => (given m "authentication").isSome)
  sortStrings (sections ++ if authentication then ["users[].authentication"] else [])

def principalOf (root : Fields) : Except String String := do
  let fi ← optionalMapping root "freeipa"
  let admin ← match optionalMapping fi "admin" with
    | .error err => .error s!"freeipa.{err}"
    | .ok admin => .ok admin
  match given admin "principal" with
  | none => return "admin"
  | some (.string s) =>
    if s = "" then .error "freeipa.admin.principal must be a string" else return s
  | some _ => .error "freeipa.admin.principal must be a string"

def schemaVersionOf (root : Fields) : Except String Int :=
  match field root "schema_version" with
  | none => .error ("the roster has no schema_version: the Go engine reads canonical rosters only; reconcile a " ++
    "legacy roster with the Ansible engine")
  | some raw =>
    match wholeNumber raw with
    | some version =>
      if version < 1 ∨ version > 3 then
        .error s!"roster schema_version {P.format raw} is not supported"
      else .ok version
    | none => .error s!"roster schema_version {P.format raw} is not supported"

def fromRoster (validate : Fields → List RosterViolation) (root : Fields) :
    Except String Desired := do
  let version ← schemaVersionOf P root
  match validate root with
  | v :: _ => .error s!"the roster is invalid: {v.rule}: {v.detail}"
  | [] =>
    let principal ← principalOf root
    let start : Desired := ⟨version,principal,[],[],[],[],[]⟩
    let d ← (listField root "users").zipIdx.foldlM (addUser P) start
    let d ← (listField root "groups").zipIdx.foldlM (addGroup P) d
    return { d with notInScope := notInScope root }

def LowerMembers (d : Desired) : Prop :=
  ∀ g ∈ d.groups, (∀ m ∈ g.users, P.lower m = m) ∧ ∀ m ∈ g.groups, P.lower m = m

end

variable {P : Platform}

theorem appendUnique_mem (mem : m ∈ appendUnique names s) : m ∈ names ∨ m = s := by
  unfold appendUnique at mem
  split at mem
  · exact .inl mem
  · simpa using mem

theorem nameList_lower (ok : nameList P m key = .ok (names, declared)) : ∀ n ∈ names, P.lower n = n := by
  unfold nameList at ok
  split at ok
  · simp only [Except.ok.injEq,Prod.mk.injEq] at ok
    simp [← ok.1]
  · split at ok
    · simp only [Except.ok.injEq,Prod.mk.injEq] at ok
      intro n mem
      rw [← ok.1,mem_sortStrings] at mem
      -- Every name the loop appends is the image of `lower`.
      refine foldl_invariant (I := fun names => ∀ n ∈ names, P.lower n = n)
        (by simp) ?_ n mem
      intro names s _ sound n mem
      rcases appendUnique_mem mem with old | rfl
      · exact sound n old
      · exact P.lower_lower s
    · cases ok
  · cases ok

theorem within_ok {α : Type} {x : Except String α} {value : α} (ok : within place x = .ok value) :
    x = .ok value := by
  cases x with
  | error err => cases ok
  | ok a => exact ok

theorem desiredGroup_lower {g : Fields} {dg : DesiredGroup} (ok : desiredGroup P g name = .ok dg) :
    (∀ m ∈ dg.users, P.lower m = m) ∧ ∀ m ∈ dg.groups, P.lower m = m := by
  obtain ⟨description,-,ok⟩ := bind_ok ok
  obtain ⟨gid,-,ok⟩ := bind_ok ok
  obtain ⟨type,-,ok⟩ := bind_ok ok
  obtain ⟨authoritative,-,ok⟩ := bind_ok ok
  obtain ⟨users,usersOk,ok⟩ := bind_ok ok
  obtain ⟨groups,groupsOk,ok⟩ := bind_ok ok
  cases ok
  exact ⟨nameList_lower (within_ok usersOk),nameList_lower (within_ok groupsOk)⟩

theorem addUser_groups (ok : addUser P d entry = .ok d') : d'.groups = d.groups := by
  obtain ⟨state,-,ok⟩ := bind_ok ok
  split at ok
  · cases ok
    rfl
  · obtain ⟨du,-,ok⟩ := bind_ok ok
    cases ok
    rfl

theorem addGroup_lower {entry : Value × Nat} (lower : LowerMembers P d)
    (ok : addGroup P d entry = .ok d') : LowerMembers P d' := by
  obtain ⟨state,-,ok⟩ := bind_ok ok
  split at ok
  · cases ok
    exact lower
  obtain ⟨dg,made,ok⟩ := bind_ok ok
  cases ok
  exact List.forall_mem_append.mpr ⟨lower,List.forall_mem_singleton.mpr (desiredGroup_lower (within_ok made))⟩

theorem fromRoster_lower (ok : fromRoster P validate root = .ok d) : LowerMembers P d := by
  obtain ⟨version,-,ok⟩ := bind_ok ok
  split at ok
  · cases ok
  obtain ⟨principal,-,ok⟩ := bind_ok ok
  obtain ⟨withUsers,usersOk,ok⟩ := bind_ok ok
  obtain ⟨withGroups,groupsOk,ok⟩ := bind_ok ok
  have users : withUsers.groups = [] :=
    foldlM_invariant (I := fun d => d.groups = []) rfl
      (fun d entry d' _ none step => by rw [addUser_groups step,none]) usersOk
  have groups : LowerMembers P withGroups :=
    foldlM_invariant (by simp [LowerMembers,users])
      (fun d entry d' _ lower step => addGroup_lower lower step) groupsOk
  cases ok
  exact groups

end Pilot.Identity
