import Pilot.Library.Table
import Pilot.Identity.Plan

/-!
What an operation does to the directory server. Creation writes the fields of
the operation over whatever the server fills in by itself, an update
overwrites the written fields, and a deletion takes the object out of every
group. Seen through the planner's lookup maps an operation acts on each name
separately.
-/
namespace Pilot.Identity
open Pilot.Roster Pilot.Table List

/-- What the server decides: the values of new objects that nobody wrote, and
    the times a password operation leaves, the expiration never later than the
    change. -/
structure Server where
  newUser : String → LiveUser
  newGroup : String → LiveGroup
  (changed expires : Operation → String)
  changed_nonempty : ∀ op, changed op ≠ ""
  expires_nonempty : ∀ op, expires op ≠ ""
  expires_le : ∀ op, expires op ≤ changed op

def written (fields : List (Attribute × Change)) (attr : Attribute) : Option FieldValue :=
  (fields.find? (fun f => decide (f.1 = attr))).map (fun f => f.2.desired)

def writtenText (fields : List (Attribute × Change)) (attr : Attribute) (old : String) : String :=
  match written fields attr with
  | some (.text s) => s
  | _ => old

def writtenList (fields : List (Attribute × Change)) (attr : Attribute) (old : List String) :
    List String :=
  match written fields attr with
  | some (.text s) => [s]
  | some (.list values) => values
  | _ => old

def writeUser (fields : List (Attribute × Change)) (u : LiveUser) : LiveUser :=
  { u with
    first := writtenText fields .givenname u.first
    last := writtenText fields .sn u.last
    displayName := writtenText fields .displayname u.displayName
    mail := writtenList fields .mail u.mail
    uidNumber := writtenText fields .uidnumber u.uidNumber
    gidNumber := writtenText fields .gidnumber u.gidNumber
    shell := writtenText fields .loginshell u.shell
    home := writtenText fields .homedirectory u.home }

def writeGroup (fields : List (Attribute × Change)) (g : LiveGroup) : LiveGroup :=
  { g with
    description := writtenList fields .description g.description
    gidNumber := writtenText fields .gidnumber g.gidNumber
    type := if written fields .nonposix = some (.flag true) then .nonposix else g.type }

def dropUser (name : String) (g : LiveGroup) : LiveGroup :=
  { g with memberUsers := g.memberUsers.filter (fun m => decide (m ≠ name)) }

def dropGroup (name : String) (g : LiveGroup) : LiveGroup :=
  { g with memberGroups := g.memberGroups.filter (fun m => decide (m ≠ name)) }

def without (names members : List String) : List String :=
  names.filter (fun m => decide (m ∉ members))

def withMembers (names members : List String) : List String := names ++ without members names

section
variable (server : Server)

def createdUser (op : Operation) : LiveUser :=
  writeUser op.fields
    { server.newUser op.object with name := op.object, locked := false, preserved := false }

def createdGroup (op : Operation) : LiveGroup :=
  writeGroup op.fields
    { server.newGroup op.object with
      name := op.object, type := .posix, memberUsers := [], memberGroups := [] }

def editUser (op : Operation) (u : LiveUser) : LiveUser :=
  match op.kind with
  | .userUpdate => writeUser op.fields u
  | .passwordInitialize | .passwordReset =>
    { u with lastPwdChange := server.changed op, pwdExpiration := server.expires op }
  | .userEnable => { u with locked := false }
  | .userDisable => { u with locked := true }
  | _ => u

def editGroup (op : Operation) (g : LiveGroup) : LiveGroup :=
  match op.kind with
  | .groupUpdate => writeGroup op.fields g
  | .memberUserRemove => { g with memberUsers := without g.memberUsers op.members }
  | .memberGroupRemove => { g with memberGroups := without g.memberGroups op.members }
  | .memberUserAdd => { g with memberUsers := withMembers g.memberUsers op.members }
  | .memberGroupAdd => { g with memberGroups := withMembers g.memberGroups op.members }
  | _ => g

def activeUser (name : String) (u : LiveUser) : Bool := u.name == name && !u.preserved

def applyUsers (users : List LiveUser) (op : Operation) : List LiveUser :=
  match op.kind with
  | .userCreate => users ++ [createdUser server op]
  | .userDelete => users.filter (fun u => !activeUser op.object u)
  | _ => updateWhere (activeUser op.object) (editUser server op) users

def applyGroups (groups : List LiveGroup) (op : Operation) : List LiveGroup :=
  match op.kind with
  | .groupCreate | .markerCreate => groups ++ [createdGroup server op]
  | .groupDelete => (groups.filter (fun g => g.name != op.object)).map (dropGroup op.object)
  | .userDelete => groups.map (dropUser op.object)
  | _ => updateWhere (fun g => g.name == op.object) (editGroup op) groups

def applyOperation (live : Live) (op : Operation) : Live :=
  ⟨applyUsers server live.users op,applyGroups server live.groups op⟩

def applyPlan (live : Live) (ops : List Operation) : Live :=
  ops.foldl (applyOperation server) live

def userEffect (name : String) (u : Option LiveUser) (op : Operation) : Option LiveUser :=
  match op.kind with
  | .userCreate => if op.object = name then some (createdUser server op) else u
  | .userDelete => if op.object = name then none else u
  | _ => if op.object = name then u.map (editUser server op) else u

def groupEffect (name : String) (g : Option LiveGroup) (op : Operation) : Option LiveGroup :=
  match op.kind with
  | .groupCreate | .markerCreate => if op.object = name then some (createdGroup server op) else g
  | .groupDelete => if op.object = name then none else g.map (dropGroup op.object)
  | .userDelete => g.map (dropUser op.object)
  | _ => if op.object = name then g.map (editGroup op) else g

end

section
variable {α : Type} {name : α → String} {xs : List α} {n : String}

def lastNamed (name : α → String) (xs : List α) (n : String) : Option α :=
  xs.reverse.find? (fun x => name x == n)

theorem lastNamed_append (x : α) :
    lastNamed name (xs ++ [x]) n = if name x = n then some x else lastNamed name xs n := by
  unfold lastNamed
  rw [reverse_append,reverse_singleton,singleton_append,find?_cons]
  by_cases same : name x = n
  · simp [same]
  · have miss : (name x == n) = false := by simp [same]
    simp only [miss,if_neg same]

theorem lastNamed_updateWhere (same : ∀ x, name (f x) = name x) :
    lastNamed name (updateWhere p f xs) n =
      (lastNamed name xs n).map (fun x => if p x then f x else x) := by
  unfold lastNamed
  rw [updateWhere,← map_reverse]
  exact find?_updateWhere (fun x => by rw [same]) xs.reverse

theorem lastNamed_map (same : ∀ x, name (f x) = name x) :
    lastNamed name (xs.map f) n = (lastNamed name xs n).map f := by
  unfold lastNamed
  rw [← map_reverse,find?_map]
  congr 2
  funext x
  simp [same]

theorem lastNamed_filter (keep : ∀ x, name x = n → p x = true) :
    lastNamed name (xs.filter p) n = lastNamed name xs n := by
  unfold lastNamed
  rw [← filter_reverse,find?_filter]
  congr 1
  funext x
  by_cases same : name x = n
  · simp [same,keep x same]
  · simp [same]

theorem lastNamed_none (other : ∀ x ∈ xs, name x ≠ n) : lastNamed name xs n = none := by
  unfold lastNamed
  rw [find?_eq_none]
  intro x mem
  simpa using other x (mem_reverse.mp mem)

theorem lastNamed_name (found : lastNamed name xs n = some x) : name x = n := by
  simpa using find?_some found

end

variable (server : Server) (live : Live) (op : Operation)

theorem directory_users_eq (name : String) :
    live.directory.users name = lastNamed LiveUser.name (live.users.filter (fun u => !u.preserved)) name :=
  rfl

theorem directory_groups_eq (name : String) :
    live.directory.groups name = lastNamed LiveGroup.name live.groups name :=
  rfl

theorem editUser_name (u : LiveUser) : (editUser server op u).name = u.name := by
  unfold editUser
  split <;> rfl

theorem editUser_preserved (u : LiveUser) : (editUser server op u).preserved = u.preserved := by
  unfold editUser
  split <;> rfl

theorem editGroup_name (g : LiveGroup) : (editGroup op g).name = g.name := by
  unfold editGroup
  split <;> rfl

theorem created_active : (createdUser server op).preserved = false ∧
    (createdUser server op).name = op.object :=
  ⟨rfl,rfl⟩

section
variable (name : String)

theorem users_edited :
    lastNamed LiveUser.name ((updateWhere (activeUser op.object) (editUser server op) live.users).filter
        (fun u => !u.preserved)) name =
      if op.object = name then (live.directory.users name).map (editUser server op)
      else live.directory.users name := by
  rw [filter_updateWhere (fun u => by rw [editUser_preserved]),
    lastNamed_updateWhere (editUser_name server op),directory_users_eq]
  cases found : lastNamed LiveUser.name (live.users.filter (fun u => !u.preserved)) name with
  | none => simp
  | some u =>
    have named : u.name = name := lastNamed_name found
    have kept : u.preserved = false := by
      have mem := mem_of_find?_eq_some found
      simpa using (mem_filter.mp (mem_reverse.mp mem)).2
    by_cases same : op.object = name
    · simp [activeUser,named,kept,same]
    · simp [activeUser,named,kept,same,Ne.symm same]

theorem groups_edited :
    lastNamed LiveGroup.name (updateWhere (fun g => g.name == op.object) (editGroup op) live.groups) name =
      if op.object = name then (live.directory.groups name).map (editGroup op)
      else live.directory.groups name := by
  rw [lastNamed_updateWhere (editGroup_name op),directory_groups_eq]
  cases found : lastNamed LiveGroup.name live.groups name with
  | none => simp
  | some g =>
    have named : g.name = name := lastNamed_name found
    by_cases same : op.object = name
    · simp [named,same]
    · simp [named,same,Ne.symm same]

theorem apply_users :
    (applyOperation server live op).directory.users name =
      userEffect server name (live.directory.users name) op := by
  rw [directory_users_eq]
  unfold applyOperation applyUsers userEffect
  split
  · rw [filter_append,filter_singleton,(created_active server op).1]
    exact lastNamed_append (createdUser server op)
  · by_cases same : op.object = name
    · rw [if_pos same]
      refine lastNamed_none ?_
      intro u mem
      simp only [mem_filter,activeUser,Bool.not_eq_true',Bool.and_eq_false_iff] at mem
      rcases mem with ⟨⟨-,other | kept⟩,active⟩
      · intro named
        simp [named,same] at other
      · simp [active] at kept
    · rw [if_neg same,directory_users_eq,filter_comm]
      refine lastNamed_filter ?_
      intro u named
      simp [activeUser,named,Ne.symm same]
  · exact users_edited server live op name

theorem apply_preserved :
    (applyOperation server live op).directory.preserved name = live.directory.preserved name := by
  unfold Live.directory applyOperation applyUsers
  simp only
  split
  · rw [any_append,any_cons,(created_active server op).1]
    simp
  · rw [any_filter]
    congr 1
    funext u
    cases flag : u.preserved <;> simp [activeUser,flag]
  · rw [updateWhere,any_map]
    congr 1
    funext u
    simp only [Function.comp]
    cases flag : u.preserved
    · split <;> simp [editUser_preserved,flag]
    · simp [activeUser,flag]

theorem apply_groups :
    (applyOperation server live op).directory.groups name =
      groupEffect server name (live.directory.groups name) op := by
  rw [directory_groups_eq]
  unfold applyOperation applyGroups groupEffect
  split
  · exact lastNamed_append (createdGroup server op)
  · exact lastNamed_append (createdGroup server op)
  · rw [lastNamed_map (f := dropGroup op.object) (fun _ => rfl)]
    by_cases same : op.object = name
    · rw [if_pos same,lastNamed_none,Option.map_none]
      intro g mem named
      simp [named,same] at mem
    · rw [if_neg same,directory_groups_eq,lastNamed_filter]
      intro g named
      simp [named,Ne.symm same]
  · exact lastNamed_map (fun _ => rfl)
  · exact groups_edited live op name

end

section
variable (ops : List Operation) (name : String)

theorem plan_users :
    (applyPlan server live ops).directory.users name =
      ops.foldl (userEffect server name) (live.directory.users name) :=
  (foldl_hom (fun live : Live => live.directory.users name) fun _ _ => (apply_users ..).symm).symm

theorem plan_groups :
    (applyPlan server live ops).directory.groups name =
      ops.foldl (groupEffect server name) (live.directory.groups name) :=
  (foldl_hom (fun live : Live => live.directory.groups name) fun _ _ => (apply_groups ..).symm).symm

theorem plan_preserved :
    (applyPlan server live ops).directory.preserved name = live.directory.preserved name := by
  induction ops generalizing live with
  | nil => rfl
  | cons op ops ih =>
    rw [applyPlan,foldl_cons,← apply_preserved server live op]
    exact ih (applyOperation server live op)

end

end Pilot.Identity
