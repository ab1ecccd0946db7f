import Pilot.Identity.Desired

/-!
The planner of `internal/identityreconcile/plan.go`. The live lists are read
through a directory of lookup maps, and every loop of the builder is a fold.
Each loop that may block an object skips the names blocked so far, asks for a
verdict and otherwise emits its operations.
-/
namespace Pilot.Identity
open Pilot.Roster

inductive Kind where
  | groupCreate | groupUpdate | markerCreate | userCreate | userUpdate
  | passwordInitialize | passwordReset
  | memberUserRemove | memberGroupRemove | memberUserAdd | memberGroupAdd
  | userEnable | userDisable | userDelete | groupDelete
  deriving DecidableEq, Repr

def Kind.text : Kind → String
  | groupCreate => "group.create"
  | groupUpdate => "group.update"
  | markerCreate => "group.marker.create"
  | userCreate => "user.create"
  | userUpdate => "user.update"
  | passwordInitialize => "user.password.initialize"
  | passwordReset => "user.password.reset"
  | memberUserRemove => "group.member_user.remove"
  | memberGroupRemove => "group.member_group.remove"
  | memberUserAdd => "group.member_user.add"
  | memberGroupAdd => "group.member_group.add"
  | userEnable => "user.enable"
  | userDisable => "user.disable"
  | userDelete => "user.delete"
  | groupDelete => "group.delete"

def Kind.rank : Kind → Nat
  | groupCreate => 0
  | groupUpdate => 1
  | markerCreate => 2
  | userCreate => 3
  | userUpdate => 4
  | passwordInitialize => 5
  | passwordReset => 6
  | memberUserRemove => 7
  | memberGroupRemove => 8
  | memberUserAdd => 9
  | memberGroupAdd => 10
  | userEnable => 11
  | userDisable => 12
  | userDelete => 13
  | groupDelete => 14

inductive Reason where
  | idChange | typeMismatch | typeUnrecognized | externalGroup
  | preservedUser | markerCollision | caseCollision | referenceToAbsent
  deriving DecidableEq, Repr

def Reason.text : Reason → String
  | idChange => "uid_or_gid_change"
  | typeMismatch => "group_type_mismatch"
  | typeUnrecognized => "group_type_unrecognized"
  | externalGroup => "external_group"
  | preservedUser => "preserved_user"
  | markerCollision => "marker_collision"
  | caseCollision => "case_collision"
  | referenceToAbsent => "reference_to_absent"

inductive Attribute where
  | description | gidnumber | nonposix | givenname | sn | loginshell | homedirectory
  | displayname | mail | uidnumber
  deriving DecidableEq, Repr

inductive FieldValue where
  | text (s : String)
  | flag (b : Bool)
  | list (values : List String)
  deriving DecidableEq, Repr

structure Change where
  live : Option FieldValue
  desired : FieldValue
  deriving DecidableEq, Repr

structure Operation where
  id : String
  kind : Kind
  object : String
  fields : List (Attribute × Change)
  members : List String
  destructive : Bool
  dependsOn : List String
  deriving DecidableEq, Repr

structure Blocked where
  reason : Reason
  (object detail : String)
  deriving DecidableEq, Repr

inductive GroupType where
  | posix | nonposix | unrecognized
  deriving DecidableEq, Repr

def GroupType.text : GroupType → String
  | posix => "posix"
  | nonposix => "nonposix"
  | unrecognized => "unrecognized"

structure LiveUser where
  (name first last displayName : String)
  mail : List String
  (uidNumber gidNumber shell home : String)
  locked : Bool
  (lastPwdChange pwdExpiration : String)
  sshKeys : List String
  preserved : Bool
  deriving DecidableEq, Repr

structure LiveGroup where
  name : String
  description : List String
  gidNumber : String
  type : GroupType
  (memberUsers memberGroups : List String)
  deriving DecidableEq, Repr

structure Live where
  users : List LiveUser
  groups : List LiveGroup

structure Directory where
  users : String → Option LiveUser
  preserved : String → Bool
  groups : String → Option LiveGroup

def Live.directory (live : Live) : Directory where
  users name := (live.users.filter (fun u => !u.preserved)).reverse.find? (fun u => u.name == name)
  preserved name := live.users.any (fun u => u.preserved && u.name == name)
  groups name := live.groups.reverse.find? (fun g => g.name == name)

inductive Key where
  | user (name : String)
  | group (name : String)
  deriving DecidableEq, Repr

def Key.text : Key → String
  | user name => "user:" ++ name
  | group name => "group:" ++ name

def Key.name : Key → String
  | user name => name
  | group name => name

structure SSHKeyReport where
  user : String
  (declared live : List String)
  invalidKeys : Nat
  deriving DecidableEq, Repr

structure PruneReport where
  group : String
  kinds : List String
  deriving DecidableEq, Repr

structure Builder where
  operations : List Operation
  blockedList : List Blocked
  blocked : List Key
  (createdUsers createdGroups : List (String × String))
  sshKeys : List SSHKeyReport
  prune : List PruneReport

structure Plan where
  operations : List Operation
  blocked : List Blocked
  sshKeys : List SSHKeyReport
  implicitMembershipPrune : List PruneReport
  notInScope : List String
  deriving DecidableEq, Repr

def operation (kind : Kind) (object : String) (fields : List (Attribute × Change))
    (members : List String) (destructive : Bool) (dependsOn : List String) : Operation where
  id := kind.text ++ ":" ++ object
  kind := kind
  object := object
  fields := fields
  members := members
  destructive := destructive
  dependsOn := sortStrings dependsOn

def createID (kind : Kind) (object : String) : String := kind.text ++ ":" ++ object

def isOnly (values : List String) (want : String) : Bool := decide (values = [want])

def listValue : List String → FieldValue
  | [v] => .text v
  | values => .list values

def orNone (s : String) : String := if s = "" then "(none)" else s

def onResetPassword (u : LiveUser) : Bool :=
  u.pwdExpiration ≠ "" && decide (u.pwdExpiration ≤ u.lastPwdChange)

section
variable (P : Platform)

def historyMarkerName (group : String) : String :=
  "pilot-internal-history-g-" ++ P.sha256Hex group

def historyMarkerDescription (group : String) : String :=
  "pilot.group-history/v1 name=" ++ group

def userKey (name : String) : Key := .user (P.lower name)
def groupKey (name : String) : Key := .group (P.lower name)

def difference (a b : List String) : List String :=
  sortStrings ((a.filter (fun v => !(b.map P.lower).contains v)).foldl appendUnique [])

def Builder.block (b : Builder) (key : Key) (reason : Reason) (object detail : String) : Builder :=
  { b with
    blocked := b.blocked ++ [key],
    blockedList := b.blockedList ++ [⟨reason,P.lower object,detail⟩] }

def entries (d : Desired) : List (Key × String) :=
  d.groups.map (fun g => (groupKey P g.name, g.name))
    ++ d.absentGroups.map (fun n => (groupKey P n, n))
    ++ d.users.map (fun u => (userKey P u.name, u.name))
    ++ d.absentUsers.map (fun n => (userKey P n, n))

def namesOfKey (d : Desired) (key : Key) : List String :=
  ((entries P d).filter (fun e => decide (e.1 = key))).map Prod.snd

def collidingKeys (d : Desired) : List Key :=
  (((entries P d).map Prod.fst).dedup.filter
    (fun k => decide (1 < (namesOfKey P d k).length))).insertionSort (fun a b => a.text ≤ b.text)

def blockCollision (d : Desired) (b : Builder) (key : Key) : Builder :=
  let names := namesOfKey P d key
  let listed := ", ".intercalate names
  b.block P key .caseCollision (names.headD "")
    s!"roster entries {listed} differ only in case; FreeIPA stores one lower-case name"

def blockCollisions (d : Desired) (b : Builder) : Builder :=
  (collidingKeys P d).foldl (blockCollision P d) b

def absentReferences (d : Desired) (g : DesiredGroup) : List String :=
  (g.users.filter (fun u => (d.absentUsers.map P.lower).contains u)).map ("user " ++ ·)
    ++ (g.groups.filter (fun m => (d.absentGroups.map P.lower).contains m)).map ("group " ++ ·)

def blockReference (d : Desired) (b : Builder) (g : DesiredGroup) : Builder :=
  let refs := absentReferences P d g
  if refs = [] then b
  else b.block P (groupKey P g.name) .referenceToAbsent g.name
    ("members marked state: absent: " ++ ", ".intercalate refs)

def blockReferences (d : Desired) (b : Builder) : Builder :=
  d.groups.foldl (blockReference P d) b

variable (v : Directory)

/-- One turn of a loop that may block: the name is skipped when its key is
    blocked, blocked when there is a verdict, and planned otherwise. -/
def visit {α : Type} (name : α → String) (key : String → Key)
    (verdict : α → Option (Reason × String)) (emit : Builder → α → Builder)
    (b : Builder) (x : α) : Builder :=
  if key (name x) ∈ b.blocked then b
  else match verdict x with
    | some (reason, detail) => b.block P (key (name x)) reason (name x) detail
    | none => emit b x

def markerCollision (group : String) : Option (Reason × String) :=
  match v.groups (historyMarkerName P group) with
  | none => none
  | some m =>
    let marker := historyMarkerName P group
    let want := P.quote (historyMarkerDescription group)
    if historyMarkerDescription group ∈ m.description then none
    else some (.markerCollision, s!"history marker {marker} exists without the description {want}")

def liveGroupVerdict (g : DesiredGroup) : Option (Reason × String) :=
  match v.groups (P.lower g.name) with
  | none => none
  | some live =>
    let liveType := live.type.text
    if live.type = .unrecognized then
      some (.typeUnrecognized,
        "the FreeIPA group's object classes are not a known POSIX or non-POSIX set")
    else if live.type.text ≠ g.type then
      some (.typeMismatch, s!"FreeIPA has a {liveType} group, the roster declares {g.type}; FreeIPA cannot " ++
        "convert it in place")
    else match g.gid with
      | none => none
      | some gid =>
        let liveGID := orNone live.gidNumber
        if live.gidNumber ≠ toString gid then
          some (.idChange, s!"gidnumber {liveGID} -> {gid} would change file group ownership")
        else none

def groupVerdict (g : DesiredGroup) : Option (Reason × String) :=
  if g.type ≠ "posix" ∧ g.type ≠ "nonposix" then
    some (.externalGroup, "type: " ++ g.type ++ " groups are not supported by the Go engine yet")
  else match liveGroupVerdict P v g with
    | some verdict => some verdict
    | none => markerCollision P v g.name

def markerOperation (group : String) (after : List String) : Operation :=
  operation .markerCreate (historyMarkerName P group)
    [(.description, ⟨none,.text (historyMarkerDescription group)⟩),(.nonposix, ⟨none,.flag true⟩)]
    [] false after

def ensureMarker (group : String) (after : List String) : List Operation :=
  match v.groups (historyMarkerName P group) with
  | some _ => []
  | none => [markerOperation P group after]

def groupCreateFields (g : DesiredGroup) : List (Attribute × Change) :=
  [(.description, ⟨none,.text g.description⟩)]
    ++ (match g.gid with
      | some gid => [(.gidnumber, ⟨none,.text (toString gid)⟩)]
      | none => [])
    ++ if g.type = "nonposix" then [(.nonposix, ⟨none,.flag true⟩)] else []

def groupOperations (g : DesiredGroup) : List Operation :=
  let name := P.lower g.name
  match v.groups name with
  | none => operation .groupCreate name (groupCreateFields g) [] false []
      :: ensureMarker P v g.name [createID .groupCreate name]
  | some live =>
    (if isOnly live.description g.description then []
      else [operation .groupUpdate name
        [(.description, ⟨some (listValue live.description),.text g.description⟩)] [] false []])
    ++ ensureMarker P v g.name []

def emitGroup (b : Builder) (g : DesiredGroup) : Builder :=
  let name := P.lower g.name
  { b with
    operations := b.operations ++ groupOperations P v g,
    createdGroups := b.createdGroups ++
      if (v.groups name).isNone then [(name, createID .groupCreate name)] else [] }

def desiredAttrs (u : DesiredUser) : List (Attribute × FieldValue) :=
  [(.givenname, .text u.first),(.sn, .text u.last),(.loginshell, .text u.shell),
    (.homedirectory, .text u.home)]
    ++ (u.displayName.toList.map fun s => (.displayname, .text s))
    ++ (u.email.toList.map fun s => (.mail, .list [s]))
    ++ (u.uid.toList.map fun n => (.uidnumber, .text (toString n)))
    ++ (u.gid.toList.map fun n => (.gidnumber, .text (toString n)))

def attrChange (attr : Attribute) (live desired : String) : List (Attribute × Change) :=
  if live = desired then [] else [(attr, ⟨some (.text live),.text desired⟩)]

def attrChanges (u : DesiredUser) (live : LiveUser) : List (Attribute × Change) :=
  attrChange .givenname live.first u.first ++ attrChange .sn live.last u.last
    ++ attrChange .loginshell live.shell u.shell ++ attrChange .homedirectory live.home u.home
    ++ (match u.displayName with
      | some s => attrChange .displayname live.displayName s
      | none => [])
    ++ (match u.email with
      | some s => if isOnly live.mail s then []
          else [(.mail, ⟨some (listValue live.mail),.list [s]⟩)]
      | none => [])

def idPart (attr : String) (live : String) : Option Int → List String
  | none => []
  | some n =>
    let before := orNone live
    if live = toString n then [] else [s!"{attr} {before} -> {n}"]

def idChange (u : DesiredUser) (live : LiveUser) : Option (Reason × String) :=
  let parts := idPart "uidnumber" live.uidNumber u.uid ++ idPart "gidnumber" live.gidNumber u.gid
  if parts = [] then none
  else some (.idChange, ", ".intercalate parts ++ " would change file ownership")

def userVerdict (u : DesiredUser) : Option (Reason × String) :=
  let name := P.lower u.name
  if v.preserved name then some (.preservedUser, "a preserved FreeIPA user has this name")
  else (v.users name).bind (idChange u)

def password (u : DesiredUser) : List Operation :=
  let name := P.lower u.name
  if !u.hasInitialPassword then []
  else match v.users name with
    | none => [operation .passwordInitialize name [] [] false [createID .userCreate name]]
    | some live =>
      if live.lastPwdChange = "" then [operation .passwordInitialize name [] [] false []]
      else if !u.preserveExisting && !onResetPassword live then
        [operation .passwordReset name [] [] true []]
      else []

def userOperations (u : DesiredUser) : List Operation :=
  let name := P.lower u.name
  (match v.users name with
    | none => [operation .userCreate name
        ((desiredAttrs u).map fun e => (e.1, ⟨none,e.2⟩)) [] false []]
    | some live =>
      if attrChanges u live = [] then []
      else [operation .userUpdate name (attrChanges u live) [] false []])
  ++ password P v u

def sshKeyID (normalized : String) : String :=
  String.ofList (normalized.toList.takeWhile (fun c => c ≠ ' ')) ++ " sha256:"
    ++ String.ofList ((P.sha256Hex normalized).toList.take 16)

def reportKeys (u : DesiredUser) : List SSHKeyReport :=
  match u.sshKeys with
  | none => []
  | some keys =>
    let live := ((v.users (P.lower u.name)).map LiveUser.sshKeys).getD []
    if keys = live ∧ u.sshKeysInvalid = 0 then []
    else [⟨P.lower u.name,keys.map (sshKeyID P),live.map (sshKeyID P),u.sshKeysInvalid⟩]

def emitUser (b : Builder) (u : DesiredUser) : Builder :=
  let name := P.lower u.name
  { b with
    operations := b.operations ++ userOperations P v u,
    createdUsers := b.createdUsers ++
      (if (v.users name).isNone then [(name, createID .userCreate name)] else []),
    sshKeys := b.sshKeys ++ reportKeys P v u }

def deps (groupDep : Option String) (members : List String) (created : List (String × String)) :
    List String :=
  groupDep.toList ++ members.filterMap (fun m => created.lookup m)

def membersOf (group : Option LiveGroup) (side : LiveGroup → List String) : List String :=
  (group.map side).getD []

def memberOperation (kind : Kind) (name : String) (members dependsOn : List String) :
    List Operation :=
  if members = [] then [] else [operation kind name [] members false dependsOn]

def membershipOperations (b : Builder) (g : DesiredGroup) : List Operation :=
  let name := P.lower g.name
  let live := v.groups name
  let users := g.users.filter (fun n => decide (userKey P n ∉ b.blocked))
  let groups := g.groups.filter (fun n => decide (groupKey P n ∉ b.blocked))
  let missingUsers := difference P users (membersOf live LiveGroup.memberUsers)
  let missingGroups := difference P groups (membersOf live LiveGroup.memberGroups)
  let groupDep := b.createdGroups.lookup name
  (if g.authoritative then
      memberOperation .memberUserRemove name
        (difference P (membersOf live LiveGroup.memberUsers) g.users) []
      ++ memberOperation .memberGroupRemove name
        (difference P (membersOf live LiveGroup.memberGroups) g.groups) []
    else [])
  ++ memberOperation .memberUserAdd name missingUsers
      (deps groupDep missingUsers b.createdUsers)
  ++ memberOperation .memberGroupAdd name missingGroups
      (deps groupDep missingGroups b.createdGroups)

def pruneReport (g : DesiredGroup) : List PruneReport :=
  if g.authoritative && (!g.usersDeclared || !g.groupsDeclared) then
    [⟨P.lower g.name,(if g.usersDeclared then [] else ["users"])
      ++ if g.groupsDeclared then [] else ["groups"]⟩]
  else []

def groupMembership (b : Builder) (g : DesiredGroup) : Builder :=
  if groupKey P g.name ∈ b.blocked then b
  else { b with
    operations := b.operations ++ membershipOperations P v b g,
    prune := b.prune ++ pruneReport P g }

def lockOperations (b : Builder) (u : DesiredUser) : List Operation :=
  let name := P.lower u.name
  match v.users name with
  | none =>
    if u.enabled then []
    else [operation .userDisable name [] [] false [(b.createdUsers.lookup name).getD ""]]
  | some live =>
    if live.locked && u.enabled then [operation .userEnable name [] [] false []]
    else if !live.locked && !u.enabled then [operation .userDisable name [] [] false []]
    else []

def userLock (b : Builder) (u : DesiredUser) : Builder :=
  if userKey P u.name ∈ b.blocked then b
  else { b with operations := b.operations ++ lockOperations P v b u }

def absentUserVerdict (n : String) : Option (Reason × String) :=
  if v.preserved (P.lower n) then
    some (.preservedUser, "the user to delete is preserved in FreeIPA")
  else none

def deleteUserOperations (n : String) : List Operation :=
  if (v.users (P.lower n)).isSome then [operation .userDelete (P.lower n) [] [] true []] else []

def emitUserDeletion (b : Builder) (n : String) : Builder :=
  { b with operations := b.operations ++ deleteUserOperations P v n }

def absentGroupVerdict (n : String) : Option (Reason × String) :=
  if (v.groups (P.lower n)).isSome then markerCollision P v n else none

def deleteGroupOperations (n : String) : List Operation :=
  if (v.groups (P.lower n)).isSome then
    let marker := ensureMarker P v n []
    marker ++ [operation .groupDelete (P.lower n) [] [] true (marker.map Operation.id)]
  else []

def emitGroupDeletion (b : Builder) (n : String) : Builder :=
  { b with operations := b.operations ++ deleteGroupOperations P v n }

def sortByName {α : Type} (name : α → String) (items : List α) : List α :=
  items.insertionSort (fun a b => P.lower (name a) ≤ P.lower (name b))

@[simp]
theorem mem_sortByName {α : Type} {name : α → String} {items : List α} {x : α} :
    x ∈ sortByName P name items ↔ x ∈ items :=
  List.mem_insertionSort _

def groupsPass (d : Desired) (b : Builder) : Builder :=
  (sortByName P DesiredGroup.name d.groups).foldl
    (visit P DesiredGroup.name (groupKey P) (groupVerdict P v) (emitGroup P v)) b

def usersPass (d : Desired) (b : Builder) : Builder :=
  (sortByName P DesiredUser.name d.users).foldl
    (visit P DesiredUser.name (userKey P) (userVerdict P v) (emitUser P v)) b

def membershipPass (d : Desired) (b : Builder) : Builder :=
  (sortByName P DesiredUser.name d.users).foldl (userLock P v)
    ((sortByName P DesiredGroup.name d.groups).foldl (groupMembership P v) b)

def deletionsPass (d : Desired) (b : Builder) : Builder :=
  (sortByName P id d.absentGroups).foldl
    (visit P id (groupKey P) (absentGroupVerdict P v) (emitGroupDeletion P v))
    ((sortByName P id d.absentUsers).foldl
      (visit P id (userKey P) (absentUserVerdict P v) (emitUserDeletion P v)) b)

def emptyBuilder : Builder := ⟨[],[],[],[],[],[],[]⟩

def assembled (d : Desired) : Builder :=
  deletionsPass P v d (membershipPass P v d (usersPass P v d (groupsPass P v d
    (blockReferences P d (blockCollisions P d emptyBuilder)))))

end

def OperationLE (a b : Operation) : Prop :=
  a.kind.rank < b.kind.rank ∨ (a.kind.rank = b.kind.rank ∧ a.object ≤ b.object)

instance : DecidableRel OperationLE := fun a b =>
  inferInstanceAs (Decidable (a.kind.rank < b.kind.rank ∨
    (a.kind.rank = b.kind.rank ∧ a.object ≤ b.object)))

def BlockedLE (a b : Blocked) : Prop :=
  a.object < b.object ∨ (a.object = b.object ∧ a.reason.text ≤ b.reason.text)

instance : DecidableRel BlockedLE := fun a b =>
  inferInstanceAs (Decidable (a.object < b.object ∨
    (a.object = b.object ∧ a.reason.text ≤ b.reason.text)))

def build (P : Platform) (d : Desired) (live : Live) : Plan :=
  let b := assembled P live.directory d
  { operations := b.operations.insertionSort OperationLE
    blocked := b.blockedList.insertionSort BlockedLE
    sshKeys := b.sshKeys
    implicitMembershipPrune := b.prune
    notInScope := d.notInScope }

end Pilot.Identity
