import Pilot.Library.Fold
import Pilot.Library.Json
import Pilot.Outbound.Outbox

/-!
The published state of `internal/outbound/model.go`, its canonical form and
identifier (`canonical.go`) and the diff between two states (`diff.go`).
Times are instants in nanoseconds, so the UTC conversions of the source are
the identity, and a nil slice and an empty one are the same list: the
canonical form makes one of them of every slice it compares.
-/
namespace Pilot.Outbound
open Json

structure StringMap where
  entries : List (String × String)
  sorted : entries.Pairwise (fun a b => a.1 < b.1)
  deriving DecidableEq

structure ProjectedHost where
  (id name source fqdn address env : String)
  roles : List String
  deploymentAvailability : String
  annotations : Option StringMap
  deriving DecidableEq

structure ProjectedUser where
  (name displayName email : String)
  enabled : Bool
  (uid gid : Option Int)
  effectiveGroups : List String
  deriving DecidableEq

structure ProjectedGroup where
  (name category type description : String)
  (users groups : List String)
  deriving DecidableEq

structure ProjectedHostgroup where
  (name description : String)
  (hostIDs hostgroups effectiveHostIDs : List String)
  deriving DecidableEq

structure ProjectedLoginAccess where
  (id source rule : String)
  users : List String
  allHosts : Bool
  (hostIDs services : List String)
  validUntil : Option Int
  deriving DecidableEq

structure ProjectedSudoAccess where
  (id source rule : String)
  users : List String
  allHosts : Bool
  hostIDs : List String
  allCommands : Bool
  (commands deniedCommands runAsUsers runAsGroups options : List String)
  (validNotBefore validNotAfter : Option Int)
  deriving DecidableEq

structure ProjectedAccess where
  login : List ProjectedLoginAccess
  sudoAccess : List ProjectedSudoAccess
  deriving DecidableEq

structure UserHostAccessSnapshotV1 where
  hosts : List ProjectedHost
  users : List ProjectedUser
  groups : List ProjectedGroup
  hostgroups : List ProjectedHostgroup
  access : ProjectedAccess
  deriving DecidableEq

def emptySnapshot : UserHostAccessSnapshotV1 := ⟨[],[],[],[],⟨[],[]⟩⟩

def sortedOrEmpty (names : List String) : List String :=
  names.mergeSort (fun a b => decide (a ≤ b))

/-- `sort.Slice` by a string key. Entities with one key keep their order. -/
def sortBy {α : Type} (key : α → String) (items : List α) : List α :=
  items.mergeSort (fun a b => decide (key a ≤ key b))

def ProjectedHost.canonical (h : ProjectedHost) : ProjectedHost :=
  { h with roles := sortedOrEmpty h.roles }

def ProjectedUser.canonical (u : ProjectedUser) : ProjectedUser :=
  { u with effectiveGroups := sortedOrEmpty u.effectiveGroups }

def ProjectedGroup.canonical (g : ProjectedGroup) : ProjectedGroup :=
  { g with users := sortedOrEmpty g.users, groups := sortedOrEmpty g.groups }

def ProjectedHostgroup.canonical (hg : ProjectedHostgroup) : ProjectedHostgroup :=
  { hg with
    hostIDs := sortedOrEmpty hg.hostIDs, hostgroups := sortedOrEmpty hg.hostgroups,
    effectiveHostIDs := sortedOrEmpty hg.effectiveHostIDs }

def ProjectedLoginAccess.canonical (a : ProjectedLoginAccess) : ProjectedLoginAccess :=
  { a with
    users := sortedOrEmpty a.users, services := sortedOrEmpty a.services,
    hostIDs := if a.allHosts then [] else sortedOrEmpty a.hostIDs }

def ProjectedSudoAccess.canonical (a : ProjectedSudoAccess) : ProjectedSudoAccess :=
  { a with
    users := sortedOrEmpty a.users, runAsUsers := sortedOrEmpty a.runAsUsers,
    runAsGroups := sortedOrEmpty a.runAsGroups, options := sortedOrEmpty a.options,
    hostIDs := if a.allHosts then [] else sortedOrEmpty a.hostIDs,
    commands := if a.allCommands then [] else sortedOrEmpty a.commands,
    deniedCommands := sortedOrEmpty a.deniedCommands }

def canonicalizeSnapshot (s : UserHostAccessSnapshotV1) : UserHostAccessSnapshotV1 where
  hosts := sortBy ProjectedHost.id (s.hosts.map ProjectedHost.canonical)
  users := sortBy ProjectedUser.name (s.users.map ProjectedUser.canonical)
  groups := sortBy ProjectedGroup.name (s.groups.map ProjectedGroup.canonical)
  hostgroups := sortBy ProjectedHostgroup.name (s.hostgroups.map ProjectedHostgroup.canonical)
  access :=
    { login := sortBy ProjectedLoginAccess.id (s.access.login.map ProjectedLoginAccess.canonical)
      sudoAccess := sortBy ProjectedSudoAccess.id (s.access.sudoAccess.map ProjectedSudoAccess.canonical) }

def strings (names : List String) : Value := .array (names.map .string)

def omitEmpty (field value : String) : List (String × Value) :=
  if value = "" then [] else [(field, .string value)]

def omitEmptyList (field : String) (values : List String) : List (String × Value) :=
  if values = [] then [] else [(field, strings values)]

def omitNil {α : Type} (field : String) (encode : α → Value) :
    Option α → List (String × Value)
  | none => []
  | some value => [(field, encode value)]

/-- An empty map is left out like a nil one. -/
def annotationsJSON : Option StringMap → List (String × Value)
  | none => []
  | some m =>
    if m.entries = [] then []
    else [("annotations", .object (m.entries.map fun e => (e.1, .string e.2)))]

def ProjectedHost.json (h : ProjectedHost) : Value :=
  .object ([("id", .string h.id),("name", .string h.name),("source", .string h.source)]
    ++ omitEmpty "fqdn" h.fqdn ++ omitEmpty "address" h.address ++ omitEmpty "env" h.env
    ++ [("roles", strings h.roles)]
    ++ omitEmpty "deployment_availability" h.deploymentAvailability
    ++ annotationsJSON h.annotations)

def ProjectedUser.json (u : ProjectedUser) : Value :=
  .object ([("name", .string u.name)]
    ++ omitEmpty "display_name" u.displayName ++ omitEmpty "email" u.email
    ++ [("enabled", .bool u.enabled)]
    ++ omitNil "uid" .number u.uid ++ omitNil "gid" .number u.gid
    ++ [("effective_groups", strings u.effectiveGroups)])

def ProjectedGroup.json (g : ProjectedGroup) : Value :=
  .object ([("name", .string g.name)]
    ++ omitEmpty "category" g.category ++ omitEmpty "type" g.type
    ++ omitEmpty "description" g.description
    ++ [("users", strings g.users),("groups", strings g.groups)])

def ProjectedHostgroup.json (hg : ProjectedHostgroup) : Value :=
  .object ([("name", .string hg.name)] ++ omitEmpty "description" hg.description
    ++ [("host_ids", strings hg.hostIDs),("hostgroups", strings hg.hostgroups),
      ("effective_host_ids", strings hg.effectiveHostIDs)])

section
variable (P : Platform)

def timeJSON (t : Int) : Value := .string (P.formatTime t)

def ProjectedLoginAccess.json (a : ProjectedLoginAccess) : Value :=
  .object ([("id", .string a.id),("source", .string a.source),("rule", .string a.rule),
      ("users", strings a.users),("all_hosts", .bool a.allHosts)]
    ++ omitEmptyList "host_ids" a.hostIDs
    ++ [("services", strings a.services)]
    ++ omitNil "valid_until" (timeJSON P) a.validUntil)

def ProjectedSudoAccess.json (a : ProjectedSudoAccess) : Value :=
  .object ([("id", .string a.id),("source", .string a.source),("rule", .string a.rule),
      ("users", strings a.users),("all_hosts", .bool a.allHosts)]
    ++ omitEmptyList "host_ids" a.hostIDs
    ++ [("all_commands", .bool a.allCommands)]
    ++ omitEmptyList "commands" a.commands ++ omitEmptyList "denied_commands" a.deniedCommands
    ++ [("run_as_users", strings a.runAsUsers),("run_as_groups", strings a.runAsGroups),
      ("options", strings a.options)]
    ++ omitNil "valid_not_before" (timeJSON P) a.validNotBefore
    ++ omitNil "valid_not_after" (timeJSON P) a.validNotAfter)

def UserHostAccessSnapshotV1.json (s : UserHostAccessSnapshotV1) : Value :=
  .object [("hosts", .array (s.hosts.map ProjectedHost.json)),
    ("users", .array (s.users.map ProjectedUser.json)),
    ("groups", .array (s.groups.map ProjectedGroup.json)),
    ("hostgroups", .array (s.hostgroups.map ProjectedHostgroup.json)),
    ("access", .object [("login", .array (s.access.login.map (ProjectedLoginAccess.json P))),
      ("sudo", .array (s.access.sudoAccess.map (ProjectedSudoAccess.json P)))])]

def snapshotID (s : UserHostAccessSnapshotV1) : String :=
  "sha256:" ++ P.sha256Hex (marshal ((canonicalizeSnapshot s).json P))

end

structure EntityDiff (α : Type) where
  upsert : List α
  delete : List String
  deriving DecidableEq

structure StateDiffV1 where
  (baseSnapshotID targetSnapshotID : String)
  bootstrap : Bool
  hosts : EntityDiff ProjectedHost
  users : EntityDiff ProjectedUser
  groups : EntityDiff ProjectedGroup
  hostgroups : EntityDiff ProjectedHostgroup
  loginAccess : EntityDiff ProjectedLoginAccess
  sudoAccess : EntityDiff ProjectedSudoAccess
  deriving DecidableEq

section
variable {α : Type}

def byKey (key : α → String) (items : List α) (k : String) : Option α :=
  items.reverse.find? (fun item => key item == k)

def diffEntities [DecidableEq α] (base target : List α) (key : α → String) : EntityDiff α where
  upsert := target.filter (fun t => decide (byKey key base (key t) ≠ some t))
  delete := sortedOrEmpty
    ((base.map key).dedup.filter (fun k => !(target.map key).contains k))

def EntityDiff.json (encode : α → Value) (d : EntityDiff α) : Value :=
  .object [("upsert", .array (d.upsert.map encode)),("delete", strings d.delete)]

end

section
variable (P : Platform)

def diff (base target : UserHostAccessSnapshotV1) (bootstrap : Bool) : StateDiffV1 :=
  let baseCanon := if bootstrap then emptySnapshot else canonicalizeSnapshot base
  let targetCanon := canonicalizeSnapshot target
  { baseSnapshotID := if bootstrap then "" else snapshotID P (canonicalizeSnapshot base)
    targetSnapshotID := snapshotID P targetCanon
    bootstrap := bootstrap
    hosts := diffEntities baseCanon.hosts targetCanon.hosts ProjectedHost.id
    users := diffEntities baseCanon.users targetCanon.users ProjectedUser.name
    groups := diffEntities baseCanon.groups targetCanon.groups ProjectedGroup.name
    hostgroups := diffEntities baseCanon.hostgroups targetCanon.hostgroups ProjectedHostgroup.name
    loginAccess := diffEntities baseCanon.access.login targetCanon.access.login
      ProjectedLoginAccess.id
    sudoAccess := diffEntities baseCanon.access.sudoAccess targetCanon.access.sudoAccess
      ProjectedSudoAccess.id }

def StateDiffV1.json (d : StateDiffV1) : Value :=
  .object (omitEmpty "base_snapshot_id" d.baseSnapshotID
    ++ [("target_snapshot_id", .string d.targetSnapshotID),("bootstrap", .bool d.bootstrap),
      ("hosts", d.hosts.json ProjectedHost.json),("users", d.users.json ProjectedUser.json),
      ("groups", d.groups.json ProjectedGroup.json),
      ("hostgroups", d.hostgroups.json ProjectedHostgroup.json),
      ("login_access", d.loginAccess.json (ProjectedLoginAccess.json P)),
      ("sudo_access", d.sudoAccess.json (ProjectedSudoAccess.json P))])

end

open List

section
variable {α : Type} {key : α → String} {items base target : List α}

def EntityDiff.apply (key : α → String) (d : EntityDiff α) (held : String → Option α) (k : String) :
    Option α :=
  (byKey key d.upsert k).or (if k ∈ d.delete then none else held k)

theorem byKey_eq_some_iff (distinct : (items.map key).Nodup) :
    byKey key items k = some x ↔ x ∈ items ∧ key x = k := by
  constructor
  · intro found
    exact ⟨mem_reverse.mp (mem_of_find?_eq_some found),by simpa using find?_some found⟩
  · rintro ⟨mem,rfl⟩
    rw [byKey,← head?_filter,filter_reverse,Table.filter_key distinct mem]
    rfl

/-- A diff leads to its target from its base, and once more from the target. -/
theorem apply_diffEntities [DecidableEq α] (distinct : (target.map key).Nodup)
    (is : held = byKey key base ∨ held = byKey key target) :
    (diffEntities base target key).apply key held = byKey key target := by
  funext k
  have upserts : ∀ x, byKey key (diffEntities base target key).upsert k = some x ↔
      byKey key target k = some x ∧ byKey key base k ≠ some x := by
    intro x
    simp only [diffEntities]
    rw [byKey_eq_some_iff (distinct.sublist (filter_sublist.map key)),byKey_eq_some_iff distinct,
      mem_filter,decide_eq_true_iff,and_right_comm]
    exact and_congr_right fun is => by rw [is.2]
  have deletes : k ∈ (diffEntities base target key).delete ↔
      byKey key base k ≠ none ∧ byKey key target k = none := by
    simp [diffEntities,sortedOrEmpty,byKey]
  unfold EntityDiff.apply
  cases put : byKey key (diffEntities base target key).upsert k with
  | some x => exact ((upserts x).mp put).1.symm
  | none =>
    rw [Option.none_or]
    split
    · rename_i gone
      exact (deletes.mp gone).2.symm
    rename_i stays
    rcases is with rfl | rfl
    · cases aim : byKey key target k with
      | some x =>
        by_contra other
        exact absurd ((upserts x).mpr ⟨aim,other⟩) (by simp [put])
      | none =>
        by_contra has
        exact stays (deletes.mpr ⟨has,aim⟩)
    · rfl

end

/-- A part of a snapshot that has a diff of its own. -/
structure Section where
  Entity : Type
  key : Entity → String
  items : UserHostAccessSnapshotV1 → List Entity
  changes : StateDiffV1 → EntityDiff Entity

def sections : List Section :=
  [⟨_,ProjectedHost.id,(·.hosts),(·.hosts)⟩,⟨_,ProjectedUser.name,(·.users),(·.users)⟩,
    ⟨_,ProjectedGroup.name,(·.groups),(·.groups)⟩,
    ⟨_,ProjectedHostgroup.name,(·.hostgroups),(·.hostgroups)⟩,
    ⟨_,ProjectedLoginAccess.id,(·.access.login),(·.loginAccess)⟩,
    ⟨_,ProjectedSudoAccess.id,(·.access.sudoAccess),(·.sudoAccess)⟩]

def Section.receive (x : Section) (held : String → Option x.Entity) (d : StateDiffV1) :
    String → Option x.Entity :=
  (x.changes d).apply x.key held

structure KeyedSnapshot extends UserHostAccessSnapshotV1 where
  distinct : ∀ x ∈ sections, ((x.items toUserHostAccessSnapshotV1).map x.key).Nodup

def Section.held (x : Section) : Option KeyedSnapshot → String → Option x.Entity
  | none => fun _ => none
  | some s => byKey x.key (x.items (canonicalizeSnapshot s.1))

theorem canonical_keys {c : α → α} {key : α → String} {items : List α} (keeps : key ∘ c = key)
    (distinct : (items.map key).Nodup) : ((sortBy key (items.map c)).map key).Nodup := by
  have perm : (sortBy key (items.map c)).Perm (items.map c) := mergeSort_perm _ _
  rwa [(perm.map key).nodup_iff,map_map,keeps]

section
variable (P : Platform)

/-- Without a publication before, the diff is a bootstrap. -/
def nextDiff (last : Option KeyedSnapshot) (s : KeyedSnapshot) : StateDiffV1 :=
  diff P (last.elim emptySnapshot (·.1)) s.1 last.isNone

theorem receive_nextDiff (last : Option KeyedSnapshot) (s : KeyedSnapshot) (mem : x ∈ sections)
    (is : held = x.held last ∨ held = x.held (some s)) :
    x.receive held (nextDiff P last s) = x.held (some s) := by
  have distinct := s.distinct x mem
  simp only [sections,mem_cons,not_mem_nil,or_false] at mem
  rcases mem with rfl | rfl | rfl | rfl | rfl | rfl <;> cases last <;>
    exact apply_diffEntities (canonical_keys rfl distinct) is

/-- Publications in order, each with how often its diff is delivered again. -/
def deliveries (last : Option KeyedSnapshot) : List (KeyedSnapshot × Nat) → List StateDiffV1
  | [] => []
  | (s,again) :: rest => replicate (again+1) (nextDiff P last s) ++ deliveries (some s) rest

/-- However often each diff is delivered, the receiver ends up with the canonical form of the
    last publication. -/
theorem receiver_holds_last_publication (last : Option KeyedSnapshot)
    (list : List (KeyedSnapshot × Nat)) (x : { x // x ∈ sections }) :
    (deliveries P last list).foldl x.1.receive (x.1.held last) =
      x.1.held ((list.map (some ·.1)).getLastD last) := by
  induction list generalizing last with
  | nil => rfl
  | cons p rest ih =>
    obtain ⟨s,again⟩ := p
    have reached : (replicate (again+1) (nextDiff P last s)).foldl x.1.receive (x.1.held last) =
        x.1.held (some s) := by
      rw [replicate_succ,foldl_cons,receive_nextDiff P last s x.2 (.inl rfl)]
      refine Fold.foldl_invariant (I := (· = x.1.held (some s))) rfl ?_
      intro held d memD holds
      rw [eq_of_mem_replicate memD]
      exact receive_nextDiff P last s x.2 (.inr holds)
    rw [deliveries,foldl_append,reached,ih (some s),map_cons,getLastD_cons]

end

end Pilot.Outbound
