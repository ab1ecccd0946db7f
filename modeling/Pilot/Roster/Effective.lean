import Pilot.Library.Reach
import Pilot.Roster.Governance

/-!
`internal/inventory/roster_effective.go`: nested groups and hostgroups
flattened into users and hosts. A Go set is a list of its elements, which is
sorted and deduplicated where the source lists the keys, and an index by name
is the list of the entries it holds.
-/
namespace Pilot.Roster
open List

def present (items : List Value) : List Fields :=
  (maps items).filter (fun m => stateOrDefault m "present" != "absent")

theorem mem_present : m ∈ present items ↔ m ∈ maps items ∧ stateOrDefault m "present" ≠ "absent" := by
  simp [present]

def rosterGroupsByName (root : Fields) : List Fields := present (listField root "groups")

def rosterHostgroupsByName (root : Fields) : List Fields := present (listField root "hostgroups")

theorem byName_some (found : byName items name = some m) : m ∈ items ∧ stringField m "name" = name := by
  unfold byName at found
  split at found
  · cases found
  · exact ⟨mem_reverse.mp (mem_of_find?_eq_some found), by simpa using find?_some found⟩

def membersOf (entry : Fields) (key : String) : List String :=
  stringListField (mapField entry "membership") key

/-- The walk of `expandGroupMembers` and `expandHostgroupHosts`: what is added
    for a name that is not on the current path. The source recurses without a
    bound; here one more step than there are entries is allowed, and `none`
    would say that this was not enough. -/
def expandWalk (entries : List Fields) (nested own name : String) : Option (List String) :=
  Reach.along (fun n => (byName entries n).map (membersOf · nested))
    (fun n => (byName entries n).elim [] (membersOf · own)) (entries.length + 1) [] name

def expand (entries : List Fields) (nested own name : String) : List String :=
  (expandWalk entries nested own name).getD []

def expandGroupMembers (groups : List Fields) (name : String) : List String :=
  expand groups "groups" "users" name

def expandHostgroupHosts (hostgroups : List Fields) (name : String) : List String :=
  expand hostgroups "hostgroups" "hosts" name

/-- Direct members, and the members of nested entries. -/
inductive HasMember (entries : List Fields) (nested own : String) : String → String → Prop
  | direct {name m : String} {entry : Fields} (found : byName entries name = some entry)
      (mem : m ∈ membersOf entry own) : HasMember entries nested own name m
  | nested {name inner m : String} {entry : Fields} (found : byName entries name = some entry)
      (mem : inner ∈ membersOf entry nested) (rest : HasMember entries nested own inner m) :
      HasMember entries nested own name m

section
variable {nested own name m : String}

theorem hasMember_of_route
    (route : Reach.Route (fun n => (byName entries n).map (membersOf · nested)) [] name z)
    (mem : m ∈ (byName entries z).elim [] (membersOf · own)) :
    HasMember entries nested own name m := by
  induction route with
  | here _ known =>
    obtain ⟨entry,found,-⟩ := Option.map_eq_some_iff.mp known
    rw [found] at mem
    exact .direct found mem
  | step _ known child _ ih =>
    obtain ⟨entry,found,rfl⟩ := Option.map_eq_some_iff.mp known
    exact .nested found child (ih mem)

theorem route_of_hasMember (has : HasMember entries nested own name m) :
    ∃ z, Reach.Route (fun n => (byName entries n).map (membersOf · nested)) [] name z ∧
      m ∈ (byName entries z).elim [] (membersOf · own) := by
  induction has with
  | @direct name m entry found mem =>
    have known : (byName entries name).map (membersOf · nested) = some (membersOf entry nested) := by
      rw [found]
      rfl
    refine ⟨name,.here not_mem_nil known,?_⟩
    rw [found]
    exact mem
  | @nested name inner m entry found child _ ih =>
    obtain ⟨z,route,mem⟩ := ih
    refine ⟨z,.step not_mem_nil ?_ child route,mem⟩
    rw [found]
    rfl

theorem named_of_nested (known : (byName entries y).map (membersOf · nested) = some ys) :
    y ∈ entries.map (fun e => stringField e "name") := by
  obtain ⟨entry,found,-⟩ := Option.map_eq_some_iff.mp known
  obtain ⟨mem,rfl⟩ := byName_some found
  exact mem_map_of_mem mem

theorem expandWalk_ends (entries : List Fields) (nested own name : String) :
    ∃ r, expandWalk entries nested own name = some r ∧
      ∀ m, m ∈ r ↔ HasMember entries nested own name m := by
  have enough : (entries.map (fun e => stringField e "name")).length < entries.length + 1 := by simp
  refine (Reach.mem_along (fun _ _ => named_of_nested) enough).imp fun r walk => ⟨walk.1,fun m => ?_⟩
  refine (walk.2 m).trans ⟨?_,route_of_hasMember⟩
  rintro ⟨z,route,mem⟩
  exact hasMember_of_route route mem

theorem expandWalk_eq (entries : List Fields) (nested own name : String) :
    expandWalk entries nested own name = some (expand entries nested own name) := by
  obtain ⟨r,ran,-⟩ := expandWalk_ends entries nested own name
  rw [expand,ran]
  rfl

theorem mem_expand : m ∈ expand entries nested own name ↔ HasMember entries nested own name m := by
  obtain ⟨r,ran,mem⟩ := expandWalk_ends entries nested own name
  rw [expand,ran]
  exact mem m

end

/-- The keys of a set in order. A set without keys lists as nil in
    `sortedSetKeysOrNil` and as an empty slice here; both are the empty list. -/
def sortedSetKeys (set : List String) : List String := sortStrings set.dedup

def sortedSetKeysOrNil (set : List String) : List String := sortedSetKeys set

def sortedCopy (items : List String) : List String := sortedSetKeysOrNil items

@[simp]
theorem mem_sortedSetKeys {set : List String} : x ∈ sortedSetKeys set ↔ x ∈ set := by
  simp [sortedSetKeys]

def subjectUsers (root item : Fields) : List String :=
  let subjects := mapField item "subjects"
  stringListField subjects "users" ++
    (stringListField subjects "groups").flatMap (expandGroupMembers (rosterGroupsByName root))

def targetHosts (hostgroups : List Fields) (targets : Fields) : List String :=
  stringListField targets "hosts" ++
    (stringListField targets "hostgroups").flatMap (expandHostgroupHosts hostgroups)

def Reaches (root targets : Fields) (host : String) : Prop :=
  host ∈ stringListField targets "hosts" ∨
    ∃ hg ∈ stringListField targets "hostgroups",
      HasMember (rosterHostgroupsByName root) "hostgroups" "hosts" hg host

theorem mem_targetHosts :
    host ∈ targetHosts (rosterHostgroupsByName root) targets ↔ Reaches root targets host := by
  simp [targetHosts,Reaches,expandHostgroupHosts,mem_expand]

def targetsAllHosts (item : Fields) : Bool := stringField (mapField item "targets") "hostcat" == "all"

def ruleHosts (root item : Fields) : List String :=
  if targetsAllHosts item then []
  else targetHosts (rosterHostgroupsByName root) (mapField item "targets")

structure EffectiveHBACAccess where
  rule : String
  enabled : Bool
  users : List String
  allHosts : Bool
  (hosts services : List String)
  deriving DecidableEq

def effectiveHBACAccessFromRoster (root : Fields) : List EffectiveHBACAccess :=
  (present (listField (mapField root "hbac") "rules")).map fun item =>
    { rule := stringField item "name"
      enabled := boolFieldDefault item "enabled" true
      users := sortedSetKeys (subjectUsers root item)
      allHosts := targetsAllHosts item
      hosts := sortedSetKeysOrNil (ruleHosts root item)
      services := stringListField item "services" }

structure EffectiveSudoAccess where
  rule : String
  users : List String
  allHosts : Bool
  hosts : List String
  allCommands : Bool
  (commands deniedCommandGroups deniedCommands runAsUsers runAsGroups options : List String)
  deriving DecidableEq

def resolvedCommands (root part : Fields) : List String :=
  let commandGroups := maps (listField (mapField root "sudo") "command_groups")
  stringListField part "commands" ++
    (stringListField part "command_groups").flatMap fun cg =>
      (byName commandGroups cg).elim [] (stringListField · "commands")

def allowsAllCommands (part : Fields) : Bool :=
  (stringListField part "commands").length == 0 && (stringListField part "command_groups").length == 0

def effectiveSudoAccessFromRoster (root : Fields) : List EffectiveSudoAccess :=
  (present (listField (mapField root "sudo") "rules")).map fun item =>
    let allow := mapField item "allow"
    let deny := mapField item "deny"
    let runAs := mapField item "run_as"
    { rule := stringField item "name"
      users := sortedSetKeys (subjectUsers root item)
      allHosts := targetsAllHosts item
      hosts := sortedSetKeysOrNil (ruleHosts root item)
      allCommands := allowsAllCommands allow
      commands := sortedSetKeysOrNil
        (if allowsAllCommands allow then [] else resolvedCommands root allow)
      deniedCommandGroups := stringListField deny "command_groups"
      deniedCommands := sortedSetKeysOrNil (resolvedCommands root deny)
      runAsUsers := sortedCopy (stringListField runAs "users")
      runAsGroups := sortedCopy (stringListField runAs "groups")
      options := sortedCopy (stringListField item "options") }

end Pilot.Roster
