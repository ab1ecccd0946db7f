import Pilot.Roster.Value

/-!
The checks of `internal/inventory/roster_validate.go` that every schema
version shares, and `ValidateRosterV1`. Regular expressions are decidable
predicates on the characters; `%q`, `%v` and RFC 3339 parsing are Go's and
stand as parameters.
-/
namespace Pilot.Roster

/-- Go's functions on texts. An instant is its nanoseconds after the zero time. -/
structure Formats where
  quote : String → String
  format : Value → String
  parseTime : String → Except String Int

def isLower (c : Char) : Bool := 'a' ≤ c && c ≤ 'z'

def isNameChar (c : Char) : Bool :=
  isLower c || isDigit c || c == '_' || c == '.' || c == '-'

def userNameMatches (s : String) : Bool :=
  match s.toList with
  | [] => false
  | c :: rest => (isLower c || c == '_') && rest.all isNameChar

/-- The expression `^[^.]+\.[^.]+\..+$`, whose last dot does not match a line break. -/
def validRosterHostFQDN (s : String) : Bool :=
  let first := s.toList.takeWhile (· != '.')
  let behind := (s.toList.dropWhile (· != '.')).drop 1
  let second := behind.takeWhile (· != '.')
  let last := (behind.dropWhile (· != '.')).drop 1
  !first.isEmpty && !second.isEmpty && !last.isEmpty && !last.contains '\n'

def isOctet (cs : List Char) : Bool := 1 ≤ cs.length && cs.length ≤ 3 && cs.all isDigit

/-- The expression `^[0-9]{1,3}(\.[0-9]{1,3}){3}$`. -/
def ipv4LikeMatches (s : String) : Bool :=
  let parts := s.toList.splitOn '.'
  parts.length == 4 && parts.all isOctet

def beginsWith (s start : String) : Bool := start.toList.isPrefixOf s.toList

/-- The expression `^/(bin|usr/bin)/(bash|sh|su|sudo|env|python[^ /]*|perl|vim|less)$`. -/
def sudoDenylistBinaryMatches (s : String) : Bool :=
  ["/bin/","/usr/bin/"].any fun dir =>
    beginsWith s dir &&
      let name := String.ofList (s.toList.drop dir.length)
      (["bash","sh","su","sudo","env","perl","vim","less"].contains name ||
        (beginsWith name "python" && (name.toList.drop 6).all (fun c => c != ' ' && c != '/')))

def sudoDenylistMetaMatches (s : String) : Bool :=
  s.toList.any (fun c => ['*','?',';','|',Char.ofNat 96,'$','<','>'].contains c)

def report (bad : Bool) (rule detail : String) : List RosterViolation :=
  if bad then [⟨rule,detail⟩] else []

@[simp]
theorem report_nil : report bad rule detail = [] ↔ bad = false := by
  cases bad <;> simp [report]

def joined (names : List String) : String := ", ".intercalate names

def reportUnknown (m : Fields) (allowed : List String) (rule text : String) :
    List RosterViolation :=
  report (!(unknownKeys m allowed).isEmpty) rule (text ++ joined (unknownKeys m allowed))

theorem reportUnknown_nil :
    reportUnknown m allowed rule text = [] ↔ ∀ key ∈ m.map Prod.fst, key ∈ allowed := by
  have empty : unknownKeys m allowed = [] ↔
      (m.map Prod.fst).filter (fun k => !allowed.contains k) = [] := by
    rw [← List.length_eq_zero_iff,unknownKeys,sortStrings,List.length_insertionSort,List.length_eq_zero_iff]
  simp [reportUnknown,empty]

theorem field_none_of_unknown (ok : reportUnknown m allowed rule text = [])
    (foreign : key ∉ allowed) : field m key = none := by
  rw [field,Option.map_eq_none_iff,List.find?_eq_none]
  intro entry mem same
  obtain rfl : entry.1 = key := by simpa using same
  exact foreign (reportUnknown_nil.mp ok entry.1 (List.mem_map_of_mem mem))

def reportDuplicates (names : List String) (rule text : String) : List RosterViolation :=
  report (!(findDuplicates names).isEmpty) rule (text ++ joined (findDuplicates names))

@[simp]
theorem reportDuplicates_nil : reportDuplicates names rule text = [] ↔ names.Nodup := by
  rw [← findDuplicates_nil]
  simp [reportDuplicates]

def reportForeign (names known : List String) (rule : String) (detail : String → String) :
    List RosterViolation :=
  names.flatMap (fun n => report (!known.contains n) rule (detail n))

@[simp]
theorem reportForeign_nil : reportForeign names known rule detail = [] ↔ ∀ n ∈ names, n ∈ known := by
  simp [reportForeign]

def reportFlag (m : Fields) (key rule detail : String) : List RosterViolation :=
  match field m key with
  | none => []
  | some (.bool _) => []
  | some _ => [⟨rule,detail⟩]

variable (F : Formats)

def checkSchemaVersionExact (root : Fields) (want : Int) : List RosterViolation :=
  match field root "schema_version" with
  | none => [⟨"schema_version",s!"schema_version is required (must be {want})"⟩]
  | some v =>
    report (toInt v != some want) "schema_version"
      s!"schema_version must be {want}, got {F.format v}"

def knownTopLevelKeysV1 : List String :=
  ["schema_version","freeipa","users","groups","hosts","hostgroups","hbac","sudo","nfs",
    "nfs_clients","migration","policy_exceptions"]

def knownTopLevelKeysV2 : List String := knownTopLevelKeysV1 ++ ["netgroups"]

def knownTopLevelKeysV3 : List String :=
  knownTopLevelKeysV2 ++ ["grants","auth_policies","security","account_policies",
    "password_policies","credential_policies"]

def checkTopLevelKeys (root : Fields) (allowed : List String) : List RosterViolation :=
  let freeipa := mapField root "freeipa"
  reportUnknown root allowed "top-level keys" "unknown top-level key(s): "
  ++ reportUnknown freeipa ["domain","realm","server","admin","defaults","safety"]
      "freeipa keys" "unknown freeipa field(s): "
  ++ reportUnknown (mapField freeipa "admin") ["principal","password"]
      "freeipa.admin keys" "unknown freeipa.admin field(s): "

def checkMigration (root : Fields) : List RosterViolation :=
  report (!(mapField root "migration").isEmpty) "migration"
    "migration must be empty — it remains a dedicated fail-closed workflow, not reconciled by this playbook"

def knownUserAuthTypes : List String := ["password","otp","pkinit","radius"]

def checkUserAuthentication (u : Fields) (label : String) : List RosterViolation :=
  match field u "authentication" with
  | none => []
  | some raw =>
    let auth := asMap (some raw)
    let allowed := stringListField auth "allowed"
    reportUnknown auth ["allowed"] "user authentication keys"
        s!"user {F.quote label}: unknown authentication field(s) "
    ++ report allowed.isEmpty "user authentication allowed"
        s!"user {F.quote label}: authentication.allowed needs at least one authentication type"
    ++ reportForeign allowed knownUserAuthTypes "user authentication type" fun t =>
        s!"user {F.quote label}: authentication.allowed {F.quote t} must be one of password/otp/pkinit/radius"

def checkUser (u : Fields) : List RosterViolation :=
  let label := labelOf u
  let state := stateOrDefault u "present"
  let pw := mapField u "password"
  let sshKeys := mapField u "ssh_keys"
  report (!userNameMatches (stringField u "name")) "user name"
      s!"user {F.quote label}: name must match ^[a-z_][a-z0-9_.-]*$"
  ++ report (state != "present" && state != "disabled" && state != "absent") "user state"
      s!"user {F.quote label}: state {F.quote state} must be present/disabled/absent"
  ++ reportUnknown u ["name","state","first","last","display_name","email","uid","gid",
      "login_shell","home_directory","password","ssh_keys","enabled","authentication"]
      "user keys" s!"user {F.quote label}: unknown field(s) "
  ++ reportUnknown pw ["initial","force_change","preserve_existing"] "user password keys"
      s!"user {F.quote label}: unknown password field(s) "
  ++ ["force_change","preserve_existing"].flatMap (fun key =>
      reportFlag pw key "user password flag"
        s!"user {F.quote label}: password.{key} must be true or false")
  ++ reportUnknown sshKeys ["authoritative","values"] "user ssh_keys keys"
      s!"user {F.quote label}: unknown ssh_keys field(s) "
  ++ report (!boolFieldDefault sshKeys "authoritative" true) "user ssh_keys authoritative"
      s!"user {F.quote label}: ssh_keys.authoritative must be true"
  ++ report (state == "disabled" && boolFieldDefault u "enabled" false) "user disabled+enabled"
      s!"user {F.quote label}: state: disabled requires enabled to not be true"
  ++ checkUserAuthentication F u label

def checkUsers (users : List Value) : List RosterViolation := (maps users).flatMap (checkUser F)

def checkState (item : Fields) (noun label : String) : List RosterViolation :=
  let state := stateOrDefault item "present"
  report (state != "present" && state != "absent") (noun ++ " state")
    s!"{noun} {F.quote label}: state {F.quote state} must be present/absent"

def groupCategoryPrefix : String → Option String
  | "team" => some "team-"
  | "filesystem" => some "data-"
  | "access" => some "access-"
  | "role" => some "role-"
  | _ => none

def checkGroup (g : Fields) : List RosterViolation :=
  let name := stringField g "name"
  let label := labelOf g
  let category := stringField g "category"
  let type := if stringField g "type" = "" then "posix" else stringField g "type"
  let membership := mapField g "membership"
  checkState F g "group" label
  ++ (match groupCategoryPrefix category with
    | none => [⟨"group category",
        s!"group {F.quote label}: category {F.quote category} must be one of team/filesystem/access/role"⟩]
    | some start => report (!beginsWith name start) "group category prefix"
        s!"group {F.quote label}: category {F.quote category} requires the name to start with {F.quote start}")
  ++ report (type != "posix" && type != "nonposix" && type != "external") "group type"
      s!"group {F.quote label}: type {F.quote type} must be posix/nonposix/external"
  ++ reportUnknown g ["name","state","category","type","description","gid","membership"]
      "group keys" s!"group {F.quote label}: unknown field(s) "
  ++ reportUnknown membership ["authoritative","users","groups"] "group membership keys"
      s!"group {F.quote label}: unknown membership field(s) "
  ++ report ((stringListField membership "groups").contains name) "group self-membership"
      s!"group {F.quote label}: cannot list itself in its own membership.groups"

def checkGroups (groups : List Value) : List RosterViolation := (maps groups).flatMap (checkGroup F)

def checkHost (h : Fields) : List RosterViolation :=
  let label := labelOf h
  report (!validRosterHostFQDN (stringField h "name")) "host name"
      s!"host {F.quote label}: name must be FQDN-shaped"
  ++ checkState F h "host" label
  ++ report (!ipv4LikeMatches (stringField h "ip_address")) "host ip_address"
      s!"host {F.quote label}: ip_address must look like an IPv4 address"
  ++ reportUnknown h ["name","state","ip_address","description"] "host keys"
      s!"host {F.quote label}: unknown field(s) "

def checkHosts (hosts : List Value) : List RosterViolation := (maps hosts).flatMap (checkHost F)

def checkUniqueAndReferences (users groups : List Value) : List RosterViolation :=
  let userNames := namesOf users
  let groupNames := namesOf groups
  reportDuplicates userNames "unique user names" "duplicate user name(s): "
  ++ reportDuplicates groupNames "unique group names" "duplicate group name(s): "
  ++ (maps groups).flatMap fun g =>
      let label := labelOf g
      let membership := mapField g "membership"
      reportForeign (stringListField membership "users") userNames
          "group membership user reference" (fun u =>
          s!"group {F.quote label}: membership.users references unknown user {F.quote u}")
      ++ reportForeign (stringListField membership "groups") groupNames
          "group membership group reference" (fun gg =>
          s!"group {F.quote label}: membership.groups references unknown group {F.quote gg}")

def isHBACSubjectGroupCategory (category : String) : Bool :=
  category == "team" || category == "role" || category == "access"

def isSudoSubjectGroupCategory (category : String) : Bool := category == "role"

def isDeprecatedGroupCategory (category : String) : Bool := category == "access"

def hasEnabledAdminBreakGlassRule (rules : List Value) : Bool :=
  (maps rules).any fun item =>
    stateOrDefault item "present" == "present" && boolFieldDefault item "enabled" true &&
      (stringListField (mapField item "subjects") "users").contains "admin" &&
      stringField (mapField item "targets") "hostcat" == "all"

def allowedUsers (root : Fields) : List String := namesOf (listField root "users") ++ ["admin"]

structure RuleScope where
  (users groups hosts hostgroups : List String)
  hostcat : String

def ruleScope (item : Fields) : RuleScope where
  users := stringListField (mapField item "subjects") "users"
  groups := stringListField (mapField item "subjects") "groups"
  hosts := stringListField (mapField item "targets") "hosts"
  hostgroups := stringListField (mapField item "targets") "hostgroups"
  hostcat := stringField (mapField item "targets") "hostcat"

def checkTargets (scope : RuleScope) (kind label : String) : List RosterViolation :=
  let hasHostTargets := scope.hosts.length + scope.hostgroups.length > 0
  report (scope.hostcat != "all" && !hasHostTargets) (kind ++ " targets")
      s!"{kind} rule {F.quote label}: targets must be hostcat: all, or list hosts/hostgroups"
  ++ report (scope.hostcat == "all" && hasHostTargets) (kind ++ " targets")
      s!"{kind} rule {F.quote label}: targets can't combine hostcat: all with hosts/hostgroups"

def checkHBACRule (root : Fields) (groups hostgroups : List Value) (item : Fields) :
    List RosterViolation :=
  let label := labelOf item
  let state := stateOrDefault item "present"
  let scope := ruleScope item
  report (state != "present" && state != "absent") "hbac state"
      s!"hbac rule {F.quote label}: state {F.quote state} must be present/absent"
  ++ report (label == "allow_all" && state == "absent") "hbac allow_all protection"
      ("hbac rule \"allow_all\" is a FreeIPA built-in safety rule and cannot be deleted via state: absent; use " ++
        "hbac.disable_allow_all instead")
  ++ report (scope.users.length + scope.groups.length == 0) "hbac subjects"
      s!"hbac rule {F.quote label}: needs at least one subject user or group"
  ++ checkTargets F scope "hbac" label
  ++ report (stringListField item "services").isEmpty "hbac services"
      s!"hbac rule {F.quote label}: needs at least one service"
  ++ reportForeign scope.groups (namesWithCategoryFunc groups isHBACSubjectGroupCategory)
      "hbac subject group category" (fun g =>
      s!"hbac rule {F.quote label}: subjects.groups {F.quote g} must be a group with category team, role, or " ++
        "(legacy) access")
  ++ reportForeign scope.users (allowedUsers root) "hbac subject user reference" (fun u =>
      s!"hbac rule {F.quote label}: subjects.users references unknown user {F.quote u}")
  ++ reportForeign scope.hostgroups (namesOf hostgroups) "hbac target hostgroup reference" (fun hg =>
      s!"hbac rule {F.quote label}: targets.hostgroups references unknown hostgroup {F.quote hg}")

def checkHBAC (root : Fields) (groups hostgroups : List Value) : List RosterViolation :=
  let hbac := mapField root "hbac"
  let rules := listField hbac "rules"
  report (boolFieldDefault hbac "disable_allow_all" false && !hasEnabledAdminBreakGlassRule rules)
      "hbac break-glass"
      "hbac.disable_allow_all requires an enabled admin rule targeting hostcat: all"
  ++ (maps rules).flatMap (checkHBACRule F root groups hostgroups)

def checkCommand (who cmd : String) : List RosterViolation :=
  if sudoDenylistBinaryMatches cmd then
    [⟨"sudo command denylist",
      s!"{who}sudo command {F.quote cmd} is a shell-escape binary, not allowed"⟩]
  else report (sudoDenylistMetaMatches cmd) "sudo command denylist"
    s!"{who}sudo command {F.quote cmd} contains a shell metacharacter, not allowed"

def checkSudoRule (root : Fields) (groups commandGroups : List Value) (item : Fields) :
    List RosterViolation :=
  let label := labelOf item
  let state := stateOrDefault item "present"
  let scope := ruleScope item
  let allow := mapField item "allow"
  let category := stringField allow "command_category"
  let hasSpecificAllow :=
    (stringListField allow "commands").length + (stringListField allow "command_groups").length > 0
  report (state != "present" && state != "absent") "sudo state"
      s!"sudo rule {F.quote label}: state {F.quote state} must be present/absent"
  ++ report (scope.users.length + scope.groups.length == 0) "sudo subjects"
      s!"sudo rule {F.quote label}: needs at least one subject user or group"
  ++ reportForeign scope.groups (namesWithCategoryFunc groups isSudoSubjectGroupCategory)
      "sudo subject group category" (fun g =>
      s!"sudo rule {F.quote label}: subjects.groups {F.quote g} must be a group with category: role")
  ++ reportForeign scope.users (allowedUsers root) "sudo subject user reference" (fun u =>
      s!"sudo rule {F.quote label}: subjects.users references unknown user {F.quote u}")
  ++ checkTargets F scope "sudo" label
  ++ reportForeign
      (stringListField allow "command_groups" ++
        stringListField (mapField item "deny") "command_groups")
      (namesOf commandGroups) "sudo command group reference" (fun group =>
      s!"sudo rule {F.quote label} references unknown command group {F.quote group}")
  ++ report (category != "" && category != "all") "sudo allow command category"
      s!"sudo rule {F.quote label}: allow.command_category must be all when set"
  ++ report (category == "all" && hasSpecificAllow) "sudo allow command category"
      s!"sudo rule {F.quote label}: allow.command_category: all can't combine with commands or command_groups"

def dedupe (items : List String) : List String :=
  items.foldl (fun out x => if out.contains x then out else out ++ [x]) []

def checkSudo (root : Fields) (groups : List Value) : List RosterViolation :=
  let sudoSection := mapField root "sudo"
  let rules := listField sudoSection "rules"
  let commandGroups := listField sudoSection "command_groups"
  let allCommands := (maps commandGroups).flatMap (fun cg => stringListField cg "commands")
    ++ (maps rules).flatMap (fun item => stringListField (mapField item "allow") "commands")
  reportDuplicates (namesOf commandGroups) "unique sudo command group names"
      "duplicate sudo command group name(s): "
  ++ reportDuplicates (namesOf rules) "unique sudo rule names" "duplicate sudo rule name(s): "
  ++ (maps rules).flatMap (checkSudoRule F root groups commandGroups)
  ++ (dedupe allCommands).flatMap (checkCommand F "")

def checkShare (groups : List Value) (serverLabel : String) (share : Fields) :
    List RosterViolation :=
  let shareLabel := labelOf share
  let known := "" :: namesWithCategory groups "filesystem"
  let acl := mapField share "acl"
  reportForeign [stringField (mapField share "ownership") "group"] known
      "nfs ownership group reference" (fun g =>
      s!"nfs server {F.quote serverLabel} share {F.quote shareLabel}: ownership.group {F.quote g} must be a " ++
        "group with category: filesystem")
  ++ ["access","default"].flatMap fun part =>
      reportForeign (namesOf (listField (mapField acl part) "named_groups")) known
        "nfs acl named_group reference" fun name =>
        s!"nfs server {F.quote serverLabel} share {F.quote shareLabel}: acl.{part}.named_groups references " ++
          s!"{F.quote name}, which must be a group with category: filesystem"

def checkNFS (root : Fields) (groups : List Value) : List RosterViolation :=
  (maps (listField (mapField root "nfs") "servers")).flatMap fun server =>
    let serverLabel := if stringField server "host" = "" then "unnamed" else stringField server "host"
    (maps (listField server "shares")).flatMap (checkShare F groups serverLabel)

def validateRosterCommon (root : Fields) : List RosterViolation :=
  let users := listField root "users"
  let groups := listField root "groups"
  checkUsers F users
  ++ checkGroups F groups
  ++ checkHosts F (listField root "hosts")
  ++ checkUniqueAndReferences F users groups
  ++ checkHBAC F root groups (listField root "hostgroups")
  ++ checkSudo F root groups
  ++ checkNFS F root groups

def validateRosterV1 (root : Fields) : List RosterViolation :=
  checkSchemaVersionExact F root 1
  ++ checkTopLevelKeys root knownTopLevelKeysV1
  ++ checkMigration root
  ++ validateRosterCommon F root

end Pilot.Roster
