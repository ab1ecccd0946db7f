import Pilot.Roster.Validate

/-!
The sections that schema versions 2 and 3 add: netgroups, grants,
authentication policies, the security block, and account, password and
credential policies. `ValidateRosterV2` and `ValidateRosterV3` run their
checks after the common ones.
-/
namespace Pilot.Roster
open List

structure GrantValidity where
  (notBefore notAfter : Int)
  deriving DecidableEq, Repr

def durationUnit : Char → Option Int
  | 'm' => some 60000000000
  | 'h' => some 3600000000000
  | 'd' => some 86400000000000
  | _ => none

/-- `ParseAccessDuration`, in nanoseconds; the product wraps around. -/
def parseAccessDuration (s : String) : Option Int :=
  match s.toList.reverse with
  | [] => none
  | u :: digits =>
    match durationUnit u with
    | none => none
    | some nanos =>
      let count := digitsValue digits.reverse
      if digits.isEmpty || !digits.all isDigit || count ≤ 0 || count > maxInt64 then none
      else some (wrapInt64 (count * nanos))

def validAccessDuration (s : String) : Bool := (parseAccessDuration s).isSome

/-- The written count times the written unit, over the integers. -/
def writtenDuration (s : String) : Int :=
  match s.toList.reverse with
  | [] => 0
  | u :: digits => digitsValue digits.reverse * (durationUnit u).getD 0

theorem durationUnit_positive (unit : durationUnit u = some nanos) : 0 < nanos := by
  unfold durationUnit at unit
  split at unit <;> simp at unit <;> omega

theorem access_duration_exact_iff (s : String) (d : Int) (accepted : parseAccessDuration s = some d) :
    0 < d ∧ d = writtenDuration s ↔ writtenDuration s ≤ maxInt64 := by
  unfold parseAccessDuration at accepted
  unfold writtenDuration
  split at accepted
  · cases accepted
  split at accepted
  · cases accepted
  rename_i unit
  simp only [unit,Option.getD_some] at accepted ⊢
  split at accepted
  · cases accepted
  rename_i shape
  simp only [Bool.or_eq_true,decide_eq_true_eq,not_or] at shape
  have positive := Int.mul_pos (Int.not_le.mp shape.1.2) (durationUnit_positive unit)
  rw [Option.some.injEq] at accepted
  subst accepted
  constructor
  · rintro ⟨-,same⟩
    rw [← same]
    unfold wrapInt64 maxInt64
    omega
  · intro fits
    rw [wrapInt64_of_fits positive.le fits]
    exact ⟨positive,rfl⟩

theorem week_is_exact : parseAccessDuration "7d" = some 604800000000000 ∧
    0 < (604800000000000 : Int) ∧ 604800000000000 = writtenDuration "7d" :=
  ⟨by decide +kernel,(access_duration_exact_iff "7d" _ (by decide +kernel)).mpr (by decide +kernel)⟩

theorem long_duration_is_negative : parseAccessDuration "106752d" = some (-9223371273709551616) ∧
    writtenDuration "106752d" = 9223372800000000000 := by decide +kernel

variable (F : Formats)

/-- `netgroupNameRe`, that is `^ng-[a-z0-9][a-z0-9_.-]*$`. -/
def netgroupNameMatches (s : String) : Bool :=
  beginsWith s "ng-" &&
    match s.toList.drop 3 with
    | [] => false
    | c :: rest => (isLower c || isDigit c) && rest.all isNameChar

def byName (items : List Fields) (name : String) : Option Fields :=
  if name = "" then none
  else items.reverse.find? (fun m => stringField m "name" == name)

/-- The first cycle found from a name, as the path that closes it. The outer
    `none` says that the fuel did not suffice, the inner one that there is no
    cycle. -/
def findNetgroupCycle (netgroups : List Fields) :
    Nat → List String → String → Option (Option (List String))
  | 0, _, _ => none
  | fuel + 1, path, name =>
    if name ∈ path then some (some (path ++ [name]))
    else match byName netgroups name with
      | none => some none
      | some ng => (stringListField (mapField ng "membership") "netgroups").findSomeM?
          (findNetgroupCycle netgroups fuel (path ++ [name]))

def checkNetgroup (root : Fields) (ng : Fields) : List RosterViolation :=
  let label := labelOf ng
  let name := stringField ng "name"
  let membership := mapField ng "membership"
  let nested := stringListField membership "netgroups"
  let reference (key noun rule : String) (known : List Value) :=
    reportForeign (stringListField membership key) (namesOf known) rule fun n =>
      s!"netgroup {F.quote label}: membership.{key} references unknown {noun} {F.quote n}"
  report (!netgroupNameMatches name) "netgroup name"
      s!"netgroup {F.quote label}: name must match ^ng-[a-z0-9][a-z0-9_.-]*$"
  ++ checkState F ng "netgroup" label
  ++ reportUnknown ng ["name","state","description","nis_domain","membership"] "netgroup keys"
      s!"netgroup {F.quote label}: unknown field(s) "
  ++ reportUnknown membership ["authoritative","users","groups","hosts","hostgroups","netgroups"]
      "netgroup membership keys" s!"netgroup {F.quote label}: unknown membership field(s) "
  ++ report (!boolFieldDefault membership "authoritative" false) "netgroup membership authoritative"
      s!"netgroup {F.quote label}: membership.authoritative must be true"
  ++ reference "users" "user" "netgroup membership user reference" (listField root "users")
  ++ reference "groups" "group" "netgroup membership group reference" (listField root "groups")
  ++ reference "hosts" "host" "netgroup membership host reference" (listField root "hosts")
  ++ reference "hostgroups" "hostgroup" "netgroup membership hostgroup reference"
      (listField root "hostgroups")
  ++ reference "netgroups" "netgroup" "netgroup membership netgroup reference"
      (listField root "netgroups")
  ++ report (name != "" && nested.contains name) "netgroup self-reference"
      s!"netgroup {F.quote label}: cannot list itself in its own membership.netgroups"

def checkNetgroups (root : Fields) : List RosterViolation :=
  let netgroups := listField root "netgroups"
  let names := namesOf netgroups
  let cycle := names.findSome? fun name =>
    (findNetgroupCycle (maps netgroups) (netgroups.length + 1) [] name).join.filter (fun c => 2 < c.length)
  reportDuplicates names "unique netgroup names" "duplicate netgroup name(s): "
  ++ names.flatMap (fun name =>
      report ((namesOf (listField root "hostgroups")).contains name)
        "netgroup/hostgroup name collision"
        s!"netgroup {F.quote name} collides with a hostgroup of the same name")
  ++ (maps netgroups).flatMap (checkNetgroup F root)
  ++ match cycle with
    | none => []
    | some path => [⟨"netgroup cycle","netgroup membership cycle: " ++ " -> ".intercalate path⟩]

def parseGrantValidity (validity : Fields) : Except String GrantValidity := do
  let notAfterStr := stringField validity "not_after"
  if notAfterStr = "" then .error "validity.not_after is required"
  else
    let notAfter ← match F.parseTime notAfterStr with
      | .ok t => .ok t
      | .error err => .error s!"validity.not_after {F.quote notAfterStr} must be RFC3339 with an offset or Z: {err}"
    let notBeforeStr := stringField validity "not_before"
    let notBefore ← if notBeforeStr = "" then .ok 0
      else match F.parseTime notBeforeStr with
        | .ok t => .ok t
        | .error err => .error s!"validity.not_before {F.quote notBeforeStr} must be RFC3339 with an offset or Z: {err}"
    if notBefore ≠ 0 ∧ ¬ notBefore < notAfter then
      .error "validity.not_after must be after validity.not_before"
    else return ⟨notBefore,notAfter⟩

inductive GrantLifecycleState where
  | pending | active | expired | absent
  deriving DecidableEq, Repr

def evaluateGrantLifecycle (state : String) (validity : GrantValidity) (now : Int) :
    GrantLifecycleState :=
  if state = "absent" then .absent
  else if validity.notBefore ≠ 0 ∧ now < validity.notBefore then .pending
  else if now < validity.notAfter then .active
  else .expired

def grantCommonKeys : List String := ["name","kind","state","subjects","targets"]

def knownGrantKeysByKind : String → Option (List String)
  | "temporary_grant" => some (grantCommonKeys ++ ["services","validity","justification","review"])
  | "sudo_grant" => some (grantCommonKeys ++
      ["validity","justification","privilege","run_as","options","review"])
  | "breakglass" => some (grantCommonKeys ++ ["services","activation","auth_policy"])
  | _ => none

def knownGrantKeysUnion : List String :=
  grantCommonKeys ++ ["services","validity","justification","review","privilege","run_as",
    "options","activation","auth_policy"]

def checkGrantServices (item : Fields) (label : String) : List RosterViolation :=
  report (stringListField item "services").isEmpty "grant services"
    s!"grant {F.quote label}: needs at least one service"

def checkValidity (item : Fields) (noun label : String) : List RosterViolation :=
  match field item "validity" with
  | none => [⟨noun ++ " validity",s!"{noun} {F.quote label}: validity is required"⟩]
  | some _ =>
    match parseGrantValidity F (mapField item "validity") with
    | .ok _ => []
    | .error err => [⟨noun ++ " validity",s!"{noun} {F.quote label}: {err}"⟩]

def checkGrantTimedFields (item : Fields) (label : String) : List RosterViolation :=
  checkValidity F item "grant" label
  ++ match field item "justification" with
    | none => [⟨"grant justification",s!"grant {F.quote label}: justification is required"⟩]
    | some raw =>
      let j := asMap (some raw)
      reportUnknown j ["reason","ticket","requested_by"] "grant justification keys"
          s!"grant {F.quote label}: unknown justification field(s) "
      ++ report (stringField j "reason" == "") "grant justification reason"
          s!"grant {F.quote label}: justification.reason is required"

def checkGrantActivation (item : Fields) (label : String) : List RosterViolation :=
  match field item "activation" with
  | none => [⟨"grant activation",s!"grant {F.quote label}: activation is required"⟩]
  | some raw =>
    let a := asMap (some raw)
    let maxDuration := stringField a "max_duration"
    reportUnknown a ["max_duration","require_reason","require_ticket"] "grant activation keys"
        s!"grant {F.quote label}: unknown activation field(s) "
    ++ (if maxDuration = "" then
        [⟨"grant activation max_duration",
          s!"grant {F.quote label}: activation.max_duration is required"⟩]
      else report (!validAccessDuration maxDuration) "grant activation max_duration"
        (s!"grant {F.quote label}: activation.max_duration {F.quote maxDuration} is not a valid duration (e.g. " ++
          "30m, 1h, 8h, 24h, 7d)"))
    ++ ["require_reason","require_ticket"].flatMap fun key =>
        reportFlag a key "grant activation flag"
          s!"grant {F.quote label}: activation.{key} must be a boolean"

/-- The optional review block of a grant or a credential policy; `sample` is
    the example of a duration in the message. -/
def checkReview (item : Fields) (noun label sample : String) (known : List String) :
    List RosterViolation :=
  match field item "review" with
  | none => []
  | some raw =>
    let r := asMap (some raw)
    let interval := stringField r "interval"
    let last := stringField r "last_reviewed_at"
    let by' := stringField r "reviewed_by"
    reportUnknown r ["interval","last_reviewed_at","reviewed_by"] (noun ++ " review keys")
        s!"{noun} {F.quote label}: unknown review field(s) "
    ++ (if interval = "" then
        [⟨noun ++ " review interval",s!"{noun} {F.quote label}: review.interval is required"⟩]
      else report (!validAccessDuration interval) (noun ++ " review interval")
        s!"{noun} {F.quote label}: review.interval {F.quote interval} is not a valid duration (e.g. {sample})")
    ++ (if last = "" then []
      else match F.parseTime last with
        | .ok _ => []
        | .error err => [⟨noun ++ " review last_reviewed_at",
            s!"{noun} {F.quote label}: review.last_reviewed_at {F.quote last} must be RFC3339: {err}"⟩])
    ++ reportForeign [by'] ("" :: known) (noun ++ " review reviewed_by reference") fun u =>
        s!"{noun} {F.quote label}: review.reviewed_by references unknown roster user {F.quote u}"

def checkGrantReview (item : Fields) (label : String) (known : List String) :
    List RosterViolation :=
  checkReview F item "grant" label "30d, 90d" known

def checkGrantSudoPrivilege (root item : Fields) (label : String) : List RosterViolation :=
  let privilege := mapField item "privilege"
  let commands := stringListField privilege "commands"
  let commandGroups := stringListField privilege "command_groups"
  let category := stringField privilege "command_category"
  reportUnknown privilege ["commands","command_groups","command_category"] "grant privilege keys"
      s!"grant {F.quote label}: unknown privilege field(s) "
  ++ reportUnknown (mapField item "run_as") ["users","groups"] "grant run_as keys"
      s!"grant {F.quote label}: unknown run_as field(s) "
  ++ reportForeign commandGroups (namesOf (listField (mapField root "sudo") "command_groups"))
      "sudo command group reference" (fun group =>
      s!"grant {F.quote label} references unknown sudo command group {F.quote group}")
  ++ report (category != "" && category != "all") "sudo allow command category"
      s!"grant {F.quote label}: privilege.command_category must be all when set"
  ++ report (category == "all" && commands.length + commandGroups.length > 0)
      "sudo allow command category"
      s!"grant {F.quote label}: privilege.command_category: all can't combine with commands or command_groups"
  ++ commands.flatMap (checkCommand F s!"grant {F.quote label}: ")

/-- Targets of grants and authentication policies: at least one, hosts shaped
    like names, hostgroups of the roster. -/
def checkNamedTargets (root item : Fields) (noun label : String) : List RosterViolation :=
  let hosts := stringListField (mapField item "targets") "hosts"
  let hostgroups := stringListField (mapField item "targets") "hostgroups"
  report (hosts.length + hostgroups.length == 0) (noun ++ " targets")
      s!"{noun} {F.quote label}: needs at least one target host or hostgroup"
  ++ hosts.flatMap (fun h => report (!validRosterHostFQDN h) (noun ++ " target host FQDN")
      s!"{noun} {F.quote label}: targets.hosts {F.quote h} must be FQDN-shaped")
  ++ reportForeign hostgroups (namesOf (listField root "hostgroups"))
      (noun ++ " target hostgroup reference") (fun hg =>
      s!"{noun} {F.quote label}: targets.hostgroups references unknown hostgroup {F.quote hg}")

def checkGrantKind (root item : Fields) (label : String) : List RosterViolation :=
  let groups := listField root "groups"
  let subjGroups := stringListField (mapField item "subjects") "groups"
  match stringField item "kind" with
  | "temporary_grant" =>
    reportForeign subjGroups (namesWithCategoryFunc groups isHBACSubjectGroupCategory)
        "grant subject group category" (fun g =>
        s!"grant {F.quote label}: subjects.groups {F.quote g} must be a group with category team, role, or " ++
          "(legacy) access")
    ++ checkGrantServices F item label
    ++ checkGrantTimedFields F item label
    ++ checkGrantReview F item label (allowedUsers root)
  | "sudo_grant" =>
    reportForeign subjGroups (namesWithCategoryFunc groups isSudoSubjectGroupCategory)
        "grant subject group category" (fun g =>
        s!"grant {F.quote label}: sudo_grant subjects.groups {F.quote g} must be a group with category: role")
    ++ checkGrantTimedFields F item label
    ++ checkGrantSudoPrivilege F root item label
    ++ checkGrantReview F item label (allowedUsers root)
  | "breakglass" =>
    report (!subjGroups.isEmpty) "grant subject group category"
        s!"grant {F.quote label}: breakglass subjects.groups must be empty — only direct named users are accepted"
    ++ checkGrantServices F item label
    ++ checkGrantActivation F item label
  | _ => []

def checkGrant (root item : Fields) : List RosterViolation :=
  let label := labelOf item
  let kind := stringField item "kind"
  let subjUsers := stringListField (mapField item "subjects") "users"
  let subjGroups := stringListField (mapField item "subjects") "groups"
  report (knownGrantKeysByKind kind).isNone "grant kind"
      s!"grant {F.quote label}: kind {F.quote kind} must be one of temporary_grant/sudo_grant/breakglass"
  ++ reportUnknown item ((knownGrantKeysByKind kind).getD knownGrantKeysUnion) "grant keys"
      s!"grant {F.quote label}: unknown field(s) "
  ++ checkState F item "grant" label
  ++ report (subjUsers.length + subjGroups.length == 0) "grant subjects"
      s!"grant {F.quote label}: needs at least one subject user or group"
  ++ reportForeign subjUsers (allowedUsers root) "grant subject user reference" (fun u =>
      s!"grant {F.quote label}: subjects.users references unknown user {F.quote u}")
  ++ checkNamedTargets F root item "grant" label
  ++ checkGrantKind F root item label

def checkGrants (root : Fields) : List RosterViolation :=
  let grants := listField root "grants"
  reportDuplicates (namesOf grants) "unique grant names" "duplicate grant name(s): "
  ++ (maps grants).flatMap (checkGrant F root)

def knownAuthIndicators : List String := ["otp","radius","pkinit","hardened"]

def checkAuthPolicy (root item : Fields) : List RosterViolation :=
  let label := labelOf item
  let requireAny := stringListField item "require_any"
  reportUnknown item ["name","state","targets","require_any"] "auth_policy keys"
      s!"auth_policy {F.quote label}: unknown field(s) "
  ++ checkState F item "auth_policy" label
  ++ checkNamedTargets F root item "auth_policy" label
  ++ report requireAny.isEmpty "auth_policy require_any"
      s!"auth_policy {F.quote label}: require_any needs at least one authentication indicator"
  ++ reportForeign requireAny knownAuthIndicators "auth_policy indicator" (fun i =>
      s!"auth_policy {F.quote label}: require_any {F.quote i} must be one of otp/radius/pkinit/hardened")

def checkAuthPolicies (root : Fields) : List RosterViolation :=
  let policies := listField root "auth_policies"
  reportDuplicates (namesOf policies) "unique auth_policy names" "duplicate auth_policy name(s): "
  ++ (maps policies).flatMap (checkAuthPolicy F root)

def checkSecurityTopLevelKeys (root : Fields) : List RosterViolation :=
  reportUnknown (mapField root "security") ["grant_policies","conflicts","privileged_identity"]
    "security keys" "unknown security field(s): "

def grantPolicyMatchableKinds : List String := ["temporary_grant","sudo_grant"]

def checkDuration (m : Fields) (key rule : String) (detail : String → String) :
    List RosterViolation :=
  let s := stringField m key
  report (s != "" && !validAccessDuration s) rule (detail (F.quote s))

def checkGrantPolicy (root item : Fields) : List RosterViolation :=
  let label := labelOf item
  let criteria := mapField item "match"
  let require := mapField item "require"
  reportUnknown item ["name","state","match","require"] "grant_policy keys"
      s!"grant_policy {F.quote label}: unknown field(s) "
  ++ checkState F item "grant_policy" label
  ++ reportUnknown criteria ["kinds","hosts","hostgroups"] "grant_policy match keys"
      s!"grant_policy {F.quote label}: unknown match field(s) "
  ++ reportForeign (stringListField criteria "kinds") grantPolicyMatchableKinds
      "grant_policy match kinds" (fun kind =>
      s!"grant_policy {F.quote label}: match.kinds {F.quote kind} must be one of temporary_grant/sudo_grant")
  ++ reportForeign (stringListField criteria "hosts") (namesOf (listField root "hosts"))
      "grant_policy match host reference" (fun h =>
      s!"grant_policy {F.quote label}: match.hosts references unknown host {F.quote h}")
  ++ reportForeign (stringListField criteria "hostgroups") (namesOf (listField root "hostgroups"))
      "grant_policy match hostgroup reference" (fun hg =>
      s!"grant_policy {F.quote label}: match.hostgroups references unknown hostgroup {F.quote hg}")
  ++ reportUnknown require ["max_duration","reason","ticket","auth_policy"]
      "grant_policy require keys" s!"grant_policy {F.quote label}: unknown require field(s) "
  ++ checkDuration F require "max_duration" "grant_policy require max_duration" (fun s =>
      s!"grant_policy {F.quote label}: require.max_duration {s} is not a valid duration (e.g. 30m, 1h, 8h, 24h, 7d)")
  ++ ["reason","ticket"].flatMap (fun key =>
      reportFlag require key "grant_policy require flag"
        s!"grant_policy {F.quote label}: require.{key} must be a boolean")
  ++ reportForeign [stringField require "auth_policy"]
      ("" :: namesOf (listField root "auth_policies")) "grant_policy require auth_policy reference"
      (fun x =>
      s!"grant_policy {F.quote label}: require.auth_policy references unknown auth_policy {F.quote x}")

def checkGrantPolicies (root : Fields) : List RosterViolation :=
  let policies := listField (mapField root "security") "grant_policies"
  reportDuplicates (namesOf policies) "unique grant_policy names" "duplicate grant_policy name(s): "
  ++ (maps policies).flatMap (checkGrantPolicy F root)

def checkSoDConflict (root item : Fields) : List RosterViolation :=
  let label := labelOf item
  let groups := stringListField item "mutually_exclusive"
  let dupes := joined (findDuplicates groups)
  reportUnknown item ["name","state","mutually_exclusive"] "conflict keys"
      s!"conflict {F.quote label}: unknown field(s) "
  ++ checkState F item "conflict" label
  ++ report (groups.length < 2) "conflict mutually_exclusive"
      s!"conflict {F.quote label}: mutually_exclusive needs at least two groups"
  ++ report (!(findDuplicates groups).isEmpty) "conflict mutually_exclusive"
      s!"conflict {F.quote label}: mutually_exclusive lists {dupes} more than once"
  ++ reportForeign groups
      (namesWithCategoryFunc (listField root "groups") isSudoSubjectGroupCategory)
      "conflict group category" (fun g =>
      s!"conflict {F.quote label}: mutually_exclusive {F.quote g} must be a group with category: role — v3.0 " ++
        "guarantees role-group SoD only")

def checkSoDConflicts (root : Fields) : List RosterViolation :=
  let conflicts := listField (mapField root "security") "conflicts"
  reportDuplicates (namesOf conflicts) "unique conflict names" "duplicate conflict name(s): "
  ++ (maps conflicts).flatMap (checkSoDConflict F root)

def checkAccountPolicy (root item : Fields) : List RosterViolation :=
  let label := labelOf item
  let users := namesOf (listField root "users")
  let user := stringField item "user"
  reportUnknown item ["name","state","user","type","validity","sponsor","ticket"]
      "account_policy keys" s!"account_policy {F.quote label}: unknown field(s) "
  ++ checkState F item "account_policy" label
  ++ (if user = "" then
      [⟨"account_policy user",s!"account_policy {F.quote label}: user is required"⟩]
    else report (!users.contains user) "account_policy user reference"
      s!"account_policy {F.quote label}: user references unknown roster user {F.quote user}")
  ++ report (stringField item "type" == "") "account_policy type"
      s!"account_policy {F.quote label}: type is required"
  ++ checkValidity F item "account_policy" label
  ++ reportForeign [stringField item "sponsor"] ("" :: users) "account_policy sponsor reference"
      (fun s =>
      s!"account_policy {F.quote label}: sponsor references unknown roster user {F.quote s}")

def checkAccountPolicies (root : Fields) : List RosterViolation :=
  let policies := listField root "account_policies"
  reportDuplicates (namesOf policies) "unique account_policy names"
      "duplicate account_policy name(s): "
  ++ (maps policies).flatMap (checkAccountPolicy F root)

def checkInteger (m : Fields) (key : String) (fits : Int → Bool) (rule detail : String) :
    List RosterViolation :=
  match field m key with
  | none => []
  | some raw => report (!((toInt raw).any fits)) rule detail

def groupCategory (root : Fields) (name : String) : String :=
  ((maps (listField root "groups")).reverse.find? (fun g => stringField g "name" == name)).elim ""
    (fun g => stringField g "category")

def priorityOf (item : Fields) : Option Int := (field item "priority").bind toInt

def checkPasswordPolicy (root item : Fields) : List RosterViolation :=
  let label := labelOf item
  let group := stringField item "group"
  let lockout := mapField item "lockout"
  reportUnknown item ["name","state","group","priority","min_length","history_size","max_life",
      "min_life","lockout"] "password_policy keys"
      s!"password_policy {F.quote label}: unknown field(s) "
  ++ checkState F item "password_policy" label
  ++ (if group = "" then
      [⟨"password_policy group",s!"password_policy {F.quote label}: group is required (the global default " ++
        "policy is never targeted by this schema)"⟩]
    else if !(namesOf (listField root "groups")).contains group then
      [⟨"password_policy group reference",
        s!"password_policy {F.quote label}: group references unknown group {F.quote group}"⟩]
    else report (isDeprecatedGroupCategory (groupCategory root group))
      "password_policy group category"
      (s!"password_policy {F.quote label}: group {F.quote group} uses the deprecated access-* category; use a " ++
        "role-*/team-* group instead (spec.md v3.2 §7)"))
  ++ (if stateOrDefault item "present" ≠ "present" then []
    else match priorityOf item with
      | none => [⟨"password_policy priority",
          s!"password_policy {F.quote label}: priority is required and must be a positive integer"⟩]
      | some n => report (n ≤ 0) "password_policy priority"
          s!"password_policy {F.quote label}: priority {n} must be a positive integer")
  ++ checkInteger item "min_length" (fun n => 0 < n) "password_policy min_length"
      s!"password_policy {F.quote label}: min_length must be a positive integer"
  ++ checkInteger item "history_size" (fun n => 0 ≤ n) "password_policy history_size"
      s!"password_policy {F.quote label}: history_size must be a non-negative integer"
  ++ checkDuration F item "max_life" "password_policy max_life" (fun s =>
      s!"password_policy {F.quote label}: max_life {s} is not a valid duration (e.g. 90d, 24h)")
  ++ checkDuration F item "min_life" "password_policy min_life" (fun s =>
      s!"password_policy {F.quote label}: min_life {s} is not a valid duration (e.g. 1h, 30m)")
  ++ reportUnknown lockout ["max_failures","failure_reset_interval","lockout_duration"]
      "password_policy lockout keys"
      s!"password_policy {F.quote label}: unknown lockout field(s) "
  ++ checkInteger lockout "max_failures" (fun n => 0 < n) "password_policy lockout max_failures"
      s!"password_policy {F.quote label}: lockout.max_failures must be a positive integer"
  ++ checkDuration F lockout "failure_reset_interval"
      "password_policy lockout failure_reset_interval" (fun s =>
      s!"password_policy {F.quote label}: lockout.failure_reset_interval {s} is not a valid duration (e.g. 15m)")
  ++ checkDuration F lockout "lockout_duration" "password_policy lockout lockout_duration" (fun s =>
      s!"password_policy {F.quote label}: lockout.lockout_duration {s} is not a valid duration (e.g. 15m)")

def presentPriorities (policies : List Fields) : List String :=
  ((policies.filter (fun p => stateOrDefault p "present" == "present")).filterMap priorityOf).filter
    (fun n => 0 < n) |>.map toString

def checkPasswordPolicies (root : Fields) : List RosterViolation :=
  let policies := listField root "password_policies"
  reportDuplicates (namesOf policies) "unique password_policy names"
      "duplicate password_policy name(s): "
  ++ (maps policies).flatMap (checkPasswordPolicy F root)
  ++ reportDuplicates (presentPriorities (maps policies)) "password_policy priority uniqueness"
      "priority value(s) claimed by more than one password_policy (FreeIPA requires unique priority): "

def checkPrivilegedIdentity (root : Fields) : List RosterViolation :=
  let securitySection := mapField root "security"
  match field securitySection "privileged_identity" with
  | none => []
  | some raw =>
    let pi := asMap (some raw)
    let matchGroups := stringListField pi "match_groups"
    let require := mapField pi "require"
    reportUnknown pi ["match_groups","require"] "privileged_identity keys"
        "unknown privileged_identity field(s) "
    ++ report matchGroups.isEmpty "privileged_identity match_groups"
        "privileged_identity.match_groups needs at least one group"
    ++ reportForeign matchGroups (namesOf (listField root "groups"))
        "privileged_identity match_groups reference" (fun g =>
        s!"privileged_identity.match_groups references unknown group {F.quote g}")
    ++ reportUnknown require ["auth_types","no_password_only","ssh_key_policy"]
        "privileged_identity require keys" "unknown privileged_identity.require field(s) "
    ++ reportForeign (stringListField require "auth_types") knownUserAuthTypes
        "privileged_identity require auth_types" (fun t =>
        s!"privileged_identity.require.auth_types {F.quote t} must be one of password/otp/pkinit/radius")
    ++ reportFlag require "no_password_only" "privileged_identity require no_password_only"
        "privileged_identity.require.no_password_only must be a boolean"
    ++ reportForeign [stringField require "ssh_key_policy"]
        ("" :: namesOf (listField root "credential_policies"))
        "privileged_identity require ssh_key_policy reference" (fun p =>
        s!"privileged_identity.require.ssh_key_policy references unknown credential_policy {F.quote p}")

/-- A text without anything but white space; `strings.TrimSpace` trims what
    Unicode calls white space. -/
def checkCredentialPolicyReview (item : Fields) (label : String) (known : List String) :
    List RosterViolation :=
  checkReview F item "credential_policy" label "180d" known

def checkCredentialPolicy (root item : Fields) : List RosterViolation :=
  let label := labelOf item
  let users := namesOf (listField root "users")
  let criteria := mapField item "match"
  let matchUsers := stringListField criteria "users"
  let matchGroups := stringListField criteria "groups"
  let ssh := mapField item "ssh"
  reportUnknown item ["name","state","match","ssh","review"] "credential_policy keys"
      s!"credential_policy {F.quote label}: unknown field(s) "
  ++ checkState F item "credential_policy" label
  ++ reportUnknown criteria ["users","groups"] "credential_policy match keys"
      s!"credential_policy {F.quote label}: unknown match field(s) "
  ++ report (stateOrDefault item "present" == "present" &&
        matchUsers.length + matchGroups.length == 0) "credential_policy match"
      s!"credential_policy {F.quote label}: needs at least one match.users or match.groups entry"
  ++ reportForeign matchUsers users "credential_policy match user reference" (fun u =>
      s!"credential_policy {F.quote label}: match.users references unknown user {F.quote u}")
  ++ reportForeign matchGroups (namesOf (listField root "groups"))
      "credential_policy match group reference" (fun g =>
      s!"credential_policy {F.quote label}: match.groups references unknown group {F.quote g}")
  ++ reportUnknown ssh ["allowed_algorithms","require_comment","max_age"]
      "credential_policy ssh keys" s!"credential_policy {F.quote label}: unknown ssh field(s) "
  ++ (stringListField ssh "allowed_algorithms").flatMap (fun alg =>
      report (isBlank alg) "credential_policy ssh allowed_algorithms"
        s!"credential_policy {F.quote label}: ssh.allowed_algorithms contains a blank entry")
  ++ reportFlag ssh "require_comment" "credential_policy ssh require_comment"
      s!"credential_policy {F.quote label}: ssh.require_comment must be a boolean"
  ++ checkDuration F ssh "max_age" "credential_policy ssh max_age" (fun s =>
      s!"credential_policy {F.quote label}: ssh.max_age {s} is not a valid duration (e.g. 365d)")
  ++ checkCredentialPolicyReview F item label users

def checkCredentialPolicies (root : Fields) : List RosterViolation :=
  let policies := listField root "credential_policies"
  reportDuplicates (namesOf policies) "unique credential_policy names"
      "duplicate credential_policy name(s): "
  ++ (maps policies).flatMap (checkCredentialPolicy F root)

def validateRosterV2 (root : Fields) : List RosterViolation :=
  checkSchemaVersionExact F root 2
  ++ checkTopLevelKeys root knownTopLevelKeysV2
  ++ checkMigration root
  ++ validateRosterCommon F root
  ++ checkNetgroups F root

def validateRosterV3 (root : Fields) : List RosterViolation :=
  checkSchemaVersionExact F root 3
  ++ checkTopLevelKeys root knownTopLevelKeysV3
  ++ checkMigration root
  ++ validateRosterCommon F root
  ++ checkNetgroups F root
  ++ checkGrants F root
  ++ checkAuthPolicies F root
  ++ checkSecurityTopLevelKeys root
  ++ checkGrantPolicies F root
  ++ checkSoDConflicts F root
  ++ checkAccountPolicies F root
  ++ checkPasswordPolicies F root
  ++ checkPrivilegedIdentity F root
  ++ checkCredentialPolicies F root

def validateRoster (root : Fields) : List RosterViolation :=
  match field root "schema_version" with
  | none => [⟨"schema_version","schema_version is required"⟩]
  | some raw =>
    match toInt raw with
    | none => [⟨"schema_version",s!"schema_version must be an integer, got {F.format raw}"⟩]
    | some 1 => validateRosterV1 F root
    | some 2 => validateRosterV2 F root
    | some 3 => validateRosterV3 F root
    | some n =>
      if n > 3 then [⟨"schema_version",
        s!"roster schema v{n} is newer than this pilot supports (max v3)"⟩]
      else [⟨"schema_version",s!"schema_version {n} is invalid"⟩]

section
variable {F : Formats} {root item : Fields}

theorem validity_of_accepted (ok : checkValidity F item noun label = []) :
    ∃ validity, parseGrantValidity F (mapField item "validity") = .ok validity := by
  unfold checkValidity at ok
  split at ok
  · cases ok
  · split at ok
    · exact ⟨_,by assumption⟩
    · cases ok

/-- What later stages rely on in a roster that passed `ValidateRosterV3`. -/
structure AcceptedV3 (F : Formats) (root : Fields) : Prop where
  userState : ∀ u ∈ maps (listField root "users"), stateOrDefault u "present" = "present" ∨
    stateOrDefault u "present" = "absent" ∨
    (stateOrDefault u "present" = "disabled" ∧ boolFieldDefault u "enabled" false = false)
  grantNames : (namesOf (listField root "grants")).Nodup
  grantValidity : ∀ grant ∈ maps (listField root "grants"),
    stringField grant "kind" ∈ grantPolicyMatchableKinds →
      ∃ validity, parseGrantValidity F (mapField grant "validity") = .ok validity
  authPolicyNames : (namesOf (listField root "auth_policies")).Nodup
  authPolicyIndicators : ∀ policy ∈ maps (listField root "auth_policies"),
    stringListField policy "require_any" ≠ []
  accountValidity : ∀ policy ∈ maps (listField root "account_policies"),
    ∃ validity, parseGrantValidity F (mapField policy "validity") = .ok validity

theorem timed_of_checkGrant (ok : checkGrant F root item = [])
    (kind : stringField item "kind" ∈ grantPolicyMatchableKinds) :
    ∃ validity, parseGrantValidity F (mapField item "validity") = .ok validity := by
  simp only [checkGrant,append_eq_nil_iff] at ok
  obtain ⟨-,kindOk⟩ := ok
  simp only [grantPolicyMatchableKinds,mem_cons,not_mem_nil,or_false] at kind
  rcases kind with temporary | sudoKind
  · simp only [checkGrantKind,temporary,checkGrantTimedFields,append_eq_nil_iff] at kindOk
    exact validity_of_accepted kindOk.1.2.1
  · simp only [checkGrantKind,sudoKind,checkGrantTimedFields,append_eq_nil_iff] at kindOk
    exact validity_of_accepted kindOk.1.1.2.1

theorem userState_of_checkUser (ok : checkUser F item = []) :
    stateOrDefault item "present" = "present" ∨ stateOrDefault item "present" = "absent" ∨
      (stateOrDefault item "present" = "disabled" ∧ boolFieldDefault item "enabled" false = false) := by
  simp only [checkUser,append_eq_nil_iff,report_nil] at ok
  have known := ok.1.1.1.1.1.1.1.2
  have disabled := ok.1.2
  by_cases here : stateOrDefault item "present" = "present"
  · exact .inl here
  by_cases gone : stateOrDefault item "present" = "absent"
  · exact .inr (.inl gone)
  · have off : stateOrDefault item "present" = "disabled" := by simpa [here,gone] using known
    exact .inr (.inr ⟨off,by simpa [off] using disabled⟩)

theorem common_of_valid (valid : validateRoster F root = []) : validateRosterCommon F root = [] := by
  unfold validateRoster at valid
  split at valid
  · cases valid
  split at valid
  · cases valid
  · simp only [validateRosterV1,append_eq_nil_iff] at valid
    exact valid.2
  · simp only [validateRosterV2,append_eq_nil_iff] at valid
    exact valid.1.2
  · simp only [validateRosterV3,append_eq_nil_iff] at valid
    exact valid.1.1.1.1.1.1.1.1.1.1.2
  · split at valid <;> cases valid

/-- The checks of the sections of version 3 alone. -/
structure Governed (F : Formats) (root : Fields) : Prop where
  grants : checkGrants F root = []
  auth : checkAuthPolicies F root = []
  securityKeys : checkSecurityTopLevelKeys root = []
  grantPolicies : checkGrantPolicies F root = []
  conflicts : checkSoDConflicts F root = []
  account : checkAccountPolicies F root = []
  password : checkPasswordPolicies F root = []
  privileged : checkPrivilegedIdentity F root = []
  credential : checkCredentialPolicies F root = []

theorem checkNetgroups_of_empty (empty : listField root "netgroups" = []) :
    checkNetgroups F root = [] := by
  simp [checkNetgroups,empty,namesOf,maps]

theorem governance_of_missing (grants : listField root "grants" = [])
    (missing : ∀ key ∈ ["auth_policies","security","account_policies","password_policies",
      "credential_policies"], field root key = none) : Governed F root := by
  have auth := listField_of_missing (missing "auth_policies" (by simp))
  have securitySection := mapField_of_missing (missing "security" (by simp))
  have account := listField_of_missing (missing "account_policies" (by simp))
  have password := listField_of_missing (missing "password_policies" (by simp))
  have credential := listField_of_missing (missing "credential_policies" (by simp))
  have noField : ∀ key, field [] key = none := fun _ => rfl
  have noList : ∀ key, listField [] key = [] := fun _ => rfl
  constructor
  · simp [checkGrants,grants,namesOf,maps]
  · simp [checkAuthPolicies,auth,namesOf,maps]
  · simp [checkSecurityTopLevelKeys,securitySection,reportUnknown_nil]
  · simp [checkGrantPolicies,securitySection,noList,namesOf,maps]
  · simp [checkSoDConflicts,securitySection,noList,namesOf,maps]
  · simp [checkAccountPolicies,account,namesOf,maps]
  · simp [checkPasswordPolicies,password,namesOf,maps,presentPriorities]
  · simp [checkPrivilegedIdentity,securitySection,noField]
  · simp [checkCredentialPolicies,credential,namesOf,maps]

theorem acceptedV3_of_valid (valid : validateRosterV3 F root = []) : AcceptedV3 F root := by
  simp only [validateRosterV3,append_eq_nil_iff] at valid
  obtain ⟨⟨⟨⟨⟨⟨⟨⟨⟨⟨⟨-,common⟩,-⟩,grants⟩,auth⟩,-⟩,-⟩,-⟩,account⟩,-⟩,-⟩,-⟩ := valid
  simp only [validateRosterCommon,checkUsers,append_eq_nil_iff,flatMap_eq_nil_iff] at common
  simp only [checkGrants,append_eq_nil_iff,reportDuplicates_nil,flatMap_eq_nil_iff] at grants
  simp only [checkAuthPolicies,append_eq_nil_iff,reportDuplicates_nil,flatMap_eq_nil_iff] at auth
  simp only [checkAccountPolicies,append_eq_nil_iff,flatMap_eq_nil_iff] at account
  refine ⟨fun u mem => userState_of_checkUser (common.1.1.1.1.1.1 u mem),grants.1,
    fun grant mem => timed_of_checkGrant (grants.2 grant mem),auth.1,?_,?_⟩
  · intro policy mem
    have ok := auth.2 policy mem
    simp only [checkAuthPolicy,append_eq_nil_iff,report_nil] at ok
    simpa using ok.1.2
  · intro policy mem
    have ok := account.2 policy mem
    simp only [checkAccountPolicy,append_eq_nil_iff] at ok
    exact validity_of_accepted ok.1.2

end

end Pilot.Roster
