import Pilot.Library.Fold
import Pilot.Library.Table
import Pilot.Roster.Effective

/-!
`EvaluateGrantPolicies` of `internal/inventory/grant_security_policy.go` and
`CompileAuthPolicies` of `internal/inventory/auth_policy_compile.go`. The
first decides whether the targets of a grant lie inside those of one required
policy; the second merges the indicators of all policies that reach a host.
-/
namespace Pilot.Roster
open List

structure TargetScope where
  (hosts hostgroupNames : List String)

def nestedHostgroups (hostgroups : List Fields) (name : String) : List String :=
  (byName hostgroups name).elim [] (membersOf · "hostgroups")

/-- The names `hostgroupNameClosure` marks from one name. Every name it meets
    is the first one or listed by an entry, so the walk has one step more than
    it can use; `none` would say that it needed another. -/
def hostgroupNamesFrom (hostgroups : List Fields) (name : String) : Option (List String) :=
  Reach.marked (nestedHostgroups hostgroups)
    (2 + (hostgroups.flatMap (membersOf · "hostgroups")).length) [] name

def hostgroupNameClosure (hostgroups : List Fields) (names : List String) : List String :=
  names.flatMap (fun name => (hostgroupNamesFrom hostgroups name).getD [])

def resolveTargetScope (targets : Fields) (hostgroups : List Fields) : TargetScope where
  hosts := targetHosts hostgroups targets
  hostgroupNames := hostgroupNameClosure hostgroups (stringListField targets "hostgroups")

def scopesOverlap (a b : TargetScope) : Bool :=
  a.hosts.any b.hosts.contains || a.hostgroupNames.any b.hostgroupNames.contains

def scopeCoveredBy (narrow broad : TargetScope) : Bool :=
  !(narrow.hosts.isEmpty && narrow.hostgroupNames.isEmpty) &&
    narrow.hosts.all broad.hosts.contains &&
    narrow.hostgroupNames.all broad.hostgroupNames.contains

def matchGrantPolicyTargets (criteria : Fields) (grantScope : TargetScope)
    (hostgroups : List Fields) : Bool :=
  let matchHosts := stringListField criteria "hosts"
  let matchHostgroups := stringListField criteria "hostgroups"
  (matchHosts.isEmpty && matchHostgroups.isEmpty) ||
    scopesOverlap grantScope (resolveTargetScope
      [("hosts", .list (matchHosts.map .string)),("hostgroups", .list (matchHostgroups.map .string))]
      hostgroups)

/-- The first present policy of the name decides. -/
def grantCoveredByAuthPolicy (root : Fields) (authPolicyName : String) (grantScope : TargetScope)
    (hostgroups : List Fields) : Bool :=
  ((present (listField root "auth_policies")).find?
      (fun p => stringField p "name" == authPolicyName)).any
    fun policy => scopeCoveredBy grantScope (resolveTargetScope (mapField policy "targets") hostgroups)

structure GrantPolicyViolation where
  (policyName grantName detail : String)
  deriving DecidableEq, Repr

/-- `Time.Sub`, which saturates. -/
def timeSub (t u : Int) : Int := max minInt64 (min maxInt64 (t - u))

def policyEvaluated (grant : Fields) : Bool :=
  grantPolicyMatchableKinds.contains (stringField grant "kind") &&
    stateOrDefault grant "present" != "absent"

def grantPolicyMatches (root grant policy : Fields) : Bool :=
  let hostgroups := rosterHostgroupsByName root
  let criteria := mapField policy "match"
  let kinds := stringListField criteria "kinds"
  stateOrDefault policy "present" != "absent" &&
    (kinds.isEmpty || kinds.contains (stringField grant "kind")) &&
    matchGrantPolicyTargets criteria (resolveTargetScope (mapField grant "targets") hostgroups)
      hostgroups

variable (F : Formats)

def requirementViolations (root : Fields) (now : Int) (grant : Fields) (validity : GrantValidity)
    (policy : Fields) : List GrantPolicyViolation :=
  let require := mapField policy "require"
  let justification := mapField grant "justification"
  let maxDurationStr := stringField require "max_duration"
  let start := if validity.notBefore = 0 then now else validity.notBefore
  let authPolicyName := stringField require "auth_policy"
  let hostgroups := rosterHostgroupsByName root
  let fails (failed : Bool) (detail : String) : List GrantPolicyViolation :=
    if failed then [⟨stringField policy "name",stringField grant "name",detail⟩] else []
  fails (maxDurationStr != "" &&
      timeSub validity.notAfter start > (parseAccessDuration maxDurationStr).getD 0)
      s!"grant window exceeds require.max_duration {maxDurationStr}"
  ++ fails (boolFieldDefault require "reason" false && stringField justification "reason" == "")
      "justification.reason is required by this policy"
  ++ fails (boolFieldDefault require "ticket" false && stringField justification "ticket" == "")
      "justification.ticket is required by this policy"
  ++ fails (authPolicyName != "" && !grantCoveredByAuthPolicy root authPolicyName
        (resolveTargetScope (mapField grant "targets") hostgroups) hostgroups)
      s!"grant targets are not covered by required auth_policy {F.quote authPolicyName}"

def grantViolations (root : Fields) (now : Int) (grant : Fields) :
    Except String (List GrantPolicyViolation) :=
  let grantName := stringField grant "name"
  match parseGrantValidity F (mapField grant "validity") with
  | .error err => .error s!"grant {F.quote grantName}: {err}"
  | .ok validity => .ok
    (((maps (listField (mapField root "security") "grant_policies")).filter
      (grantPolicyMatches root grant)).flatMap (requirementViolations F root now grant validity))

def evaluateGrantPolicies (root : Fields) (now : Int) : Except String (List GrantPolicyViolation) :=
  return (← ((maps (listField root "grants")).filter policyEvaluated).mapM
    (grantViolations F root now)).flatten

structure CompiledAuthPolicyHost where
  host : String
  indicators : List String
  deriving DecidableEq, Repr

def indicatorsPerHost (root : Fields) : List (String × List String) :=
  (present (listField root "auth_policies")).foldl (fun perHost policy =>
    (resolveTargetScope (mapField policy "targets") (rosterHostgroupsByName root)).hosts.foldl
      (fun perHost h => Table.addUnder perHost (h, stringListField policy "require_any")) perHost) []

def compileAuthPolicies (root : Fields) : List CompiledAuthPolicyHost :=
  let perHost := indicatorsPerHost root
  (sortStrings (perHost.map Prod.fst)).map fun h =>
    ⟨h,sortedSetKeys (((perHost.find? (fun e => e.1 == h)).map Prod.snd).getD [])⟩

/-- FreeIPA's rule for a host: a ticket with one of its indicators will do, and
    a host without indicators takes every ticket. -/
def satisfies (compiled : List CompiledAuthPolicyHost) (host : String) (ticket : List String) : Bool :=
  compiled.all fun entry =>
    entry.host != host || entry.indicators.isEmpty || entry.indicators.any ticket.contains

section
variable {F : Formats} {root grant policy : Fields} {host : String}

theorem gathers_indicatorsPerHost (root : Fields) :
    Table.Gathers
      ((present (listField root "auth_policies")).flatMap fun policy =>
        (targetHosts (rosterHostgroupsByName root) (mapField policy "targets")).map
          fun h => (h, stringListField policy "require_any"))
      (indicatorsPerHost root) := by
  have flat : indicatorsPerHost root =
      ((present (listField root "auth_policies")).flatMap fun policy =>
        (targetHosts (rosterHostgroupsByName root) (mapField policy "targets")).map
          fun h => (h, stringListField policy "require_any")).foldl Table.addUnder [] := by
    rw [foldl_flatMap]
    simp only [foldl_map]
    rfl
  rw [flat]
  exact Table.gathers_foldl _

variable {entry : CompiledAuthPolicyHost}

theorem mem_indicators (mem : entry ∈ compileAuthPolicies root) (i : String) :
    i ∈ entry.indicators ↔ ∃ policy ∈ present (listField root "auth_policies"),
      Reaches root (mapField policy "targets") entry.host ∧
        i ∈ stringListField policy "require_any" := by
  have gathers := gathers_indicatorsPerHost root
  obtain ⟨h,memH,rfl⟩ := mem_map.mp mem
  obtain ⟨⟨k,set⟩,memSet,rfl⟩ := mem_map.mp (mem_sortStrings.mp memH)
  have found : (indicatorsPerHost root).find? (fun e => e.1 == k) = some (k, set) := by
    cases found : (indicatorsPerHost root).find? (fun e => e.1 == k) with
    | none =>
      have none := find?_eq_none.mp found (k, set) memSet
      simp at none
    | some other =>
      have same : other.1 = k := by simpa using find?_some found
      rw [Table.unique_row gathers.distinct (mem_of_find?_eq_some found) memSet same]
  simp only [found,Option.map_some,Option.getD_some,mem_sortedSetKeys]
  rw [gathers.values k set memSet i]
  simp only [mem_flatMap,mem_map,Prod.mk.injEq]
  constructor
  · rintro ⟨vs,⟨policy,memP,h,target,rfl,rfl⟩,memI⟩
    exact ⟨policy,memP,mem_targetHosts.mp target,memI⟩
  · rintro ⟨policy,memP,reached,memI⟩
    exact ⟨_,⟨policy,memP,k,mem_targetHosts.mpr reached,rfl,rfl⟩,memI⟩

theorem compiled_of_reached (mem : policy ∈ present (listField root "auth_policies"))
    (reached : Reaches root (mapField policy "targets") host) :
    ∃ entry ∈ compileAuthPolicies root, entry.host = host := by
  have key : host ∈ (indicatorsPerHost root).map Prod.fst := by
    rw [(gathers_indicatorsPerHost root).keys]
    refine mem_map.mpr ⟨(host, stringListField policy "require_any"),?_,rfl⟩
    exact mem_flatMap.mpr ⟨policy,mem,mem_map.mpr ⟨host,mem_targetHosts.mpr reached,rfl⟩⟩
  exact ⟨_,mem_map.mpr ⟨host,mem_sortStrings.mpr key,rfl⟩,rfl⟩

theorem compiled_unique (memA : a ∈ compileAuthPolicies root)
    (memB : b ∈ compileAuthPolicies root) (same : a.host = b.host) : a = b := by
  obtain ⟨h,-,rfl⟩ := mem_map.mp memA
  obtain ⟨h',-,rfl⟩ := mem_map.mp memB
  obtain rfl : h = h' := same
  rfl

theorem covered_of_covered (accepted : AcceptedV3 F root) (mem : X ∈ maps (listField root "auth_policies"))
    (covered : grantCoveredByAuthPolicy root (stringField X "name") scope
      (rosterHostgroupsByName root) = true) :
    X ∈ present (listField root "auth_policies") ∧
      scopeCoveredBy scope (resolveTargetScope (mapField X "targets") (rosterHostgroupsByName root)) =
        true := by
  obtain ⟨found,hit,inside⟩ := (Option.any_eq_true _ _).mp covered
  have memFound := mem_of_find?_eq_some hit
  have same : stringField found "name" = stringField X "name" := by
    simpa using find?_some hit
  have eq := eq_of_same_name accepted.authPolicyNames (mem_present.mp memFound).1 mem same
  subst eq
  exact ⟨memFound,inside⟩

theorem hosts_covered
    (inside : scopeCoveredBy (resolveTargetScope targets (rosterHostgroupsByName root))
      (resolveTargetScope broad (rosterHostgroupsByName root)) = true)
    (reached : Reaches root targets host) : Reaches root broad host := by
  simp only [scopeCoveredBy,resolveTargetScope,Bool.and_eq_true,all_eq_true,contains_iff_mem] at inside
  exact mem_targetHosts.mp (inside.1.2 host (mem_targetHosts.mpr reached))

theorem satisfied_within_iff (mem : entry ∈ compileAuthPolicies root) (some : entry.indicators ≠ []) :
    (∀ ticket, satisfies (compileAuthPolicies root) entry.host ticket = true →
      ∃ i ∈ wanted, i ∈ ticket) ↔ entry.indicators ⊆ wanted := by
  have alone (ticket : List String) :
      satisfies (compileAuthPolicies root) entry.host ticket = true ↔
        ∃ i ∈ entry.indicators, i ∈ ticket := by
    simp only [satisfies,List.all_eq_true,Bool.or_eq_true,bne_iff_ne,List.isEmpty_iff,
      any_eq_true,contains_iff_mem]
    constructor
    · intro every
      rcases every entry mem with (other | empty) | hit
      · exact absurd rfl other
      · exact absurd empty some
      · exact hit
    · intro hit e memE
      by_cases same : e.host = entry.host
      · rw [compiled_unique memE mem same]
        exact .inr hit
      · exact .inl (.inl same)
  constructor
  · intro strong i memI
    obtain ⟨j,wantedJ,memJ⟩ := strong [i] ((alone [i]).mpr ⟨i,memI,mem_singleton_self i⟩)
    rwa [mem_singleton.mp memJ] at wantedJ
  · intro within ticket ok
    obtain ⟨i,memI,carried⟩ := (alone ticket).mp ok
    exact ⟨i,within memI,carried⟩

theorem evaluate_total (accepted : AcceptedV3 F root) (now : Int) :
    ∃ found, evaluateGrantPolicies F root now = .ok found := by
  have total : ∀ grant ∈ (maps (listField root "grants")).filter policyEvaluated,
      ∃ found, grantViolations F root now grant = .ok found := by
    intro grant mem
    obtain ⟨memGrant,evaluated⟩ := mem_filter.mp mem
    simp only [policyEvaluated,Bool.and_eq_true,contains_iff_mem] at evaluated
    obtain ⟨validity,parsed⟩ := accepted.grantValidity grant memGrant evaluated.1
    simp only [grantViolations,parsed]
    exact ⟨_,rfl⟩
  obtain ⟨lists,ok⟩ := Fold.mapM_total total
  refine ⟨lists.flatten,?_⟩
  rw [evaluateGrantPolicies,ok]
  rfl

variable {found : List GrantPolicyViolation}

section
variable {now : Int} (ok : evaluateGrantPolicies F root now = .ok found)
  (mem : grant ∈ maps (listField root "grants")) (evaluated : policyEvaluated grant = true)
include ok mem evaluated

theorem violation_found :
    ∃ validity, ∀ policy ∈ maps (listField (mapField root "security") "grant_policies"),
      grantPolicyMatches root grant policy = true →
        requirementViolations F root now grant validity policy ⊆ found := by
  obtain ⟨lists,each,rest⟩ := Fold.bind_ok ok
  cases rest
  have member := mem_filter.mpr ⟨mem,evaluated⟩
  obtain ⟨list,own⟩ := Fold.mapM_ok_at each member
  have listed := (Fold.mem_mapM each).mpr ⟨grant,member,own⟩
  simp only [grantViolations] at own
  split at own
  · cases own
  rename_i validity _
  cases own
  refine ⟨validity,fun policy memP applies v memV => ?_⟩
  refine mem_flatten.mpr ⟨_,listed,?_⟩
  exact mem_flatMap.mpr ⟨policy,mem_filter.mpr ⟨memP,applies⟩,memV⟩

theorem covered_of_no_violation
    (memP : policy ∈ maps (listField (mapField root "security") "grant_policies"))
    (applies : grantPolicyMatches root grant policy = true)
    (named : stringField (mapField policy "require") "auth_policy" ≠ "")
    (clean : ∀ v ∈ found, v.grantName ≠ stringField grant "name") :
    grantCoveredByAuthPolicy root (stringField (mapField policy "require") "auth_policy")
      (resolveTargetScope (mapField grant "targets") (rosterHostgroupsByName root))
      (rosterHostgroupsByName root) = true := by
  obtain ⟨validity,all⟩ := violation_found ok mem evaluated
  by_contra uncovered
  obtain ⟨detail,failed⟩ : ∃ detail, ⟨stringField policy "name",stringField grant "name",detail⟩ ∈
      requirementViolations F root now grant validity policy := by
    simp only [requirementViolations,mem_append]
    refine ⟨?detail,.inr ?last⟩
    case last =>
      rw [if_pos (by simp [named,uncovered])]
      exact mem_singleton_self _
  exact clean _ (all policy memP applies failed) rfl

end

/-- A grant without violations under a policy that requires `X`: every host it
    reaches has the indicators of all present policies that reach it, those of
    `X` among them. A satisfying ticket therefore carries an indicator of `X`
    exactly when no other policy of the host offers a further one. -/
theorem required_policy_on_reached_hosts (now : Int) (valid : validateRosterV3 F root = []) :
    ∃ found, evaluateGrantPolicies F root now = .ok found ∧
      ∀ grant ∈ maps (listField root "grants"), policyEvaluated grant = true →
      ∀ policy ∈ maps (listField (mapField root "security") "grant_policies"),
        grantPolicyMatches root grant policy = true →
      ∀ X ∈ maps (listField root "auth_policies"), stringField X "name" ≠ "" →
        stringField (mapField policy "require") "auth_policy" = stringField X "name" →
        (∀ v ∈ found, v.grantName ≠ stringField grant "name") →
      ∀ host, Reaches root (mapField grant "targets") host →
        (∃ entry ∈ compileAuthPolicies root, entry.host = host ∧
          stringListField X "require_any" ⊆ entry.indicators ∧
          ∀ i, i ∈ entry.indicators ↔ ∃ Y ∈ present (listField root "auth_policies"),
            Reaches root (mapField Y "targets") host ∧ i ∈ stringListField Y "require_any") ∧
        ((∀ ticket, satisfies (compileAuthPolicies root) host ticket = true →
            ∃ i ∈ stringListField X "require_any", i ∈ ticket) ↔
          ∀ Y ∈ present (listField root "auth_policies"), Reaches root (mapField Y "targets") host →
            stringListField Y "require_any" ⊆ stringListField X "require_any") := by
  have accepted := acceptedV3_of_valid valid
  obtain ⟨found,ok⟩ := evaluate_total accepted now
  refine ⟨found,ok,?_⟩
  intro grant memG evaluated policy memP applies X memX named required clean host reached
  have covered := covered_of_no_violation ok memG evaluated memP applies (required ▸ named) clean
  rw [required] at covered
  obtain ⟨presentX,inside⟩ := covered_of_covered accepted memX covered
  have reachedX : Reaches root (mapField X "targets") host := hosts_covered inside reached
  obtain ⟨entry,memE,atHost⟩ := compiled_of_reached presentX reachedX
  have union := mem_indicators memE
  rw [atHost] at union
  have own : stringListField X "require_any" ⊆ entry.indicators :=
    fun i mem => (union i).mpr ⟨X,presentX,reachedX,mem⟩
  refine ⟨⟨entry,memE,atHost,own,union⟩,?_⟩
  have some : entry.indicators ≠ [] := by
    obtain ⟨i,mem⟩ := exists_mem_of_ne_nil _ (accepted.authPolicyIndicators X memX)
    exact ne_nil_of_mem (own mem)
  rw [← atHost,satisfied_within_iff memE some]
  constructor
  · intro within Y presentY reachedY i mem
    exact within ((union i).mpr ⟨Y,presentY,atHost ▸ reachedY,mem⟩)
  · intro within i mem
    obtain ⟨Y,presentY,reachedY,memY⟩ := (union i).mp mem
    exact within Y presentY (atHost ▸ reachedY) memY

end

def plainFormats : Formats where
  quote s := "\"" ++ s ++ "\""
  format
    | .int n => toString n
    | _ => ""
  parseTime s :=
    if s = "2026-12-31T00:00:00Z" then .ok 63934272000000000000
    else .error "cannot parse"

def strings (items : List String) : Value := .list (items.map .string)

def authPolicy (name : String) (targets : Fields) (requireAny : List String) : Fields :=
  [("name", .string name),("targets", .map targets),("require_any", strings requireAny)]

def strongPolicy : Fields := authPolicy "strong" [("hostgroups", strings ["prod"])] ["otp"]

def legacyPolicy : Fields := authPolicy "legacy" [("hosts", strings ["web.prod.internal"])] ["radius"]

def otpRule : Fields :=
  [("name", .string "prod-needs-otp"),("match", .map [("hostgroups", strings ["prod"])]),
    ("require", .map [("auth_policy", .string "strong")])]

def rolloutGrant : Fields :=
  [("name", .string "rollout"),("kind", .string "temporary_grant"),
    ("subjects", .map [("users", strings ["alice"])]),
    ("targets", .map [("hostgroups", strings ["prod"])]),("services", strings ["sshd"]),
    ("validity", .map [("not_after", .string "2026-12-31T00:00:00Z")]),
    ("justification", .map [("reason", .string "rollout")])]

def strongGrantRoster (policies : List Fields) : Fields :=
  [("schema_version", .int 3),
    ("users", .list [.map [("name", .string "alice")]]),
    ("hosts", .list [.map [("name", .string "web.prod.internal"),("ip_address", .string "10.0.0.7")]]),
    ("hostgroups", .list [.map [("name", .string "prod"),
      ("membership", .map [("hosts", strings ["web.prod.internal"])])]]),
    ("auth_policies", .list (policies.map .map)),
    ("security", .map [("grant_policies", .list [.map otpRule])]),
    ("grants", .list [.map rolloutGrant])]

def webPolicy : Fields := authPolicy "web" [("hosts", strings ["web.prod.internal"])] ["otp"]

/-- Two policies that reach the host and agree. -/
theorem agreeing_policies_are_carried :
    validateRosterV3 plainFormats (strongGrantRoster [strongPolicy,webPolicy]) = [] ∧
      ∀ ticket, satisfies (compileAuthPolicies (strongGrantRoster [strongPolicy,webPolicy]))
        "web.prod.internal" ticket = true → ∃ i ∈ ["otp"], i ∈ ticket := by
  have valid : validateRosterV3 plainFormats (strongGrantRoster [strongPolicy,webPolicy]) = [] := by
    decide +kernel
  refine ⟨valid,?_⟩
  obtain ⟨found,ok,strength⟩ :=
    required_policy_on_reached_hosts 63926409600000000000 valid
  have clean : evaluateGrantPolicies plainFormats (strongGrantRoster [strongPolicy,webPolicy])
      63926409600000000000 = .ok [] := rfl
  obtain rfl : [] = found := Except.ok.inj (clean.symm.trans ok)
  have host := strength rolloutGrant (mem_singleton_self _) (by decide +kernel)
    otpRule (mem_singleton_self _) (by decide +kernel)
    strongPolicy mem_cons_self (by decide +kernel) (by decide +kernel) (by simp)
    "web.prod.internal" (mem_targetHosts.mp (by decide +kernel))
  refine host.2.mpr ?_
  intro Y mem _
  have both : present (listField (strongGrantRoster [strongPolicy,webPolicy]) "auth_policies") =
      [strongPolicy,webPolicy] := rfl
  rw [both,mem_pair] at mem
  rcases mem with rfl | rfl
  · exact fun _ mem => mem
  · exact fun _ mem => mem

/-- With a second policy on the host, a ticket without an indicator of the
    required policy satisfies it. -/
theorem merged_indicators_admit_weaker_ticket :
    ¬ ∀ (root : Fields) (now : Int) (found : List GrantPolicyViolation),
      validateRosterV3 plainFormats root = [] →
      evaluateGrantPolicies plainFormats root now = .ok found →
      ∀ grant ∈ maps (listField root "grants"), policyEvaluated grant = true →
      ∀ policy ∈ maps (listField (mapField root "security") "grant_policies"),
        grantPolicyMatches root grant policy = true →
      ∀ X ∈ maps (listField root "auth_policies"), stringField X "name" ≠ "" →
        stringField (mapField policy "require") "auth_policy" = stringField X "name" →
        (∀ v ∈ found, v.grantName ≠ stringField grant "name") →
      ∀ host, Reaches root (mapField grant "targets") host →
      ∀ ticket, satisfies (compileAuthPolicies root) host ticket = true →
        ∃ i ∈ stringListField X "require_any", i ∈ ticket := by
  intro claim
  have carried := claim (strongGrantRoster [strongPolicy,legacyPolicy]) 63926409600000000000 []
    (by decide +kernel) rfl rolloutGrant (mem_singleton_self _) (by decide +kernel)
    otpRule (mem_singleton_self _) (by decide +kernel)
    strongPolicy mem_cons_self (by decide +kernel) (by decide +kernel) (by simp)
    "web.prod.internal" (mem_targetHosts.mp (by decide +kernel)) ["radius"] (by decide +kernel)
  revert carried
  decide +kernel

end Pilot.Roster
