import Pilot.Roster.GrantCompile

/-!
`ExplainStaticHBAC` and `ExplainGrants` of `internal/inventory/explain.go`:
which rules and active grants give a user a service on a host, and through
which groups and hostgroups. The rules and grants named are those whose
resolved access covers the query.
-/
namespace Pilot.Roster
open List

inductive ExplainKind where
  | staticHBAC | temporaryGrant | sudoGrant
  deriving DecidableEq, Repr

structure ExplainSource where
  kind : ExplainKind
  rule : String
  directUserHit : Bool
  groupPath : List String
  directHostHit : Bool
  hostgroupPath : List String
  allHosts : Bool
  service : String
  lifecycle : Option GrantLifecycleState
  (validityAfter nextTransition : Option Int)
  deriving DecidableEq, Repr

/-- A name is listed itself, and the listed sets it is a member of. -/
structure Provenance where
  directHit : Bool
  path : List String

def Provenance.misses (p : Provenance) : Bool := !p.directHit && p.path.length == 0

def matchSubject (groups : List Fields) (subjects : Fields) (user : String) : Provenance where
  directHit := (stringListField subjects "users").contains user
  path := (stringListField subjects "groups").filter
    (fun g => (expandGroupMembers groups g).contains user)

def matchTarget (hostgroups : List Fields) (targets : Fields) (host : String) : Provenance where
  directHit := (stringListField targets "hosts").contains host
  path := (stringListField targets "hostgroups").filter
    (fun hg => (expandHostgroupHosts hostgroups hg).contains host)

def matchRuleTarget (root item : Fields) (host : String) : Provenance :=
  if targetsAllHosts item then ⟨true,[]⟩
  else matchTarget (rosterHostgroupsByName root) (mapField item "targets") host

def explainRule (root : Fields) (user host service : String) (item : Fields) :
    Option ExplainSource :=
  let subject := matchSubject (rosterGroupsByName root) (mapField item "subjects") user
  let target := matchRuleTarget root item host
  if stateOrDefault item "present" = "absent" || !boolFieldDefault item "enabled" true then none
  else if !(stringListField item "services").contains service then none
  else if subject.misses then none
  else if target.misses then none
  else some
    { kind := .staticHBAC, rule := stringField item "name"
      directUserHit := subject.directHit, groupPath := subject.path
      directHostHit := target.directHit, hostgroupPath := target.path
      allHosts := targetsAllHosts item, service := service
      lifecycle := none, validityAfter := none, nextTransition := none }

def explainStaticHBAC (root : Fields) (user host service : String) : List ExplainSource :=
  (maps (listField (mapField root "hbac") "rules")).filterMap (explainRule root user host service)

def nextGrantTransition (state : String) (validity : GrantValidity) (now : Int) : Option Int :=
  match evaluateGrantLifecycle state validity now with
  | .pending => some validity.notBefore
  | .active => some validity.notAfter
  | _ => none

def explainKind : String → Option ExplainKind
  | "temporary_grant" => some .temporaryGrant
  | "sudo_grant" => some .sudoGrant
  | _ => none

/-- A temporary grant lists the services it is for; an empty query asks for any. -/
def serviceExcluded (grant : Fields) (service : String) : Bool :=
  stringField grant "kind" == "temporary_grant" && service != "" &&
    !(stringListField grant "services").contains service

def explainGrant (F : Formats) (root : Fields) (user host service : String) (now : Int)
    (grant : Fields) : Except String (Option ExplainSource) :=
  let state := stateOrDefault grant "present"
  let subject := matchSubject (rosterGroupsByName root) (mapField grant "subjects") user
  let target := matchTarget (rosterHostgroupsByName root) (mapField grant "targets") host
  match explainKind (stringField grant "kind") with
  | none => .ok none
  | some kind =>
    if state = "absent" || serviceExcluded grant service || subject.misses || target.misses then
      .ok none
    else match parseGrantValidity F (mapField grant "validity") with
      | .error err => .error err
      | .ok validity =>
        let lifecycle := evaluateGrantLifecycle state validity now
        if lifecycle ≠ .active then .ok none
        else .ok (some
          { kind := kind, rule := stringField grant "name"
            directUserHit := subject.directHit, groupPath := subject.path
            directHostHit := target.directHit, hostgroupPath := target.path
            allHosts := false, service := service, lifecycle := some lifecycle
            validityAfter := some validity.notAfter
            nextTransition := nextGrantTransition state validity now })

def explainGrants (F : Formats) (root : Fields) (user host service : String) (now : Int) :
    Except String (List ExplainSource) := do
  let sources ← (maps (listField root "grants")).mapM (explainGrant F root user host service now)
  return sources.filterMap id

section
variable {root item subjects targets : Fields} {user host service : String}

theorem misses_false {p : Provenance} : p.misses = false ↔ p.directHit = true ∨ p.path ≠ [] := by
  cases hit : p.directHit <;> cases path : p.path <;> simp [Provenance.misses,hit,path]

theorem subject_hits (item : Fields) :
    (matchSubject (rosterGroupsByName root) (mapField item "subjects") user).misses = false ↔
      user ∈ subjectUsers root item := by
  rw [misses_false]
  simp [matchSubject,subjectUsers]

theorem target_hits (targets : Fields) :
    (matchTarget (rosterHostgroupsByName root) targets host).misses = false ↔
      host ∈ targetHosts (rosterHostgroupsByName root) targets := by
  rw [misses_false]
  simp [matchTarget,targetHosts]

theorem rule_hits (item : Fields) :
    (matchRuleTarget root item host).misses = false ↔
      host ∈ ruleHosts root item ∨ targetsAllHosts item = true := by
  cases all : targetsAllHosts item with
  | true => simp [matchRuleTarget,all,misses_false]
  | false => simp [matchRuleTarget,ruleHosts,all,target_hits]

theorem explained_iff (item : Fields) (r : String) :
    (∃ source, explainRule root user host service item = some source ∧ source.rule = r) ↔
      stateOrDefault item "present" ≠ "absent" ∧ boolFieldDefault item "enabled" true = true ∧
        service ∈ stringListField item "services" ∧ user ∈ subjectUsers root item ∧
        (host ∈ ruleHosts root item ∨ targetsAllHosts item = true) ∧ stringField item "name" = r := by
  rw [← subject_hits,← rule_hits]
  simp only [explainRule,Option.ite_none_left_eq_some,Option.some.injEq]
  constructor
  · rintro ⟨source,⟨inForce,served,subject,target,rfl⟩,named⟩
    simp only [Bool.or_eq_true,not_or,decide_eq_true_eq,Bool.not_eq_true',Bool.not_eq_false,
      contains_iff_mem,Bool.not_eq_true] at inForce served subject target
    exact ⟨inForce.1,inForce.2,served,subject,target,named⟩
  · rintro ⟨present,enabled,served,subject,target,named⟩
    refine ⟨_,⟨?_,?_,?_,?_,rfl⟩,named⟩
    · simp [present,enabled]
    · simp [served]
    · simp [subject]
    · simp [target]

/-- The explanation names exactly the enabled rules whose effective access
    covers the query, whatever the groups and hostgroups look like. -/
theorem explanation_iff_effective_access (root : Fields) (user host service r : String) :
    (∃ source ∈ explainStaticHBAC root user host service, source.rule = r) ↔
      ∃ entry ∈ effectiveHBACAccessFromRoster root, entry.rule = r ∧ entry.enabled = true ∧
        user ∈ entry.users ∧ (host ∈ entry.hosts ∨ entry.allHosts = true) ∧
        service ∈ entry.services := by
  have explained : (∃ source ∈ explainStaticHBAC root user host service, source.rule = r) ↔
      ∃ item ∈ maps (listField (mapField root "hbac") "rules"),
        ∃ source, explainRule root user host service item = some source ∧ source.rule = r := by
    simp only [explainStaticHBAC,mem_filterMap]
    constructor
    · rintro ⟨source,⟨item,mem,made⟩,named⟩
      exact ⟨item,mem,source,made,named⟩
    · rintro ⟨item,mem,source,made,named⟩
      exact ⟨source,⟨item,mem,made⟩,named⟩
  rw [explained]
  simp only [explained_iff,effectiveHBACAccessFromRoster,mem_map]
  constructor
  · rintro ⟨item,mem,present,enabled,served,subject,target,named⟩
    refine ⟨_,⟨item,mem_present.mpr ⟨mem,present⟩,rfl⟩,named,enabled,?_,?_,served⟩
    · exact mem_sortedSetKeys.mpr subject
    · exact target.imp_left mem_sortedSetKeys.mpr
  · rintro ⟨entry,⟨item,mem,rfl⟩,named,enabled,subject,target,served⟩
    obtain ⟨memItem,present⟩ := mem_present.mp mem
    refine ⟨item,memItem,present,enabled,served,mem_sortedSetKeys.mp subject,?_,named⟩
    exact target.imp_left mem_sortedSetKeys.mp

variable {grant : Fields}

theorem explainGrant_cases (made : explainGrant F root user host service now grant = .ok (some source)) :
    ∃ validity, parseGrantValidity F (mapField grant "validity") = .ok validity ∧
      evaluateGrantLifecycle (stateOrDefault grant "present") validity now = .active ∧
      explainKind (stringField grant "kind") = some source.kind ∧
      source.rule = stringField grant "name" ∧ serviceExcluded grant service = false ∧
      user ∈ subjectUsers root grant ∧
      host ∈ targetHosts (rosterHostgroupsByName root) (mapField grant "targets") := by
  rw [← subject_hits,← target_hits]
  simp only [explainGrant] at made
  split at made
  · cases made
  rename_i kind known
  split at made
  · cases made
  rename_i covers
  simp only [Bool.or_eq_true,not_or,Bool.not_eq_true] at covers
  split at made
  · cases made
  rename_i validity parsed
  split at made
  · cases made
  · rename_i active
    cases made
    exact ⟨validity,parsed,not_not.mp active,known,rfl,covers.1.1.2,covers.1.2,covers.2⟩

theorem explainGrant_of_active (parsed : parseGrantValidity F (mapField grant "validity") = .ok validity)
    (active : evaluateGrantLifecycle (stateOrDefault grant "present") validity now = .active)
    (known : explainKind (stringField grant "kind") = some kind)
    (served : serviceExcluded grant service = false) (subject : user ∈ subjectUsers root grant)
    (target : host ∈ targetHosts (rosterHostgroupsByName root) (mapField grant "targets")) :
    ∃ source, explainGrant F root user host service now grant = .ok (some source) ∧
      source.kind = kind ∧ source.rule = stringField grant "name" := by
  rw [← subject_hits] at subject
  rw [← target_hits] at target
  simp [explainGrant,known,state_of_active active,served,subject,target,parsed,active]

theorem explainGrant_total (accepted : AcceptedV3 F root) (mem : grant ∈ maps (listField root "grants")) :
    ∃ source, explainGrant F root user host service now grant = .ok source := by
  simp only [explainGrant]
  split
  · exact ⟨_,rfl⟩
  rename_i kind known
  have matchable : stringField grant "kind" ∈ grantPolicyMatchableKinds := by
    unfold explainKind at known
    split at known
    · simp [grantPolicyMatchableKinds, *]
    · simp [grantPolicyMatchableKinds, *]
    · cases known
  obtain ⟨validity,parsed⟩ := accepted.grantValidity grant mem matchable
  simp only [parsed]
  split
  · exact ⟨_,rfl⟩
  · split
    · exact ⟨_,rfl⟩
    · exact ⟨_,rfl⟩

/-- For an enabled user and targets that list hosts, a temporary grant is
    explained exactly when the projection reports it for the query. -/
theorem explained_grant_iff_projected (accepted : AcceptedV3 F root)
    (activations : List BreakglassActivationInput) (mem : grant ∈ maps (listField root "grants"))
    (kind : stringField grant "kind" = "temporary_grant") (listed : targetsAllHosts grant = false)
    (enabled : EnabledUser F root now user) (asked : service ≠ "") :
    ∃ sources login sudoEntries,
      explainGrants F root user host service now = .ok sources ∧
      externalEffectiveAccess F root now activations = .ok (login, sudoEntries) ∧
      ((∃ source ∈ sources, source.kind = .temporaryGrant ∧ source.rule = stringField grant "name") ↔
        ∃ entry ∈ login, (entry.source = .temporaryGrant ∧ entry.rule = stringField grant "name") ∧
          user ∈ entry.users ∧ host ∈ entry.hostIDs ∧ service ∈ entry.services) := by
  obtain ⟨list,each⟩ : ∃ list, (maps (listField root "grants")).mapM
      (explainGrant F root user host service now) = .ok list :=
    Fold.mapM_total (fun grant mem => explainGrant_total accepted mem)
  obtain ⟨allowed,login,sudoEntries,projected,users,logins,-⟩ :=
    externalEffectiveAccess_spec accepted now activations
  refine ⟨list.filterMap id,login,sudoEntries,?_,projected,?_⟩
  · simp only [explainGrants,each]
    rfl
  have hosts : ruleHosts root grant =
      targetHosts (rosterHostgroupsByName root) (mapField grant "targets") := by
    simp [ruleHosts,listed]
  have excluded : serviceExcluded grant service = false ↔ service ∈ stringListField grant "services" := by
    simp [serviceExcluded,kind,asked]
  constructor
  · rintro ⟨source,memS,temporary,named⟩
    obtain ⟨other,memOther,made⟩ : ∃ other ∈ maps (listField root "grants"),
        explainGrant F root user host service now other = .ok (some source) := by
      simpa [mem_filterMap,Fold.mem_mapM each] using memS
    obtain ⟨validity',parsed',active,-,named',served,subject,target⟩ := explainGrant_cases made
    obtain rfl := eq_of_same_name accepted.grantNames memOther mem (named'.symm.trans named)
    have some : grantUsers root allowed other ≠ [] :=
      ne_nil_of_mem (mem_grantUsers.mpr ⟨mem_subjectUsers.mp subject,(users user).mpr enabled⟩)
    have entry := (login_entry_iff accepted mem parsed' active kind logins _).mpr ⟨some,rfl⟩
    refine ⟨_,entry.1,entry.2,?_,?_,excluded.mp served⟩
    · exact mem_grantUsers.mpr ⟨mem_subjectUsers.mp subject,(users user).mpr enabled⟩
    · exact mem_sortedSetKeys.mpr (hosts ▸ target)
  · rintro ⟨entry,memE,⟨source,named⟩,user',host',service'⟩
    obtain ⟨other,memOther,made⟩ := (logins entry source).mp memE
    obtain ⟨validity,parsed,active,⟨-,same⟩ | ⟨-,same⟩⟩ := grantAccess_cases made
    · obtain rfl := Sum.inl.inj same
      obtain rfl := eq_of_same_name accepted.grantNames memOther mem named
      obtain ⟨src,explained,temporary,name⟩ := explainGrant_of_active parsed active
        (by rw [kind]; rfl) (excluded.mpr service')
        (mem_subjectUsers.mpr (mem_grantUsers.mp user').1) (hosts ▸ mem_sortedSetKeys.mp host')
      refine ⟨src,?_,temporary,name⟩
      exact mem_filterMap.mpr
        ⟨some src,(Fold.mem_mapM each).mpr ⟨other,memOther,explained⟩,rfl⟩
    · cases same

end

theorem rollout_is_explained_as_projected :
    ∃ sources login sudoEntries,
      explainGrants plainFormats (strongGrantRoster [strongPolicy]) "alice" "web.prod.internal" "sshd" 0 = .ok sources ∧
      externalEffectiveAccess plainFormats (strongGrantRoster [strongPolicy]) 0 [] = .ok (login, sudoEntries) ∧
      ((∃ source ∈ sources, source.kind = .temporaryGrant ∧ source.rule = stringField rolloutGrant "name") ↔
        ∃ entry ∈ login, (entry.source = .temporaryGrant ∧ entry.rule = stringField rolloutGrant "name") ∧
          "alice" ∈ entry.users ∧ "web.prod.internal" ∈ entry.hostIDs ∧ "sshd" ∈ entry.services) :=
  explained_grant_iff_projected (acceptedV3_of_valid (by decide +kernel)) []
    (mem_singleton_self rolloutGrant) (by decide +kernel) rfl
    ⟨_,mem_singleton_self _,rfl,rfl,rfl,.inl rfl⟩ (by decide)

end Pilot.Roster
