import Pilot.Roster.AuthPolicy
import Pilot.Roster.Projection

/-!
`internal/inventory/grant_compile.go`: the managed rules that temporary and
sudo grants compile to, and how far the projection of the active grants agrees
with them. Lower-casing, SHA-256 and generalized time are Go's and stand as
parameters.
-/
namespace Pilot.Roster
open List Except

structure CompiledHBACRule where
  name : String
  (users groups hosts hostgroups services : List String)
  (enabled present : Bool)
  deriving DecidableEq, Repr

structure CompiledSudoRule where
  name : String
  (users groups hosts hostgroups allowCommands allowCommandGroups : List String)
  commandCategory : String
  (runAsUsers runAsGroups options : List String)
  (sudoNotBefore sudoNotAfter : String)
  present : Bool
  deriving DecidableEq, Repr

structure Naming where
  (toLower sha256Hex : String → String)
  generalizedTime : Int → String

variable (F : Formats) (N : Naming)

/-- One dash for every run of characters outside `a-z0-9-`. -/
def collapseRuns : Bool → List Char → List Char
  | _, [] => []
  | inRun, c :: rest =>
    if isLower c || isDigit c || c == '-' then c :: collapseRuns false rest
    else if inRun then collapseRuns true rest
    else '-' :: collapseRuns true rest

def trimDashes (cs : List Char) : List Char :=
  ((cs.dropWhile (· == '-')).reverse.dropWhile (· == '-')).reverse

def sanitizeGrantName (name : String) : String :=
  String.ofList (trimDashes (collapseRuns false (N.toLower name).toList))

def shortHash (name : String) : String := String.ofList ((N.sha256Hex name).toList.take 8)

def compiledLoginRuleName (grantName : String) : String :=
  s!"pilot-grant-login-{sanitizeGrantName N grantName}-{shortHash N grantName}"

def compiledSudoRuleName (grantName : String) : String :=
  s!"pilot-grant-sudo-{sanitizeGrantName N grantName}-{shortHash N grantName}"

def compileTemporaryGrant (grant : Fields) (lifecycle : GrantLifecycleState) : CompiledHBACRule where
  name := compiledLoginRuleName N (stringField grant "name")
  users := stringListField (mapField grant "subjects") "users"
  groups := stringListField (mapField grant "subjects") "groups"
  hosts := stringListField (mapField grant "targets") "hosts"
  hostgroups := stringListField (mapField grant "targets") "hostgroups"
  services := stringListField grant "services"
  enabled := lifecycle == .active
  present := lifecycle != .absent

def compileSudoGrant (grant : Fields) (lifecycle : GrantLifecycleState) (validity : GrantValidity) :
    CompiledSudoRule where
  name := compiledSudoRuleName N (stringField grant "name")
  users := stringListField (mapField grant "subjects") "users"
  groups := stringListField (mapField grant "subjects") "groups"
  hosts := stringListField (mapField grant "targets") "hosts"
  hostgroups := stringListField (mapField grant "targets") "hostgroups"
  allowCommands := stringListField (mapField grant "privilege") "commands"
  allowCommandGroups := stringListField (mapField grant "privilege") "command_groups"
  commandCategory := if allowsAllCommands (mapField grant "privilege") then "all" else ""
  runAsUsers := stringListField (mapField grant "run_as") "users"
  runAsGroups := stringListField (mapField grant "run_as") "groups"
  options := stringListField grant "options"
  sudoNotBefore :=
    if lifecycle ≠ .absent ∧ validity.notBefore ≠ 0 then N.generalizedTime validity.notBefore else ""
  sudoNotAfter := if lifecycle ≠ .absent then N.generalizedTime validity.notAfter else ""
  present := lifecycle != .absent

def compiledValidity (grant : Fields) : Except String GrantValidity :=
  let label := labelOf grant
  if stateOrDefault grant "present" = "absent" then .ok ⟨0,0⟩
  else match parseGrantValidity F (mapField grant "validity") with
    | .error err => .error s!"grant {F.quote label}: {err}"
    | .ok validity => .ok validity

def compileGrant (now : Int) (grant : Fields) :
    Except String (Option (CompiledHBACRule ⊕ CompiledSudoRule)) :=
  let kind := stringField grant "kind"
  if kind ≠ "temporary_grant" ∧ kind ≠ "sudo_grant" then .ok none
  else do
    let validity ← compiledValidity F grant
    let lifecycle := evaluateGrantLifecycle (stateOrDefault grant "present") validity now
    if kind = "temporary_grant" then return some (.inl (compileTemporaryGrant N grant lifecycle))
    else return some (.inr (compileSudoGrant N grant lifecycle validity))

def compileGrants (root : Fields) (now : Int) :
    Except String (List CompiledHBACRule × List CompiledSudoRule) := do
  let compiled ← (maps (listField root "grants")).mapM (compileGrant F N now)
  let rules := compiled.filterMap id
  return (rules.filterMap Sum.getLeft?, rules.filterMap Sum.getRight?)

def GroupCommand (root : Fields) (group command : String) : Prop :=
  ∃ cg ∈ maps (listField (mapField root "sudo") "command_groups"),
    stringField cg "name" = group ∧ command ∈ stringListField cg "commands"

def SubjectUser (root : Fields) (users groups : List String) (user : String) : Prop :=
  user ∈ users ∨ ∃ g ∈ groups, HasMember (rosterGroupsByName root) "groups" "users" g user

/-- A projected scope is the scope of a compiled rule. A compiled rule lists
    its hosts and never applies to all of them. -/
structure ScopeAgrees (root : Fields) (now : Int) (users hostIDs : List String) (allHosts : Bool)
    (ruleUsers ruleGroups ruleHosts ruleHostgroups : List String) : Prop where
  users : ∀ u, u ∈ users ↔ SubjectUser root ruleUsers ruleGroups u ∧ EnabledUser F root now u
  hosts : ∀ h, h ∈ hostIDs ↔ h ∈ ruleHosts ∨
    ∃ hg ∈ ruleHostgroups, HasMember (rosterHostgroupsByName root) "hostgroups" "hosts" hg h
  listed : allHosts = false

def LoginAgrees (root : Fields) (now : Int) (entry : ExternalLoginAccess) (rule : CompiledHBACRule) :
    Prop :=
  ScopeAgrees F root now entry.users entry.hostIDs entry.allHosts rule.users rule.groups rule.hosts
    rule.hostgroups

structure SudoAgrees (root : Fields) (now : Int) (entry : ExternalSudoAccess)
    (rule : CompiledSudoRule) : Prop where
  scope : ScopeAgrees F root now entry.users entry.hostIDs entry.allHosts rule.users rule.groups
    rule.hosts rule.hostgroups
  commands : ∀ c, c ∈ entry.commands ↔ c ∈ rule.allowCommands ∨
    ∃ cg ∈ rule.allowCommandGroups, GroupCommand root cg c
  allCommands : entry.allCommands = true ↔ rule.commandCategory = "all"

section
variable {F : Formats} {N : Naming} {root grant : Fields} {now : Int} {allowed : List String}

theorem mem_subjectUsers :
    u ∈ subjectUsers root grant ↔ SubjectUser root (stringListField (mapField grant "subjects") "users")
        (stringListField (mapField grant "subjects") "groups") u := by
  simp [subjectUsers,SubjectUser,expandGroupMembers,mem_expand]

theorem mem_grantUsers :
    u ∈ grantUsers root allowed grant ↔
      SubjectUser root (stringListField (mapField grant "subjects") "users")
        (stringListField (mapField grant "subjects") "groups") u ∧ u ∈ allowed := by
  simp [grantUsers,intersectSorted,mem_sortStrings,mem_sortedSetKeys,mem_subjectUsers]

section
variable (enabled : ∀ name, name ∈ allowed ↔ EnabledUser F root now name)
include enabled

theorem scopeAgrees_iff :
    ScopeAgrees F root now (grantUsers root allowed grant)
        (sortedSetKeysOrNil (ruleHosts root grant)) (targetsAllHosts grant)
        (stringListField (mapField grant "subjects") "users")
        (stringListField (mapField grant "subjects") "groups")
        (stringListField (mapField grant "targets") "hosts")
        (stringListField (mapField grant "targets") "hostgroups") ↔
      targetsAllHosts grant = false := by
  constructor
  · exact fun agrees => agrees.listed
  intro listed
  refine ⟨fun u => ?_,fun h => ?_,listed⟩
  · rw [mem_grantUsers,enabled]
  · rw [sortedSetKeysOrNil,mem_sortedSetKeys,ruleHosts,listed]
    exact mem_targetHosts

theorem loginAgrees_iff (validity : GrantValidity) (lifecycle : GrantLifecycleState) :
    LoginAgrees F root now (temporaryGrantAccess root allowed grant validity)
        (compileTemporaryGrant N grant lifecycle) ↔ targetsAllHosts grant = false :=
  scopeAgrees_iff enabled

theorem sudoAgrees_iff (validity : GrantValidity) (lifecycle : GrantLifecycleState) :
    SudoAgrees F root now (sudoGrantAccess root allowed grant validity)
        (compileSudoGrant N grant lifecycle validity) ↔
      targetsAllHosts grant = false ∧
        ∀ cg ∈ stringListField (mapField grant "privilege") "command_groups", ∀ c,
          GroupCommand root cg c → c ∈ stringListField (mapField grant "privilege") "commands" := by
  have commands (c : String) : c ∈ (sudoGrantAccess root allowed grant validity).commands ↔
      c ∈ stringListField (mapField grant "privilege") "commands" := by
    simp [sudoGrantAccess,sortedCopy,sortedSetKeysOrNil]
  constructor
  · intro agrees
    refine ⟨agrees.scope.listed,fun cg mem c command => ?_⟩
    exact (commands c).mp ((agrees.commands c).mpr (.inr ⟨cg,mem,command⟩))
  rintro ⟨listed,inside⟩
  refine ⟨(scopeAgrees_iff enabled).mpr listed,fun c => ?_,?_⟩
  · rw [commands]
    constructor
    · exact fun mem => .inl mem
    · rintro (mem | ⟨cg,mem,command⟩)
      · exact mem
      · exact inside cg mem c command
  · cases all : allowsAllCommands (mapField grant "privilege") with
    | false | true => simp [sudoGrantAccess,compileSudoGrant,all]

end

theorem state_of_active (active : evaluateGrantLifecycle state validity now = .active) :
    state ≠ "absent" := by
  rintro rfl
  simp [evaluateGrantLifecycle] at active

theorem mem_unlessEmpty {α : Type} {entry e : α} :
    unlessEmpty users entry = some e ↔ users ≠ [] ∧ entry = e := by
  cases users <;> simp [unlessEmpty]

theorem grantAccess_of_active (kind : stringField grant "kind" ∈ grantPolicyMatchableKinds)
    (parsed : parseGrantValidity F (mapField grant "validity") = .ok validity)
    (active : evaluateGrantLifecycle (stateOrDefault grant "present") validity now = .active) :
    grantAccess F root now allowed grant = .ok (unlessEmpty (grantUsers root allowed grant)
      (if stringField grant "kind" = "temporary_grant"
        then .inl (temporaryGrantAccess root allowed grant validity)
        else .inr (sudoGrantAccess root allowed grant validity))) := by
  have state := state_of_active active
  simp only [grantPolicyMatchableKinds,mem_cons,not_mem_nil,or_false] at kind
  rcases kind with kind | kind
  · simp [grantAccess,kind,state,parsed,active]
  · simp [grantAccess,kind,state,parsed,active]

theorem grantAccess_cases {e : ExternalLoginAccess ⊕ ExternalSudoAccess}
    (made : grantAccess F root now allowed grant = .ok (some e)) :
    ∃ validity, parseGrantValidity F (mapField grant "validity") = .ok validity ∧
      evaluateGrantLifecycle (stateOrDefault grant "present") validity now = .active ∧
      ((stringField grant "kind" = "temporary_grant" ∧
          e = .inl (temporaryGrantAccess root allowed grant validity)) ∨
        (stringField grant "kind" = "sudo_grant" ∧
          e = .inr (sudoGrantAccess root allowed grant validity))) := by
  simp only [grantAccess] at made
  split at made
  · cases made
  rename_i relevant
  split at made
  · cases made
  rename_i validity parsed
  split at made
  · cases made
  rename_i active
  obtain ⟨-,entry⟩ := mem_unlessEmpty.mp (ok.inj made)
  refine ⟨validity,parsed,not_not.mp active,?_⟩
  by_cases temporary : stringField grant "kind" = "temporary_grant"
  · rw [if_pos temporary] at entry
    exact .inl ⟨temporary,entry.symm⟩
  rw [if_neg temporary] at entry
  refine .inr ⟨?_,entry.symm⟩
  by_contra other
  exact relevant (.inl ⟨temporary,other⟩)

theorem grantAccess_total (accepted : AcceptedV3 F root) (mem : grant ∈ maps (listField root "grants")) :
    ∃ e, grantAccess F root now allowed grant = .ok e := by
  simp only [grantAccess]
  split
  · exact ⟨_,rfl⟩
  rename_i relevant
  have kind : stringField grant "kind" ∈ grantPolicyMatchableKinds := by
    simp only [grantPolicyMatchableKinds,mem_cons,not_mem_nil,or_false]
    by_contra other
    exact relevant (.inl (not_or.mp other))
  obtain ⟨validity,parsed⟩ := accepted.grantValidity grant mem kind
  simp only [parsed]
  split
  · exact ⟨_,rfl⟩
  · exact ⟨_,rfl⟩

theorem compileGrant_of_active (parsed : parseGrantValidity F (mapField grant "validity") = .ok validity)
    (active : evaluateGrantLifecycle (stateOrDefault grant "present") validity now = .active) :
    (stringField grant "kind" = "temporary_grant" →
      compileGrant F N now grant = .ok (some (.inl (compileTemporaryGrant N grant .active)))) ∧
    (stringField grant "kind" = "sudo_grant" →
      compileGrant F N now grant = .ok (some (.inr (compileSudoGrant N grant .active validity)))) := by
  have state := state_of_active active
  have valid : compiledValidity F grant = .ok validity := by simp [compiledValidity,state,parsed]
  constructor
  · intro kind
    simp only [compileGrant,kind,valid]
    simp [bind,Except.bind,pure,Except.pure,active]
  · intro kind
    simp only [compileGrant,kind,valid]
    simp [bind,Except.bind,pure,Except.pure,active]

theorem compileGrant_total (accepted : AcceptedV3 F root) (mem : grant ∈ maps (listField root "grants")) :
    ∃ rule, compileGrant F N now grant = .ok rule := by
  simp only [compileGrant]
  split
  · exact ⟨_,rfl⟩
  rename_i relevant
  have kind : stringField grant "kind" ∈ grantPolicyMatchableKinds := by
    simp only [grantPolicyMatchableKinds,mem_cons,not_mem_nil,or_false]
    by_contra other
    exact relevant (not_or.mp other)
  obtain ⟨validity,parsed⟩ := accepted.grantValidity grant mem kind
  obtain ⟨compiled,ok⟩ : ∃ compiled, compiledValidity F grant = .ok compiled := by
    simp only [compiledValidity,parsed]
    split
    · exact ⟨_,rfl⟩
    · exact ⟨_,rfl⟩
  rw [ok]
  split
  · exact ⟨_,rfl⟩
  · exact ⟨_,rfl⟩

theorem source_static {entry : ExternalLoginAccess} (mem : entry ∈ staticLogin root allowed) :
    entry.source = .staticHBAC := by
  obtain ⟨rule,-,made⟩ := mem_filterMap.mp mem
  obtain ⟨-,rfl⟩ := mem_unlessEmpty.mp made
  rfl

theorem source_staticSudo {entry : ExternalSudoAccess} (mem : entry ∈ staticSudo root allowed) :
    entry.source = .staticSudo := by
  obtain ⟨rule,-,made⟩ := mem_filterMap.mp mem
  obtain ⟨-,rfl⟩ := mem_unlessEmpty.mp made
  rfl

theorem source_breakglass {entry : ExternalLoginAccess}
    (made : breakglassAccess root allowed activations name = some entry) :
    entry.source = .breakglass := by
  simp only [breakglassAccess,Option.bind_eq_bind,Option.bind_eq_some_iff] at made
  obtain ⟨expiresAt,-,grant,-,made⟩ := made
  split at made
  · cases made
  · obtain ⟨-,rfl⟩ := mem_unlessEmpty.mp made
    rfl

theorem externalEffectiveAccess_spec (accepted : AcceptedV3 F root) (now : Int)
    (activations : List BreakglassActivationInput) :
    ∃ allowed login sudoEntries,
      externalEffectiveAccess F root now activations = .ok (login, sudoEntries) ∧
      (∀ name, name ∈ allowed ↔ EnabledUser F root now name) ∧
      (∀ entry, entry.source = .temporaryGrant → (entry ∈ login ↔ ∃ grant ∈ maps (listField root "grants"),
          grantAccess F root now allowed grant = .ok (some (.inl entry)))) ∧
      (∀ entry, entry.source = .sudoGrant → (entry ∈ sudoEntries ↔ ∃ grant ∈ maps (listField root "grants"),
          grantAccess F root now allowed grant = .ok (some (.inr entry)))) := by
  obtain ⟨allowed,users,enabled⟩ := presentEnabledUserSet_spec accepted now
  obtain ⟨grants,each⟩ : ∃ grants,
      (maps (listField root "grants")).mapM (grantAccess F root now allowed) = .ok grants :=
    Fold.mapM_total (fun grant mem => grantAccess_total accepted mem)
  have entries (e : ExternalLoginAccess ⊕ ExternalSudoAccess) : e ∈ grants.filterMap id ↔
      ∃ grant ∈ maps (listField root "grants"),
        grantAccess F root now allowed grant = .ok (some e) := by
    simp [mem_filterMap,Fold.mem_mapM each]
  simp only [externalEffectiveAccess,users,each,bind,Except.bind]
  refine ⟨allowed,_,_,rfl,enabled,?_,?_⟩
  · intro entry source
    rw [← entries]
    simp only [mem_append,mem_filterMap]
    constructor
    · rintro ((static | ⟨e,mem,left⟩) | ⟨name,-,made⟩)
      · simp [source_static static] at source
      · rwa [Sum.getLeft?_eq_some_iff.mp left] at mem
      · simp [source_breakglass made] at source
    · intro mem
      exact .inl (.inr ⟨_,mem,rfl⟩)
  · intro entry source
    rw [← entries]
    simp only [mem_append,mem_filterMap]
    constructor
    · rintro (static | ⟨e,mem,right⟩)
      · simp [source_staticSudo static] at source
      · rwa [Sum.getRight?_eq_some_iff.mp right] at mem
    · intro mem
      exact .inr ⟨_,mem,rfl⟩

theorem compileGrants_spec (accepted : AcceptedV3 F root) (N : Naming) (now : Int) :
    ∃ hbacRules sudoRules, compileGrants F N root now = .ok (hbacRules, sudoRules) ∧
      (∀ rule, rule ∈ hbacRules ↔ ∃ grant ∈ maps (listField root "grants"),
        compileGrant F N now grant = .ok (some (.inl rule))) ∧
      (∀ rule, rule ∈ sudoRules ↔ ∃ grant ∈ maps (listField root "grants"),
        compileGrant F N now grant = .ok (some (.inr rule))) := by
  obtain ⟨compiled,each⟩ : ∃ compiled,
      (maps (listField root "grants")).mapM (compileGrant F N now) = .ok compiled :=
    Fold.mapM_total (fun grant mem => compileGrant_total accepted mem)
  have rules (r : CompiledHBACRule ⊕ CompiledSudoRule) : r ∈ compiled.filterMap id ↔
      ∃ grant ∈ maps (listField root "grants"), compileGrant F N now grant = .ok (some r) := by
    simp [mem_filterMap,Fold.mem_mapM each]
  simp only [compileGrants,each,bind,bind]
  refine ⟨_,_,rfl,?_,?_⟩
  · intro rule
    rw [← rules]
    simp [mem_filterMap]
  · intro rule
    rw [← rules]
    simp [mem_filterMap]

theorem reported_iff (grant : Fields) (enabled : ∀ name, name ∈ allowed ↔ EnabledUser F root now name) :
    grantUsers root allowed grant ≠ [] ↔
      ∃ u, SubjectUser root (stringListField (mapField grant "subjects") "users")
        (stringListField (mapField grant "subjects") "groups") u ∧ EnabledUser F root now u := by
  have some : grantUsers root allowed grant ≠ [] ↔ ∃ u, u ∈ grantUsers root allowed grant :=
    ⟨exists_mem_of_ne_nil _,fun ⟨_,mem⟩ => ne_nil_of_mem mem⟩
  rw [some]
  simp only [mem_grantUsers,enabled]

section
variable {validity : GrantValidity} (accepted : AcceptedV3 F root)
  (mem : grant ∈ maps (listField root "grants"))
  (parsed : parseGrantValidity F (mapField grant "validity") = .ok validity)
  (active : evaluateGrantLifecycle (stateOrDefault grant "present") validity now = .active)
include accepted mem parsed active

theorem login_entry_iff {login : List ExternalLoginAccess}
    (kind : stringField grant "kind" = "temporary_grant")
    (logins : ∀ entry, entry.source = .temporaryGrant → (entry ∈ login ↔
      ∃ grant ∈ maps (listField root "grants"),
        grantAccess F root now allowed grant = .ok (some (.inl entry))))
    (entry : ExternalLoginAccess) :
    (entry ∈ login ∧ entry.source = .temporaryGrant ∧ entry.rule = stringField grant "name") ↔
      grantUsers root allowed grant ≠ [] ∧ entry = temporaryGrantAccess root allowed grant validity := by
  have access : grantAccess F root now allowed grant = .ok _ :=
    grantAccess_of_active (by simp [kind,grantPolicyMatchableKinds]) parsed active
  rw [if_pos kind] at access
  constructor
  · rintro ⟨memE,source,named⟩
    obtain ⟨other,memOther,made⟩ := (logins entry source).mp memE
    obtain ⟨validity',-,-,⟨-,same⟩ | ⟨-,same⟩⟩ := grantAccess_cases made
    · obtain rfl := Sum.inl.inj same
      obtain rfl := eq_of_same_name accepted.grantNames memOther mem named
      have entry := mem_unlessEmpty.mp (ok.inj (access.symm.trans made))
      exact ⟨entry.1,(Sum.inl.inj entry.2).symm⟩
    · cases same
  · rintro ⟨some,rfl⟩
    refine ⟨(logins _ rfl).mpr ⟨grant,mem,?_⟩,rfl,rfl⟩
    rw [access,mem_unlessEmpty.mpr ⟨some,rfl⟩]

theorem sudo_entry_iff {sudoEntries : List ExternalSudoAccess}
    (kind : stringField grant "kind" = "sudo_grant")
    (sudos : ∀ entry, entry.source = .sudoGrant → (entry ∈ sudoEntries ↔
      ∃ grant ∈ maps (listField root "grants"),
        grantAccess F root now allowed grant = .ok (some (.inr entry))))
    (entry : ExternalSudoAccess) :
    (entry ∈ sudoEntries ∧ entry.source = .sudoGrant ∧ entry.rule = stringField grant "name") ↔
      grantUsers root allowed grant ≠ [] ∧ entry = sudoGrantAccess root allowed grant validity := by
  have access : grantAccess F root now allowed grant = .ok _ :=
    grantAccess_of_active (by simp [kind,grantPolicyMatchableKinds]) parsed active
  rw [if_neg (by simp [kind])] at access
  constructor
  · rintro ⟨memE,source,named⟩
    obtain ⟨other,memOther,made⟩ := (sudos entry source).mp memE
    obtain ⟨validity',-,-,⟨-,same⟩ | ⟨-,same⟩⟩ := grantAccess_cases made
    · cases same
    obtain rfl := Sum.inr.inj same
    obtain rfl := eq_of_same_name accepted.grantNames memOther mem named
    have entry := mem_unlessEmpty.mp (ok.inj (access.symm.trans made))
    exact ⟨entry.1,(Sum.inr.inj entry.2).symm⟩
  · rintro ⟨some,rfl⟩
    refine ⟨(sudos _ rfl).mpr ⟨grant,mem,?_⟩,rfl,rfl⟩
    rw [access,mem_unlessEmpty.mpr ⟨some,rfl⟩]

end

/-- Projection and compilation of an accepted roster: the rule of an active
    grant is installed, the grant is reported when a user of it is enabled, and
    the entry agrees with the rule exactly when the targets do not say
    `hostcat: all` and, for sudo, the command groups add no command. -/
theorem grant_projection_agrees_iff (N : Naming) (now : Int)
    (activations : List BreakglassActivationInput) (valid : validateRosterV3 F root = []) :
    ∃ login sudoEntries hbacRules sudoRules,
      externalEffectiveAccess F root now activations = .ok (login, sudoEntries) ∧
      compileGrants F N root now = .ok (hbacRules, sudoRules) ∧
      ∀ grant ∈ maps (listField root "grants"), ∀ validity,
        parseGrantValidity F (mapField grant "validity") = .ok validity →
        evaluateGrantLifecycle (stateOrDefault grant "present") validity now = .active →
        (stringField grant "kind" = "temporary_grant" →
          compileTemporaryGrant N grant .active ∈ hbacRules ∧
          ((∃ entry ∈ login, entry.source = .temporaryGrant ∧ entry.rule = stringField grant "name") ↔
            ∃ u, SubjectUser root (stringListField (mapField grant "subjects") "users")
              (stringListField (mapField grant "subjects") "groups") u ∧ EnabledUser F root now u) ∧
          ∀ entry ∈ login, entry.source = .temporaryGrant → entry.rule = stringField grant "name" →
            (LoginAgrees F root now entry (compileTemporaryGrant N grant .active) ↔
              targetsAllHosts grant = false)) ∧
        (stringField grant "kind" = "sudo_grant" →
          compileSudoGrant N grant .active validity ∈ sudoRules ∧
          ((∃ entry ∈ sudoEntries, entry.source = .sudoGrant ∧ entry.rule = stringField grant "name") ↔
            ∃ u, SubjectUser root (stringListField (mapField grant "subjects") "users")
              (stringListField (mapField grant "subjects") "groups") u ∧ EnabledUser F root now u) ∧
          ∀ entry ∈ sudoEntries, entry.source = .sudoGrant → entry.rule = stringField grant "name" →
            (SudoAgrees F root now entry (compileSudoGrant N grant .active validity) ↔
              targetsAllHosts grant = false ∧
              ∀ cg ∈ stringListField (mapField grant "privilege") "command_groups", ∀ c,
                GroupCommand root cg c → c ∈ stringListField (mapField grant "privilege") "commands")) := by
  have accepted := acceptedV3_of_valid valid
  obtain ⟨allowed,login,sudoEntries,projected,enabled,logins,sudos⟩ :=
    externalEffectiveAccess_spec accepted now activations
  obtain ⟨hbacRules,sudoRules,compiled,hbacs,sudoCompiled⟩ := compileGrants_spec accepted N now
  refine ⟨login,sudoEntries,hbacRules,sudoRules,projected,compiled,?_⟩
  intro grant mem validity parsed active
  have users := reported_iff grant enabled
  constructor
  · intro kind
    have reported := login_entry_iff accepted mem parsed active kind logins
    refine ⟨(hbacs _).mpr ⟨grant,mem,(compileGrant_of_active parsed active).1 kind⟩,?_,?_⟩
    · rw [← users]
      simp [reported]
    · intro entry memE source named
      obtain ⟨-,rfl⟩ := (reported entry).mp ⟨memE,source,named⟩
      exact loginAgrees_iff enabled validity .active
  · intro kind
    have reported := sudo_entry_iff accepted mem parsed active kind sudos
    refine ⟨(sudoCompiled _).mpr ⟨grant,mem,(compileGrant_of_active parsed active).2 kind⟩,?_,?_⟩
    · rw [← users]
      simp [reported]
    · intro entry memE source named
      obtain ⟨-,rfl⟩ := (reported entry).mp ⟨memE,source,named⟩
      exact sudoAgrees_iff enabled validity .active

end

def plainNaming : Naming where
  toLower := id
  sha256Hex s :=
    if s = "restart" then "3ace60b0a0c1b6c9345e31494142947aa97d4ef4912e895d8795663393819759" else ""
  generalizedTime t := if t = 63934272000000000000 then "20261231000000Z" else ""

def restartGrant (privilege : Fields) : Fields :=
  [("name", .string "restart"),("kind", .string "sudo_grant"),
    ("subjects", .map [("users", strings ["alice"])]),
    ("targets", .map [("hosts", strings ["web.prod.internal"])]),("privilege", .map privilege),
    ("validity", .map [("not_after", .string "2026-12-31T00:00:00Z")]),
    ("justification", .map [("reason", .string "rollout")])]

def restartRoster (privilege : Fields) : Fields :=
  [("schema_version", .int 3),
    ("users", .list [.map [("name", .string "alice")]]),
    ("sudo", .map [("command_groups", .list [.map [("name", .string "web"),
      ("commands", strings ["/usr/bin/systemctl restart nginx"])]])]),
    ("grants", .list [.map (restartGrant privilege)])]

def directPrivilege : Fields := [("commands", strings ["/usr/bin/systemctl restart nginx"])]

def groupPrivilege : Fields := [("command_groups", strings ["web"])]

theorem direct_commands_agree :
    validateRosterV3 plainFormats (restartRoster directPrivilege) = [] ∧
      ∃ entry, externalEffectiveAccess plainFormats (restartRoster directPrivilege)
          63926409600000000000 [] = .ok ([], [entry]) ∧
        SudoAgrees plainFormats (restartRoster directPrivilege) 63926409600000000000 entry
          (compileSudoGrant plainNaming (restartGrant directPrivilege) .active
            ⟨0,63934272000000000000⟩) := by
  have valid : validateRosterV3 plainFormats (restartRoster directPrivilege) = [] := by
    decide +kernel
  obtain ⟨login,sudoEntries,hbacRules,sudoRules,projected,-,agreement⟩ :=
    grant_projection_agrees_iff plainNaming 63926409600000000000 [] valid
  have one : externalEffectiveAccess plainFormats (restartRoster directPrivilege)
      63926409600000000000 [] = .ok ([], [sudoGrantAccess (restartRoster directPrivilege) ["alice"]
        (restartGrant directPrivilege) ⟨0,63934272000000000000⟩]) := rfl
  refine ⟨valid,_,one,?_⟩
  obtain ⟨-,rfl⟩ := Prod.mk.inj (ok.inj (one.symm.trans projected))
  have grant := (agreement (restartGrant directPrivilege) (mem_singleton_self _)
    ⟨0,63934272000000000000⟩ rfl (by decide +kernel)).2 (by decide +kernel)
  refine (grant.2.2 _ (mem_singleton_self _) rfl rfl).mpr ⟨by decide +kernel,?_⟩
  intro cg mem
  cases mem

/-- The commands of a command group are installed and not projected. -/
theorem group_commands_not_projected :
    ¬ ∀ (root : Fields) (now : Int) (login : List ExternalLoginAccess)
        (sudoEntries : List ExternalSudoAccess),
      validateRosterV3 plainFormats root = [] →
      externalEffectiveAccess plainFormats root now [] = .ok (login, sudoEntries) →
      ∀ grant ∈ maps (listField root "grants"), stringField grant "kind" = "sudo_grant" →
      ∀ validity, parseGrantValidity plainFormats (mapField grant "validity") = .ok validity →
        evaluateGrantLifecycle (stateOrDefault grant "present") validity now = .active →
      ∀ entry ∈ sudoEntries, entry.source = .sudoGrant → entry.rule = stringField grant "name" →
        SudoAgrees plainFormats root now entry (compileSudoGrant plainNaming grant .active validity) := by
  intro claim
  have agrees := claim (restartRoster groupPrivilege) 63926409600000000000 []
    [sudoGrantAccess (restartRoster groupPrivilege) ["alice"] (restartGrant groupPrivilege)
      ⟨0,63934272000000000000⟩]
    (by decide +kernel) rfl (restartGrant groupPrivilege) (mem_singleton_self _)
    (by decide +kernel) ⟨0,63934272000000000000⟩ rfl (by decide +kernel)
    _ (mem_singleton_self _) rfl rfl
  have installed : GroupCommand (restartRoster groupPrivilege) "web"
      "/usr/bin/systemctl restart nginx" :=
    ⟨_,mem_singleton_self _,by decide +kernel,by decide +kernel⟩
  have projected := (agrees.commands _).mpr (.inr ⟨"web",by decide +kernel,installed⟩)
  revert projected
  decide +kernel

end Pilot.Roster
