import Pilot.Access.Plan

/-!
`internal/accessgrants/drift.go`: the live state a probe reads, its differences from the
plan, and the one-shot repair, which reconciles when there are any. The apply playbook is
described by what it leaves behind.
-/
namespace Pilot.Access
open Pilot.Roster List ExtraVarsHBACRule

/-- The part of FreeIPA that is planned and probed. A group without a password policy of
    its own has none. -/
structure FreeIPA where
  hbacRules : List ExtraVarsHBACRule
  sudoRules : List ExtraVarsSudoRule
  hbacDistinct : (hbacRules.map name).Nodup
  sudoDistinct : (sudoRules.map ExtraVarsSudoRule.name).Nodup
  userExpiration : String → String
  (hostAuthInd userAuthType : String → List String)
  passwordPolicy : String → Option PasswordFields

structure LiveState where
  (liveHBACNames liveSudoNames : List String)
  (hbacExists sudoExists : String → Bool)
  userExpiration : String → String
  (hostAuthInd userAuthType : String → List String)
  passwordPolicy : String → Option PasswordFields

structure ProbeNames where
  (hbacNames sudoNames users hosts passwordPolicyGroups : List String)

/-- The listings are complete; an entry that was not asked for reads as the zero value. -/
def driftProbe (asked : ProbeNames) (live : FreeIPA) : LiveState where
  liveHBACNames := live.hbacRules.map name
  liveSudoNames := live.sudoRules.map ExtraVarsSudoRule.name
  hbacExists := fun name =>
    asked.hbacNames.contains name && (live.hbacRules.map ExtraVarsHBACRule.name).contains name
  sudoExists := fun name =>
    asked.sudoNames.contains name && (live.sudoRules.map ExtraVarsSudoRule.name).contains name
  userExpiration := fun user => if asked.users.contains user then live.userExpiration user else ""
  hostAuthInd := fun host => if asked.hosts.contains host then live.hostAuthInd host else []
  userAuthType := fun user => if asked.users.contains user then live.userAuthType user else []
  passwordPolicy := fun group =>
    if asked.passwordPolicyGroups.contains group then live.passwordPolicy group else none

structure DriftItem where
  (category name detail : String)
  deriving DecidableEq, Repr

def pilotGrantHBACPrefix : String := "pilot-grant-login-"
def pilotGrantSudoPrefix : String := "pilot-grant-sudo-"

def missingRules (category noun : String) (desired : List String) (found : String → Bool) :
    List DriftItem :=
  (desired.filter fun name => !found name).map fun name =>
    ⟨category,name,s!"desired compiled {noun} rule does not exist live"⟩

def orphanRules (category noun start : String) (desired liveNames : List String) : List DriftItem :=
  (liveNames.filter fun name => beginsWith name start && !desired.contains name).map fun name =>
    ⟨category,name,s!"Pilot-managed {noun} rule exists live but no current grant compiles to it"⟩

def shouldBeAbsent (absent : List String) (live : LiveState) : List DriftItem :=
  (absent.filter live.hbacExists).map fun name =>
    ⟨"hbac_should_be_absent",name,"static roster HBAC rule is declared absent but still exists in FreeIPA"⟩

def orEmptyLabel (s : String) : String := if s = "" then "(unset)" else s

def intPtrLabel : Option Int → String
  | none => "(unset)"
  | some n => toString n

def showStrings (items : List String) : String := "[" ++ " ".intercalate items ++ "]"

def CompiledAccountExpiration.want (a : CompiledAccountExpiration) : String :=
  if a.present then a.expiration else ""

def accountDrift (F : Formats) (live : LiveState) (a : CompiledAccountExpiration) : List DriftItem :=
  let got := live.userExpiration a.user
  if a.want ≠ got then
    let desired := F.quote (orEmptyLabel a.want)
    let found := F.quote (orEmptyLabel got)
    [⟨"account_expiration",a.user,s!"desired krbPrincipalExpiration {desired}, live {found}"⟩]
  else []

def valuesDrift (category attr name : String) (want got : List String) : List DriftItem :=
  let want := sortStrings want
  let got := sortStrings got
  if want ≠ got then
    [⟨category,name,s!"desired {attr} {showStrings want}, live {showStrings got}"⟩]
  else []

def fieldMismatch (name : String) (want got : Option Int) : List String :=
  match want with
  | none => []
  | some _ =>
    if want = got then [] else [s!"{name}: desired {intPtrLabel want}, live {intPtrLabel got}"]

def comparePasswordPolicyFields (desired got : PasswordFields) : List String :=
  fieldMismatch "priority" desired.priority got.priority
  ++ fieldMismatch "min_length" desired.minLength got.minLength
  ++ fieldMismatch "history_size" desired.historySize got.historySize
  ++ fieldMismatch "max_life_days" desired.maxLifeDays got.maxLifeDays
  ++ fieldMismatch "min_life_hours" desired.minLifeHours got.minLifeHours
  ++ fieldMismatch "lockout_max_failures" desired.lockoutMaxFailures got.lockoutMaxFailures
  ++ fieldMismatch "lockout_failure_reset_seconds" desired.lockoutFailureResetSeconds
      got.lockoutFailureResetSeconds
  ++ fieldMismatch "lockout_duration_seconds" desired.lockoutDurationSeconds
      got.lockoutDurationSeconds

def passwordDrift (live : LiveState) (p : CompiledPasswordPolicy) : List DriftItem :=
  match p.state == "absent", live.passwordPolicy p.group with
  | true, none => []
  | true, some _ => [⟨"password_policy_orphan",p.group,
      "password_policy is state: absent but a live group password policy still exists"⟩]
  | false, none => [⟨"password_policy_missing",p.group,
      "desired group password policy does not exist live"⟩]
  | false, some got => (comparePasswordPolicyFields p.fields got).map fun mismatch =>
      ⟨"password_policy_field",p.group,mismatch⟩

def Plan.hbacNames (plan : Plan) : List String :=
  (plan.hbacRules.filter CompiledHBACRule.present).map CompiledHBACRule.name

def Plan.sudoNames (plan : Plan) : List String :=
  (plan.sudoRules.filter CompiledSudoRule.present).map CompiledSudoRule.name

def computeDrift (F : Formats) (plan : Plan) (absentStatic : List String) (live : LiveState) :
    List DriftItem :=
  missingRules "hbac_missing" "HBAC" plan.hbacNames live.hbacExists
  ++ orphanRules "hbac_orphan" "HBAC" pilotGrantHBACPrefix plan.hbacNames live.liveHBACNames
  ++ shouldBeAbsent absentStatic live
  ++ missingRules "sudo_missing" "sudo" plan.sudoNames live.sudoExists
  ++ orphanRules "sudo_orphan" "sudo" pilotGrantSudoPrefix plan.sudoNames live.liveSudoNames
  ++ plan.accountExpirations.flatMap (accountDrift F live)
  ++ plan.authPolicyHosts.flatMap (fun h =>
      valuesDrift "auth_indicator" "krbPrincipalAuthInd" h.host h.indicators (live.hostAuthInd h.host))
  ++ plan.userAuthTypes.flatMap (fun a =>
      valuesDrift "user_auth_type" "ipaUserAuthType" a.user a.allowed (live.userAuthType a.user))
  ++ plan.passwordPolicies.flatMap (passwordDrift live)

def staticAbsentHBACRuleNames (root : Fields) : List String :=
  let rules := maps (listField (mapField root "hbac") "rules")
  (namesOf (listField (mapField root "hbac") "rules")).filter fun name =>
    (rules.find? (fun rule => stringField rule "name" == name)).any fun rule =>
      stringField rule "state" == "absent"

def Plan.asked (plan : Plan) (absentStatic : List String) : ProbeNames where
  hbacNames := plan.hbacNames ++ absentStatic
  sudoNames := plan.sudoNames
  users := plan.accountExpirations.map CompiledAccountExpiration.user
    ++ plan.userAuthTypes.map CompiledUserAuthType.user
  hosts := plan.authPolicyHosts.map CompiledAuthPolicyHost.host
  passwordPolicyGroups := plan.passwordPolicies.map CompiledPasswordPolicy.group

def Plan.drift (F : Formats) (plan : Plan) (root : Fields) (live : FreeIPA) : List DriftItem :=
  let absentStatic := staticAbsentHBACRuleNames root
  computeDrift F plan absentStatic (driftProbe (plan.asked absentStatic) live)

section
variable (F : Formats) (N : Naming)

def DriftItem.before (a b : DriftItem) : Bool :=
  if a.category ≠ b.category then decide (a.category < b.category)
  else if a.name ≠ b.name then decide (a.name < b.name)
  else decide (a.detail ≤ b.detail)

def driftOnce (root : Fields) (now : Int) (live : FreeIPA) : Except String (List DriftItem) := do
  let plan ← buildPlan F N root now
  return (plan.drift F root live).insertionSort (fun a b => a.before b)

/-- The drift that was found and, when there is any, the extra-vars of the reconcile that
    follows. `recorded` are the hosts of the last reconcile with a state directory. -/
def repairManaged (root : Fields) (now : Int) (recorded : List String) (live : FreeIPA) :
    Except String (List DriftItem × Option ExtraVars) := do
  let before ← driftOnce F N root now live
  if before = [] then return (before,none)
  let plan ← buildPlan F N root now
  return (before,some (buildExtraVars (plan.withPrune recorded)))

end

structure RulesMatch {Rule : Type} (name : Rule → String) (listed : List Rule)
    (pruned : List String) (before after : List Rule) : Prop where
  there : ∀ r ∈ listed, r ∈ after
  gone : ∀ r ∈ after, name r ∉ pruned
  others : ∀ r, name r ∉ listed.map name → name r ∉ pruned → (r ∈ after ↔ r ∈ before)

def FieldMatch (listed live : Option Int) : Prop := listed = none ∨ live = listed

structure FieldsMatch (listed live : PasswordFields) : Prop where
  priority : FieldMatch listed.priority live.priority
  minLength : FieldMatch listed.minLength live.minLength
  historySize : FieldMatch listed.historySize live.historySize
  maxLifeDays : FieldMatch listed.maxLifeDays live.maxLifeDays
  minLifeHours : FieldMatch listed.minLifeHours live.minLifeHours
  lockoutMaxFailures : FieldMatch listed.lockoutMaxFailures live.lockoutMaxFailures
  lockoutFailureResetSeconds :
    FieldMatch listed.lockoutFailureResetSeconds live.lockoutFailureResetSeconds
  lockoutDurationSeconds : FieldMatch listed.lockoutDurationSeconds live.lockoutDurationSeconds

/-- What the apply playbook leaves when live state matches exactly the extra-vars. -/
structure Applied (vars : ExtraVars) (before after : FreeIPA) : Prop where
  hbac : RulesMatch name vars.hbacRules vars.hbacPrune before.hbacRules
    after.hbacRules
  sudoers : RulesMatch ExtraVarsSudoRule.name vars.sudoRules vars.sudoPrune before.sudoRules
    after.sudoRules
  expirations : ∀ a ∈ vars.accountExpirations, after.userExpiration a.1 = a.2
  otherUsers : ∀ user, user ∉ vars.accountExpirations.map Prod.fst →
    after.userExpiration user = before.userExpiration user
  indicators : ∀ h ∈ vars.authPolicyHosts, after.hostAuthInd h.host = h.indicators
  otherHosts : ∀ host, host ∉ vars.authPolicyHosts.map CompiledAuthPolicyHost.host →
    after.hostAuthInd host = before.hostAuthInd host
  authTypes : ∀ a ∈ vars.userAuthTypes, after.userAuthType a.user = a.allowed
  otherTypes : ∀ user, user ∉ vars.userAuthTypes.map CompiledUserAuthType.user →
    after.userAuthType user = before.userAuthType user
  removed : ∀ p ∈ vars.passwordPolicies, p.state = "absent" → after.passwordPolicy p.group = none
  set : ∀ p ∈ vars.passwordPolicies, p.state = "present" →
    ∃ live, after.passwordPolicy p.group = some live ∧ FieldsMatch p.fields live
  otherGroups : ∀ group, group ∉ vars.passwordPolicies.map CompiledPasswordPolicy.group →
    after.passwordPolicy group = before.passwordPolicy group

section
variable {F : Formats} {N : Naming} {root : Fields} {now : Int} {plan : Plan} {before after : FreeIPA}

theorem missingRules_nil {category noun : String} {desired : List String} {found : String → Bool} :
    missingRules category noun desired found = [] ↔ ∀ name ∈ desired, found name = true := by
  simp [missingRules,filter_eq_nil_iff]

theorem orphanRules_nil {category noun start : String} {desired liveNames : List String} :
    orphanRules category noun start desired liveNames = [] ↔
      ∀ name ∈ liveNames, beginsWith name start = true → name ∈ desired := by
  simp [orphanRules,filter_eq_nil_iff]

theorem shouldBeAbsent_nil {absent : List String} {live : LiveState} :
    shouldBeAbsent absent live = [] ↔ ∀ name ∈ absent, live.hbacExists name = false := by
  simp [shouldBeAbsent,filter_eq_nil_iff]

theorem fieldMismatch_nil {name : String} {want got : Option Int} (same : FieldMatch want got) :
    fieldMismatch name want got = [] := by
  rcases same with unset | same
  · simp [fieldMismatch,unset]
  · cases want with
    | none => rfl
    | some n => simp [fieldMismatch,same]

theorem comparePasswordPolicyFields_nil {desired got : PasswordFields}
    (same : FieldsMatch desired got) : comparePasswordPolicyFields desired got = [] := by
  simp [comparePasswordPolicyFields,fieldMismatch_nil same.priority,fieldMismatch_nil same.minLength,
    fieldMismatch_nil same.historySize,fieldMismatch_nil same.maxLifeDays,fieldMismatch_nil same.minLifeHours,
    fieldMismatch_nil same.lockoutMaxFailures,fieldMismatch_nil same.lockoutFailureResetSeconds,
    fieldMismatch_nil same.lockoutDurationSeconds]

variable {Rule : Type}

theorem orphans_left_iff {name : Rule → String} {listed : List Rule} {pruned : List String}
    {rulesBefore rulesAfter : List Rule} (category noun start : String)
    (applied : RulesMatch name listed pruned rulesBefore rulesAfter) :
    orphanRules category noun start (listed.map name) (rulesAfter.map name) = [] ↔
      ∀ r ∈ rulesBefore, beginsWith (name r) start = true → name r ∈ listed.map name ∨ name r ∈ pruned := by
  rw [orphanRules_nil]
  constructor
  · intro clean r mem managed
    by_contra unknown
    obtain ⟨notListed,notPruned⟩ := not_or.mp unknown
    have left := (applied.others r notListed notPruned).mpr mem
    exact notListed (clean (name r) (mem_map_of_mem left) managed)
  · intro known n mem managed
    obtain ⟨r,left,rfl⟩ := mem_map.mp mem
    by_contra notListed
    have notPruned := applied.gone r left
    have there := (applied.others r notListed notPruned).mp left
    exact (known r there managed).elim notListed notPruned

theorem mem_after_iff {name : Rule → String} {listed : List Rule} {pruned : List String}
    {rulesBefore rulesAfter : List Rule} {n : String}
    (applied : RulesMatch name listed pruned rulesBefore rulesAfter) :
    n ∈ rulesAfter.map name ↔ n ∈ listed.map name ∨ (n ∈ rulesBefore.map name ∧ n ∉ pruned) := by
  constructor
  · intro mem
    obtain ⟨r,left,rfl⟩ := mem_map.mp mem
    by_cases new : name r ∈ listed.map name
    · exact .inl new
    · have notPruned := applied.gone r left
      exact .inr ⟨mem_map_of_mem ((applied.others r new notPruned).mp left),notPruned⟩
  · intro from_
    by_cases new : n ∈ listed.map name
    · obtain ⟨r,mem,rfl⟩ := mem_map.mp new
      exact mem_map_of_mem (applied.there r mem)
    · obtain ⟨old,notPruned⟩ := from_.resolve_left new
      obtain ⟨r,mem,rfl⟩ := mem_map.mp old
      exact mem_map_of_mem ((applied.others r new notPruned).mpr mem)

theorem listed_hbac (plan : Plan) (recorded : List String) :
    (buildExtraVars (plan.withPrune recorded)).hbacRules.map name = plan.hbacNames := by
  rw [Plan.hbacNames,buildExtraVars,map_map]
  rfl

theorem listed_sudo (plan : Plan) (recorded : List String) :
    (buildExtraVars (plan.withPrune recorded)).sudoRules.map ExtraVarsSudoRule.name = plan.sudoNames := by
  rw [Plan.sudoNames,buildExtraVars,map_map]
  rfl

/-- What a reconcile cannot repair: managed rules that no grant of the roster compiles to,
    and static rules the roster declares absent. -/
structure NothingStale (plan : Plan) (absentStatic : List String) (live : FreeIPA) : Prop where
  hbac : ∀ r ∈ live.hbacRules, beginsWith r.name pilotGrantHBACPrefix = true →
    r.name ∈ plan.hbacRules.map CompiledHBACRule.name
  sudoers : ∀ r ∈ live.sudoRules, beginsWith r.name pilotGrantSudoPrefix = true →
    r.name ∈ plan.sudoRules.map CompiledSudoRule.name
  absent : ∀ name ∈ absentStatic, name ∉ plan.hbacNames ∧
    (name ∈ live.hbacRules.map ExtraVarsHBACRule.name →
      name ∈ plan.hbacRules.map CompiledHBACRule.name)

theorem valuesDrift_self (category attr name : String) (values : List String) :
    valuesDrift category attr name values values = [] := by
  simp [valuesDrift]

theorem account_want {accounts : List CompiledAccountExpiration} {a : CompiledAccountExpiration}
    (compiled : compileAccountPolicies F N root = .ok accounts) (mem : a ∈ accounts) :
    a.want = a.expiration := by
  obtain ⟨user,-,made⟩ := (Fold.mem_mapM compiled).mp mem
  obtain ⟨latest,-,made⟩ := Fold.bind_ok made
  cases latest with
  | none | some notAfter =>
    cases made
    rfl

theorem password_state {policies : List CompiledPasswordPolicy}
    (known : ∀ item ∈ maps (listField root "password_policies"),
      stateOrDefault item "present" = "present" ∨ stateOrDefault item "present" = "absent")
    (compiled : compilePasswordPolicies F root = .ok policies) (mem : p ∈ policies) :
    p.state = "present" ∨ p.state = "absent" := by
  obtain ⟨item,memItem,made⟩ := (Fold.mem_mapM compiled).mp mem
  unfold compilePasswordPolicy at made
  dsimp only at made
  split at made
  all_goals
    obtain ⟨fields,-,made⟩ := Fold.bind_ok made
    cases made
    exact known item memItem

theorem passwordDrift_nil {live : LiveState} (known : p.state = "present" ∨ p.state = "absent")
    (removed : p.state = "absent" → live.passwordPolicy p.group = none)
    (set : p.state = "present" →
      ∃ got, live.passwordPolicy p.group = some got ∧ FieldsMatch p.fields got) :
    passwordDrift live p = [] := by
  rcases known with present | absent
  · obtain ⟨got,there,same⟩ := set present
    simp [passwordDrift,present,there,comparePasswordPolicyFields_nil same]
  · simp [passwordDrift,absent,removed absent]

theorem passwordStates_of_valid (valid : validateRoster F root = []) :
    ∀ item ∈ maps (listField root "password_policies"),
      stateOrDefault item "present" = "present" ∨ stateOrDefault item "present" = "absent" := by
  have without {allowed : List String} (ok : checkTopLevelKeys root allowed = [])
      (foreign : "password_policies" ∉ allowed) :
      ∀ item ∈ maps (listField root "password_policies"),
        stateOrDefault item "present" = "present" ∨ stateOrDefault item "present" = "absent" := by
    simp only [checkTopLevelKeys,append_eq_nil_iff] at ok
    have none_ := field_none_of_unknown ok.1.1 foreign
    simp [listField,none_,asList,maps]
  unfold validateRoster at valid
  split at valid
  · cases valid
  split at valid
  · cases valid
  · simp only [validateRosterV1,append_eq_nil_iff] at valid
    exact without valid.1.1.2 (by decide)
  · simp only [validateRosterV2,append_eq_nil_iff] at valid
    exact without valid.1.1.1.2 (by decide)
  · simp only [validateRosterV3,append_eq_nil_iff] at valid
    obtain ⟨⟨⟨-,passwords⟩,-⟩,-⟩ := valid
    simp only [checkPasswordPolicies,append_eq_nil_iff,flatMap_eq_nil_iff] at passwords
    intro item mem
    have ok := passwords.1.2 item mem
    simp only [checkPasswordPolicy,checkState,append_eq_nil_iff,report_nil] at ok
    have state := ok.1.1.1.1.1.1.1.1.1.1.2
    by_cases here : stateOrDefault item "present" = "present"
    · exact .inl here
    · exact .inr (by simpa [here] using state)
  · split at valid
    · cases valid
    · cases valid

theorem buildPlan_parts (built : buildPlan F N root now = .ok plan) :
    compileAccountPolicies F N root = .ok plan.accountExpirations ∧
      compilePasswordPolicies F root = .ok plan.passwordPolicies := by
  obtain ⟨rules,-,built⟩ := Fold.bind_ok built
  obtain ⟨accounts,accountsOk,built⟩ := Fold.bind_ok built
  obtain ⟨passwords,passwordsOk,built⟩ := Fold.bind_ok built
  cases built
  exact ⟨accountsOk,passwordsOk⟩

theorem named_or_pruned {name : Rule → String} {present : Rule → Bool} {rules : List Rule} {n : String} :
    n ∈ rules.map name ↔
      n ∈ (rules.filter present).map name ∨ n ∈ (rules.filter (!present ·)).map name := by
  rw [← mem_append,← map_append]
  exact ((filter_append_perm present rules).map name).mem_iff.symm

variable {recorded : List String}

section
variable (applied : Applied (buildExtraVars (plan.withPrune recorded)) before after)
include applied

theorem mem_hbac_after (n : String) :
    n ∈ after.hbacRules.map name ↔ n ∈ plan.hbacNames ∨
      (n ∈ before.hbacRules.map name ∧
        n ∉ (plan.hbacRules.filter (!·.present)).map CompiledHBACRule.name) := by
  have here := mem_after_iff (n := n) applied.hbac
  rwa [listed_hbac] at here

theorem hbac_there :
    missingRules "hbac_missing" "HBAC" plan.hbacNames
      (driftProbe (plan.asked absentStatic) after).hbacExists = [] := by
  rw [missingRules_nil]
  intro name mem
  simp only [driftProbe,Plan.asked,Bool.and_eq_true,contains_iff_mem,mem_append]
  exact ⟨.inl mem,(mem_hbac_after applied name).mpr (.inl mem)⟩

theorem sudo_there :
    missingRules "sudo_missing" "sudo" plan.sudoNames
      (driftProbe (plan.asked absentStatic) after).sudoExists = [] := by
  have here (n : String) := mem_after_iff (n := n) applied.sudoers
  simp only [listed_sudo] at here
  rw [missingRules_nil]
  intro name mem
  simp only [driftProbe,Plan.asked,Bool.and_eq_true,contains_iff_mem]
  exact ⟨mem,(here name).mpr (.inl mem)⟩

theorem accounts_there (accounts : compileAccountPolicies F N root = .ok plan.accountExpirations) :
    plan.accountExpirations.flatMap (accountDrift F (driftProbe (plan.asked absentStatic) after)) = [] := by
  rw [flatMap_eq_nil_iff]
  intro a mem
  have asked : a.user ∈ (plan.asked absentStatic).users :=
    mem_append_left _ (mem_map_of_mem mem)
  have live : after.userExpiration a.user = a.expiration :=
    applied.expirations (a.user,a.expiration) (mem_map.mpr ⟨a,mem,rfl⟩)
  simp [accountDrift,driftProbe,asked,live,account_want accounts mem]

theorem indicators_there :
    plan.authPolicyHosts.flatMap (fun h => valuesDrift "auth_indicator" "krbPrincipalAuthInd" h.host
      h.indicators ((driftProbe (plan.asked absentStatic) after).hostAuthInd h.host)) = [] := by
  rw [flatMap_eq_nil_iff]
  intro h mem
  have asked : h.host ∈ (plan.asked absentStatic).hosts := mem_map_of_mem mem
  have live : after.hostAuthInd h.host = h.indicators :=
    applied.indicators h (mem_append_left _ mem)
  simp [driftProbe,asked,live,valuesDrift_self]

theorem authTypes_there :
    plan.userAuthTypes.flatMap (fun a => valuesDrift "user_auth_type" "ipaUserAuthType" a.user
      a.allowed ((driftProbe (plan.asked absentStatic) after).userAuthType a.user)) = [] := by
  rw [flatMap_eq_nil_iff]
  intro a mem
  have asked : a.user ∈ (plan.asked absentStatic).users :=
    mem_append_right _ (mem_map_of_mem mem)
  have live : after.userAuthType a.user = a.allowed := applied.authTypes a mem
  simp [driftProbe,asked,live,valuesDrift_self]

theorem passwords_there (valid : validateRoster F root = [])
    (passwords : compilePasswordPolicies F root = .ok plan.passwordPolicies) :
    plan.passwordPolicies.flatMap (passwordDrift (driftProbe (plan.asked absentStatic) after)) = [] := by
  rw [flatMap_eq_nil_iff]
  intro p mem
  have asked : p.group ∈ (plan.asked absentStatic).passwordPolicyGroups := mem_map_of_mem mem
  apply passwordDrift_nil (password_state (passwordStates_of_valid valid) passwords mem)
  · intro absent
    simpa [driftProbe,asked] using applied.removed p mem absent
  · intro present
    obtain ⟨live,there,same⟩ := applied.set p mem present
    exact ⟨live,by simpa [driftProbe,asked] using there,same⟩

theorem absent_iff :
    shouldBeAbsent absentStatic (driftProbe (plan.asked absentStatic) after) = [] ↔
      ∀ name ∈ absentStatic, name ∉ plan.hbacNames ∧
        (name ∈ before.hbacRules.map ExtraVarsHBACRule.name →
          name ∈ plan.hbacRules.map CompiledHBACRule.name) := by
  rw [shouldBeAbsent_nil]
  apply forall₂_congr
  intro name mem
  have asked : (plan.asked absentStatic).hbacNames.contains name = true :=
    contains_iff_mem.mpr (mem_append_right _ mem)
  have seen : (driftProbe (plan.asked absentStatic) after).hbacExists name = false ↔
      name ∉ after.hbacRules.map ExtraVarsHBACRule.name := by
    simp only [driftProbe,asked,Bool.true_and]
    rw [← Bool.not_eq_true,contains_iff_mem]
  have named : name ∈ plan.hbacRules.map CompiledHBACRule.name ↔ name ∈ plan.hbacNames ∨
      name ∈ (plan.hbacRules.filter (!·.present)).map CompiledHBACRule.name := named_or_pruned
  rw [seen,mem_hbac_after applied,named]
  tauto

end

theorem drift_after_iff (valid : validateRoster F root = []) (built : buildPlan F N root now = .ok plan)
    (applied : Applied (buildExtraVars (plan.withPrune recorded)) before after) :
    plan.drift F root after = [] ↔ NothingStale plan (staticAbsentHBACRuleNames root) before := by
  obtain ⟨accounts,passwords⟩ := buildPlan_parts built
  have hbacOrphans := orphans_left_iff "hbac_orphan" "HBAC" pilotGrantHBACPrefix applied.hbac
  have sudoOrphans := orphans_left_iff "sudo_orphan" "sudo" pilotGrantSudoPrefix applied.sudoers
  rw [listed_hbac] at hbacOrphans
  rw [listed_sudo] at sudoOrphans
  simp only [Plan.drift,computeDrift,hbac_there applied,sudo_there applied,
    accounts_there applied accounts,indicators_there applied,authTypes_there applied,
    passwords_there applied valid passwords,nil_append,append_nil,
    append_eq_nil_iff,absent_iff applied]
  constructor
  · rintro ⟨⟨hbac,absent⟩,sudoers⟩
    exact ⟨fun r mem managed => named_or_pruned.mpr (hbacOrphans.mp hbac r mem managed),
      fun r mem managed => named_or_pruned.mpr (sudoOrphans.mp sudoers r mem managed),absent⟩
  intro clean
  refine ⟨⟨hbacOrphans.mpr ?_,clean.absent⟩,sudoOrphans.mpr ?_⟩
  · intro r mem managed
    exact named_or_pruned.mp (clean.hbac r mem managed)
  · intro r mem managed
    exact named_or_pruned.mp (clean.sudoers r mem managed)

theorem driftOnce_eq (built : buildPlan F N root now = .ok plan) (live : FreeIPA) :
    driftOnce F N root now live = .ok [] ↔ plan.drift F root live = [] := by
  have sorted (items : List DriftItem) :
      items.insertionSort (fun a b => a.before b) = [] ↔ items = [] := by
    rw [← length_eq_zero_iff,length_insertionSort,length_eq_zero_iff]
  simp only [driftOnce,built,bind,Except.bind,pure,Except.pure,Except.ok.injEq]
  exact sorted _

theorem repairManaged_vars {found : List DriftItem} {vars : ExtraVars}
    (repaired : repairManaged F N root now recorded before = .ok (found,some vars)) :
    ∃ plan, buildPlan F N root now = .ok plan ∧ vars = buildExtraVars (plan.withPrune recorded) := by
  obtain ⟨items,-,repaired⟩ := Fold.bind_ok repaired
  split at repaired
  · cases repaired
  · obtain ⟨plan,built,repaired⟩ := Fold.bind_ok repaired
    cases repaired
    exact ⟨plan,built,rfl⟩

/-- A drift pass after the repair finds nothing exactly when the live state had no managed
    rule that the plan does not name and no static rule that should be absent. -/
theorem repair_converges_iff {found : List DriftItem} {vars : ExtraVars}
    (valid : validateRoster F root = [])
    (repaired : repairManaged F N root now recorded before = .ok (found,some vars))
    (applied : Applied vars before after) :
    ∃ plan, buildPlan F N root now = .ok plan ∧
      (driftOnce F N root now after = .ok [] ↔
        NothingStale plan (staticAbsentHBACRuleNames root) before) := by
  obtain ⟨plan,built,rfl⟩ := repairManaged_vars repaired
  exact ⟨plan,built,(driftOnce_eq built after).trans (drift_after_iff valid built applied)⟩

end

def rolloutNaming : Naming where
  toLower := id
  sha256Hex s :=
    if s = "rollout" then "a4fa034cc780dbd72a36bf51ba5ee7afd509020953aae10021794638543fd997" else ""
  generalizedTime t := if t = 63934272000000000000 then "20261231000000Z" else ""

def rolloutRoster : Fields := strongGrantRoster [strongPolicy]

def rolloutRule : ExtraVarsHBACRule :=
  ⟨"pilot-grant-login-rollout-a4fa034c",["alice"],[],[],["prod"],["sshd"],true⟩

def vendorRule : ExtraVarsHBACRule :=
  ⟨"pilot-grant-login-vendor-630ba094",["alice"],[],["web.prod.internal"],[],["sshd"],true⟩

def liveWith (rules : List ExtraVarsHBACRule)
    (distinct : (rules.map name).Nodup) (indicators : List String) : FreeIPA where
  hbacRules := rules
  sudoRules := []
  hbacDistinct := distinct
  sudoDistinct := nodup_nil
  userExpiration := fun _ => ""
  hostAuthInd := fun host => if host = "web.prod.internal" then indicators else []
  userAuthType := fun _ => []
  passwordPolicy := fun _ => none

def rolloutVars : ExtraVars where
  hbacRules := [rolloutRule]
  hbacPrune := []
  sudoRules := []
  sudoPrune := []
  authPolicyHosts := [⟨"web.prod.internal",["otp"]⟩]
  accountExpirations := []
  passwordPolicies := []
  userAuthTypes := []

theorem applied_rollout (rules : List ExtraVarsHBACRule) (distinct : (rules.map name).Nodup)
    (more : ((rules ++ [rolloutRule]).map name).Nodup) :
    Applied rolloutVars (liveWith rules distinct []) (liveWith (rules ++ [rolloutRule]) more ["otp"]) where
  hbac := by
    refine ⟨by simp [rolloutVars,liveWith],by simp [rolloutVars],?_⟩
    intro r other _
    have apart : r ≠ rolloutRule := by
      rintro rfl
      simp [rolloutVars] at other
    simp [liveWith,apart]
  sudoers := ⟨by simp [rolloutVars],by simp [rolloutVars],by simp [liveWith]⟩
  expirations := by simp [rolloutVars]
  otherUsers := fun _ _ => rfl
  indicators := by simp [rolloutVars,liveWith]
  otherHosts := by
    intro host other
    have apart : host ≠ "web.prod.internal" := by simpa [rolloutVars] using other
    simp [liveWith,apart]
  authTypes := by simp [rolloutVars]
  otherTypes := fun _ _ => rfl
  removed := by simp [rolloutVars]
  set := by simp [rolloutVars]
  otherGroups := fun _ _ => rfl

theorem rollout_valid : validateRoster plainFormats rolloutRoster = [] := by
  decide +kernel

/-- An empty FreeIPA is brought to the plan. -/
theorem rollout_repair_converges :
    driftOnce plainFormats rolloutNaming rolloutRoster 63926409600000000000
      (liveWith [rolloutRule] (by decide) ["otp"]) = .ok [] := by
  obtain ⟨plan,-,converges⟩ := repair_converges_iff rollout_valid
    (show repairManaged plainFormats rolloutNaming rolloutRoster 63926409600000000000 []
      (liveWith [] (by decide) []) = .ok (_,some rolloutVars) by rfl)
    (applied_rollout [] (by decide) (by decide))
  refine converges.mpr ⟨?_,?_,?_⟩
  · simp [liveWith]
  · simp [liveWith]
  · simp [show staticAbsentHBACRuleNames rolloutRoster = [] from rfl]

/-- The rule of a grant that was taken out of the roster is found by every drift pass and
    removed by none. -/
theorem orphan_survives_repair :
    validateRoster plainFormats rolloutRoster = [] ∧
    (∃ found, repairManaged plainFormats rolloutNaming rolloutRoster 63926409600000000000 []
      (liveWith [vendorRule] (by decide) []) = .ok (found,some rolloutVars)) ∧
    Applied rolloutVars (liveWith [vendorRule] (by decide) [])
      (liveWith [vendorRule,rolloutRule] (by decide) ["otp"]) ∧
    driftOnce plainFormats rolloutNaming rolloutRoster 63926409600000000000
      (liveWith [vendorRule,rolloutRule] (by decide) ["otp"]) =
        .ok [⟨"hbac_orphan","pilot-grant-login-vendor-630ba094",
          "Pilot-managed HBAC rule exists live but no current grant compiles to it"⟩] := by
  refine ⟨rollout_valid,⟨_,rfl⟩,applied_rollout [vendorRule] (by decide) (by decide),by decide +kernel⟩

end Pilot.Access
