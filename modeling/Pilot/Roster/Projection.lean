import Pilot.Library.Fold
import Pilot.Roster.Effective

/-!
`internal/inventory/external_projection.go`: the access that the outbound
projection reports. Static rules, active grants and breakglass activations
are resolved to users and hosts, and only users that are present and enabled
stay. An instant is its nanoseconds after Go's zero time, so `UTC` is silent.
-/
namespace Pilot.Roster

/-- The answer of `accountLifecycleForUser`; the lifecycle is the last one
    inspected. -/
structure AccountStatus where
  active : Bool
  policyName : String
  lifecycle : Option GrantLifecycleState

variable (F : Formats)

/-- The entries in order, until one is active. -/
def inspectAccountPolicies (now : Int) (last : AccountStatus) :
    List Fields → Except String AccountStatus
  | [] => .ok last
  | policy :: rest =>
    let policyName := stringField policy "name"
    match parseGrantValidity F (mapField policy "validity") with
    | .error err => .error s!"account_policy {F.quote policyName}: {err}"
    | .ok validity =>
      let lifecycle := evaluateGrantLifecycle (stateOrDefault policy "present") validity now
      if lifecycle = .active then .ok ⟨true,"",none⟩
      else inspectAccountPolicies now ⟨false,policyName,some lifecycle⟩ rest

def accountPoliciesOf (root : Fields) (user : String) : List Fields :=
  (maps (listField root "account_policies")).filter (fun p => stringField p "user" == user)

def accountActiveForUser (root : Fields) (user : String) (now : Int) : Except String AccountStatus :=
  match accountPoliciesOf root user with
  | [] => .ok ⟨true,"",none⟩
  | policies => inspectAccountPolicies F now ⟨false,"",none⟩ policies

structure ExternalUser where
  (name displayName email : String)
  (uid gid : Option Int)
  enabled : Bool
  effectiveGroups : List String

def userRosterEnabledFlag (u : Fields) : Bool :=
  boolFieldDefault u "enabled" (stateOrDefault u "present" == "present")

def effectiveGroupsForUser (groups : List Fields) (user : String) : List String :=
  let names := (groups.map (fun g => stringField g "name")).filter (fun n => n != "")
  sortedSetKeys (names.filter (fun n => (expandGroupMembers groups n).contains user))

def externalUser (root : Fields) (now : Int) (u : Fields) : Except String ExternalUser := do
  let name := stringField u "name"
  let account ← accountActiveForUser F root name now
  return {
    name := name
    displayName := stringField u "display_name"
    email := stringField u "email"
    uid := (field u "uid").bind toInt
    gid := (field u "gid").bind toInt
    enabled := userRosterEnabledFlag u && account.active
    effectiveGroups := effectiveGroupsForUser (rosterGroupsByName root) name }

def externalUsers (root : Fields) (now : Int) : Except String (List ExternalUser) :=
  (present (listField root "users")).mapM (externalUser F root now)

def presentEnabledUserSet (root : Fields) (now : Int) : Except String (List String) := do
  let users ← externalUsers F root now
  return (users.filter (·.enabled)).map (·.name)

def intersectSorted (users allowed : List String) : List String :=
  sortStrings (users.filter allowed.contains)

inductive LoginSource where
  | staticHBAC | temporaryGrant | breakglass
  deriving DecidableEq, Repr

structure ExternalLoginAccess where
  source : LoginSource
  rule : String
  users : List String
  allHosts : Bool
  (hostIDs services : List String)
  validUntil : Option Int
  deriving DecidableEq, Repr

inductive SudoSource where
  | staticSudo | sudoGrant
  deriving DecidableEq, Repr

structure ExternalSudoAccess where
  source : SudoSource
  rule : String
  users : List String
  allHosts : Bool
  hostIDs : List String
  allCommands : Bool
  (commands deniedCommands runAsUsers runAsGroups options : List String)
  (validNotBefore validNotAfter : Option Int)
  deriving DecidableEq, Repr

structure BreakglassActivationInput where
  name : String
  expiresAt : Int

def unlessEmpty {α : Type} (users : List String) (entry : α) : Option α :=
  if users.isEmpty then none else some entry

def staticLogin (root : Fields) (allowed : List String) : List ExternalLoginAccess :=
  ((effectiveHBACAccessFromRoster root).filter (·.enabled)).filterMap fun rule =>
    let users := intersectSorted rule.users allowed
    unlessEmpty users
      { source := .staticHBAC, rule := rule.rule, users := users, allHosts := rule.allHosts
        hostIDs := rule.hosts, services := rule.services, validUntil := none }

def staticSudo (root : Fields) (allowed : List String) : List ExternalSudoAccess :=
  (effectiveSudoAccessFromRoster root).filterMap fun rule =>
    let users := intersectSorted rule.users allowed
    unlessEmpty users
      { source := .staticSudo, rule := rule.rule, users := users, allHosts := rule.allHosts
        hostIDs := rule.hosts, allCommands := rule.allCommands, commands := rule.commands
        deniedCommands := rule.deniedCommands, runAsUsers := rule.runAsUsers
        runAsGroups := rule.runAsGroups, options := rule.options
        validNotBefore := none, validNotAfter := none }

def grantUsers (root : Fields) (allowed : List String) (grant : Fields) : List String :=
  intersectSorted (sortedSetKeys (subjectUsers root grant)) allowed

def temporaryGrantAccess (root : Fields) (allowed : List String) (grant : Fields)
    (validity : GrantValidity) : ExternalLoginAccess where
  source := .temporaryGrant
  rule := stringField grant "name"
  users := grantUsers root allowed grant
  allHosts := targetsAllHosts grant
  hostIDs := sortedSetKeysOrNil (ruleHosts root grant)
  services := stringListField grant "services"
  validUntil := some validity.notAfter

def sudoGrantAccess (root : Fields) (allowed : List String) (grant : Fields)
    (validity : GrantValidity) : ExternalSudoAccess where
  source := .sudoGrant
  rule := stringField grant "name"
  users := grantUsers root allowed grant
  allHosts := targetsAllHosts grant
  hostIDs := sortedSetKeysOrNil (ruleHosts root grant)
  allCommands := allowsAllCommands (mapField grant "privilege")
  commands := sortedCopy (stringListField (mapField grant "privilege") "commands")
  deniedCommands := []
  runAsUsers := sortedCopy (stringListField (mapField grant "run_as") "users")
  runAsGroups := sortedCopy (stringListField (mapField grant "run_as") "groups")
  options := sortedCopy (stringListField grant "options")
  validNotBefore := if validity.notBefore = 0 then none else some validity.notBefore
  validNotAfter := some validity.notAfter

/-- What the loop over the grants appends for one grant, if anything. -/
def grantAccess (root : Fields) (now : Int) (allowed : List String) (grant : Fields) :
    Except String (Option (ExternalLoginAccess ⊕ ExternalSudoAccess)) :=
  let kind := stringField grant "kind"
  let state := stateOrDefault grant "present"
  if (kind ≠ "temporary_grant" ∧ kind ≠ "sudo_grant") ∨ state = "absent" then .ok none
  else match parseGrantValidity F (mapField grant "validity") with
    | .error err => .error err
    | .ok validity =>
      if evaluateGrantLifecycle state validity now ≠ .active then .ok none
      else .ok (unlessEmpty (grantUsers root allowed grant)
        (if kind = "temporary_grant" then .inl (temporaryGrantAccess root allowed grant validity)
        else .inr (sudoGrantAccess root allowed grant validity)))

def findGrant (root : Fields) (name : String) : Option Fields :=
  (maps (listField root "grants")).find? (fun g => stringField g "name" == name)

def maxExpiryByName (activations : List BreakglassActivationInput) (name : String) : Option Int :=
  activations.foldl (fun latest act =>
    if act.name ≠ name then latest
    else match latest with
      | none => some act.expiresAt
      | some cur => some (if cur < act.expiresAt then act.expiresAt else cur)) none

def breakglassAccess (root : Fields) (allowed : List String)
    (activations : List BreakglassActivationInput) (name : String) : Option ExternalLoginAccess := do
  let expiresAt ← maxExpiryByName activations name
  let grant ← findGrant root name
  if stateOrDefault grant "present" = "absent" then none
  else
    let users := intersectSorted (stringListField (mapField grant "subjects") "users") allowed
    unlessEmpty users
      { source := .breakglass, rule := name, users := users, allHosts := targetsAllHosts grant
        hostIDs := sortedSetKeysOrNil (ruleHosts root grant)
        services := stringListField grant "services", validUntil := some expiresAt }

def externalEffectiveAccess (root : Fields) (now : Int)
    (breakglassActivations : List BreakglassActivationInput) :
    Except String (List ExternalLoginAccess × List ExternalSudoAccess) := do
  let allowed ← presentEnabledUserSet F root now
  let grants ← (maps (listField root "grants")).mapM (grantAccess F root now allowed)
  let entries := grants.filterMap id
  let activeNames := sortedSetKeys (breakglassActivations.map (·.name))
  return (staticLogin root allowed ++ entries.filterMap Sum.getLeft?
      ++ activeNames.filterMap (breakglassAccess root allowed breakglassActivations),
    staticSudo root allowed ++ entries.filterMap Sum.getRight?)

/-- A user without account policies is unconstrained; any other one needs a
    policy whose window is open. -/
def AccountActive (root : Fields) (now : Int) (user : String) : Prop :=
  accountPoliciesOf root user = [] ∨
    ∃ policy ∈ accountPoliciesOf root user, ∃ validity,
      parseGrantValidity F (mapField policy "validity") = .ok validity ∧
        evaluateGrantLifecycle (stateOrDefault policy "present") validity now = .active

/-- A user of the roster that is present, not switched off, and whose account
    is active. -/
def EnabledUser (root : Fields) (now : Int) (name : String) : Prop :=
  ∃ u ∈ maps (listField root "users"), stringField u "name" = name ∧
    stateOrDefault u "present" = "present" ∧ boolFieldDefault u "enabled" true = true ∧
    AccountActive F root now name

section
variable {F : Formats} {root : Fields}

theorem inspectAccountPolicies_spec (now : Int) (last : AccountStatus)
    (parses : ∀ p ∈ policies, ∃ validity, parseGrantValidity F (mapField p "validity") = .ok validity)
    (idle : last.active = false) :
    ∃ status, inspectAccountPolicies F now last policies = .ok status ∧
      (status.active = true ↔ ∃ p ∈ policies, ∃ validity,
        parseGrantValidity F (mapField p "validity") = .ok validity ∧
          evaluateGrantLifecycle (stateOrDefault p "present") validity now = .active) := by
  induction policies generalizing last with
  | nil => exact ⟨last,rfl,by simp [idle]⟩
  | cons policy rest ih =>
    obtain ⟨validity,parsed⟩ := parses policy (by simp)
    simp only [inspectAccountPolicies,parsed]
    split
    · rename_i active
      exact ⟨_,rfl,by simpa using .inl ⟨validity,parsed,active⟩⟩
    rename_i inactive
    obtain ⟨status,ok,found⟩ := ih ⟨false,stringField policy "name",_⟩
      (fun p mem => parses p (by simp [mem])) rfl
    refine ⟨status,ok,?_⟩
    rw [found]
    simp [parsed,inactive]

section
variable (accepted : AcceptedV3 F root)
include accepted

theorem accountActiveForUser_spec (now : Int) (user : String) :
    ∃ status, accountActiveForUser F root user now = .ok status ∧
      (status.active = true ↔ AccountActive F root now user) := by
  have parses : ∀ p ∈ accountPoliciesOf root user,
      ∃ validity, parseGrantValidity F (mapField p "validity") = .ok validity :=
    fun p mem => accepted.accountValidity p (List.mem_filter.mp mem).1
  unfold accountActiveForUser AccountActive
  split
  · rename_i none
    exact ⟨_,rfl,by simp [none]⟩
  rename_i some
  obtain ⟨status,ok,found⟩ := inspectAccountPolicies_spec now ⟨false,"",none⟩ parses rfl
  refine ⟨status,ok,?_⟩
  rw [found]
  exact ⟨.inr,fun either => either.resolve_left some⟩

theorem enabledFlag_iff (mem : u ∈ maps (listField root "users"))
    (here : stateOrDefault u "present" ≠ "absent") :
    userRosterEnabledFlag u = true ↔
      stateOrDefault u "present" = "present" ∧ boolFieldDefault u "enabled" true = true := by
  rcases accepted.userState u mem with state | gone | ⟨state,off⟩
  · simp [userRosterEnabledFlag,state]
  · exact absurd gone here
  · simp [userRosterEnabledFlag,state,off]

theorem externalUser_spec (mem : u ∈ present (listField root "users")) :
    ∃ e, externalUser F root now u = .ok e ∧ e.name = stringField u "name" ∧
      (e.enabled = true ↔ stateOrDefault u "present" = "present" ∧
        boolFieldDefault u "enabled" true = true ∧ AccountActive F root now (stringField u "name")) := by
  obtain ⟨memUser,here⟩ := mem_present.mp mem
  obtain ⟨status,ok,active⟩ := accountActiveForUser_spec accepted now (stringField u "name")
  simp only [externalUser,ok]
  refine ⟨_,rfl,rfl,?_⟩
  rw [Bool.and_eq_true,enabledFlag_iff accepted memUser here,active,and_assoc]

theorem presentEnabledUserSet_spec (now : Int) :
    ∃ allowed, presentEnabledUserSet F root now = .ok allowed ∧
      ∀ name, name ∈ allowed ↔ EnabledUser F root now name := by
  obtain ⟨users,ok⟩ : ∃ users, externalUsers F root now = .ok users := by
    refine Fold.mapM_total fun u mem => ?_
    obtain ⟨e,ok,-⟩ := externalUser_spec accepted mem
    exact ⟨e,ok⟩
  refine ⟨(users.filter (·.enabled)).map (·.name),?_,?_⟩
  · rw [presentEnabledUserSet,ok]
    rfl
  intro name
  simp only [List.mem_map,List.mem_filter,Fold.mem_mapM ok]
  constructor
  · rintro ⟨e,⟨⟨u,mem,made⟩,enabled⟩,rfl⟩
    obtain ⟨e',made',named,flag⟩ := externalUser_spec accepted mem
    obtain rfl : e' = e := Except.ok.inj (made'.symm.trans made)
    obtain ⟨state,on,active⟩ := flag.mp enabled
    exact ⟨u,(mem_present.mp mem).1,named.symm,state,on,named ▸ active⟩
  · rintro ⟨u,mem,rfl,state,on,active⟩
    have here : u ∈ present (listField root "users") :=
      mem_present.mpr ⟨mem,by rw [state]; decide⟩
    obtain ⟨e,made,named,flag⟩ := externalUser_spec accepted here
    exact ⟨e,⟨⟨u,here,made⟩,flag.mpr ⟨state,on,active⟩⟩,named⟩

end

end

end Pilot.Roster
