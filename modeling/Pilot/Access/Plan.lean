import Pilot.Roster.GrantCompile

/-!
What one reconcile pass wants FreeIPA to look like: the account, password and
authentication-type compilers of `internal/inventory`, and `BuildPlan` and
`buildExtraVars` of `internal/accessgrants/reconcile.go`, which hand the plan to the
apply playbook.
-/
namespace Pilot.Access
open Pilot.Roster

structure CompiledAccountExpiration where
  (user expiration : String)
  present : Bool
  deriving DecidableEq, Repr

/-- An optional field is `none` when the roster does not set it. -/
structure PasswordFields where
  (priority minLength historySize maxLifeDays minLifeHours lockoutMaxFailures : Option Int)
  (lockoutFailureResetSeconds lockoutDurationSeconds : Option Int)
  deriving DecidableEq, Repr

def PasswordFields.unset : PasswordFields := ⟨none,none,none,none,none,none,none,none⟩

structure CompiledPasswordPolicy where
  (name state group : String)
  fields : PasswordFields
  deriving DecidableEq, Repr

structure CompiledUserAuthType where
  user : String
  allowed : List String
  deriving DecidableEq, Repr

section
variable (F : Formats) (N : Naming)

def latestNotAfter (policies : List Fields) : Except String (Option Int) :=
  policies.foldlM (fun latest policy =>
    if stateOrDefault policy "present" = "absent" then .ok latest
    else match parseGrantValidity F (mapField policy "validity") with
      | .error err =>
        let name := F.quote (stringField policy "name")
        .error s!"account_policy {name}: {err}"
      | .ok validity =>
        -- the comparison starts from the zero time, also for the first policy
        let best := latest.getD 0
        .ok (some (if best < validity.notAfter then validity.notAfter else best))) none

def compileAccountPolicies (root : Fields) : Except String (List CompiledAccountExpiration) :=
  let policies := maps (listField root "account_policies")
  let order := dedupe ((policies.map fun policy => stringField policy "user").filter (· != ""))
  order.mapM fun user => do
    match ← latestNotAfter F (policies.filter fun policy => stringField policy "user" == user) with
    | some notAfter => return ⟨user,N.generalizedTime notAfter,true⟩
    | none => return ⟨user,"",false⟩

/-- `ParseAccessDuration` tells a wrong shape from a count that is not positive. -/
def durationError (s : String) : String :=
  let shaped := match s.toList.reverse with
    | [] => false
    | unit :: digits => (durationUnit unit).isSome && !digits.isEmpty && digits.all isDigit
  if shaped then s!"duration {F.quote s} must have a positive count"
  else s!"duration {F.quote s} must match <count>m|h|d (e.g. 30m, 1h, 8h, 24h, 7d)"

def durationToWholeUnit (s : String) (unit : Int) (unitText : String) : Except String Int :=
  match parseAccessDuration s with
  | none => .error (durationError F s)
  | some d =>
    if d.tmod unit ≠ 0 then
      .error (s!"duration {F.quote s} does not divide evenly into whole units of {unitText}; FreeIPA requires an " ++
        "exact integer here")
    else .ok (d.tdiv unit)

def compileDuration (policy : String) (m : Fields) (key path : String) (unit : Int)
    (unitText : String) : Except String (Option Int) :=
  let v := stringField m key
  if v = "" then .ok none
  else match durationToWholeUnit F v unit unitText with
    | .error err => .error s!"password_policy {F.quote policy}: {path}: {err}"
    | .ok n => .ok (some n)

def oneSecond : Int := 1000000000
def oneHour : Int := 3600 * oneSecond
def oneDay : Int := 24 * oneHour

def compilePasswordFields (name : String) (item : Fields) : Except String PasswordFields := do
  let lockout := mapField item "lockout"
  let maxLifeDays ← compileDuration F name item "max_life" "max_life" oneDay "24h0m0s"
  let minLifeHours ← compileDuration F name item "min_life" "min_life" oneHour "1h0m0s"
  let reset ← compileDuration F name lockout "failure_reset_interval" "lockout.failure_reset_interval"
    oneSecond "1s"
  let duration ← compileDuration F name lockout "lockout_duration" "lockout.lockout_duration"
    oneSecond "1s"
  return { priority := priorityOf item
           minLength := (field item "min_length").bind toInt
           historySize := (field item "history_size").bind toInt
           maxLifeDays := maxLifeDays
           minLifeHours := minLifeHours
           lockoutMaxFailures := (field lockout "max_failures").bind toInt
           lockoutFailureResetSeconds := reset
           lockoutDurationSeconds := duration }

def compilePasswordPolicy (item : Fields) : Except String CompiledPasswordPolicy := do
  let name := stringField item "name"
  let state := stateOrDefault item "present"
  let fields ← if state = "present" then compilePasswordFields F name item else .ok .unset
  return ⟨name,state,stringField item "group",fields⟩

def compilePasswordPolicies (root : Fields) : Except String (List CompiledPasswordPolicy) :=
  (maps (listField root "password_policies")).mapM (compilePasswordPolicy F)

def compileUserAuthTypes (root : Fields) : List CompiledUserAuthType :=
  (present (listField root "users")).filterMap fun u =>
    (field u "authentication").map fun auth =>
      ⟨stringField u "name",sortStrings (dedupe (stringListField (asMap (some auth)) "allowed"))⟩

structure Plan where
  hbacRules : List CompiledHBACRule
  sudoRules : List CompiledSudoRule
  authPolicyHosts : List CompiledAuthPolicyHost
  accountExpirations : List CompiledAccountExpiration
  passwordPolicies : List CompiledPasswordPolicy
  userAuthTypes : List CompiledUserAuthType

def buildPlan (root : Fields) (now : Int) : Except String Plan := do
  let (hbacRules,sudoRules) ← compileGrants F N root now
  let accounts ← compileAccountPolicies F N root
  let passwords ← compilePasswordPolicies F root
  return ⟨hbacRules,sudoRules,compileAuthPolicies root,accounts,passwords,compileUserAuthTypes root⟩

end

/-- A host Pilot once set indicators on and no longer wants any for is cleared. -/
def planAuthPolicyPrune (recorded : List String) (desired : List CompiledAuthPolicyHost) :
    List CompiledAuthPolicyHost :=
  (recorded.filter fun host => !(desired.map CompiledAuthPolicyHost.host).contains host).map
    fun host => ⟨host,[]⟩

def Plan.withPrune (plan : Plan) (recorded : List String) : Plan :=
  { plan with authPolicyHosts :=
      plan.authPolicyHosts ++ planAuthPolicyPrune recorded plan.authPolicyHosts }

structure ExtraVarsHBACRule where
  name : String
  (users groups hosts hostgroups services : List String)
  enabled : Bool
  deriving DecidableEq, Repr

structure ExtraVarsSudoRule where
  name : String
  (users groups hosts hostgroups allowCommands allowCommandGroups : List String)
  cmdcat : String
  (runasUsers runasGroups options : List String)
  (sudoNotBefore sudoNotAfter : String)
  deriving DecidableEq, Repr

structure ExtraVars where
  hbacRules : List ExtraVarsHBACRule
  hbacPrune : List String
  sudoRules : List ExtraVarsSudoRule
  sudoPrune : List String
  authPolicyHosts : List CompiledAuthPolicyHost
  accountExpirations : List (String × String)
  passwordPolicies : List CompiledPasswordPolicy
  userAuthTypes : List CompiledUserAuthType
  deriving DecidableEq

def hbacVars (r : CompiledHBACRule) : ExtraVarsHBACRule :=
  ⟨r.name,r.users,r.groups,r.hosts,r.hostgroups,r.services,r.enabled⟩

def sudoVars (r : CompiledSudoRule) : ExtraVarsSudoRule :=
  ⟨r.name,r.users,r.groups,r.hosts,r.hostgroups,r.allowCommands,r.allowCommandGroups,
    r.commandCategory,r.runAsUsers,r.runAsGroups,r.options,r.sudoNotBefore,r.sudoNotAfter⟩

/-- A rule that should not be there is pruned by name. -/
def buildExtraVars (plan : Plan) : ExtraVars where
  hbacRules := (plan.hbacRules.filter CompiledHBACRule.present).map hbacVars
  hbacPrune := (plan.hbacRules.filter (!·.present)).map CompiledHBACRule.name
  sudoRules := (plan.sudoRules.filter CompiledSudoRule.present).map sudoVars
  sudoPrune := (plan.sudoRules.filter (!·.present)).map CompiledSudoRule.name
  authPolicyHosts := plan.authPolicyHosts
  accountExpirations := plan.accountExpirations.map fun a => (a.user,a.expiration)
  passwordPolicies := plan.passwordPolicies
  userAuthTypes := plan.userAuthTypes

end Pilot.Access
