import Pilot.Decommission.References

/-!
`PlanHost` and `CheckFreshness` of `internal/decommission`: the components of
a host's roles with the steps their providers plan, the components that only
references ask for, the order of the teardown and the gates. Planning reads
the site and changes nothing. The contracts of a catalog have distinct ids.
-/
namespace Pilot.Decommission
open Roster Interrupt

inductive ComponentClass where
  | stateless | stateful | controlPlane
  deriving DecidableEq, Repr

inductive RetentionPolicy where
  | none | required | operatorChoice
  deriving DecidableEq, Repr

structure DecommissionPolicy where
  cls : ComponentClass
  retention : RetentionPolicy
  requiresReachableHost : Bool
  deriving DecidableEq, Repr

structure Contract where
  (id role : String)
  dependencies : List String
  decommissionPlaybook : Option String
  policy : Option DecommissionPolicy
  deriving DecidableEq, Repr

structure Catalog where
  contracts : List Contract
  distinct : (contracts.map Contract.id).Nodup

def Catalog.component (catalog : Catalog) (id : String) : Option Contract :=
  catalog.contracts.find? (fun c => c.id == id)

def Catalog.componentsForRole (catalog : Catalog) (role : String) : List Contract :=
  catalog.contracts.filter (fun c => c.role == role)

structure RetirementIdentity where
  (inventoryAlias stage fqdn : String)
  deriving DecidableEq, Repr

structure ProviderPlanInput where
  (hostName fqdn : String)
  offlineDisposition : OfflineDisposition
  rosterPath : String
  retirementIdentity : Option RetirementIdentity
  deriving DecidableEq, Repr

inductive ProviderError where
  | unknownServicePrincipal (message : String)
  | endpointDeleteNotAllowed (message : String)
  | other (message : String)
  deriving DecidableEq, Repr

def ProviderError.message : ProviderError → String
  | unknownServicePrincipal message => message
  | endpointDeleteNotAllowed message => message
  | other message => message

def classifyProviderPlanError : ProviderError → ErrorClass
  | .unknownServicePrincipal _ => .ownershipUnknown
  | .endpointDeleteNotAllowed _ => .referenceRequiresAuthorization
  | .other _ => .cleanupFailedTerminal

inductive VerificationStatus where
  | pass | notApplicable | historicalOnly | activeResidue | unknownOwnership
  | other (text : String)
  deriving DecidableEq, Repr

def VerificationStatus.text : VerificationStatus → String
  | pass => "pass"
  | notApplicable => "not_applicable"
  | historicalOnly => "historical_only"
  | activeResidue => "active_residue"
  | unknownOwnership => "unknown_ownership"
  | other text => text

structure Verification where
  (provider kind identity : String)
  status : VerificationStatus
  detail : String
  deriving DecidableEq, Repr

structure VerifyInput where
  (hostName fqdn inventoryAlias : String)
  deriving DecidableEq, Repr

/-- A step's look at the site and its action, which may fail half-way. -/
structure StepExecutor (L : Type) where
  inspect : Site L → Except String Bool
  execute : Prog (Site L) String Unit

/-- A live provider; one that does not run steps has no executors. -/
structure Provider (L : Type) where
  id : String
  plan : Site L → ProviderPlanInput → Except ProviderError (List Step)
  verify : Site L → VerifyInput → Except String (List Verification)
  executorForStep : Option (Step → Except String (StepExecutor L))

abbrev Registry (L : Type) := String → Option (Provider L)

structure PlanInput (L : Type) where
  (workspaceDir hostName : String)
  catalog : Catalog
  reachability : Reachability
  offlineDisposition : OfflineDisposition
  retentionDispositions : String → RetentionDisposition
  providers : Registry L
  now : Int
  newPlanID : String
  previousPlan : Option Plan

def freeIPAClientProviderID : String := "freeipa-client"
def internalEndpointProviderID : String := "internal-endpoint"
def loginProbeTargetsProviderID : String := "login-probe-targets"
def actionFreeIPAClientUninstall : String := "freeipa_client_uninstall"
def actionFreeIPARosterHostAbsent : String := "freeipa_roster_host_absent"
def actionFreeIPAIdentityApplyConverge : String := "freeipa_identity_apply_converge"
def loginProbeRole : String := "login-probe"

def defaultPlanTTL : Int := 30 * 60 * 1000000000

def providerFQDN (name ansibleHost : String) : String := firstNonEmpty name ansibleHost

section
variable (S : Setup)

def normalizeFQDN (identity : String) : String := S.toLower (trim identity)

def isHostLabel (label : List Char) : Bool :=
  let alnum := fun c => isLower c || isDigit c
  label.length ≤ 63 && label.all (fun c => alnum c || c == '-') &&
    label.head?.any alnum && label.getLast?.any alnum

def trimFinalDot (s : String) : String :=
  if s.toList.getLast? = some '.' then String.ofList s.toList.dropLast else s

def canonicalFreeIPAFQDN (value : String) : Except String String :=
  let name := S.toLower (trimFinalDot (trim value))
  if 253 < name.utf8ByteSize ∨ '.' ∉ name.toList ∨ S.isIP name ∨
      ¬ (name.toList.splitOn '.').all isHostLabel then
    .error "an explicit canonical retirement FQDN is required"
  else .ok name

def normalizeStage (env : String) : String :=
  if trim env = "staging" then "staging" else if trim env = "prod" then "prod" else ""

def HostSnapshot.ofHost (h : Host) : HostSnapshot :=
  ⟨h.name,h.ansibleHost,h.ansibleUser,h.env,h.roles,h.extra⟩

def freeIPAPlanIdentity (plan : Plan) : Option (String × HostIdentitySource) :=
  (plan.components.filter (fun c => c.componentID == freeIPAClientProviderID)).findSome? fun c =>
    c.steps.findSome? fun step =>
      if step.provider = freeIPAClientProviderID ∧
          (step.action = actionFreeIPARosterHostAbsent ∨
            step.action = actionFreeIPAIdentityApplyConverge) ∧
          normalizeFQDN S step.targetIdentity ≠ "" then
        some (normalizeFQDN S step.targetIdentity,step.hostIdentitySource)
      else none

def fallbackFQDN (plan : Plan) : String :=
  normalizeFQDN S (providerFQDN plan.host.name plan.host.ansibleHost)

def planFQDN (plan : Plan) : String :=
  if normalizeFQDN S plan.fqdn ≠ "" then normalizeFQDN S plan.fqdn
  else
    match freeIPAPlanIdentity S plan with
    | some (resolved,_) => resolved
    | none => fallbackFQDN S plan

def retainPlanFQDN (fresh previous : Plan) : Plan :=
  match freeIPAPlanIdentity S fresh with
  | some (identity,.authoritative) => { fresh with fqdn := identity }
  | some (_,.fallback) => { fresh with fqdn := planFQDN S previous }
  | _ =>
    if planFQDN S fresh = fallbackFQDN S fresh then { fresh with fqdn := planFQDN S previous }
    else fresh

def staleRetirement (detail : String) : Err :=
  newError .planStale s!"cannot recover persisted FreeIPA retirement identity: {detail}; re-plan required"

def addIdentity (identity value : String) : Except Err String :=
  match canonicalFreeIPAFQDN S value with
  | .error err => .error (staleRetirement err)
  | .ok fqdn =>
    if identity ≠ "" ∧ identity ≠ fqdn then
      .error (staleRetirement "persisted canonical identities disagree")
    else .ok fqdn

def addStep (alias_ stage identity : String) (step : Step) : Except Err String :=
  if step.provider ≠ freeIPAClientProviderID then .ok identity
  else if step.params.at "inventory_alias" ≠ "" ∧ step.params.at "inventory_alias" ≠ alias_ then
    .error (staleRetirement "step alias differs from the bound host")
  else if step.params.at "retirement_stage" ≠ "" ∧ step.params.at "retirement_stage" ≠ stage then
    .error (staleRetirement "step retirement stage differs from the bound environment")
  else
    let target :=
      if step.action = actionFreeIPARosterHostAbsent ∨
          step.action = actionFreeIPAIdentityApplyConverge then step.targetIdentity
      else if step.action = actionFreeIPAClientUninstall then step.params.at "retirement_fqdn"
      else ""
    if target = "" then .ok identity else addIdentity S identity target

def bindPreviousRetirement (previous : Option Plan) (current : Plan) :
    Except Err (Option RetirementIdentity) :=
  match previous with
  | none => .ok none
  | some prev =>
    let clients := prev.components.filter (fun c => c.componentID == freeIPAClientProviderID)
    if ¬ clients.any (fun c => c.providerRegistered) then .ok none
    else if prev.inventoryRevision = "" ∨ prev.inventoryRevision ≠ current.inventoryRevision ∨
        jsonHash S (canonicalHostSnapshot prev.host).value ≠
          jsonHash S (canonicalHostSnapshot current.host).value ∨
        prev.environment ≠ current.environment ∨ prev.environment ≠ prev.host.env then
      .error (staleRetirement "host alias, snapshot, environment or inventory revision changed")
    else do
      let stage := firstNonEmpty (normalizeStage prev.environment) "sandbox"
      let saved ← if prev.fqdn = "" then .ok "" else addIdentity S "" prev.fqdn
      let identity ← (clients.flatMap (fun c => c.steps)).foldlM
        (addStep S current.host.name stage) saved
      if identity = "" then
        .error (staleRetirement
          "canonical plan metadata and unambiguous legacy cleanup identity are missing")
      else
        let explicit := current.host.extra.at "ipa_client_fqdn"
        if explicit ≠ "" ∧ (canonicalFreeIPAFQDN S explicit).toOption ≠ some identity then
          .error (staleRetirement
            "explicit current inventory FQDN differs from the persisted identity")
        else .ok (some ⟨current.host.name,stage,identity⟩)

/-- Why a search gives up. The source has no bound on the depth, so only the
    first is an answer of it. -/
inductive SearchError
  | cycle (detail : String)
  | outOfFuel

def SearchError.detail : SearchError → String
  | .cycle detail => detail
  | .outOfFuel => ""

/-- The depth-first search from one component: what is on the way to it, and
    the components that are done. -/
def visit (catalog : Catalog) (selected : List String) :
    Nat → List String → List String → String → Except SearchError (List String)
  | 0, _, _, _ => .error .outOfFuel
  | fuel + 1, path, done, id =>
    if id ∈ path then .error (.cycle s!"dependency cycle at component {S.quote id}")
    else if id ∈ done then .ok done
    else do
      let deps := match catalog.component id with
        | some c => (sortStrings c.dependencies).filter (fun d => selected.contains d)
        | none => []
      let done ← deps.foldlM (visit catalog selected fuel (id :: path)) done
      return done ++ [id]

/-- A path has distinct selected components, so it is never longer than them. -/
def resolveTeardownOrder (componentIDs : List String) (catalog : Catalog) :
    Except SearchError (List String) := do
  let order ← (sortStrings componentIDs).foldlM
    (visit S catalog componentIDs (componentIDs.length + 1) []) []
  return order.reverse

def dedupeSortedStrings (names : List String) : List String := sortStrings names.dedup

variable {L : Type}

def askProvider (answer : Except ProviderError (List Step)) (cp : ComponentPlan) : ComponentPlan :=
  match answer with
  | .error err =>
    { cp with blockers := cp.blockers ++ [⟨classifyProviderPlanError err,err.message⟩] }
  | .ok steps => { cp with steps := steps }

def unsupportedDetail (c : Contract) : String :=
  match c.decommissionPlaybook with
  | some playbook =>
    s!"component {S.quote c.id} declares playbooks.decommission={S.quote playbook} but no executor is " ++
      "registered yet — fail-closed per INV-7"
  | none =>
    s!"component {S.quote c.id} declares no decommission playbook and no registered decommission provider " ++
      "exists yet (zero live providers registered for this plan) — fail-closed per INV-7"

def retentionDetail (c : Contract) : String :=
  s!"component {S.quote c.id} is stateful with retention=required — supply an explicit retention disposition " ++
    "before planning can proceed (spec.md §20.1)"

def retentionGate (c : Contract) (disposition : RetentionDisposition) (cp : ComponentPlan) :
    ComponentPlan :=
  match c.policy with
  | none => cp
  | some policy =>
    let gated :=
      if policy.cls = .stateful ∧ policy.retention = .required then
        if disposition = .none then
          { cp with
            retentionRequired := true
            blockers := cp.blockers ++ [⟨.retentionRequired,retentionDetail S c⟩] }
        else { cp with retentionRequired := true, retentionSatisfied := true }
      else cp
    { gated with requiresReachableHost := policy.requiresReachableHost }

def emptyComponent (role componentID : String) : ComponentPlan :=
  ⟨role,componentID,false,false,false,false,false,false,.notPlanned,[],[]⟩

def planComponent (input : PlanInput L) (site : Site L) (hosts : List Host) (host : Host)
    (retirement : Option RetirementIdentity) (role : String) : ComponentPlan :=
  match input.catalog.componentsForRole role with
  | [] =>
    { emptyComponent role "" with
      requiresReachableHost := true
      blockers := [⟨.externalStateUnsupported,s!"role {S.quote role} has no registered component contract — " ++
        "decommission support unknown, fail-closed (INV-7)"⟩] }
  | matched :: _ =>
    let cp := { emptyComponent role matched.id with
      requiresReachableHost := true
      hasContract := true
      declaresDecommission := matched.decommissionPlaybook.isSome }
    let asked := match input.providers matched.id with
      | some provider =>
        askProvider (provider.plan site ⟨host.name,providerFQDN host.name host.ansibleHost,
          input.offlineDisposition,rosterPathFor S input.workspaceDir hosts host,
          if matched.id = freeIPAClientProviderID then retirement else none⟩)
          { cp with providerRegistered := true }
      | none =>
        { cp with blockers := [⟨.externalStateUnsupported,unsupportedDetail S matched⟩] }
    retentionGate S matched (input.retentionDispositions matched.id) asked

/-- A component that a reference asks for: there only if its provider has
    something to do or fails. -/
def referenceComponent (provider : Provider L) (site : Site L) (hostName fqdn : String)
    (cp : ComponentPlan) : Option ComponentPlan :=
  match provider.plan site ⟨hostName,fqdn,.none,"",none⟩ with
  | .ok [] => none
  | answer => some (askProvider answer { cp with providerRegistered := true })

def openEndpoint (r : Reference) : Bool :=
  r.source == "internal-endpoints.yaml" && r.classification == .requiresReplacement

def Reference.handled (r : Reference) : Reference :=
  if openEndpoint r then
    { r with
      classification := .autoRemove
      detail := r.detail ++ " — handled by the internal-endpoint decommission provider (spec.md §37 Phase 4)" }
  else r

/-- The component for internal endpoints, and the references after it. -/
def planInternalEndpointReferences (providers : Registry L) (site : Site L) (refs : List Reference)
    (hostName fqdn : String) : Option ComponentPlan × List Reference :=
  if refs.any openEndpoint then
    match providers internalEndpointProviderID with
    | none => (none,refs)
    | some provider =>
      match referenceComponent provider site hostName fqdn
          { emptyComponent "" internalEndpointProviderID with hasContract := true } with
      | none => (none,refs)
      | some cp => (some cp,if cp.blocked then refs else refs.map Reference.handled)
  else (none,refs)

def planLoginProbeTargets (providers : Registry L) (site : Site L) (target : Host) :
    Option ComponentPlan :=
  if target.roles.any (fun r => S.toLower r == loginProbeRole) then none
  else
    match providers loginProbeTargetsProviderID with
    | none => none
    | some provider =>
      referenceComponent provider site target.name (providerFQDN target.name target.ansibleHost)
        (emptyComponent "" loginProbeTargetsProviderID)

def unreachableDetail (c : ComponentPlan) : String :=
  s!"host is temporarily unreachable — component {S.quote (firstNonEmpty c.componentID c.role)} requires local " ++
    "cleanup, which cannot run until the host is reachable again"

def unreachableComponent (disposition : OfflineDisposition) (c : ComponentPlan) : ComponentPlan :=
  if !c.requiresReachableHost then c
  else
    match disposition with
    | .temporarilyUnreachable =>
      { c with blockers := c.blockers ++ [⟨.hostUnreachable,unreachableDetail S c⟩] }
    | .permanentlyLost => { c with localCleanupStatus := .unavailableAttested }
    | .none => c

def applyUnreachablePolicy (reach : Reachability) (disposition : OfflineDisposition) (plan : Plan) :
    Plan :=
  if reach ≠ .unreachable then plan
  else if disposition = .none then
    { plan with blockers := plan.blockers ++
      [⟨.hostUnreachable,"host is unreachable and no offline disposition was supplied — pass " ++
        "temporarily_unreachable or permanently_lost (spec.md §21.1)"⟩] }
  else { plan with components := plan.components.map (unreachableComponent S disposition) }

def basePlan (input : PlanInput L) (hf : HostsFile) (target : Host) : Plan :=
  { id := input.newPlanID
    status := .executable
    host := .ofHost target
    environment := target.env
    fqdn := normalizeFQDN S (providerFQDN target.name target.ansibleHost)
    components := []
    teardownOrder := []
    dependencyCycle := false
    references := []
    retentionRequirements := []
    reachability := input.reachability
    offlineDisposition := input.offlineDisposition
    blockers := []
    warnings := []
    planHash := ""
    inventoryRevision := canonicalInventoryHash S hf
    createdAt := S.formatTime input.now
    expiresAt := S.formatTime (input.now + defaultPlanTTL)
    receipt := none }

def Plan.sealHash (plan : Plan) : Plan := { plan with planHash := computePlanHash S plan }

def controlPlaneRoles : List String := ["freeipa-server","freeipa-server-replica"]

def controlPlaneBlocker (hostName role : String) : Blocker :=
  ⟨.controlPlaneRequiresDedicated,s!"host {S.quote hostName} has role {S.quote role} — generic host " ++
    "decommission is blocked; FreeIPA server/replica decommission requires a separate, dedicated workflow " ++
    "(spec.md §16.1, INV-13) with no bypass flag"⟩

def retentionRequirement (input : PlanInput L) (cp : ComponentPlan) : Option RetentionRequirement :=
  if cp.retentionRequired then
    some ⟨cp.componentID,true,input.retentionDispositions cp.componentID,cp.retentionSatisfied⟩
  else none

def planComponents (input : PlanInput L) (site : Site L) (hf : HostsFile) (target : Host)
    (retirement : Option RetirementIdentity) : List ComponentPlan × List Reference :=
  let ofRoles := (sortStrings target.roles).map (planComponent S input site hf.hosts target retirement)
  let scanned := (scanReferences S site.files input.workspaceDir hf.hosts target).1
  let endpoints := planInternalEndpointReferences input.providers site scanned target.name
    (providerFQDN target.name target.ansibleHost)
  (ofRoles ++ endpoints.1.toList ++ (planLoginProbeTargets S input.providers site target).toList,
    endpoints.2)

def orderComponents (catalog : Catalog) (plan : Plan) : Plan :=
  let ids := (plan.components.map ComponentPlan.componentID).filter (fun id => id ≠ "")
  match resolveTeardownOrder S (dedupeSortedStrings ids) catalog with
  | .error err =>
    { plan with
      dependencyCycle := true
      blockers := plan.blockers ++ [⟨.dependencyCycle,err.detail⟩] }
  | .ok order => { plan with teardownOrder := order }

def finishPlan (plan : Plan) : Plan :=
  let gated := if plan.blocked then { plan with status := .blocked } else plan
  match freeIPAPlanIdentity S gated with
  | some (resolved,_) => (({ gated with fqdn := resolved } : Plan)).sealHash S
  | none => gated.sealHash S

def planRoles (input : PlanInput L) (site : Site L) (hf : HostsFile) (target : Host)
    (retirement : Option RetirementIdentity) : Plan :=
  let found := planComponents S input site hf target retirement
  let plan := { basePlan S input hf target with
    components := found.1
    references := found.2
    retentionRequirements := found.1.filterMap (retentionRequirement input)
    warnings := (scanReferences S site.files input.workspaceDir hf.hosts target).2 }
  finishPlan S
    (applyUnreachablePolicy S input.reachability input.offlineDisposition
      (orderComponents S input.catalog plan))

def noRolesWarning : Warning := ⟨"no_roles","host has no roles assigned — nothing to clean up"⟩

def planTarget (input : PlanInput L) (site : Site L) (hf : HostsFile) (target : Host) :
    Except Err Plan := do
  let plan := basePlan S input hf target
  let retirement ← bindPreviousRetirement S input.previousPlan plan
  match target.roles.find? (fun r => controlPlaneRoles.contains r) with
  | some role =>
    return ({ plan with
      blockers := [controlPlaneBlocker S (trim input.hostName) role]
      status := .blocked } : Plan).sealHash S
  | none =>
    if target.roles = [] then
      return ({ plan with warnings := [noRolesWarning] } : Plan).sealHash S
    else return planRoles S input site hf target retirement

def loadHostsFile (files : String → Option String) (path : String) : Except Err HostsFile :=
  match files path with
  | none =>
    .error (newError .workspaceMalformed s!"read {path}: open {path}: no such file or directory")
  | some text =>
    match S.parse text with
    | .error err => .error (newError .workspaceMalformed s!"parse {path}: {err}")
    | .ok hf => .ok hf

def hostsPath (workspaceDir : String) : String := S.join workspaceDir "hosts.yml"

def planHost (input : PlanInput L) (site : Site L) : Except Err Plan := do
  let hostName := trim input.hostName
  if hostName = "" then throw (newError .hostNotFound "host name is required")
  if trim input.workspaceDir = "" then
    throw (newError .workspaceMalformed "workspace dir is required")
  let hf ← loadHostsFile S site.files (hostsPath S input.workspaceDir)
  match hf.hosts.find? (fun h => h.name == hostName) with
  | none =>
    throw (newError .hostNotFound
      s!"host {S.quote hostName} not found in {hostsPath S input.workspaceDir}")
  | some target => planTarget S input site hf target

def staleError (expectedHash : String) (fresh : Plan) : Err :=
  newError .planStale (s!"plan hash changed: stored={expectedHash} current={fresh.planHash} — re-plan required, " ++
    "cannot execute the stale plan")

def checkFreshness (input : PlanInput L) (expectedHash : String) (site : Site L) :
    Except Err Plan := do
  let fresh ← planHost S input site
  if fresh.planHash ≠ expectedHash then throw (staleError expectedHash fresh)
  return fresh

end

section
variable {S : Setup} {L : Type} {input : PlanInput L} {site : Site L} {hf : HostsFile} {target : Host}
  {plan : Plan}

structure Located (S : Setup) (input : PlanInput L) (site : Site L) (hf : HostsFile) (target : Host) :
    Prop where
  named : trim input.hostName ≠ ""
  placed : trim input.workspaceDir ≠ ""
  loaded : loadHostsFile S site.files (hostsPath S input.workspaceDir) = .ok hf
  found : hf.hosts.find? (fun h => h.name == trim input.hostName) = some target

theorem Located.name (located : Located S input site hf target) : target.name = trim input.hostName := by
  simpa using List.find?_some located.found

theorem planHost_ok (ok : planHost S input site = .ok plan) :
    ∃ hf target, Located S input site hf target ∧ planTarget S input site hf target = .ok plan := by
  unfold planHost at ok
  obtain ⟨named,ok⟩ := Fold.guard_ok ok
  obtain ⟨placed,ok⟩ := Fold.guard_ok ok
  obtain ⟨hf,loaded,ok⟩ := Fold.bind_ok ok
  cases found : hf.hosts.find? (fun h => h.name == trim input.hostName) with
  | none =>
    rw [found] at ok
    cases ok
  | some target =>
    rw [found] at ok
    exact ⟨hf,target,⟨named,placed,loaded,found⟩,ok⟩

theorem planHost_of_located (located : Located S input site hf target) :
    planHost S input site = planTarget S input site hf target := by
  unfold planHost
  rw [if_neg located.named,if_neg located.placed,located.loaded]
  change (match hf.hosts.find? (fun h => h.name == trim input.hostName) with
    | none => _ | some target => planTarget S input site hf target) = _
  rw [located.found]

theorem host_orderComponents (catalog : Catalog) (plan : Plan) :
    (orderComponents S catalog plan).host = plan.host := by
  unfold orderComponents
  dsimp only
  split <;> rfl

theorem host_applyUnreachablePolicy (reach : Reachability) (disposition : OfflineDisposition)
    (plan : Plan) : (applyUnreachablePolicy S reach disposition plan).host = plan.host := by
  unfold applyUnreachablePolicy
  split
  · rfl
  · split <;> rfl

theorem host_finishPlan (plan : Plan) : (finishPlan S plan).host = plan.host := by
  unfold finishPlan
  split <;> (unfold Plan.sealHash; dsimp only; split <;> rfl)

theorem host_planRoles (retirement : Option RetirementIdentity) :
    (planRoles S input site hf target retirement).host = .ofHost target := by
  unfold planRoles
  rw [host_finishPlan,host_applyUnreachablePolicy,host_orderComponents]
  rfl

/-- How a plan comes about: the identity of an earlier plan agrees, and the
    plan is that of a control plane, of no roles, or of the roles. -/
theorem planTarget_ok (ok : planTarget S input site hf target = .ok plan) :
    ∃ retirement, bindPreviousRetirement S input.previousPlan (basePlan S input hf target) =
      .ok retirement ∧ plan.host = .ofHost target := by
  obtain ⟨retirement,bound,ok⟩ := Fold.bind_ok ok
  refine ⟨retirement,bound,?_⟩
  split at ok
  · cases ok
    rfl
  split at ok
  · cases ok
    rfl
  · cases ok
    exact host_planRoles retirement

theorem bindPreviousRetirement_of_no_client (current : Plan)
    (absent : ∀ prev ∈ previous, ∀ c ∈ prev.components, c.componentID ≠ freeIPAClientProviderID) :
    bindPreviousRetirement S previous current = .ok none := by
  unfold bindPreviousRetirement
  cases previous with
  | none => rfl
  | some prev =>
    have none : prev.components.filter (fun c => c.componentID == freeIPAClientProviderID) = [] := by
      rw [List.filter_eq_nil_iff]
      intro c mem
      simpa using absent prev rfl c mem
    dsimp only
    rw [none]
    rfl

theorem planTarget_of_no_roles
    (bound : bindPreviousRetirement S input.previousPlan (basePlan S input hf target) = .ok r)
    (none : target.roles = []) :
    planTarget S input site hf target =
      .ok (({ basePlan S input hf target with warnings := [noRolesWarning] } : Plan).sealHash S) := by
  unfold planTarget
  dsimp only
  rw [bound,none]
  rfl

theorem planRoles_previous (previous : Option Plan) (retirement : Option RetirementIdentity) :
    planRoles S { input with previousPlan := previous } site hf target retirement =
      planRoles S input site hf target retirement := rfl

theorem planTarget_of_roles
    (bound : bindPreviousRetirement S input.previousPlan (basePlan S input hf target) = .ok r)
    (ordinary : target.roles.find? (fun r => controlPlaneRoles.contains r) = none)
    (some_ : target.roles ≠ []) :
    planTarget S input site hf target = .ok (planRoles S input site hf target r) := by
  unfold planTarget
  dsimp only
  rw [bound]
  rw [ordinary]
  exact if_neg some_

theorem planHost_host (ok : planHost S input site = .ok plan) : plan.host.name = trim input.hostName := by
  obtain ⟨hf,target,located,ok⟩ := planHost_ok ok
  obtain ⟨_,_,host⟩ := planTarget_ok ok
  rw [host]
  exact located.name

theorem host_retainPlanFQDN (fresh previous : Plan) :
    (retainPlanFQDN S fresh previous).host = fresh.host := by
  unfold retainPlanFQDN
  split
  · rfl
  · rfl
  · split <;> rfl

theorem checkFreshness_ok {hash : String} (ok : checkFreshness S input hash site = .ok plan) :
    planHost S input site = .ok plan ∧ plan.planHash = hash := by
  obtain ⟨derived,planned,ok⟩ := Fold.bind_ok ok
  obtain ⟨same,ok⟩ := Fold.guard_ok ok
  cases ok
  exact ⟨planned,not_not.mp same⟩

theorem checkFreshness_of_planned {hash : String} (planned : planHost S input site = .ok plan)
    (same : plan.planHash = hash) : checkFreshness S input hash site = .ok plan := by
  unfold checkFreshness
  rw [planned]
  exact if_neg (not_not.mpr same)

end

end Pilot.Decommission
