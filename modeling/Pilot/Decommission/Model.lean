import Pilot.Library.Interrupt
import Pilot.Library.Json
import Pilot.Roster.Document

/-!
Plans to decommission a host: the records of `internal/decommission/model.go`
and `providers/provider.go`, and the hash that `planner.go` computes over a
plan. The hash covers a projection of the plan, its view; unless
SHA-256 collides two plans have one hash exactly if they have one view. A Go map
is its list of entries, and a nil map or slice is the empty list.
-/
namespace Pilot.Decommission
open Roster Function

abbrev StringMap := List (String × String)

/-- A map index, which is empty for a missing key. -/
def StringMap.at (m : StringMap) (key : String) : String := (m.lookup key).getD ""

structure Host where
  (name ansibleHost ansibleUser sshKeyFile : String)
  roles : List String
  (env deploymentAvailability sshRecording : String)
  (extra annotations : StringMap)
  deriving DecidableEq, Repr

structure HostsFile where
  vars : StringMap
  hosts : List Host
  deriving DecidableEq, Repr

inductive Severity where
  | error | warning
  deriving DecidableEq, Repr

structure Issue where
  host : String
  severity : Severity
  message : String
  deriving DecidableEq, Repr

def hasErrors (issues : List Issue) : Bool := issues.any (fun i => i.severity == .error)

/-- What the package takes from its surroundings: hashing, paths, times and
    texts of the standard library, the YAML library, and the inventory
    package's functions on `hosts.yml`. -/
structure Setup where
  (sha256 quote toLower : String → String)
  isIP : String → Bool
  join : String → String → String
  isAbs : String → Bool
  formatTime : Int → String
  parseTime : String → Option Int
  yaml : Yaml.Library
  parse : String → Except String HostsFile
  lint : HostsFile → List Issue
  issuesText : List Issue → String
  (render generate : HostsFile → Except String String)
  looksSecretLike : String → Bool
  files_apart : ∀ dir, join dir "hosts.yml" ≠ join dir "inventory.yml"

def trim (s : String) : String := String.ofList (trimSpace s)

def firstNonEmpty (a b : String) : String := if a ≠ "" then a else b

inductive ErrorClass where
  | hostNotFound | planExpired | planStale | approvalRequired | dependencyCycle
  | retentionRequired | hostUnreachable | ownershipUnknown | externalStateUnsupported
  | controlPlaneRequiresDedicated | cleanupFailedTerminal | finalizationFailed
  | referenceRequiresAuthorization | workspaceMalformed
  deriving DecidableEq, Repr

def ErrorClass.code : ErrorClass → String
  | hostNotFound => "host_not_found"
  | planExpired => "plan_expired"
  | planStale => "plan_stale"
  | approvalRequired => "approval_required"
  | dependencyCycle => "dependency_cycle"
  | retentionRequired => "retention_required"
  | hostUnreachable => "host_unreachable"
  | ownershipUnknown => "ownership_unknown"
  | externalStateUnsupported => "external_state_unsupported"
  | controlPlaneRequiresDedicated => "control_plane_host_requires_dedicated_workflow"
  | cleanupFailedTerminal => "cleanup_failed_terminal"
  | finalizationFailed => "finalization_failed"
  | referenceRequiresAuthorization => "reference_requires_authorization"
  | workspaceMalformed => "workspace_malformed"

/-- An error, with its class if it is one of the package's own. -/
structure Err where
  cls : Option ErrorClass
  message : String
  deriving DecidableEq, Repr

def newError (cls : ErrorClass) (message : String) : Err := ⟨some cls,message⟩

inductive Classification where
  | autoRemove | requiresReplacement | informational | foreignUnknown | hardBlocker
  deriving DecidableEq, Repr

def Classification.text : Classification → String
  | autoRemove => "AUTO_REMOVE"
  | requiresReplacement => "REQUIRES_REPLACEMENT"
  | informational => "INFORMATIONAL"
  | foreignUnknown => "FOREIGN_UNKNOWN"
  | hardBlocker => "HARD_BLOCKER"

structure Reference where
  (source kind identity : String)
  classification : Classification
  detail : String
  deriving DecidableEq, Repr

structure Blocker where
  code : ErrorClass
  detail : String
  deriving DecidableEq, Repr

structure Warning where
  (code detail : String)
  deriving DecidableEq, Repr

inductive Reachability where
  | unknown | reachable | unreachable
  deriving DecidableEq, Repr

def Reachability.text : Reachability → String
  | unknown => ""
  | reachable => "reachable"
  | unreachable => "unreachable"

inductive OfflineDisposition where
  | none | temporarilyUnreachable | permanentlyLost
  deriving DecidableEq, Repr

def OfflineDisposition.text : OfflineDisposition → String
  | none => ""
  | temporarilyUnreachable => "temporarily_unreachable"
  | permanentlyLost => "permanently_lost"

inductive RetentionDisposition where
  | none | exported | migrated | retainOnDisk | destroyAuthorized
  deriving DecidableEq, Repr

inductive LocalCleanupStatus where
  | notPlanned | planned | unavailableAttested
  deriving DecidableEq, Repr

def LocalCleanupStatus.text : LocalCleanupStatus → String
  | notPlanned => ""
  | planned => "planned"
  | unavailableAttested => "local_cleanup_unavailable_attested"

inductive PlanStatus where
  | executable | blocked | completed
  deriving DecidableEq, Repr

inductive Phase where
  | localCleanup | centralCleanup
  deriving DecidableEq, Repr

inductive HostIdentitySource where
  | legacy | authoritative | fallback | recovered
  deriving DecidableEq, Repr

structure Step where
  provider : String
  phase : Phase
  (action targetIdentity : String)
  hostIdentitySource : HostIdentitySource
  params : StringMap
  deriving DecidableEq, Repr

structure HostSnapshot where
  (name ansibleHost ansibleUser env : String)
  roles : List String
  extra : StringMap
  deriving DecidableEq, Repr

structure ComponentPlan where
  (role componentID : String)
  (hasContract declaresDecommission providerRegistered retentionRequired retentionSatisfied : Bool)
  (requiresReachableHost : Bool)
  localCleanupStatus : LocalCleanupStatus
  steps : List Step
  blockers : List Blocker
  deriving DecidableEq, Repr

def ComponentPlan.blocked (c : ComponentPlan) : Bool := !c.blockers.isEmpty

structure RetentionRequirement where
  componentID : String
  required : Bool
  disposition : RetentionDisposition
  satisfied : Bool
  deriving DecidableEq, Repr

structure Receipt where
  (decommissionID host fqdn environment reason startedAt completedAt planHash : String)
  (initialInventoryRevision finalInventoryRevision : String)
  components : List String
  (verified historicalRecordsRetained : Bool)
  warnings : List String
  deriving DecidableEq, Repr

structure Plan where
  id : String
  status : PlanStatus
  host : HostSnapshot
  (environment fqdn : String)
  components : List ComponentPlan
  teardownOrder : List String
  dependencyCycle : Bool
  references : List Reference
  retentionRequirements : List RetentionRequirement
  reachability : Reachability
  offlineDisposition : OfflineDisposition
  blockers : List Blocker
  warnings : List Warning
  (planHash inventoryRevision createdAt expiresAt : String)
  receipt : Option Receipt
  deriving DecidableEq, Repr

def Plan.blocked (p : Plan) : Bool := !p.blockers.isEmpty || p.components.any ComponentPlan.blocked

structure RefView where
  (source kind identity : String)
  classification : Classification
  deriving DecidableEq, Repr

def Reference.view (r : Reference) : RefView := ⟨r.source,r.kind,r.identity,r.classification⟩

def RefView.before (a b : RefView) : Bool :=
  if a.source ≠ b.source then a.source < b.source
  else if a.kind ≠ b.kind then a.kind < b.kind
  else a.identity ≤ b.identity

def sortRefs (refs : List Reference) : List RefView :=
  (refs.map Reference.view).insertionSort (fun a b => RefView.before a b)

/-- What the hash reads of a component: neither its steps nor whether a
    provider is registered for it. -/
structure ComponentView where
  (role componentID : String)
  (hasContract declaresDecommission retentionRequired retentionSatisfied : Bool)
  localCleanupStatus : LocalCleanupStatus
  blocked : Bool
  deriving DecidableEq, Repr

def ComponentPlan.view (c : ComponentPlan) : ComponentView :=
  ⟨c.role,c.componentID,c.hasContract,c.declaresDecommission,c.retentionRequired,
    c.retentionSatisfied,c.localCleanupStatus,c.blocked⟩

def sortEntries (m : StringMap) : StringMap := m.insertionSort (fun a b => a.1 ≤ b.1)

def canonicalHostSnapshot (h : HostSnapshot) : HostSnapshot :=
  { h with roles := sortStrings h.roles, extra := sortEntries h.extra }

@[ext]
structure View where
  host : HostSnapshot
  (environment inventoryRevision : String)
  components : List ComponentView
  teardownOrder : List String
  dependencyCycle : Bool
  references : List RefView
  reachability : Reachability
  offlineDisposition : OfflineDisposition
  planLevelBlocked : Bool
  deriving DecidableEq, Repr

def Plan.view (p : Plan) : View :=
  ⟨canonicalHostSnapshot p.host,p.environment,p.inventoryRevision,
    p.components.map ComponentPlan.view,p.teardownOrder,p.dependencyCycle,sortRefs p.references,
    p.reachability,p.offlineDisposition,!p.blockers.isEmpty⟩

section
open Json

def stringsValue : List String → Json.Value
  | [] => .null
  | items => .array (items.map .string)

def mapValue (m : StringMap) : Json.Value := .object (m.map (fun e => (e.1,.string e.2)))

def HostSnapshot.value (h : HostSnapshot) : Json.Value :=
  .object [("Name",.string h.name),("AnsibleHost",.string h.ansibleHost),
    ("AnsibleUser",.string h.ansibleUser),("Env",.string h.env),("Roles",stringsValue h.roles),
    ("Extra",mapValue h.extra)]

def RefView.value (r : RefView) : Json.Value :=
  .object [("Source",.string r.source),("Kind",.string r.kind),("Identity",.string r.identity),
    ("Classification",.string r.classification.text)]

def ComponentView.value (c : ComponentView) : Json.Value :=
  .object [("Role",.string c.role),("ComponentID",.string c.componentID),
    ("HasContract",.bool c.hasContract),("DeclaresDecommission",.bool c.declaresDecommission),
    ("RetentionRequired",.bool c.retentionRequired),
    ("RetentionSatisfied",.bool c.retentionSatisfied),
    ("LocalCleanupStatus",.string c.localCleanupStatus.text),("Blocked",.bool c.blocked)]

def View.value (v : View) : Json.Value :=
  .object [("Host",v.host.value),("Environment",.string v.environment),
    ("InventoryRevision",.string v.inventoryRevision),
    ("Components",.array (v.components.map ComponentView.value)),
    ("TeardownOrder",stringsValue v.teardownOrder),("DependencyCycle",.bool v.dependencyCycle),
    ("References",.array (v.references.map RefView.value)),
    ("Reachability",.string v.reachability.text),
    ("OfflineDisposition",.string v.offlineDisposition.text),
    ("PlanLevelBlocked",.bool v.planLevelBlocked)]

def Host.value (h : Host) : Json.Value :=
  .object ([("Name",.string h.name),("AnsibleHost",.string h.ansibleHost),
    ("AnsibleUser",.string h.ansibleUser),("SSHKeyFile",.string h.sshKeyFile),
    ("Roles",stringsValue (sortStrings h.roles)),("Env",.string h.env),
    ("DeploymentAvailability",.string h.deploymentAvailability),
    ("Extra",mapValue (sortEntries h.extra))] ++
    if h.sshRecording = "" then [] else [("SSHRecording",.string h.sshRecording)])

def HostsFile.value (hf : HostsFile) : Json.Value :=
  .object [("Vars",mapValue (sortEntries hf.vars)),
    ("Hosts",.array ((hf.hosts.insertionSort (fun a b => a.name ≤ b.name)).map Host.value))]

variable (S : Setup)

def jsonHash (v : Json.Value) : String := S.sha256 (marshal v)

def canonicalInventoryHash (hf : HostsFile) : String := jsonHash S hf.value

def computePlanHash (p : Plan) : String := jsonHash S p.view.value

theorem stringsValue_injective : Injective stringsValue := by
  intro a b same
  cases a with
  | nil => cases b with
    | nil => rfl
    | cons _ _ => cases same
  | cons x xs => cases b with
    | nil => cases same
    | cons y ys =>
      have items : (x :: xs).map Json.Value.string = (y :: ys).map Json.Value.string := by
        injection same
      exact List.map_injective_iff.mpr (fun _ _ => Json.Value.string.inj) items

theorem mapValue_injective : Injective mapValue := by
  intro a b same
  injection same with entries
  refine List.map_injective_iff.mpr ?_ entries
  rintro ⟨k,v⟩ ⟨k',v'⟩ pair
  simpa using pair

theorem Classification.text_injective : Injective Classification.text := by
  intro a b
  cases a <;> cases b <;> decide

theorem LocalCleanupStatus.text_injective : Injective LocalCleanupStatus.text := by
  intro a b
  cases a <;> cases b <;> decide

theorem Reachability.text_injective : Injective Reachability.text := by
  intro a b
  cases a <;> cases b <;> decide

theorem OfflineDisposition.text_injective : Injective OfflineDisposition.text := by
  intro a b
  cases a <;> cases b <;> decide

theorem HostSnapshot.value_injective : Injective HostSnapshot.value := by
  rintro ⟨⟩ ⟨⟩ same
  simpa [HostSnapshot.value,stringsValue_injective.eq_iff,mapValue_injective.eq_iff] using same

theorem RefView.value_injective : Injective RefView.value := by
  rintro ⟨⟩ ⟨⟩ same
  simpa [RefView.value,Classification.text_injective.eq_iff] using same

theorem ComponentView.value_injective : Injective ComponentView.value := by
  rintro ⟨⟩ ⟨⟩ same
  simpa [ComponentView.value,LocalCleanupStatus.text_injective.eq_iff] using same

theorem View.value_injective : Injective View.value := by
  rintro ⟨⟩ ⟨⟩ same
  simpa [View.value,HostSnapshot.value_injective.eq_iff,stringsValue_injective.eq_iff,
    Reachability.text_injective.eq_iff,OfflineDisposition.text_injective.eq_iff,
    (List.map_injective_iff.mpr ComponentView.value_injective).eq_iff,
    (List.map_injective_iff.mpr RefView.value_injective).eq_iff] using same

variable {S}

/-- SHA-256 does not collide on the texts of two plans. -/
def HashApart (S : Setup) (p q : Plan) : Prop :=
  S.sha256 (marshal p.view.value) = S.sha256 (marshal q.view.value) →
    marshal p.view.value = marshal q.view.value

theorem computePlanHash_eq_iff (apart : HashApart S p q) :
    computePlanHash S p = computePlanHash S q ↔ p.view = q.view := by
  unfold computePlanHash jsonHash
  constructor
  · intro same
    exact View.value_injective (marshal_injective (apart same))
  · intro same
    rw [same]

end

end Pilot.Decommission
