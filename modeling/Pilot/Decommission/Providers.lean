import Mathlib.Data.List.Infix
import Pilot.Decommission.Apply

/-!
Two of the providers of `internal/decommission/providers`: the one for the
internal endpoints that refer to a host, which edits their manifest, and the
generic one for a component with a playbook of its own. What a run of a
playbook reports and changes is given by the configuration.
-/
namespace Pilot.Decommission
open Roster Interrupt

variable {L : Type}

def statusForAbsence (absent : Bool) : VerificationStatus :=
  if absent then .pass else .activeResidue

structure NormalizedInternalEndpoint where
  (fqdn state routeOwnerHost : String)
  deriving DecidableEq, Repr

def setField (m : Fields) (key : String) (value : Roster.Value) : Fields :=
  if m.any (fun e => e.1 == key) then m.map (fun e => if e.1 == key then (key,value) else e)
  else m ++ [(key,value)]

def mentionsNotFound (text : String) : Bool :=
  decide ("not found".toList <:+: text.toList.map Char.toLower)

def Site.setFile (path : String) (content : Option String) (site : Site L) : Site L :=
  { site with files := Function.update site.files path content }

def writeSite (fault : Option (String × Option String)) (path content : String) :
    Prog (Site L) String Unit := fun site =>
  match fault with
  | some (err,left) => ([site.setFile path left],.error err)
  | none => ([site.setFile path (some ""),site.setFile path (some content)],.ok ())

structure InternalEndpointProviderConfig (L : Type) where
  manifestPath : String
  encode : Fields → Yaml.Node
  manifestWrite : Option (String × Option String)
  endpointObject : Site L → String → Except String (String × String)
  applyConverge : Prog (Site L) String Unit

section
variable (S : Setup)

def normalizeEndpointFQDN (fqdn : String) : String := trimFinalDot (S.toLower (trim fqdn))

def routeOwnerHost (route : Fields) : String :=
  if stringField route "mode" = "direct" then stringField (mapField route "target") "inventory_host"
  else if stringField route "mode" = "reverse_proxy" then
    stringField (mapField route "proxy") "inventory_host"
  else ""

def normalizeOneEndpoint (e : Fields) : NormalizedInternalEndpoint :=
  ⟨normalizeEndpointFQDN S (stringField e "fqdn"),stateOrDefault e "present",
    routeOwnerHost (mapField e "route")⟩

def normalizeInternalEndpointManifest (root : Fields) : List NormalizedInternalEndpoint :=
  ((listField root "endpoints").map (fun raw => normalizeOneEndpoint S (asMap (some raw)))).insertionSort
    (fun a b => a.fqdn ≤ b.fqdn)

def loadInternalEndpointManifest (files : String → Option String) (path : String) :
    Option (Except String Fields) :=
  (files path).map fun text =>
    (unmarshalRoster S.yaml text).mapError (fun err => s!"parse internal-endpoints manifest {path}: {err}")

def manifestAllowsEndpointDelete (root : Fields) : Bool :=
  boolFieldDefault (mapField root "safety") "allow_endpoint_delete" false

def referencingEndpoints (path : String) (files : String → Option String) (hostName : String) :
    Except String (List String × Bool) :=
  if trim path = "" then .ok ([],false)
  else
    match loadInternalEndpointManifest S files path with
    | none => .ok ([],false)
    | some (.error err) => .error s!"internal-endpoint: load manifest {path}: {err}"
    | some (.ok root) =>
      let owned := (normalizeInternalEndpointManifest S root).filter
        (fun e => e.state == "present" && e.routeOwnerHost == hostName)
      .ok (sortStrings (owned.map NormalizedInternalEndpoint.fqdn),manifestAllowsEndpointDelete root)

def actionInternalEndpointManifestAbsent : String := "internal_endpoint_manifest_absent"
def actionInternalEndpointApplyConverge : String := "internal_endpoint_apply_converge"

def endpointSteps (fqdn : String) : List Step :=
  [actionInternalEndpointManifestAbsent,actionInternalEndpointApplyConverge].map fun action =>
    ⟨internalEndpointProviderID,.centralCleanup,action,fqdn,.legacy,[]⟩

def internalEndpointPlan (cfg : InternalEndpointProviderConfig L) (site : Site L)
    (input : ProviderPlanInput) : Except ProviderError (List Step) :=
  match referencingEndpoints S cfg.manifestPath site.files input.hostName with
  | .error err => .error (.other s!"internal-endpoint plan {input.hostName}: {err}")
  | .ok ([],_) => .ok []
  | .ok (fqdns,false) =>
    .error (.endpointDeleteNotAllowed ("internal-endpoint: safety.allow_endpoint_delete is not true — cannot " ++
      "remove referencing endpoint(s): host " ++
      input.hostName ++ " is referenced by internal endpoint(s) " ++ String.intercalate ", " fqdns ++
      " (spec.md §32)"))
  | .ok (fqdns,true) => .ok (fqdns.flatMap endpointSteps)

def internalEndpointManifestEndpoint (files : String → Option String) (path fqdn : String) :
    Except String (Option Fields) :=
  match loadInternalEndpointManifest S files path with
  | none => .error s!"open {path}: no such file or directory"
  | some (.error err) => .error err
  | some (.ok root) =>
    .ok (((listField root "endpoints").map (fun raw => asMap (some raw))).find?
      (fun e => stringField e "fqdn" == fqdn))

def findSequenceItemIndexByField (fieldKey fieldValue : String) :
    List Yaml.Node → Nat → Option Nat → Except String (Option Nat)
  | [], _, found => .ok found
  | item :: rest, i, found =>
    match Yaml.decodeMap S.yaml item with
    | .error err => .error s!"decode entry {i}: {err}"
    | .ok m =>
      if stringField m fieldKey ≠ fieldValue then
        findSequenceItemIndexByField fieldKey fieldValue rest (i + 1) found
      else
        match found with
        | some _ =>
          .error s!"{fieldKey} {S.quote fieldValue} is ambiguous (fix the duplicate by hand first)"
        | none => findSequenceItemIndexByField fieldKey fieldValue rest (i + 1) (some i)

def replaceChild (name : String) (new : Yaml.Node) : List Yaml.Node → List Yaml.Node
  | key :: value :: rest =>
    if key.value = name then key :: new :: rest else key :: value :: replaceChild name new rest
  | rest => rest

def replaceInternalEndpoint (encode : Fields → Yaml.Node) (path fqdn : String) (updated : Fields)
    (text : String) : Except String String :=
  match S.yaml.parse text with
  | .error err => .error s!"parse internal-endpoints manifest {path}: {err}"
  | .ok (some (.mapping content)) =>
    match Yaml.findChild "endpoints" content with
    | some (.sequence items) =>
      match findSequenceItemIndexByField S "fqdn" fqdn items 0 none with
      | .error err => .error s!"internal-endpoints manifest {path}: {err}"
      | .ok none =>
        .error s!"internal-endpoints manifest {path}: no endpoint with fqdn {S.quote fqdn}"
      | .ok (some i) =>
        .ok (S.yaml.render (.mapping (replaceChild "endpoints"
          (.sequence (items.set i (encode updated))) content)))
    | _ => .error s!"internal-endpoints manifest {path}: no endpoints list"
  | .ok _ => .error s!"internal-endpoints manifest {path}: expected a top-level YAML mapping"

def setInternalEndpoint (cfg : InternalEndpointProviderConfig L) (fqdn : String) (updated : Fields) :
    Prog (Site L) String Unit := do
  let rendered ← Prog.read fun site =>
    match site.files cfg.manifestPath with
    | none => .error s!"open {cfg.manifestPath}: no such file or directory"
    | some text => replaceInternalEndpoint S cfg.encode cfg.manifestPath fqdn updated text
  writeSite (cfg.manifestWrite.map fun f =>
    (s!"write internal-endpoints manifest {cfg.manifestPath}: {f.1}",f.2)) cfg.manifestPath rendered

def onError {ε ε' α : Type} (message : ε → ε') (p : Prog (Site L) ε α) : Prog (Site L) ε' α :=
  fun site => (p.visited site,(p.result site).mapError message)

def manifestAbsentStep (cfg : InternalEndpointProviderConfig L) (fqdn : String) : StepExecutor L where
  inspect site :=
    match internalEndpointManifestEndpoint S site.files cfg.manifestPath fqdn with
    | .error err => .error s!"internal-endpoint manifest-absent {fqdn}: {err}"
    | .ok none => .ok true
    | .ok (some fields) => .ok (stringField fields "state" == "absent")
  execute := onError (fun err => s!"internal-endpoint manifest-absent {fqdn}: {err}") do
    match ← Prog.read (fun site =>
      internalEndpointManifestEndpoint S site.files cfg.manifestPath fqdn) with
    | none => return ()
    | some fields => setInternalEndpoint S cfg fqdn (setField fields "state" (.string "absent"))

def applyConvergeStep (cfg : InternalEndpointProviderConfig L) (fqdn : String) : StepExecutor L where
  inspect site := (cfg.endpointObject site fqdn).map fun found => mentionsNotFound found.1
  execute := onError (fun err => s!"internal-endpoint apply-converge {fqdn}: {err}") cfg.applyConverge

def internalEndpointVerify (cfg : InternalEndpointProviderConfig L) (site : Site L)
    (input : VerifyInput) : Except String (List Verification) :=
  let fqdn := firstNonEmpty input.fqdn input.hostName
  match cfg.endpointObject site fqdn with
  | .error err => .error s!"internal-endpoint verify {fqdn}: {err}"
  | .ok (host,dns) =>
    .ok [⟨internalEndpointProviderID,"endpoint_host_object",fqdn,statusForAbsence (mentionsNotFound host),
        "ipa host-show " ++ fqdn⟩,
      if "skipped".toList <+: (trim dns).toList then
        ⟨internalEndpointProviderID,"endpoint_dns",fqdn,.notApplicable,
          "dns_zone/dns_owner unresolved — " ++ trim dns⟩
      else
        ⟨internalEndpointProviderID,"endpoint_dns",fqdn,statusForAbsence (mentionsNotFound dns),
          "ipa dnsrecord-show for endpoint " ++ fqdn⟩]

def internalEndpointProvider (cfg : InternalEndpointProviderConfig L) : Provider L where
  id := internalEndpointProviderID
  plan := internalEndpointPlan S cfg
  verify := internalEndpointVerify cfg
  executorForStep := some fun step =>
    if step.action = actionInternalEndpointManifestAbsent then
      .ok (manifestAbsentStep S cfg step.targetIdentity)
    else if step.action = actionInternalEndpointApplyConverge then
      .ok (applyConvergeStep cfg step.targetIdentity)
    else
      .error (s!"internal-endpoint: unknown planned step action {S.quote step.action} — programming/version-skew " ++
        "error, not a normal runtime condition")

structure GenericComponentProviderConfig (L : Type) where
  componentID : String
  decommissioned : Site L → String → Except String Bool
  decommission : String → Prog (Site L) String Unit

def actionGenericComponentUninstall : String := "generic_component_uninstall"

def genericInspect (cfg : GenericComponentProviderConfig L) (site : Site L) (hostName : String) :
    Except String Bool :=
  (cfg.decommissioned site hostName).mapError fun err =>
    s!"{cfg.componentID} inspect {hostName}: {err}"

def genericVerify (cfg : GenericComponentProviderConfig L) (site : Site L) (input : VerifyInput) :
    Except String (List Verification) :=
  match genericInspect cfg site (firstNonEmpty input.hostName input.fqdn) with
  | .error err => .error s!"{cfg.componentID} verify {input.hostName}: {err}"
  | .ok gone =>
    .ok [⟨cfg.componentID,"local_uninstall",input.hostName,statusForAbsence gone,
      if gone then
        s!"{cfg.componentID} already decommissioned (PILOT_COMPONENT_DECOMMISSIONED=true)"
      else
        s!"{cfg.componentID} not yet decommissioned (PILOT_COMPONENT_DECOMMISSIONED=false or marker absent)"⟩]

def genericComponentProvider (cfg : GenericComponentProviderConfig L) : Provider L where
  id := cfg.componentID
  plan _ input :=
    .ok [⟨cfg.componentID,.localCleanup,actionGenericComponentUninstall,input.hostName,.legacy,[]⟩]
  verify := genericVerify cfg
  executorForStep := some fun step =>
    if step.action = actionGenericComponentUninstall then
      .ok { inspect := fun site => genericInspect cfg site step.targetIdentity
            execute := onError (fun err => s!"{cfg.componentID} uninstall {step.targetIdentity}: {err}")
              (cfg.decommission step.targetIdentity) }
    else
      .error (s!"{cfg.componentID}: unknown planned step action {S.quote step.action} — programming/version-skew " ++
        "error, not a normal runtime condition")

end

section
variable {S : Setup} {cfg : InternalEndpointProviderConfig L} {site : Site L}

section
variable {fqdn text rendered : String} (writes : cfg.manifestWrite = none)
  (there : site.files cfg.manifestPath = some text)
include writes there

end

end

end Pilot.Decommission
