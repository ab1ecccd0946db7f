import Mathlib.Data.List.Infix
import Pilot.Decommission.Model

/-!
The references of a workspace to a host, as `internal/decommission/
references.go` finds them: the host's variables file, the canonical roster,
the DNS manifest and the internal endpoints. A file that is absent has no
references, and one that cannot be read has none either.
-/
namespace Pilot.Decommission
open Roster

structure Site (L : Type) where
  files : String → Option String
  live : L

inductive OwnershipConfidence where
  | unknown | legacyCrossChecked | localIdentity | componentManaged | canonicalRosterExact | ledger
  deriving DecidableEq, Repr

def classifyOwnership (confidence : OwnershipConfidence) (exact_ : Bool) : Classification :=
  if !exact_ || confidence = .unknown then .foreignUnknown else .autoRemove

def mapItems (items : List Roster.Value) : List Fields :=
  items.filterMap fun
    | .map entries => some entries
    | _ => none

variable (S : Setup)

def discoverRosterFileFromHosts (hosts : List Host) : String :=
  let sorted := hosts.insertionSort (fun a b => a.name ≤ b.name)
  ((sorted.map (fun h => trim (h.extra.at "freeipa_roster_file"))).find? (fun p => p ≠ "")).getD ""

def rosterPathFor (workspaceDir : String) (hosts : List Host) (host : Host) : String :=
  let own := trim (host.extra.at "freeipa_roster_file")
  let p := if own = "" then discoverRosterFileFromHosts hosts else own
  if p = "" then ""
  else if S.isAbs p then p
  else S.join workspaceDir p

def hostVarsRel (hostName : String) : String := S.join "host_vars" (hostName ++ ".yml")

def scanHostVars (files : String → Option String) (workspaceDir hostName : String) :
    List Reference :=
  if (files (S.join workspaceDir (hostVarsRel S hostName))).isSome then
    [⟨"host_vars","host_vars_file",hostVarsRel S hostName,
      classifyOwnership .canonicalRosterExact true,
      "host-owned file, exclusively about this host — archived/removed at finalization"⟩]
  else []

def namesHost (hostName : String) (m : Fields) : Bool :=
  (listField m "hosts").any fun
    | .string h => h == hostName
    | _ => false

/-- A name that only contains the host's is reported and left alone. -/
def scanRosterGroup (kind hostName : String) (m : Fields) : List Reference :=
  let name := stringField m "name"
  if namesHost hostName (mapField m "membership") then
    [⟨"freeipa-roster",kind,name,classifyOwnership .canonicalRosterExact true,
      "exact roster membership match"⟩]
  else if name ≠ hostName ∧ hostName.toList <:+: name.toList then
    [⟨"freeipa-roster",kind,name,classifyOwnership .unknown false,
      "name contains the host name as a substring only — not ownership evidence, left untouched"⟩]
  else []

def scanRosterGroupList (root : Fields) (listKey kind hostName : String) : List Reference :=
  (mapItems (listField root listKey)).flatMap (scanRosterGroup kind hostName)

def scanRosterRuleList (root : Fields) (sectionKey kind hostName : String) : List Reference :=
  ((mapItems (listField (mapField root sectionKey) "rules")).filter
    (fun m => namesHost hostName (mapField m "targets"))).map fun m =>
      ⟨"freeipa-roster",kind,stringField m "name",classifyOwnership .canonicalRosterExact true,
        "exact direct host target"⟩

def scanRosterHosts (root : Fields) (path hostName : String) : List Reference :=
  ((mapItems (listField root "hosts")).filter
    (fun m => stringField m "name" == hostName || stringField m "fqdn" == hostName)).map fun _ =>
      ⟨"freeipa-roster","canonical_host_declaration",path,
        classifyOwnership .canonicalRosterExact true,
        "canonical roster host entry — completes to state: absent"⟩

def scanRosterRoot (root : Fields) (path hostName : String) : List Reference :=
  scanRosterHosts root path hostName
    ++ scanRosterGroupList root "hostgroups" "hostgroup_membership" hostName
    ++ scanRosterGroupList root "netgroups" "netgroup_membership" hostName
    ++ scanRosterRuleList root "hbac" "hbac_rule" hostName
    ++ scanRosterRuleList root "sudo" "sudo_rule" hostName

def scanFreeIPARoster (files : String → Option String) (workspaceDir : String) (hosts : List Host)
    (host : Host) : List Reference × List Warning :=
  let path := rosterPathFor S workspaceDir hosts host
  if path = "" then ([],[])
  else
    match files path with
    | none => ([],[])
    | some text =>
      match readRosterAsMap S.yaml path text with
      | .error err =>
        if err = errRosterEncrypted then
          ([],[⟨"roster_encrypted",s!"FreeIPA roster {path} is ansible-vault encrypted — cannot scan it for " ++
            "references without a vault password; treat as unresolved"⟩])
        else
          ([],[⟨"roster_unreadable",s!"could not scan FreeIPA roster {path} for references: {err}"⟩])
      | .ok root => (scanRosterRoot root path host.name,[])

def readManifest (files : String → Option String) (path : String) : Option Fields :=
  match files path with
  | none => none
  | some text =>
    match unmarshalRoster S.yaml text with
    | .ok root => some root
    | .error _ => none

def scanDNSRoot (root : Fields) (hostName : String) : List Reference :=
  (mapItems (listField (mapField root "dns") "zones")).flatMap fun zone =>
    ((mapItems (listField zone "records")).filter
      (fun record => stringField (mapField record "target") "inventory_host" == hostName)).map
      fun record =>
        ⟨"freeipa-dns.yaml","dns_record",
          stringField zone "name" ++ "/" ++ stringField record "name" ++ " " ++
            stringField record "type",
          classifyOwnership .componentManaged true,
          ("record's target.inventory_host is the retiring host — Pilot-managed, surgical exact-value deletion " ++
            "only (INV-14)")⟩

def scanDNSManifest (files : String → Option String) (workspaceDir hostName : String) :
    List Reference :=
  match readManifest S files (S.join workspaceDir "freeipa-dns.yaml") with
  | none => []
  | some root => scanDNSRoot root hostName

def routeEnd (part kind hostName : String) (endpoint : Fields) : List Reference :=
  let owner := stringField (mapField (mapField endpoint "route") part) "inventory_host"
  match field (mapField endpoint "route") part with
  | some (.map _) =>
    if owner = hostName then
      [⟨"internal-endpoints.yaml",kind,stringField endpoint "fqdn",.requiresReplacement,
        (s!"endpoint route.{part}.inventory_host is the retiring host — must be removed or repointed before " ++
          "decommission can proceed")⟩]
    else []
  | _ => []

def scanEndpointsRoot (root : Fields) (hostName : String) : List Reference :=
  (mapItems (listField root "endpoints")).flatMap fun endpoint =>
    routeEnd "target" "endpoint_target" hostName endpoint ++
      routeEnd "proxy" "endpoint_proxy" hostName endpoint

def scanInternalEndpoints (files : String → Option String) (workspaceDir hostName : String) :
    List Reference :=
  match readManifest S files (S.join workspaceDir "internal-endpoints.yaml") with
  | none => []
  | some root => scanEndpointsRoot root hostName

def scanReferences (files : String → Option String) (workspaceDir : String) (hosts : List Host)
    (host : Host) : List Reference × List Warning :=
  let roster := scanFreeIPARoster S files workspaceDir hosts host
  (scanHostVars S files workspaceDir host.name ++ roster.1
    ++ scanDNSManifest S files workspaceDir host.name
    ++ scanInternalEndpoints S files workspaceDir host.name,roster.2)

end Pilot.Decommission
