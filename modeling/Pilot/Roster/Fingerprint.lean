import Pilot.Roster.Effective
import Pilot.Yaml.Rewrite

/-!
The semantic fingerprint of a roster in `internal/inventory/roster_migrate.go`
and its comparison by `reflect.DeepEqual`, under which a value with a NaN in
it does not equal itself. What the normalization of NFS client selectors keeps of
a roster is a relation of the decoded `nfs` sections, and the fingerprint of a
normalized roster differs from the original one in the rendered clients only.
-/
namespace Pilot.Roster
open Yaml List

mutual

/-- `reflect.DeepEqual` on decoded values: no NaN equals another, and maps
    are compared by their keys. -/
def deepEqual : Value → Value → Bool
  | .null, .null => true
  | .bool a, .bool b => a == b
  | .int a, .int b => a == b
  | .uint64 a, .uint64 b => a == b
  | .float64 x, .float64 y => x != .nan && x == y
  | .string a, .string b => a == b
  | .list items, .list items' => deepEqualItems items items'
  | .map entries, .map entries' =>
    entries.length == entries'.length && deepEqualEntries entries entries'
  | .other a, .other b => a == b
  | _, _ => false

def deepEqualItems : List Value → List Value → Bool
  | [], [] => true
  | v :: items, w :: items' => deepEqual v w && deepEqualItems items items'
  | _, _ => false

def deepEqualEntries : List (String × Value) → Fields → Bool
  | [], _ => true
  | (key, v) :: rest, m =>
    (match field m key with
      | some w => deepEqual v w
      | none => false) && deepEqualEntries rest m

end

def renderNFSClientSelector (clientType value : String) : String :=
  if clientType = "hostgroup" ∨ clientType = "netgroup" then "@" ++ value else value

def renderedClient (client : Fields) : String :=
  renderNFSClientSelector (stringField client "type") (stringField client "value")

structure NfsShareFingerprint where
  (name state sourcePath : String)
  (ownership acl : Value)
  (exportOptions renderedClients : List String)
  automount : Value

structure NfsServerFingerprint where
  (host state : String)
  servicePrincipal : Value
  shares : List NfsShareFingerprint

structure RosterSemanticFingerprint where
  (users groups hosts hostgroups freeIPA nfsClients policyExceptions : Value)
  effectiveHBAC : List EffectiveHBACAccess
  effectiveSudo : List EffectiveSudoAccess
  nfsServers : List NfsServerFingerprint

/-- An `any` read from a map: a missing key reads as nil. -/
def valueAt (m : Fields) (key : String) : Value := (field m key).getD .null

def serversOf (root : Fields) : List Fields := maps (listField (mapField root "nfs") "servers")

def sharesOf (server : Fields) : List Fields := maps (listField server "shares")

def clientsOf (share : Fields) : List Fields :=
  maps (listField (mapField share "export") "clients")

def shareFingerprint (share : Fields) : NfsShareFingerprint where
  name := stringField share "name"
  state := stateOrDefault share "present"
  sourcePath := stringField share "source_path"
  ownership := valueAt share "ownership"
  acl := valueAt share "acl"
  exportOptions := stringListField (mapField share "export") "options"
  renderedClients := (clientsOf share).map renderedClient
  automount := valueAt share "automount"

def serverFingerprint (server : Fields) : NfsServerFingerprint where
  host := stringField server "host"
  state := stateOrDefault server "present"
  servicePrincipal := valueAt server "service_principal"
  shares := (sharesOf server).map shareFingerprint

def computeRosterSemanticFingerprint (root : Fields) : RosterSemanticFingerprint where
  users := valueAt root "users"
  groups := valueAt root "groups"
  hosts := valueAt root "hosts"
  hostgroups := valueAt root "hostgroups"
  freeIPA := valueAt root "freeipa"
  nfsClients := valueAt root "nfs_clients"
  policyExceptions := valueAt root "policy_exceptions"
  effectiveHBAC := effectiveHBACAccessFromRoster root
  effectiveSudo := effectiveSudoAccessFromRoster root
  nfsServers := (serversOf root).map serverFingerprint

def NfsShareFingerprint.same (a b : NfsShareFingerprint) : Bool :=
  a.name == b.name && a.state == b.state && a.sourcePath == b.sourcePath &&
    deepEqual a.ownership b.ownership && deepEqual a.acl b.acl &&
    a.exportOptions == b.exportOptions && a.renderedClients == b.renderedClients &&
    deepEqual a.automount b.automount

def NfsServerFingerprint.same (a b : NfsServerFingerprint) : Bool :=
  a.host == b.host && a.state == b.state && deepEqual a.servicePrincipal b.servicePrincipal &&
    a.shares.isEqv b.shares NfsShareFingerprint.same

/-- An empty slice and a nil one are one list here; they are not told apart
    below because both sides come from the same functions. -/
def rosterSemanticFingerprintsEqual (a b : RosterSemanticFingerprint) : Bool :=
  deepEqual a.users b.users && deepEqual a.groups b.groups && deepEqual a.hosts b.hosts &&
    deepEqual a.hostgroups b.hostgroups && deepEqual a.freeIPA b.freeIPA &&
    deepEqual a.nfsClients b.nfsClients && deepEqual a.policyExceptions b.policyExceptions &&
    a.effectiveHBAC == b.effectiveHBAC && a.effectiveSudo == b.effectiveSudo &&
    a.nfsServers.isEqv b.nfsServers NfsServerFingerprint.same

/-- The decoded values in a fingerprint. -/
def NfsShareFingerprint.values (f : NfsShareFingerprint) : List Value :=
  [f.ownership,f.acl,f.automount]

def NfsServerFingerprint.values (f : NfsServerFingerprint) : List Value :=
  f.servicePrincipal :: f.shares.flatMap NfsShareFingerprint.values

def RosterSemanticFingerprint.values (f : RosterSemanticFingerprint) : List Value :=
  [f.users,f.groups,f.hosts,f.hostgroups,f.freeIPA,f.nfsClients,f.policyExceptions] ++
    f.nfsServers.flatMap NfsServerFingerprint.values

def exportClients (root : Fields) : List Fields :=
  (serversOf root).flatMap (fun server => (sharesOf server).flatMap clientsOf)

def exportsBy (text : Fields → String) (root : Fields) : List (List (List String)) :=
  (serversOf root).map (fun server => (sharesOf server).map (fun share => (clientsOf share).map text))

def renderedExports (root : Fields) : List (List (List String)) := exportsBy renderedClient root

/-- The texts of version 1: the value of a client, whatever its type. -/
def bareExports (root : Fields) : List (List (List String)) :=
  exportsBy (fun client => stringField client "value") root

/-- What the normalization keeps of a client: its type may become `raw`. -/
def ClientNormalized : Relation :=
  AgreeBut "type" (fun before after => after = before ∨ asString after = "raw")

def ShareNormalized : Relation := AgreeBut "export" (AgreeBut "clients" (ItemsRelated ClientNormalized))

def ServerNormalized : Relation := AgreeBut "shares" (ItemsRelated ShareNormalized)

def NfsNormalized : Relation := AgreeBut "servers" (ItemsRelated ServerNormalized)

section
variable {α β : Type} {R : α → α → Prop} {a b : List α}

theorem map_eq_of_related {f g : α → β} (related : Forall₂ R a b)
    (same : ∀ x ∈ a, ∀ y, R x y → f y = g x) : b.map f = a.map g := by
  induction related with
  | nil => rfl
  | cons first later ih =>
    rw [map_cons,map_cons,same _ mem_cons_self _ first,ih (fun x mem => same x (mem_cons_of_mem _ mem))]

theorem isEqv_map_iff {γ : Type} {f : α → β} {p : β → β → Bool} {P : α → Prop} {r : α → γ}
    (related : Forall₂ R a b)
    (splits : ∀ x y, R x y → (p (f x) (f y) = true ↔ P x ∧ r x = r y)) :
    (a.map f).isEqv (b.map f) p = true ↔ (∀ x ∈ a, P x) ∧ a.map r = b.map r := by
  induction related with
  | nil => simp
  | cons first later ih =>
    simp only [map_cons,isEqv_cons_cons,Bool.and_eq_true,splits _ _ first,ih,forall_mem_cons,cons.injEq]
    exact and_and_and_comm

end

section
variable {root root' server server' share share' client client' : Fields}

theorem stateOrDefault_congr {m m' : Fields} {default : String}
    (same : field m "state" = field m' "state") :
    stateOrDefault m default = stateOrDefault m' default := by
  unfold stateOrDefault stringField
  rw [same]

/-- Two mappings that correspond as the relation says. -/
def Corresponds (R : Relation) (m m' : Fields) : Prop := R (some (.map m)) (some (.map m'))

theorem servers_normalized (nfs : NfsNormalized (field root "nfs") (field root' "nfs")) :
    Forall₂ (Corresponds ServerNormalized) (serversOf root) (serversOf root') :=
  nfs.here.maps (fun _ _ related => ⟨related.elsewhere,related.here⟩)

theorem shares_normalized (related : Corresponds ServerNormalized server server') :
    Forall₂ (Corresponds ShareNormalized) (sharesOf server) (sharesOf server') :=
  related.here.maps (fun _ _ related => ⟨related.elsewhere,related.here⟩)

theorem clients_normalized (related : Corresponds ShareNormalized share share') :
    Forall₂ (Corresponds ClientNormalized) (clientsOf share) (clientsOf share') :=
  related.here.here.maps (fun _ _ related => ⟨related.elsewhere,related.here⟩)

theorem share_same_iff (related : Corresponds ShareNormalized share share') :
    (shareFingerprint share).same (shareFingerprint share') = true ↔
      (∀ v ∈ (shareFingerprint share).values, deepEqual v v = true) ∧
        (clientsOf share).map renderedClient = (clientsOf share').map renderedClient := by
  have kept : ∀ key, key ≠ "export" → field share' key = field share key := related.elsewhere
  have options : field (mapField share' "export") "options" =
      field (mapField share "export") "options" := related.here.elsewhere "options" (by decide)
  have after : shareFingerprint share' =
      { shareFingerprint share with renderedClients := (clientsOf share').map renderedClient } := by
    simp (disch := decide) only [shareFingerprint,stringField,valueAt,stringListField,
      listField,stateOrDefault_congr (kept "state" (by decide)),kept,options]
  rw [after]
  simp [NfsShareFingerprint.same,NfsShareFingerprint.values,shareFingerprint]
  tauto

theorem server_same_iff (related : Corresponds ServerNormalized server server') :
    (serverFingerprint server).same (serverFingerprint server') = true ↔
      (∀ v ∈ (serverFingerprint server).values, deepEqual v v = true) ∧
        (sharesOf server).map (fun share => (clientsOf share).map renderedClient) =
          (sharesOf server').map (fun share => (clientsOf share).map renderedClient) := by
  have kept : ∀ key, key ≠ "shares" → field server' key = field server key := related.elsewhere
  have after : serverFingerprint server' =
      { serverFingerprint server with shares := (sharesOf server').map shareFingerprint } := by
    simp (disch := decide) only [serverFingerprint,stringField,valueAt,
      stateOrDefault_congr (kept "state" (by decide)),kept]
  have shares := isEqv_map_iff
    (shares_normalized related) (fun x y => share_same_iff)
  rw [after,NfsServerFingerprint.same]
  simp only [serverFingerprint,beq_self_eq_true,Bool.true_and,Bool.and_eq_true,shares,
    NfsServerFingerprint.values,forall_mem_cons,forall_mem_flatMap,forall_mem_map,
    and_assoc]

/-- The parts of a roster that a fingerprint reads as they are. -/
def fingerprintKeys : List String :=
  ["users","groups","hosts","hostgroups","freeipa","nfs_clients","policy_exceptions","hbac",
    "sudo"]

theorem effective_congr (kept : ∀ key ∈ fingerprintKeys, field root' key = field root key) :
    effectiveHBACAccessFromRoster root' = effectiveHBACAccessFromRoster root ∧
      effectiveSudoAccessFromRoster root' = effectiveSudoAccessFromRoster root := by
  have users : ∀ item, subjectUsers root' item = subjectUsers root item := by
    intro item
    simp (disch := decide) only [subjectUsers,rosterGroupsByName,listField,kept]
  have hosts : ∀ item, ruleHosts root' item = ruleHosts root item := by
    intro item
    simp (disch := decide) only [ruleHosts,rosterHostgroupsByName,listField,kept]
  have commands : ∀ part, resolvedCommands root' part = resolvedCommands root part := by
    intro part
    simp (disch := decide) only [resolvedCommands,mapField,kept]
  have rules : ∀ key ∈ ["hbac","sudo"], mapField root' key = mapField root key := by
    intro key mem
    rw [mapField,mapField,kept key (by revert key; decide)]
  constructor
  · simp only [effectiveHBACAccessFromRoster,users,hosts,rules "hbac" (by simp)]
  · simp only [effectiveSudoAccessFromRoster,users,hosts,commands,rules "sudo" (by simp)]

/-- The fingerprints before and after a normalization are equal if and only
    if every value equals itself and every client is rendered as before. -/
theorem fingerprint_same_iff (kept : ∀ key ∈ fingerprintKeys, field root' key = field root key)
    (nfs : NfsNormalized (field root "nfs") (field root' "nfs")) :
    rosterSemanticFingerprintsEqual (computeRosterSemanticFingerprint root)
        (computeRosterSemanticFingerprint root') = true ↔
      (∀ v ∈ (computeRosterSemanticFingerprint root).values, deepEqual v v = true) ∧
        renderedExports root = renderedExports root' := by
  have after : computeRosterSemanticFingerprint root' =
      { computeRosterSemanticFingerprint root with
        nfsServers := (serversOf root').map serverFingerprint } := by
    simp (disch := decide) only [computeRosterSemanticFingerprint,valueAt,kept,
      (effective_congr kept).1,(effective_congr kept).2]
  have servers := isEqv_map_iff
    (servers_normalized nfs) (fun x y => server_same_iff)
  rw [after,rosterSemanticFingerprintsEqual]
  simp only [computeRosterSemanticFingerprint,beq_self_eq_true,Bool.and_true,Bool.and_eq_true,
    servers,RosterSemanticFingerprint.values,forall_mem_append,forall_mem_cons,
    forall_mem_flatMap,forall_mem_map,not_mem_nil,false_implies,implies_true,
    true_and,and_assoc,renderedExports,exportsBy]

theorem rendered_eq_value_iff :
    renderedClient client = stringField client "value" ↔
      stringField client "type" ∉ ["hostgroup","netgroup"] := by
  unfold renderedClient renderNFSClientSelector
  split
  · rename_i expanded
    refine ⟨?_,fun plain => absurd (by simpa using expanded) plain⟩
    intro same
    have lengths := congrArg String.length same
    rw [String.length_append] at lengths
    simp at lengths
  · rename_i plain
    simpa using plain

theorem exportsBy_eq_iff {text text' : Fields → String} :
    exportsBy text root = exportsBy text' root ↔
      ∀ client ∈ exportClients root, text client = text' client := by
  simp only [exportsBy,exportClients,map_inj_left,forall_mem_flatMap]

theorem renderedExports_eq_bare_iff :
    renderedExports root = bareExports root ↔
      ∀ client ∈ exportClients root, stringField client "type" ∉ ["hostgroup","netgroup"] := by
  rw [renderedExports,bareExports,exportsBy_eq_iff]
  exact forall₂_congr (fun _ _ => rendered_eq_value_iff)

theorem rendered_of_normalized (related : Corresponds ClientNormalized client client')
    (plain : stringField client "type" ∉ ["hostgroup","netgroup"]) :
    renderedClient client' = stringField client "value" := by
  have value : stringField client' "value" = stringField client "value" :=
    congrArg asString (related.elsewhere "value" (by decide))
  rw [← value,rendered_eq_value_iff]
  rcases related.here with same | raw
  · rw [stringField]
    exact same ▸ plain
  · rw [stringField]
    exact raw ▸ (by decide)

theorem renderedExports_of_normalized (nfs : NfsNormalized (field root "nfs") (field root' "nfs"))
    (plain : ∀ client ∈ exportClients root, stringField client "type" ∉ ["hostgroup","netgroup"]) :
    renderedExports root' = bareExports root := by
  simp only [exportClients,forall_mem_flatMap] at plain
  apply map_eq_of_related (servers_normalized nfs)
  intro server memServer server' related
  apply map_eq_of_related (shares_normalized related)
  intro share memShare share' related
  apply map_eq_of_related (clients_normalized related)
  intro client memClient client' related
  exact rendered_of_normalized related (plain server memServer share memShare client memClient)

end

end Pilot.Roster
