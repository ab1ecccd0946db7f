import Pilot.Roster.Document
import Pilot.Roster.Fingerprint

/-!
The roster migration of `internal/inventory/roster_migrate.go` and
`roster_migrate_file.go` up to the plan, which writes nothing: detecting the
schema version, the two transformations of the parsed document, the chain
that renders, parses and validates every candidate, and the guard on the
semantic fingerprint. Hashing and the decryption of a vault are parameters.
-/
namespace Pilot.Roster
open Yaml

def currentRosterSchemaVersion : Int := 3

section
variable (Y : Library) (F : Formats)

def detectRosterSchemaVersion (text : String) : Except String Int :=
  if isVaultEncrypted text then .error errRosterEncrypted
  else do
    let root ← wrapError "parse roster: " (unmarshalRoster Y text)
    match field root "schema_version" with
    | none => .error "schema_version is missing"
    | some raw =>
      match toInt raw with
      | none => .error s!"schema_version must be an integer, got {F.format raw}"
      | some n => .ok n

def rosterDocumentTop : Option Node → Except String Node
  | some (.mapping content) => .ok (.mapping content)
  | _ => .error "expected a top-level YAML mapping"

def requireVersion (transformation : String) (want : Int) (top : Node) : Except String Unit :=
  match findMappingChild top "schema_version" with
  | none => .error "migrate roster: schema_version is missing"
  | some versionNode =>
    match atoi (trimSpace versionNode.value) with
    | none =>
      .error s!"migrate roster: schema_version {F.quote versionNode.value} is not an integer"
    | some n =>
      if n = want then .ok ()
      else .error s!"migrate roster: {transformation} requires schema_version: {want}, got {n}"

def setVersion (version : String) : Node → Node :=
  editKey "schema_version" (fun _ => .scalar "!!int" version)

/-- Only the types `network` and `host` stay. -/
def normalizeNFSClientSelectorNode : Node → Node
  | .mapping content =>
    if (findChild "type" content).any (fun t => t.value == "network" || t.value == "host") then
      .mapping content
    else editKey "type" (fun _ => strNode "raw") (mappingChild (.mapping content) "type" (strNode ""))
  | n => n

def normalizeNFSClientSelectors : Node → Node :=
  editKey "nfs"
    (editSequenceChildren "servers"
      (editSequenceChildren "shares"
        (editKey "export" (editSequenceChildren "clients" normalizeNFSClientSelectorNode))))

def toV2 (top : Node) : Node :=
  normalizeNFSClientSelectors (mappingChild (setVersion "2" top) "netgroups" (.sequence []))

def toV3 (top : Node) : Node := mappingChild (setVersion "3" top) "grants" (.sequence [])

def migrateRosterV1ToV2 (doc : Option Node) : Except String Node := do
  let top ← wrapError "migrate roster: " (rosterDocumentTop doc)
  requireVersion F "MigrateRosterV1ToV2" 1 top
  return toV2 top

/-- The number of a kind in `yaml.Kind`. -/
def kindNumber : Kind → Nat
  | .sequence => 2
  | .mapping => 4
  | .scalar => 8

def migrateRosterV2ToV3 (doc : Option Node) : Except String Node := do
  let top ← wrapError "migrate roster: " (rosterDocumentTop doc)
  requireVersion F "MigrateRosterV2ToV3" 2 top
  match findMappingChild top "grants" with
  | some existing =>
    let key := F.quote "grants"
    if existing.kind = .sequence then return toV3 top
    else
      .error (s!"migrate roster: existing top-level {key} is {kindNumber existing.kind}, not a sequence — " ++
        "refusing to overwrite")
  | none => return toV3 top

structure RosterMigrationStep where
  (fromVersion toVersion : Int)
  transform : Option Node → Except String Node
  validate : Fields → List RosterViolation

def rosterMigrationSteps : List RosterMigrationStep :=
  [⟨1,2,migrateRosterV1ToV2 F,validateRosterV2 F⟩,⟨2,3,migrateRosterV2ToV3 F,validateRosterV3 F⟩]

def rosterSourceValidators (version : Int) : Option (Fields → List RosterViolation) :=
  [(1, validateRosterV1 F),(2, validateRosterV2 F),(3, validateRosterV3 F)].lookup version

/-- The steps from a version on, up to the one that ends at the target. -/
def walkSteps (target : Int) : Int → List RosterMigrationStep → Option (List RosterMigrationStep)
  | _, [] => none
  | cur, step :: rest =>
    if step.fromVersion ≠ cur then walkSteps target cur rest
    else if step.toVersion = target then some [step]
    else (walkSteps target step.toVersion rest).map (step :: ·)

def rosterMigrationPath (version target : Int) : Except String (List RosterMigrationStep) :=
  match walkSteps target version (rosterMigrationSteps F) with
  | some path => .ok path
  | none => .error s!"no migration path from schema v{version} to v{target}"

def showViolations (violations : List RosterViolation) : String :=
  "[" ++ " ".intercalate (violations.map (fun v => s!"[{v.rule}] {v.detail}")) ++ "]"

structure MigrationCandidate where
  node : Option Node
  text : String
  root : Fields

def runStep (candidate : MigrationCandidate) (step : RosterMigrationStep) :
    Except String MigrationCandidate := do
  let node ← step.transform candidate.node
  let root ← wrapError "parse migrated roster: " (unmarshalRoster Y (Y.render node))
  let violations := step.validate root
  if violations = [] then return ⟨some node,Y.render node,root⟩
  else
    .error s!"candidate fails schema v{step.toVersion} validation: {showViolations violations}"

def runRosterMigrationChain (doc : Option Node) (steps : List RosterMigrationStep) :
    Except String MigrationCandidate :=
  steps.foldlM (runStep Y) ⟨doc,"",[]⟩

def rosterMigrationStepNames (path : List RosterMigrationStep) : List String :=
  path.map (fun step => s!"v{step.fromVersion}->v{step.toVersion}")

structure RosterMigrationResult where
  (fromVersion toVersion : Int)
  changed : Bool
  (originalSHA256 newSHA256 : String)
  steps : List String

structure RosterMigrationPlan where
  result : RosterMigrationResult
  detected : Int
  candidate : String
  encrypted : Bool

/-- What the plan calls outside the package: a hash of texts and
    `ansible-vault view`, which gets the file and the password file. -/
structure MigrationTools where
  sha256Hex : String → String
  ansibleVaultView : String → String → Except String String

variable (T : MigrationTools)

def openRoster (shown file original vaultPasswordFile : String) : Except String (String × Bool) :=
  if isVaultEncrypted original then
    if vaultPasswordFile = "" then .error errRosterEncrypted
    else do
      let decrypted ← wrapError s!"decrypt roster {shown}: "
        (T.ansibleVaultView file vaultPasswordFile)
      return (decrypted, true)
  else .ok (original, false)

def planRosterMigration (shown file original vaultPasswordFile : String) (targetVersion : Int) :
    Except String RosterMigrationPlan := do
  let opened ← openRoster T shown file original vaultPasswordFile
  let detected ← wrapError s!"migrate roster {shown}: " (detectRosterSchemaVersion Y F opened.1)
  if detected = targetVersion then
    return {
      result := ⟨detected,targetVersion,false,T.sha256Hex original,T.sha256Hex original,[]⟩
      detected := detected
      candidate := ""
      encrypted := false }
  else match rosterSourceValidators F detected with
  | none =>
    .error s!"migrate roster {shown}: no migration path from schema v{detected} to v{targetVersion}"
  | some sourceValidator =>
    let originalRoot ← wrapError s!"parse roster {shown}: " (unmarshalRoster Y opened.1)
    let violations := sourceValidator originalRoot
    if violations ≠ [] then
      .error (s!"migrate roster {shown}: original document fails schema v{detected} validation: " ++
        s!"{showViolations violations}")
    else
      let path ← wrapError s!"migrate roster {shown}: " (rosterMigrationPath F detected targetVersion)
      let node ← wrapError s!"parse roster {shown}: " (Y.parse opened.1)
      let migrated ← wrapError s!"migrate roster {shown}: " (runRosterMigrationChain Y node path)
      if rosterSemanticFingerprintsEqual (computeRosterSemanticFingerprint originalRoot)
          (computeRosterSemanticFingerprint migrated.root) then
        return {
          result := ⟨detected,targetVersion,true,T.sha256Hex original,
            if opened.2 then "" else T.sha256Hex migrated.text,rosterMigrationStepNames path⟩
          detected := detected
          candidate := migrated.text
          encrypted := opened.2 }
      else
        .error s!"migrate roster {shown}: candidate would change authorization-affecting content, refusing to migrate"

end

end Pilot.Roster
