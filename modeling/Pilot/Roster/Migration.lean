import Pilot.Roster.AuthPolicy
import Pilot.Roster.Migrate

/-!
What the migration from version 1 to version 3 does to a valid roster. Both
transformations keep every part of the decoded roster but the version and the
`nfs` section, and append empty sections, so that the checks of the target
version follow from those of version 1. The plan then fails for a version
whose text is not a decimal, for a client that is rendered with its type and
for a NaN among the values it compares, and for nothing else.
-/
namespace Pilot.Roster
open Yaml List

/-- A roster after one or both transformations. -/
structure RootMigrated (added : List String) (version : Int) (root migrated : Fields) : Prop where
  version : field migrated "schema_version" = some (.int version)
  keys : ∀ key ∈ migrated.map Prod.fst, key ∈ root.map Prod.fst ∨ key ∈ added
  appended : ∀ key ∈ added, field migrated key = some (.list [])
  kept : ∀ key, key ∉ "schema_version" :: "nfs" :: added → field migrated key = field root key
  nfs : NfsNormalized (field root "nfs") (field migrated "nfs")

section
variable {Y : Library} {content : List Node} {pairs : Fields × Fields}

theorem ClientNormalized.refl (v : Option Value) : ClientNormalized v v := AgreeBut.refl (fun _ => .inl rfl) v

theorem ShareNormalized.refl (v : Option Value) : ShareNormalized v v :=
  AgreeBut.refl (AgreeBut.refl (ItemsRelated.refl ClientNormalized.refl)) v

theorem ServerNormalized.refl (v : Option Value) : ServerNormalized v v :=
  AgreeBut.refl (ItemsRelated.refl ShareNormalized.refl) v

theorem NfsNormalized.refl (v : Option Value) : NfsNormalized v v :=
  AgreeBut.refl (ItemsRelated.refl ServerNormalized.refl) v

theorem follows_client : Follows Y normalizeNFSClientSelectorNode ClientNormalized := by
  intro n v decodes
  cases n with
  | scalar tag text | sequence items => exact ⟨v,decodes,.refl _⟩
  | mapping content =>
    rw [normalizeNFSClientSelectorNode]
    split
    · exact ⟨v,decodes,.refl _⟩
    obtain ⟨pairs,entries,rfl⟩ := decodes_mapping.mp decodes
    have typed : Pairs Y (ensureKey "type" (strNode "") content)
        (ensure pairs.1 "type" (.string ""), pairs.2) :=
      pairs_ensureKey (by decide) (decodes_str "") entries
    have edited : Pairs Y (editChild "type" (fun _ => strNode "raw") (ensureKey "type" (strNode "") content))
        (alter "type" (fun _ => .string "raw") (ensure pairs.1 "type" (.string "")), pairs.2) :=
      pairs_edit (by decide) (fun _ _ _ _ => decodes_str "raw") typed
    refine ⟨_,(decodes_mapping.mpr ⟨_,edited,rfl⟩ : Decodes Y (.mapping _) _),?_⟩
    simp only [mappingValue,isStringMap_editChild,isStringMap_ensureKey entries.read]
    split
    · refine ⟨?_,.inr ?_⟩
      · intro other differ
        rw [asMap,asMap,field_withMerged,field_withMerged,field_alter_of_ne differ.symm,
          field_ensure_of_ne differ.symm]
      · obtain ⟨v,found⟩ := Option.isSome_iff_exists.mp
          (isSome_field_ensure pairs.1 "type" (.string ""))
        rw [asMap,field_withMerged,field_alter,found]
        rfl
    · exact .refl _

theorem follows_share :
    Follows Y (editKey "export" (editSequenceChildren "clients" normalizeNFSClientSelectorNode))
      ShareNormalized :=
  follows_editKey (by decide) (follows_editSequenceChildren (by decide) follows_client .refl)
    (AgreeBut.refl (ItemsRelated.refl ClientNormalized.refl))

theorem follows_nfs : Follows Y (editSequenceChildren "servers" (editSequenceChildren "shares"
    (editKey "export" (editSequenceChildren "clients" normalizeNFSClientSelectorNode)))) NfsNormalized :=
  follows_editSequenceChildren (by decide)
    (follows_editSequenceChildren (by decide) follows_share ShareNormalized.refl) ServerNormalized.refl

def withVersion (version : String) (content : List Node) : List Node :=
  editChild "schema_version" (fun _ => .scalar "!!int" version) content

def contentV2 (content : List Node) : List Node :=
  editChild "nfs" (editSequenceChildren "servers" (editSequenceChildren "shares"
      (editKey "export" (editSequenceChildren "clients" normalizeNFSClientSelectorNode))))
    (ensureKey "netgroups" (.sequence []) (withVersion "2" content))

def contentV3 (content : List Node) : List Node :=
  ensureKey "grants" (.sequence []) (withVersion "3" content)

/-- One transformation up to the `nfs` section: the version is set and an empty
    list is appended. -/
theorem pairs_versioned (key : String) (search : Searchable key)
    (resolved : Y.resolve "!!int" text = .ok (.int n)) (entries : Pairs Y content pairs) :
    Pairs Y (ensureKey key (.sequence []) (withVersion text content))
      (ensure (alter "schema_version" (fun _ => .int n) pairs.1) key (.list []), pairs.2) :=
  pairs_ensureKey search (decodes_sequence.mpr ⟨[],rfl,.nil⟩)
    (pairs_edit (by decide) (fun _ _ _ _ => decodes_scalar.mpr resolved) entries)

theorem root_versioned (versioned : (field pairs.1 "schema_version").isSome = true)
    (differ : key ≠ "schema_version") (missing : field (withMerged pairs) key = none) :
    let root := withMerged (ensure (alter "schema_version" (fun _ => .int n) pairs.1) key (.list []), pairs.2)
    field root "schema_version" = some (.int n) ∧ field root key = some (.list []) ∧
      (∀ other, other ≠ "schema_version" → other ≠ key →
        field root other = field (withMerged pairs) other) := by
  have free : field pairs.1 key = none := by
    rw [field_withMerged,Option.or_eq_none_iff] at missing
    exact missing.1
  refine ⟨?_,?_,?_⟩
  · obtain ⟨v,found⟩ := Option.isSome_iff_exists.mp versioned
    rw [field_withMerged,field_ensure_of_ne differ,field_alter,found]
    rfl
  · rw [field_withMerged,field_ensure_of_missing (by rw [field_alter_of_ne differ.symm,free])]
    rfl
  · intro other notVersion notKey
    rw [field_withMerged,field_withMerged,field_ensure_of_ne notKey.symm,
      field_alter_of_ne notVersion.symm]

theorem pairs_toV2 (two : Y.resolve "!!int" "2" = .ok (.int 2)) (entries : Pairs Y content pairs)
    (versioned : (field pairs.1 "schema_version").isSome = true)
    (missing : field (withMerged pairs) "netgroups" = none) :
    ∃ own, Pairs Y (contentV2 content) (own, pairs.2) ∧ (field own "schema_version").isSome = true ∧
      RootMigrated ["netgroups"] 2 (withMerged pairs) (withMerged (own, pairs.2)) := by
  obtain ⟨version,appended,kept⟩ := root_versioned (n := 2) versioned (by decide) missing
  obtain ⟨own,edited,keys,agree⟩ := pairs_editKey (show Searchable "nfs" by decide) follows_nfs
    NfsNormalized.refl (pairs_versioned "netgroups" (by decide) two entries)
  have elsewhere : ∀ key, key ≠ "nfs" → field (withMerged (own, pairs.2)) key =
      field (withMerged (ensure (alter "schema_version" (fun _ => .int 2) pairs.1) "netgroups" (.list []),
        pairs.2)) key := agree.elsewhere
  have owned : ∀ key, key ∈ own.map Prod.fst ↔ key ∈ pairs.1.map Prod.fst ∨ key = "netgroups" := by
    intro key
    rw [keys,mem_keys_ensure,alter_keys]
  refine ⟨own,edited,?_,?_,?_,?_,?_,?_⟩
  · rw [← mem_keys_iff,owned,mem_keys_iff]
    exact .inl versioned
  · rw [elsewhere _ (by decide),version]
  · intro key mem
    rw [mem_keys_withMerged,owned] at mem
    rw [mem_keys_withMerged,mem_singleton]
    tauto
  · intro key mem
    obtain rfl := mem_singleton.mp mem
    rw [elsewhere _ (by decide),appended]
  · intro key foreign
    simp only [mem_cons,not_mem_nil,or_false,not_or] at foreign
    rw [elsewhere key foreign.2.1,kept key foreign.1 foreign.2.2]
  · have before := agree.here
    rwa [asMap,asMap,kept "nfs" (by decide) (by decide)] at before

theorem pairs_toV3 (three : Y.resolve "!!int" "3" = .ok (.int 3)) (entries : Pairs Y content pairs)
    (versioned : (field pairs.1 "schema_version").isSome = true)
    (second : RootMigrated ["netgroups"] 2 root (withMerged pairs)) (missing : field root "grants" = none) :
    ∃ own, Pairs Y (contentV3 content) (own, pairs.2) ∧
      RootMigrated ["netgroups","grants"] 3 root (withMerged (own, pairs.2)) := by
  have free : field (withMerged pairs) "grants" = none := by
    rw [second.kept "grants" (by decide),missing]
  obtain ⟨version,appended,kept⟩ := root_versioned (n := 3) versioned (by decide) free
  refine ⟨_,pairs_versioned "grants" (by decide) three entries,version,?_,?_,?_,?_⟩
  · intro key mem
    rw [mem_keys_withMerged,mem_keys_ensure,alter_keys,or_right_comm,← mem_keys_withMerged] at mem
    rcases mem with old | rfl
    · rcases second.keys key old with before | new
      · exact .inl before
      · exact .inr (by simpa using .inl (mem_singleton.mp new))
    · exact .inr (by simp)
  · intro key mem
    rcases mem_cons.mp mem with rfl | grants
    · rw [kept "netgroups" (by decide) (by decide)]
      exact second.appended "netgroups" (by simp)
    · obtain rfl := mem_singleton.mp grants
      exact appended
  · intro key foreign
    simp only [mem_cons,not_mem_nil,or_false,not_or] at foreign
    rw [kept key foreign.1 foreign.2.2.2]
    apply second.kept
    simp [foreign]
  · rw [kept "nfs" (by decide) (by decide)]
    exact second.nfs

end

section
variable {F : Formats} {root migrated : Fields} {added : List String} {version : Int}

theorem checkShare_normalized (related : Corresponds ShareNormalized share share') :
    checkShare F groups label share' = checkShare F groups label share := by
  have kept : ∀ key, key ≠ "export" → field share' key = field share key := related.elsewhere
  have name : labelOf share' = labelOf share := by
    rw [labelOf,labelOf,stringField,stringField,kept "name" (by decide)]
  simp (disch := decide) only [checkShare,name,mapField,kept]

theorem checkNFS_normalized (nfs : NfsNormalized (field root "nfs") (field migrated "nfs")) :
    checkNFS F migrated groups = checkNFS F root groups := by
  rw [checkNFS,checkNFS,flatMap_def,flatMap_def]
  apply congrArg flatten
  apply map_eq_of_related (servers_normalized nfs)
  intro server _ server' related
  have host : stringField server' "host" = stringField server "host" :=
    congrArg asString (related.elsewhere "host" (by decide))
  rw [host,flatMap_def,flatMap_def]
  apply congrArg flatten
  apply map_eq_of_related (shares_normalized related)
  intro share _ share' related
  exact checkShare_normalized related

theorem checkHBAC_congr (users : field migrated "users" = field root "users")
    (hbac : field migrated "hbac" = field root "hbac") :
    checkHBAC F migrated groups hostgroups = checkHBAC F root groups hostgroups := by
  have rule : checkHBACRule F migrated groups hostgroups = checkHBACRule F root groups hostgroups := by
    funext item
    simp only [checkHBACRule,allowedUsers,listField,users]
  simp only [checkHBAC,mapField,hbac,rule]

theorem checkSudo_congr (users : field migrated "users" = field root "users")
    (rules : field migrated "sudo" = field root "sudo") :
    checkSudo F migrated groups = checkSudo F root groups := by
  have rule : ∀ commandGroups, checkSudoRule F migrated groups commandGroups =
      checkSudoRule F root groups commandGroups := by
    intro commandGroups
    funext item
    simp only [checkSudoRule,allowedUsers,listField,users]
  simp only [checkSudo,mapField,rules,rule]

structure AcceptedV1 (F : Formats) (root : Fields) : Prop where
  version : ∃ raw, field root "schema_version" = some raw ∧ toInt raw = some 1
  keys : checkTopLevelKeys root knownTopLevelKeysV1 = []
  migration : checkMigration root = []
  common : validateRosterCommon F root = []

theorem acceptedV1_of_valid (valid : validateRosterV1 F root = []) : AcceptedV1 F root := by
  simp only [validateRosterV1,append_eq_nil_iff] at valid
  obtain ⟨⟨⟨version,keys⟩,migration⟩,common⟩ := valid
  refine ⟨?_,keys,migration,common⟩
  unfold checkSchemaVersionExact at version
  split at version
  · cases version
  · rename_i raw found
    exact ⟨raw,found,by simpa using version⟩

theorem AcceptedV1.missing (accepted : AcceptedV1 F root) (key : String)
    (foreign : key ∉ knownTopLevelKeysV1) : field root key = none := by
  have keys := accepted.keys
  simp only [checkTopLevelKeys,append_eq_nil_iff] at keys
  exact field_none_of_unknown keys.1.1 foreign

namespace RootMigrated

section
variable (change : RootMigrated added version root migrated)
  (known : added ⊆ ["netgroups","grants"])
include change known

theorem kept_of (key : String) (foreign : key ∉ ["schema_version","nfs","netgroups","grants"]) :
    field migrated key = field root key := by
  apply change.kept
  intro mem
  apply foreign
  simp only [mem_cons] at mem ⊢
  rcases mem with here | here | new
  · exact .inl here
  · exact .inr (.inl here)
  · exact .inr (.inr (by simpa using known new))

theorem fingerprint_kept : ∀ key ∈ fingerprintKeys, field migrated key = field root key := by
  intro key mem
  exact change.kept_of known key (by revert key; decide)

theorem common : validateRosterCommon F migrated = validateRosterCommon F root := by
  have users := change.kept_of known "users" (by decide)
  have groups := change.kept_of known "groups" (by decide)
  have hosts := change.kept_of known "hosts" (by decide)
  have hostgroups := change.kept_of known "hostgroups" (by decide)
  have hbac := change.kept_of known "hbac" (by decide)
  have rules := change.kept_of known "sudo" (by decide)
  simp only [validateRosterCommon,listField,users,groups,hosts,hostgroups,
    checkHBAC_congr users hbac,checkSudo_congr users rules,checkNFS_normalized change.nfs]

theorem topLevel (wider : knownTopLevelKeysV1 ++ added ⊆ allowed)
    (before : checkTopLevelKeys root knownTopLevelKeysV1 = []) :
    checkTopLevelKeys migrated allowed = [] := by
  simp only [checkTopLevelKeys,append_eq_nil_iff] at before ⊢
  obtain ⟨⟨keys,freeipa⟩,admin⟩ := before
  rw [mapField,mapField,change.kept_of known "freeipa" (by decide)]
  refine ⟨⟨?_,freeipa⟩,admin⟩
  rw [reportUnknown_nil] at keys ⊢
  intro key mem
  apply wider
  rw [mem_append]
  exact (change.keys key mem).imp (keys key) id

theorem accepted (allowed : List String)
    (wider : knownTopLevelKeysV1 ++ added ⊆ allowed) (before : AcceptedV1 F root) :
    checkSchemaVersionExact F migrated version ++ checkTopLevelKeys migrated allowed ++
      checkMigration migrated ++ validateRosterCommon F migrated = [] := by
  have declared : checkSchemaVersionExact F migrated version = [] := by
    rw [checkSchemaVersionExact,change.version]
    simp [toInt]
  have migration : checkMigration migrated = [] := by
    rw [checkMigration,mapField,change.kept_of known "migration" (by decide)]
    exact before.migration
  rw [declared,change.topLevel known wider before.keys,migration,change.common known,before.common]
  rfl

end

theorem validV2 (change : RootMigrated ["netgroups"] 2 root migrated) (before : AcceptedV1 F root) :
    validateRosterV2 F migrated = [] := by
  have netgroups : listField migrated "netgroups" = [] := by
    rw [listField,change.appended "netgroups" (by simp)]
    rfl
  rw [validateRosterV2,change.accepted (by simp) knownTopLevelKeysV2 (Subset.refl _) before,
    checkNetgroups_of_empty netgroups]
  rfl

theorem validV3 (change : RootMigrated ["netgroups","grants"] 3 root migrated)
    (before : AcceptedV1 F root) : validateRosterV3 F migrated = [] := by
  have empty : ∀ key ∈ ["netgroups","grants"], listField migrated key = [] := by
    intro key mem
    rw [listField,change.appended key mem]
    rfl
  have none := governance_of_missing (F := F) (empty "grants" (by simp)) (by
    intro key mem
    rw [change.kept key (by revert key; decide)]
    exact before.missing key (by revert key; decide))
  have wider : knownTopLevelKeysV1 ++ ["netgroups","grants"] ⊆ knownTopLevelKeysV3 := by
    decide +kernel
  rw [validateRosterV3,change.accepted (Subset.refl _) knownTopLevelKeysV3 wider before,
    checkNetgroups_of_empty (empty "netgroups" (by simp)),none.grants,none.auth,none.securityKeys,
    none.grantPolicies,none.conflicts,none.account,none.password,none.privileged,none.credential]
  rfl

end RootMigrated

end

def DeclaresVersion (top : Node) (version : Int) : Prop :=
  ∃ node, findMappingChild top "schema_version" = some node ∧
    atoi (trimSpace node.value) = some version

/-- A document whose two candidates are read back as they were rendered. -/
structure MigrationInput (Y : Library) (text : String) (top : Node) (root : Fields) : Prop
    extends RosterDocument Y text top root where
  two : Y.resolve "!!int" "2" = .ok (.int 2)
  three : Y.resolve "!!int" "3" = .ok (.int 3)
  rereadsV2 : Y.parse (Y.render (toV2 top)) = .ok (some (toV2 top))
  rereadsV3 : Y.parse (Y.render (toV3 (toV2 top))) = .ok (some (toV3 (toV2 top)))

section
variable {Y : Library} {F : Formats} {T : MigrationTools} {top n : Node} {root m : Fields}
  {shown file original text password : String} {encrypted : Bool}

theorem requireVersion_ok_iff :
    requireVersion F transformation want top = .ok () ↔ DeclaresVersion top want := by
  unfold requireVersion DeclaresVersion
  cases findMappingChild top "schema_version" with
  | none => simp
  | some node =>
    simp only [Option.some.injEq,exists_eq_left']
    cases atoi (trimSpace node.value) with
    | none => simp
    | some found => simp

theorem migrateRosterV1ToV2_ok_iff :
    migrateRosterV1ToV2 F (some (.mapping content)) = .ok n ↔
      DeclaresVersion (.mapping content) 1 ∧ n = .mapping (contentV2 content) := by
  show (requireVersion F _ 1 (.mapping content) >>= fun _ => pure (toV2 (.mapping content))) = .ok n ↔ _
  constructor
  · intro ok
    obtain ⟨_,declared,result⟩ := Fold.bind_ok ok
    exact ⟨requireVersion_ok_iff.mp declared,(Except.ok.inj result).symm⟩
  · rintro ⟨declares,rfl⟩
    rw [requireVersion_ok_iff.mpr declares]
    rfl

theorem migrateRosterV2ToV3_of_declared (declares : DeclaresVersion (.mapping content) 2)
    (free : findChild "grants" content = none) :
    migrateRosterV2ToV3 F (some (.mapping content)) = .ok (.mapping (contentV3 content)) := by
  have free : findMappingChild (.mapping content) "grants" = none := free
  simp only [migrateRosterV2ToV3,rosterDocumentTop,wrapError,bind,Except.bind,
    requireVersion_ok_iff.mpr declares,free]
  rfl

theorem declares_toV2 (two : Y.resolve "!!int" "2" = .ok (.int 2)) (entries : Pairs Y content pairs)
    (declares : DeclaresVersion (.mapping content) 1) : DeclaresVersion (.mapping (contentV2 content)) 2 := by
  obtain ⟨node,found,-⟩ := declares
  have versioned : Pairs Y (withVersion "2" content)
      (alter "schema_version" (fun _ => .int 2) pairs.1, pairs.2) :=
    pairs_edit (by decide) (fun _ _ _ _ => decodes_scalar.mpr two) entries
  refine ⟨.scalar "!!int" "2",?_,by decide⟩
  change findChild "schema_version" (contentV2 content) = _
  rw [contentV2,findChild_edit_of_ne (by decide),findChild_ensureKey (by decide) versioned.read,
    withVersion,findChild_edit]
  exact congrArg (Option.map _) found

variable {candidate : MigrationCandidate}

theorem runStep_of_valid (transformed : step.transform candidate.node = .ok n)
    (rereads : Y.parse (Y.render n) = .ok (some n)) (decoded : decodeMap Y n = .ok m)
    (valid : step.validate m = []) : runStep Y candidate step = .ok ⟨some n,Y.render n,m⟩ := by
  simp only [runStep,transformed,unmarshalRoster,rereads,decoded,wrapError,bind,Except.bind,valid]
  rfl

theorem MigrationInput.mapping (input : MigrationInput Y text top root) (accepted : AcceptedV1 F root) :
    ∃ content pairs, top = .mapping content ∧ Pairs Y content pairs ∧ root = withMerged pairs := by
  refine mapping_of_decodeMap input.decoded ?_
  rintro rfl
  obtain ⟨raw,found,-⟩ := accepted.version
  cases found

theorem versioned_of_declares (entries : Pairs Y content pairs)
    (declares : DeclaresVersion (.mapping content) version) :
    (field pairs.1 "schema_version").isSome = true := by
  obtain ⟨node,found,-⟩ := declares
  have found : findChild "schema_version" content = some node := found
  rw [Option.isSome_iff_ne_none,ne_eq,← missing_of_pairs (by decide) entries,found]
  simp

theorem chain_of_declared (input : MigrationInput Y text top root) (accepted : AcceptedV1 F root)
    (declares : DeclaresVersion top 1) :
    ∃ m, RootMigrated ["netgroups","grants"] 3 root m ∧
      decodeMap Y (toV3 (toV2 top)) = .ok m ∧
      runRosterMigrationChain Y (some top) (rosterMigrationSteps F) =
        .ok ⟨some (toV3 (toV2 top)),Y.render (toV3 (toV2 top)),m⟩ := by
  obtain ⟨content,pairs,rfl,entries,rfl⟩ := input.mapping accepted
  have missing := accepted.missing "grants" (by decide)
  obtain ⟨own2,entries2,versioned2,change2⟩ := pairs_toV2 input.two entries
    (versioned_of_declares entries declares) (accepted.missing "netgroups" (by decide))
  obtain ⟨own3,entries3,change3⟩ := pairs_toV3 input.three entries2 versioned2 change2 missing
  have decoded2 : decodeMap Y (toV2 (.mapping content)) = .ok (withMerged (own2, pairs.2)) :=
    decodeMap_mapping.mpr ⟨_,entries2,rfl⟩
  have decoded3 : decodeMap Y (toV3 (toV2 (.mapping content))) = .ok (withMerged (own3, pairs.2)) :=
    decodeMap_mapping.mpr ⟨_,entries3,rfl⟩
  have free : findChild "grants" (contentV2 content) = none := by
    have absent : field (withMerged (own2, pairs.2)) "grants" = none := by
      rw [change2.kept "grants" (by decide),missing]
    rw [field_withMerged,Option.or_eq_none_iff] at absent
    exact (missing_of_pairs (by decide) entries2).mpr absent.1
  have first : runStep Y ⟨some (.mapping content),"",[]⟩ ⟨1,2,migrateRosterV1ToV2 F,validateRosterV2 F⟩ =
      .ok ⟨some (toV2 (.mapping content)),Y.render (toV2 (.mapping content)),_⟩ :=
    runStep_of_valid (migrateRosterV1ToV2_ok_iff.mpr ⟨declares,rfl⟩) input.rereadsV2 decoded2
      (change2.validV2 accepted)
  have last : runStep Y
      ⟨some (toV2 (.mapping content)),Y.render (toV2 (.mapping content)),withMerged (own2, pairs.2)⟩
      ⟨2,3,migrateRosterV2ToV3 F,validateRosterV3 F⟩ =
      .ok ⟨some (toV3 (toV2 (.mapping content))),Y.render (toV3 (toV2 (.mapping content))),_⟩ :=
    runStep_of_valid (migrateRosterV2ToV3_of_declared (declares_toV2 input.two entries declares) free)
      input.rereadsV3 decoded3 (change3.validV3 accepted)
  refine ⟨_,change3,decoded3,?_⟩
  simp only [runRosterMigrationChain,rosterMigrationSteps,foldlM_cons,foldlM_nil,first,
    last,bind,Except.bind]
  rfl

theorem declared_of_chain
    (ok : runRosterMigrationChain Y (some (.mapping content)) (rosterMigrationSteps F) = .ok candidate) :
    DeclaresVersion (.mapping content) 1 := by
  rw [runRosterMigrationChain,rosterMigrationSteps,foldlM_cons] at ok
  obtain ⟨_,first,-⟩ := Fold.bind_ok ok
  obtain ⟨n,transformed,-⟩ := Fold.bind_ok first
  exact (migrateRosterV1ToV2_ok_iff.mp transformed).1

theorem detect_of_accepted (document : RosterDocument Y text top root) (accepted : AcceptedV1 F root) :
    detectRosterSchemaVersion Y F text = .ok 1 := by
  obtain ⟨raw,found,one⟩ := accepted.version
  rw [detectRosterSchemaVersion,document.unencrypted,document.unmarshal]
  simp [wrapError,bind,Except.bind,found,one]

theorem plan_ok_iff (document : RosterDocument Y text top root)
    (opened : openRoster T shown file original password = .ok (text, encrypted))
    (valid : validateRosterV1 F root = []) :
    planRosterMigration Y F T shown file original password 3 = .ok plan ↔
      ∃ migrated, runRosterMigrationChain Y (some top) (rosterMigrationSteps F) = .ok migrated ∧
        rosterSemanticFingerprintsEqual (computeRosterSemanticFingerprint root)
          (computeRosterSemanticFingerprint migrated.root) = true ∧
        plan = {
          result := ⟨1,3,true,T.sha256Hex original,if encrypted then "" else T.sha256Hex migrated.text,
            rosterMigrationStepNames (rosterMigrationSteps F)⟩
          detected := 1
          candidate := migrated.text
          encrypted := encrypted } := by
  have detected := detect_of_accepted document (acceptedV1_of_valid valid)
  have path : rosterMigrationPath F 1 3 = .ok (rosterMigrationSteps F) := rfl
  have validator : rosterSourceValidators F 1 = some (validateRosterV1 F) := rfl
  simp only [planRosterMigration,opened,detected,wrapError,bind,Except.bind,validator,
    document.unmarshal,valid,path,document.parsed]
  cases runRosterMigrationChain Y (some top) (rosterMigrationSteps F) with
  | error err => simp
  | ok migrated =>
    simp only [Except.ok.injEq,exists_eq_left']
    rw [if_neg (by decide),if_neg (by simp)]
    split
    · simp [pure,Except.pure, *,eq_comm]
    · simp [*]

end

/-- A roster of version 1 that the migration can carry over: the version is a
    decimal of the mapping itself, no client has a type that is rendered, and
    the values of the fingerprint equal themselves, which a NaN does not. -/
structure Migratable (top : Node) (root : Fields) : Prop where
  version : DeclaresVersion top 1
  clients : ∀ client ∈ exportClients root, stringField client "type" ∉ ["hostgroup","netgroup"]
  values : ∀ v ∈ (computeRosterSemanticFingerprint root).values, deepEqual v v = true

/-- The plan succeeds, and its candidate is the document of both steps: a
    valid roster of version 3 with the fingerprint of the original, which
    exports to every client the text that version 1 exported. -/
def MigratesToCurrent (Y : Library) (F : Formats) (T : MigrationTools)
    (shown file original password : String) (top : Node) (root : Fields) : Prop :=
  ∃ plan migrated,
    planRosterMigration Y F T shown file original password currentRosterSchemaVersion = .ok plan ∧
    plan.candidate = Y.render (toV3 (toV2 top)) ∧
    unmarshalRoster Y plan.candidate = .ok migrated ∧
    validateRosterV3 F migrated = [] ∧
    rosterSemanticFingerprintsEqual (computeRosterSemanticFingerprint root)
      (computeRosterSemanticFingerprint migrated) = true ∧
    renderedExports migrated = bareExports root

section
variable {Y : Library} {F : Formats} {T : MigrationTools} {top : Node} {root : Fields}
  {shown file original text password : String} {encrypted : Bool}

section
variable (input : MigrationInput Y text top root)
  (opened : openRoster T shown file original password = .ok (text, encrypted))
  (valid : validateRosterV1 F root = [])
include input opened valid

theorem migratable_of_migrates (migrates : MigratesToCurrent Y F T shown file original password top root) :
    Migratable top root := by
  obtain ⟨plan,migrated,planned,candidate,read,-,same,bare⟩ := migrates
  obtain ⟨_,chain,-⟩ := (plan_ok_iff input.toRosterDocument opened valid).mp planned
  have declares : DeclaresVersion top 1 := by
    obtain ⟨content,_,rfl,-⟩ := input.mapping (acceptedV1_of_valid valid)
    exact declared_of_chain chain
  obtain ⟨m,change,decoded,-⟩ := chain_of_declared input (acceptedV1_of_valid valid) declares
  obtain rfl : m = migrated := by
    rw [candidate,unmarshalRoster,input.rereadsV3] at read
    exact Except.ok.inj (decoded.symm.trans read)
  obtain ⟨self,rendered⟩ :=
    (fingerprint_same_iff (change.fingerprint_kept (Subset.refl _)) change.nfs).mp same
  refine ⟨declares,?_,self⟩
  rw [← renderedExports_eq_bare_iff,rendered,bare]

theorem migrates_of_migratable (can : Migratable top root) :
    MigratesToCurrent Y F T shown file original password top root := by
  have accepted := acceptedV1_of_valid valid
  obtain ⟨m,change,decoded,chain⟩ := chain_of_declared input accepted can.version
  have bare := renderedExports_of_normalized change.nfs can.clients
  have same : rosterSemanticFingerprintsEqual (computeRosterSemanticFingerprint root)
      (computeRosterSemanticFingerprint m) = true := by
    apply (fingerprint_same_iff (change.fingerprint_kept (Subset.refl _)) change.nfs).mpr
    refine ⟨can.values,?_⟩
    rw [bare,renderedExports_eq_bare_iff]
    exact can.clients
  have planned := (plan_ok_iff input.toRosterDocument opened valid).mpr ⟨_,chain,same,rfl⟩
  refine ⟨_,m,planned,rfl,?_,change.validV3 accepted,same,bare⟩
  rw [unmarshalRoster,input.rereadsV3]
  exact decoded

end

end

def exportDocument (client : Node) : Node :=
  mapNode [("schema_version", .scalar "!!int" "1"),("nfs", mapNode [("servers", .sequence
    [mapNode [("host", strNode "n"),("shares", .sequence
      [mapNode [("export", mapNode [("clients", .sequence [client])])]])]])])]

def exportRoster (client : Fields) : Fields :=
  [("schema_version", .int 1),("nfs", .map [("servers", .list
    [.map [("host", .string "n"),("shares", .list
      [.map [("export", .map [("clients", .list [.map client])])]])]])])]

def migrationLibrary (text second third : String) (top : Node) : Library :=
  fileLibrary [(text, top),(second, toV2 top),(third, toV3 (toV2 top))]

def untypedText : String :=
  "\x7bschema_version: 1, nfs: \x7bservers: [\x7bhost: n, shares: [\x7bexport: \x7bclients: [\x7bvalue: " ++
    "c\x7d]\x7d\x7d]\x7d]\x7d\x7d\n"

def untypedTextV2 : String :=
  "\x7bschema_version: 2, nfs: \x7bservers: [\x7bhost: n, shares: [\x7bexport: \x7bclients: [\x7bvalue: c, " ++
    "type: raw\x7d]\x7d\x7d]\x7d]\x7d, netgroups: []\x7d\n"

def untypedTextV3 : String :=
  "\x7bschema_version: 3, nfs: \x7bservers: [\x7bhost: n, shares: [\x7bexport: \x7bclients: [\x7bvalue: c, " ++
    "type: raw\x7d]\x7d\x7d]\x7d]\x7d, netgroups: [], grants: []\x7d\n"

def untypedExport : Node := exportDocument (mapNode [("value", strNode "c")])

def untypedLibrary : Library := migrationLibrary untypedText untypedTextV2 untypedTextV3 untypedExport

def plainTools : MigrationTools where
  sha256Hex _ := ""
  ansibleVaultView _ _ := .error "Decryption failed"

theorem untyped_migration :
    MigrationInput untypedLibrary untypedText untypedExport (exportRoster [("value", .string "c")]) where
  unencrypted := by decide +kernel
  parsed := parse_of_lookup rfl (by simp)
  decoded := by rfl
  two := by rfl
  three := by rfl
  rereadsV2 := by
    have rendered : untypedLibrary.render (toV2 untypedExport) = untypedTextV2 := by decide +kernel
    have changed : (untypedTextV2 == untypedText) = false := by decide +kernel
    rw [rendered]
    exact parse_of_lookup rfl (by simp [lookup_cons,changed])
  rereadsV3 := by
    have rendered : untypedLibrary.render (toV3 (toV2 untypedExport)) = untypedTextV3 := by
      decide +kernel
    have changed : (untypedTextV3 == untypedText) = false ∧ (untypedTextV3 == untypedTextV2) = false := by
      decide +kernel
    rw [rendered]
    exact parse_of_lookup rfl (by simp [lookup_cons,changed])

end Pilot.Roster
