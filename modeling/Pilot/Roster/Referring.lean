import Pilot.Roster.References

/-!
The fields of a roster that name a user or a group, and which of them a valid
roster ties to its lists of users and groups. The users and groups a sudo
rule or a grant runs commands as are tied to nothing, and neither is the one
who requested a grant.
-/
namespace Pilot.Roster
open List

def namesUnder (entries : List Fields) (block key : String) : List String :=
  entries.flatMap (fun e => stringListField (mapField e block) key)

def textsUnder (entries : List Fields) (key : String) : List String :=
  entries.map (fun e => stringField e key)

def textsIn (entries : List Fields) (block key : String) : List String :=
  entries.map (fun e => stringField (mapField e block) key)

def reviewersOf (entries : List Fields) : List String := textsIn entries "review" "reviewed_by"

def requestersOf (entries : List Fields) : List String := textsIn entries "justification" "requested_by"

def entriesOf (root : Fields) (key : String) : List Fields := maps (listField root key)

def entriesIn (root : Fields) (part key : String) : List Fields :=
  maps (listField (mapField root part) key)

def userFields (root : Fields) : List String :=
  namesUnder (entriesOf root "groups") "membership" "users"
  ++ namesUnder (entriesOf root "netgroups") "membership" "users"
  ++ textsUnder (entriesOf root "account_policies") "user"
  ++ textsUnder (entriesOf root "account_policies") "sponsor"
  ++ namesUnder (entriesOf root "credential_policies") "match" "users"
  ++ reviewersOf (entriesOf root "credential_policies")

def subjectFields (root : Fields) : List String :=
  namesUnder (entriesIn root "hbac" "rules") "subjects" "users"
  ++ namesUnder (entriesIn root "sudo" "rules") "subjects" "users"
  ++ namesUnder (entriesOf root "grants") "subjects" "users"
  ++ reviewersOf (entriesOf root "grants")

def groupFields (root : Fields) : List String :=
  namesUnder (entriesOf root "groups") "membership" "groups"
  ++ namesUnder (entriesIn root "hbac" "rules") "subjects" "groups"
  ++ namesUnder (entriesIn root "sudo" "rules") "subjects" "groups"
  ++ namesUnder (entriesOf root "netgroups") "membership" "groups"
  ++ namesUnder (entriesOf root "grants") "subjects" "groups"
  ++ (entriesIn root "security" "conflicts").flatMap (fun e => stringListField e "mutually_exclusive")
  ++ stringListField (mapField (mapField root "security") "privileged_identity") "match_groups"
  ++ textsUnder (entriesOf root "password_policies") "group"
  ++ namesUnder (entriesOf root "credential_policies") "match" "groups"
  ++ (nfsShares root).flatMap (fun s =>
      stringField (mapField s.share "ownership") "group" :: aclParts.flatMap s.namedGroups)

def runAsFields (root : Fields) (key : String) : List String :=
  namesUnder (entriesIn root "sudo" "rules") "run_as" key
  ++ namesUnder (entriesOf root "grants") "run_as" key

def EntryKind.referringFields : EntryKind → Fields → List String
  | user, root => userFields root ++ subjectFields root ++ runAsFields root "users" ++
    requestersOf (entriesOf root "grants")
  | group, root => groupFields root ++ runAsFields root "groups"

/-- The checks a valid roster of any version passes. -/
structure Validated (F : Formats) (root : Fields) : Prop where
  common : validateRosterCommon F root = []
  netgroups : checkNetgroups F root = []
  grants : checkGrants F root = []
  conflicts : checkSoDConflicts F root = []
  account : checkAccountPolicies F root = []
  password : checkPasswordPolicies F root = []
  privileged : checkPrivilegedIdentity F root = []
  credential : checkCredentialPolicies F root = []

section
variable {F : Formats} {root item : Fields}

theorem validated_of_valid (valid : validateRoster F root = []) : Validated F root := by
  have common := common_of_valid valid
  have older (missing : ∀ key ∉ knownTopLevelKeysV2, field root key = none)
      (netgroups : checkNetgroups F root = []) : Validated F root := by
    have none := governance_of_missing (F := F)
      (listField_of_missing (missing "grants" (by decide)))
      (fun key mem => missing key (by revert key; decide))
    exact ⟨common,netgroups,none.grants,none.conflicts,none.account,none.password,none.privileged,none.credential⟩
  unfold validateRoster at valid
  split at valid
  · cases valid
  split at valid
  · cases valid
  · simp only [validateRosterV1,checkTopLevelKeys,append_eq_nil_iff] at valid
    have missing : ∀ key ∉ knownTopLevelKeysV1, field root key = none :=
      fun key => field_none_of_unknown valid.1.1.2.1.1
    exact older (fun key foreign => missing key fun known => foreign (mem_append_left _ known))
      (checkNetgroups_of_empty (listField_of_missing (missing "netgroups" (by decide))))
  · simp only [validateRosterV2,checkTopLevelKeys,append_eq_nil_iff] at valid
    exact older (fun key => field_none_of_unknown valid.1.1.1.2.1.1) valid.2
  · simp only [validateRosterV3,append_eq_nil_iff] at valid
    obtain ⟨⟨⟨⟨⟨⟨⟨⟨⟨⟨-,netgroups⟩,grants⟩,-⟩,-⟩,-⟩,conflicts⟩,account⟩,password⟩,privileged⟩,
      credential⟩ := valid
    exact ⟨common,netgroups,grants,conflicts,account,password,privileged,credential⟩
  · split at valid <;> cases valid

theorem mem_namesOf_of_category (mem : name ∈ namesWithCategoryFunc items keep) : name ∈ namesOf items := by
  obtain ⟨m,inside,rfl⟩ := mem_map.mp mem
  exact mem_map.mpr ⟨m,(mem_filter.mp inside).1,rfl⟩

theorem mem_namesUnder :
    name ∈ namesUnder entries block key ↔ ∃ e ∈ entries, name ∈ stringListField (mapField e block) key := by
  simp [namesUnder]

theorem namesUnder_subset (each : ∀ e ∈ entries, ∀ n ∈ stringListField (mapField e block) key, n ∈ known) :
    namesUnder entries block key ⊆ known := by
  intro n mem
  obtain ⟨e,memE,listed⟩ := mem_namesUnder.mp mem
  exact each e memE n listed

theorem allowed_cases (mem : name ∈ allowedUsers root) :
    name ∈ namesOf (listField root "users") ∨ name = "admin" := by
  simpa [allowedUsers] using mem

theorem reviewer_known (ok : checkReview F item noun label sample known = []) :
    stringField (mapField item "review") "reviewed_by" ∈ "" :: known := by
  unfold checkReview at ok
  split at ok
  · rename_i missing
    rw [mapField_of_missing missing]
    exact mem_cons_self
  · rename_i raw found
    simp only [append_eq_nil_iff,reportForeign_nil] at ok
    rw [mapField,found]
    exact ok.2 _ (by simp)

theorem kind_of_checkGrant (ok : checkGrant F root item = []) :
    stringField item "kind" = "temporary_grant" ∨ stringField item "kind" = "sudo_grant" ∨
      stringField item "kind" = "breakglass" := by
  simp only [checkGrant,append_eq_nil_iff,report_nil] at ok
  have known := ok.1.1.1.1.1.1
  unfold knownGrantKeysByKind at known
  split at known
  · exact .inl (by assumption)
  · exact .inr (.inl (by assumption))
  · exact .inr (.inr (by assumption))
  · cases known

theorem grantReviewer_known (ok : checkGrant F root item = []) :
    stringField (mapField item "review") "reviewed_by" ∈ "" :: allowedUsers root := by
  have kinds := kind_of_checkGrant ok
  simp only [checkGrant,append_eq_nil_iff] at ok
  obtain ⟨⟨⟨⟨⟨⟨-,keys⟩,-⟩,-⟩,-⟩,-⟩,kindOk⟩ := ok
  rcases kinds with kind | kind | kind
  · simp only [checkGrantKind,kind,checkGrantReview,append_eq_nil_iff] at kindOk
    exact reviewer_known kindOk.2
  · simp only [checkGrantKind,kind,checkGrantReview,append_eq_nil_iff] at kindOk
    exact reviewer_known kindOk.2
  -- A break-glass grant has no review.
  rw [kind] at keys
  have missing : field item "review" = none := field_none_of_unknown keys (by decide)
  rw [mapField_of_missing missing]
  exact mem_cons_self

theorem grantGroups_known (ok : checkGrant F root item = [])
    (mem : name ∈ stringListField (mapField item "subjects") "groups") :
    name ∈ namesOf (listField root "groups") := by
  have kinds := kind_of_checkGrant ok
  simp only [checkGrant,append_eq_nil_iff] at ok
  have kindOk := ok.2
  rcases kinds with kind | kind | kind
  · simp only [checkGrantKind,kind,append_eq_nil_iff,reportForeign_nil] at kindOk
    exact mem_namesOf_of_category (kindOk.1.1.1 name mem)
  · simp only [checkGrantKind,kind,append_eq_nil_iff,reportForeign_nil] at kindOk
    exact mem_namesOf_of_category (kindOk.1.1.1 name mem)
  simp only [checkGrantKind,kind,append_eq_nil_iff,report_nil] at kindOk
  have none' : stringListField (mapField item "subjects") "groups" = [] := by
    simpa using kindOk.1.1
  rw [none'] at mem
  cases mem

namespace Validated
variable (ok : Validated F root)
include ok

theorem memberships :
    namesUnder (entriesOf root "groups") "membership" "users" ⊆ namesOf (listField root "users") ∧
    namesUnder (entriesOf root "groups") "membership" "groups" ⊆
      namesOf (listField root "groups") := by
  have checked := ok.common
  simp only [validateRosterCommon,checkUniqueAndReferences,append_eq_nil_iff,
    flatMap_eq_nil_iff,reportForeign_nil] at checked
  have each := checked.1.1.1.2.2
  constructor
  · exact namesUnder_subset fun e mem => (each e mem).1
  · exact namesUnder_subset fun e mem => (each e mem).2

theorem hbacSubjects :
    namesUnder (entriesIn root "hbac" "rules") "subjects" "users" ⊆ allowedUsers root ∧
    namesUnder (entriesIn root "hbac" "rules") "subjects" "groups" ⊆
      namesOf (listField root "groups") := by
  have checked := ok.common
  simp only [validateRosterCommon,checkHBAC,checkHBACRule,ruleScope,append_eq_nil_iff,
    flatMap_eq_nil_iff,reportForeign_nil] at checked
  have each := checked.1.1.2.2
  constructor
  · exact namesUnder_subset fun e mem => (each e mem).1.2
  · exact namesUnder_subset fun e mem g listed =>
      mem_namesOf_of_category ((each e mem).1.1.2 g listed)

theorem sudoSubjects :
    namesUnder (entriesIn root "sudo" "rules") "subjects" "users" ⊆ allowedUsers root ∧
    namesUnder (entriesIn root "sudo" "rules") "subjects" "groups" ⊆
      namesOf (listField root "groups") := by
  have checked := ok.common
  simp only [validateRosterCommon,checkSudo,checkSudoRule,ruleScope,append_eq_nil_iff,
    flatMap_eq_nil_iff,reportForeign_nil] at checked
  have each := checked.1.2.1.2
  constructor
  · exact namesUnder_subset fun e mem => (each e mem).1.1.1.1.2
  · exact namesUnder_subset fun e mem g listed =>
      mem_namesOf_of_category ((each e mem).1.1.1.1.1.2 g listed)

theorem netgroupMembers :
    namesUnder (entriesOf root "netgroups") "membership" "users" ⊆ namesOf (listField root "users") ∧
    namesUnder (entriesOf root "netgroups") "membership" "groups" ⊆
      namesOf (listField root "groups") := by
  have checked := ok.netgroups
  simp only [checkNetgroups,checkNetgroup,append_eq_nil_iff,flatMap_eq_nil_iff,reportForeign_nil] at checked
  have each := checked.1.2
  constructor
  · exact namesUnder_subset fun e mem => (each e mem).1.1.1.1.1.2
  · exact namesUnder_subset fun e mem => (each e mem).1.1.1.1.2

theorem checkGrant_of_mem (mem : item ∈ entriesOf root "grants") : checkGrant F root item = [] := by
  have checked := ok.grants
  simp only [checkGrants,append_eq_nil_iff,flatMap_eq_nil_iff] at checked
  exact checked.2 item mem

theorem grantSubjects : namesUnder (entriesOf root "grants") "subjects" "users" ⊆ allowedUsers root := by
  refine namesUnder_subset fun e mem => ?_
  have checked := ok.checkGrant_of_mem mem
  simp only [checkGrant,append_eq_nil_iff,reportForeign_nil] at checked
  exact checked.1.1.2

theorem accountUsers :
    textsUnder (entriesOf root "account_policies") "user" ⊆ namesOf (listField root "users") ∧
    textsUnder (entriesOf root "account_policies") "sponsor" ⊆
      "" :: namesOf (listField root "users") := by
  have checked := ok.account
  simp only [checkAccountPolicies,checkAccountPolicy,append_eq_nil_iff,
    flatMap_eq_nil_iff,reportForeign_nil] at checked
  constructor
  · intro u mem
    obtain ⟨e,memE,rfl⟩ := mem_map.mp mem
    have user := (checked.2 e memE).1.1.1.2
    split at user
    · cases user
    · simpa using user
  · intro u mem
    obtain ⟨e,memE,rfl⟩ := mem_map.mp mem
    exact (checked.2 e memE).2 _ (by simp)

theorem passwordGroups :
    textsUnder (entriesOf root "password_policies") "group" ⊆ namesOf (listField root "groups") := by
  have checked := ok.password
  simp only [checkPasswordPolicies,checkPasswordPolicy,append_eq_nil_iff,flatMap_eq_nil_iff] at checked
  intro g mem
  obtain ⟨e,memE,rfl⟩ := mem_map.mp mem
  have group := (checked.1.2 e memE).1.1.1.1.1.1.1.1.1.2
  split at group
  · cases group
  split at group
  · cases group
  · rename_i known
    simpa using known

theorem credentialNames :
    namesUnder (entriesOf root "credential_policies") "match" "users" ⊆
      namesOf (listField root "users") ∧
    reviewersOf (entriesOf root "credential_policies") ⊆ "" :: namesOf (listField root "users") ∧
    namesUnder (entriesOf root "credential_policies") "match" "groups" ⊆
      namesOf (listField root "groups") := by
  have checked := ok.credential
  simp only [checkCredentialPolicies,checkCredentialPolicy,checkCredentialPolicyReview,
    append_eq_nil_iff,flatMap_eq_nil_iff,reportForeign_nil] at checked
  have each := checked.2
  refine ⟨?_,?_,?_⟩
  · exact namesUnder_subset fun e mem => (each e mem).1.1.1.1.1.1.2
  · intro u mem
    obtain ⟨e,memE,rfl⟩ := mem_map.mp mem
    exact reviewer_known (each e memE).2
  · exact namesUnder_subset fun e mem => (each e mem).1.1.1.1.1.2

theorem securityGroups :
    (entriesIn root "security" "conflicts").flatMap
      (fun e => stringListField e "mutually_exclusive") ⊆ namesOf (listField root "groups") ∧
    stringListField (mapField (mapField root "security") "privileged_identity") "match_groups" ⊆
      namesOf (listField root "groups") := by
  constructor
  · have checked := ok.conflicts
    simp only [checkSoDConflicts,checkSoDConflict,append_eq_nil_iff,
      flatMap_eq_nil_iff,reportForeign_nil] at checked
    intro g mem
    obtain ⟨e,memE,listed⟩ := mem_flatMap.mp mem
    exact mem_namesOf_of_category ((checked.2 e memE).2 g listed)
  have checked := ok.privileged
  intro g mem
  unfold checkPrivilegedIdentity at checked
  dsimp only at checked
  split at checked
  · rename_i missing
    rw [mapField_of_missing missing] at mem
    cases mem
  · rename_i raw found
    simp only [append_eq_nil_iff,reportForeign_nil] at checked
    rw [mapField,found] at mem
    exact checked.1.1.1.1.2 g mem

theorem nfsGroups : (nfsShares root).flatMap (fun s =>
      stringField (mapField s.share "ownership") "group" :: aclParts.flatMap s.namedGroups) ⊆
    "" :: namesOf (listField root "groups") := by
  have checked := ok.common
  simp only [validateRosterCommon,checkNFS,checkShare,append_eq_nil_iff,
    flatMap_eq_nil_iff,reportForeign_nil] at checked
  have weaken : ∀ g, g ∈ "" :: namesWithCategory (listField root "groups") "filesystem" →
      g ∈ "" :: namesOf (listField root "groups") := by
    exact cons_subset_cons _ fun g later => mem_namesOf_of_category later
  intro g mem
  obtain ⟨s,memS,named⟩ := mem_flatMap.mp mem
  obtain ⟨server,memServer,inServer⟩ := mem_flatMap.mp memS
  obtain ⟨share,memShare,rfl⟩ := mem_map.mp inServer
  have both := checked.2 server memServer share memShare
  rcases mem_cons.mp named with rfl | listed
  · exact weaken _ (both.1 _ (by simp))
  · obtain ⟨part,memPart,inPart⟩ := mem_flatMap.mp listed
    exact weaken _ (both.2 part memPart g inPart)

theorem userFields_known : userFields root ⊆ "" :: namesOf (listField root "users") := by
  intro u mem
  simp only [userFields,mem_append] at mem
  rcases mem with ((((mem | mem) | mem) | mem) | mem) | mem
  · exact mem_cons_of_mem _ (ok.memberships.1 mem)
  · exact mem_cons_of_mem _ (ok.netgroupMembers.1 mem)
  · exact mem_cons_of_mem _ (ok.accountUsers.1 mem)
  · exact ok.accountUsers.2 mem
  · exact mem_cons_of_mem _ (ok.credentialNames.1 mem)
  · exact ok.credentialNames.2.1 mem

theorem subjectFields_known : subjectFields root ⊆ "" :: allowedUsers root := by
  intro u mem
  simp only [subjectFields,mem_append] at mem
  rcases mem with ((mem | mem) | mem) | mem
  · exact mem_cons_of_mem _ (ok.hbacSubjects.1 mem)
  · exact mem_cons_of_mem _ (ok.sudoSubjects.1 mem)
  · exact mem_cons_of_mem _ (ok.grantSubjects mem)
  · obtain ⟨e,memE,rfl⟩ := mem_map.mp mem
    exact grantReviewer_known (ok.checkGrant_of_mem memE)

theorem groupFields_known : groupFields root ⊆ "" :: namesOf (listField root "groups") := by
  intro g mem
  simp only [groupFields,mem_append] at mem
  rcases mem with ((((((((mem | mem) | mem) | mem) | mem) | mem) | mem) | mem) | mem) | mem
  · exact mem_cons_of_mem _ (ok.memberships.2 mem)
  · exact mem_cons_of_mem _ (ok.hbacSubjects.2 mem)
  · exact mem_cons_of_mem _ (ok.sudoSubjects.2 mem)
  · exact mem_cons_of_mem _ (ok.netgroupMembers.2 mem)
  · obtain ⟨e,memE,listed⟩ := mem_namesUnder.mp mem
    exact mem_cons_of_mem _ (grantGroups_known (ok.checkGrant_of_mem memE) listed)
  · exact mem_cons_of_mem _ (ok.securityGroups.1 mem)
  · exact mem_cons_of_mem _ (ok.securityGroups.2 mem)
  · exact mem_cons_of_mem _ (ok.passwordGroups mem)
  · exact mem_cons_of_mem _ (ok.credentialNames.2.2 mem)
  · exact ok.nfsGroups mem

end Validated

end

end Pilot.Roster
