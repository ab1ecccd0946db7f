import Pilot.Identity.Passes

/-!
A plan leaves the objects it lists as blocked alone. Blocks are raised in five
passes; a name that some pass plans is blocked by none of them, also by none
that runs later.
-/
namespace Pilot.Identity
open Pilot.Roster List

def Kind.onUser : Kind → Bool
  | userCreate | userUpdate | passwordInitialize | passwordReset | userEnable | userDisable
  | userDelete => true
  | _ => false

/-- The kinds that write the group they name; a marker is a group of its own. -/
def Kind.onGroup : Kind → Bool
  | groupCreate | groupUpdate | memberUserRemove | memberGroupRemove | memberUserAdd
  | memberGroupAdd | groupDelete => true
  | _ => false

def ExistsLive (live : Live) (op : Operation) : Prop :=
  if op.kind.onUser then ∃ u ∈ live.users, u.name = op.object
  else ∃ g ∈ live.groups, g.name = op.object

structure SafeOperation (P : Platform) (live : Live) (blocked : List Key) (op : Operation) :
    Prop where
  user : op.kind.onUser = true → Key.user op.object ∉ blocked
  group : op.kind.onGroup = true → Key.group op.object ∉ blocked
  memberUsers : op.kind = .memberUserAdd → ∀ m ∈ op.members, P.lower m = m →
    userKey P m ∉ blocked
  memberGroups : op.kind = .memberGroupAdd → ∀ m ∈ op.members, P.lower m = m →
    groupKey P m ∉ blocked
  marker : op.kind = .markerCreate → ∀ n,
    (Attribute.description, (⟨none,.text (historyMarkerDescription n)⟩ : Change)) ∈ op.fields →
    groupKey P n ∉ blocked
  ids : ExistsLive live op → ∀ f ∈ op.fields, f.1 ≠ .uidnumber ∧ f.1 ≠ .gidnumber

variable {P : Platform} {d : Desired} {v : Directory}

theorem mem_appendUniques (m : String) (xs names : List String) :
    m ∈ xs.foldl appendUnique names ↔ m ∈ names ∨ m ∈ xs := by
  induction xs generalizing names with
  | nil => simp
  | cons x xs ih =>
    rw [foldl_cons,ih]
    unfold appendUnique
    split
    · rename_i known
      have old : m = x → m ∈ names := by
        rintro rfl
        simpa using known
      rw [mem_cons]
      tauto
    · simp only [mem_append,mem_cons]
      tauto

variable {m : String}

theorem mem_difference : m ∈ difference P a b ↔ m ∈ a ∧ m ∉ b.map P.lower := by
  rw [difference,mem_sortStrings,mem_appendUniques]
  simp

theorem mem_openOf (name : α → String) {verdict : α → Option (Reason × String)}
    (mem : x ∈ openOf name key verdict blocked (sortByName P name xs)) :
    x ∈ xs ∧ key (name x) ∉ blocked ∧ verdict x = none := by
  simp only [openOf,unblockedOf,mem_filter,mem_sortByName,decide_eq_true_eq,
    Option.isNone_iff_eq_none] at mem
  exact ⟨mem.1.1,mem.1.2,mem.2⟩

theorem mem_openGroups (mem : g ∈ openGroups P d v) :
    g ∈ d.groups ∧ groupKey P g.name ∉ early P d ∧ groupVerdict P v g = none :=
  mem_openOf _ mem

theorem mem_openUsers (mem : u ∈ openUsers P d v) :
    u ∈ d.users ∧ userKey P u.name ∉ early P d ∧ userVerdict P v u = none :=
  mem_openOf _ mem

variable {n : String}

theorem mem_openAbsentUsers (mem : n ∈ openAbsentUsers P d v) :
    n ∈ d.absentUsers ∧ userKey P n ∉ early P d ∧ absentUserVerdict P v n = none :=
  mem_openOf id mem

theorem mem_openAbsentGroups (mem : n ∈ openAbsentGroups P d v) :
    n ∈ d.absentGroups ∧ groupKey P n ∉ early P d ∧ absentGroupVerdict P v n = none :=
  mem_openOf id mem

/-- A key that no collision blocks and no entry under it is shut for. -/
theorem key_free (free : k ∉ early P d)
    (groups : ∀ g ∈ d.groups, groupKey P g.name = k → groupVerdict P v g = none)
    (users : ∀ u ∈ d.users, userKey P u.name = k → userVerdict P v u = none)
    (absentUsers : ∀ n ∈ d.absentUsers, userKey P n = k → absentUserVerdict P v n = none)
    (absentGroups : ∀ n ∈ d.absentGroups, groupKey P n = k → absentGroupVerdict P v n = none) :
    k ∉ (assembled P v d).blocked := by
  rw [(assembled_eq P d v).2.1,(usersPass_eq P d v).2.1]
  simp only [mem_append,mem_map,shutGroups,shutUsers,shutAbsentUsers,
    shutAbsentGroups,shutOf,unblockedOf,mem_filter,mem_sortByName]
  rintro ((((known | ⟨g,shut,same⟩) | ⟨u,shut,same⟩) | ⟨n,shut,same⟩) | ⟨n,shut,same⟩)
  · exact free known
  · simp [groups g shut.1.1 same] at shut
  · simp [users u shut.1.1 same] at shut
  · simp [absentUsers n shut.1.1 same] at shut
  · simp [absentGroups n shut.1.1 same] at shut

theorem openGroup_free (mem : g ∈ openGroups P d v) : groupKey P g.name ∉ (assembled P v d).blocked := by
  obtain ⟨present,free,clear⟩ := mem_openGroups mem
  refine key_free free ?_ nofun nofun ?_
  · intro g' present' same
    rw [← entry_unique P d (groups_part P d) present present' same.symm free,clear]
  · intro n absent same
    exact absurd (same ▸ present_absent_group P d present absent same.symm) free

theorem openUser_free (mem : u ∈ openUsers P d v) : userKey P u.name ∉ (assembled P v d).blocked := by
  obtain ⟨present,free,clear⟩ := mem_openUsers mem
  refine key_free free nofun ?_ ?_ nofun
  · intro u' present' same
    rw [← entry_unique P d (users_part P d) present present' same.symm free,clear]
  · intro n absent same
    exact absurd (same ▸ present_absent_user P d present absent same.symm) free

theorem openAbsentUser_free (mem : n ∈ openAbsentUsers P d v) :
    userKey P n ∉ (assembled P v d).blocked := by
  obtain ⟨absent,free,clear⟩ := mem_openAbsentUsers mem
  refine key_free free nofun ?_ ?_ nofun
  · intro u present same
    exact absurd (present_absent_user P d present absent same) free
  · intro n' absent' same
    rw [← entry_unique P d (absentUsers_part P d) absent absent' same.symm free,clear]

theorem openAbsentGroup_free (mem : n ∈ openAbsentGroups P d v) :
    groupKey P n ∉ (assembled P v d).blocked := by
  obtain ⟨absent,free,clear⟩ := mem_openAbsentGroups mem
  refine key_free free ?_ nofun nofun ?_
  · intro g present same
    exact absurd (present_absent_group P d present absent same) free
  · intro n' absent' same
    rw [← entry_unique P d (absentGroups_part P d) absent absent' same.symm free,clear]

theorem directory_users_none {live : Live} (missing : live.directory.users n = none)
    (notPreserved : live.directory.preserved n = false) : ¬ ∃ u ∈ live.users, u.name = n := by
  rintro ⟨u,mem,same⟩
  simp only [Live.directory,find?_eq_none,mem_reverse,mem_filter,
    any_eq_false,Bool.and_eq_true,Bool.not_eq_true',beq_iff_eq,not_and] at missing notPreserved
  cases flag : u.preserved with
  | true => exact notPreserved u mem flag same
  | false => exact missing u ⟨mem,flag⟩ same

theorem directory_groups_none {live : Live}
    (missing : live.directory.groups n = none) : ¬ ∃ g ∈ live.groups, g.name = n := by
  rintro ⟨g,mem,same⟩
  simp only [Live.directory,find?_eq_none,mem_reverse,beq_iff_eq] at missing
  exact missing g mem same

theorem attrChanges_ids (u : DesiredUser) (live : LiveUser) :
    ∀ f ∈ attrChanges u live, f.1 ≠ .uidnumber ∧ f.1 ≠ .gidnumber := by
  have change (attr : Attribute) (x y : String) (keep : attr ≠ .uidnumber ∧ attr ≠ .gidnumber) :
      ∀ f ∈ attrChange attr x y, f.1 ≠ .uidnumber ∧ f.1 ≠ .gidnumber := by
    intro f mem
    unfold attrChange at mem
    split at mem
    · cases mem
    · rw [mem_singleton.mp mem]
      exact keep
  intro f mem
  simp only [attrChanges,mem_append] at mem
  rcases mem with ((((first | last) | shell) | home) | display) | mail
  · exact change _ _ _ (by decide) f first
  · exact change _ _ _ (by decide) f last
  · exact change _ _ _ (by decide) f shell
  · exact change _ _ _ (by decide) f home
  · split at display
    · exact change _ _ _ (by decide) f display
    · cases display
  split at mail
  · split at mail
    · cases mail
    · rw [mem_singleton.mp mail]
      exact ⟨nofun,nofun⟩
  · cases mail

theorem historyMarkerDescription_injective
    (same : historyMarkerDescription a = historyMarkerDescription b) : a = b :=
  (String.append_right_inj _).mp same

section
variable {live : Live} {op : Operation}

theorem safe_plain {kind : Kind} {object : String} {after : List String} {blocked : List Key}
    (user : kind.onUser = true → Key.user object ∉ blocked)
    (group : kind.onGroup = true → Key.group object ∉ blocked) (plain : kind ≠ .markerCreate)
    (ids : ExistsLive live (operation kind object fields [] destructive after) →
      ∀ f ∈ fields, f.1 ≠ .uidnumber ∧ f.1 ≠ .gidnumber) :
    SafeOperation P live blocked (operation kind object fields [] destructive after) where
  user := user
  group := group
  memberUsers _ m mem := by cases mem
  memberGroups _ m mem := by cases mem
  marker same := absurd same plain
  ids := ids

theorem safe_marker {after : List String} (free : groupKey P n ∉ blocked) :
    SafeOperation P live blocked (markerOperation P n after) where
  user kind := by cases kind
  group kind := by cases kind
  memberUsers kind := by cases kind
  memberGroups kind := by cases kind
  marker _ m mem := by
    simp only [markerOperation,operation,mem_cons,Prod.mk.injEq,Change.mk.injEq,
      FieldValue.text.injEq,not_mem_nil,or_false,true_and] at mem
    rcases mem with same | ⟨⟨⟩,-⟩
    rw [historyMarkerDescription_injective same]
    exact free
  ids _ f mem := by
    simp only [markerOperation,operation,mem_cons,not_mem_nil,or_false] at mem
    rcases mem with rfl | rfl <;> exact ⟨nofun,nofun⟩

theorem safe_group (opened : g ∈ openGroups P d live.directory)
    (mem : op ∈ groupOperations P live.directory g) :
    SafeOperation P live (assembled P live.directory d).blocked op := by
  have free := openGroup_free opened
  rcases groupOperations_cases mem with ⟨missing,rfl⟩ | ⟨old,-,rfl⟩ | ⟨-,after,rfl⟩
  · exact safe_plain nofun (fun _ => free) (by decide)
      (fun present => absurd present (directory_groups_none missing))
  · refine safe_plain nofun (fun _ => free) (by decide) ?_
    intro _ f mem
    rw [mem_singleton.mp mem]
    exact ⟨nofun,nofun⟩
  · exact safe_marker free

theorem safe_user (opened : u ∈ openUsers P d live.directory)
    (mem : op ∈ userOperations P live.directory u) :
    SafeOperation P live (assembled P live.directory d).blocked op := by
  have free := openUser_free opened
  rcases userOperations_cases mem with ⟨missing,rfl⟩ | ⟨old,-,rfl⟩ | initial
  · have notPreserved : live.directory.preserved (P.lower u.name) = false := by
      have clear := (mem_openUsers opened).2.2
      unfold userVerdict at clear
      by_contra kept
      simp [Bool.eq_true_of_not_eq_false kept] at clear
    exact safe_plain (fun _ => free) nofun (by decide)
      (fun present => absurd present (directory_users_none missing notPreserved))
  · exact safe_plain (fun _ => free) nofun (by decide) (fun _ => attrChanges_ids u old)
  · obtain ⟨-,⟨after,rfl⟩ | rfl⟩ := password_cases initial
    · exact safe_plain (fun _ => free) nofun (by decide) (fun _ f mem => by cases mem)
    · exact safe_plain (fun _ => free) nofun (by decide) (fun _ f mem => by cases mem)

theorem openGroup_references (opened : g ∈ openGroups P d v) :
    (∀ m ∈ g.users, ∀ n ∈ d.absentUsers, m ≠ P.lower n) ∧
      ∀ m ∈ g.groups, ∀ n ∈ d.absentGroups, m ≠ P.lower n := by
  obtain ⟨present,clear,-⟩ := mem_openGroups opened
  have none : absentReferences P d g = [] := by
    by_contra some
    refine clear (mem_append_right _ (mem_map.mpr ⟨g,?_,rfl⟩))
    simp [present,some]
  simp only [absentReferences,append_eq_nil_iff,map_eq_nil_iff,filter_eq_nil_iff,
    contains_iff_mem,mem_map,not_exists,not_and] at none
  exact ⟨fun m listed n absent same => none.1 m listed n absent same.symm,
    fun m listed n absent same => none.2 m listed n absent same.symm⟩

theorem still_free (free : k ∉ (decided P d v).blocked) (users : ∀ n ∈ d.absentUsers, userKey P n ≠ k)
    (groups : ∀ n ∈ d.absentGroups, groupKey P n ≠ k) : k ∉ (assembled P v d).blocked := by
  rw [(assembled_eq P d v).2.1,append_assoc,mem_append,not_or]
  refine ⟨free,?_⟩
  simp only [mem_append,mem_map,shutAbsentUsers,shutAbsentGroups,shutOf,unblockedOf,mem_filter,mem_sortByName]
  rintro (⟨n,shut,same⟩ | ⟨n,shut,same⟩)
  · exact users n shut.1.1 same
  · exact groups n shut.1.1 same

theorem member_user_free (opened : g ∈ openGroups P d v) (listed : m ∈ g.users)
    (lower : P.lower m = m) (free : userKey P m ∉ (decided P d v).blocked) :
    userKey P m ∉ (assembled P v d).blocked := by
  refine still_free free ?_ nofun
  intro n absent same
  rw [userKey,userKey,Key.user.injEq,lower] at same
  exact (openGroup_references opened).1 m listed n absent same.symm

theorem member_group_free (opened : g ∈ openGroups P d v) (listed : m ∈ g.groups)
    (lower : P.lower m = m) (free : groupKey P m ∉ (decided P d v).blocked) :
    groupKey P m ∉ (assembled P v d).blocked := by
  refine still_free free nofun ?_
  intro n absent same
  rw [groupKey,groupKey,Key.group.injEq,lower] at same
  exact (openGroup_references opened).2 m listed n absent same.symm

theorem safe_membership (opened : g ∈ openGroups P d live.directory)
    (mem : op ∈ membershipOperations P live.directory (decided P d live.directory) g) :
    SafeOperation P live (assembled P live.directory d).blocked op := by
  have free := openGroup_free opened
  have noFields : ∀ f ∈ ([] : List (Attribute × Change)), f.1 ≠ .uidnumber ∧ f.1 ≠ .gidnumber :=
    fun f mem => by cases mem
  rcases membershipOperations_cases mem with ⟨-,rfl⟩ | ⟨-,rfl⟩ | ⟨after,rfl⟩ | ⟨after,rfl⟩
  · exact ⟨nofun,fun _ => free,nofun,nofun,nofun,fun _ => noFields⟩
  · exact ⟨nofun,fun _ => free,nofun,nofun,nofun,fun _ => noFields⟩
  · refine ⟨nofun,fun _ => free,fun _ m mem lower => ?_,nofun,nofun,fun _ => noFields⟩
    have listed := mem_filter.mp (mem_difference.mp mem).1
    exact member_user_free opened listed.1 lower (of_decide_eq_true listed.2)
  · refine ⟨nofun,fun _ => free,nofun,fun _ m mem lower => ?_,nofun,fun _ => noFields⟩
    have listed := mem_filter.mp (mem_difference.mp mem).1
    exact member_group_free opened listed.1 lower (of_decide_eq_true listed.2)

theorem safe_operation (mem : op ∈ (assembled P live.directory d).operations) :
    SafeOperation P live (assembled P live.directory d).blocked op := by
  have noFields : ∀ f ∈ ([] : List (Attribute × Change)), f.1 ≠ .uidnumber ∧ f.1 ≠ .gidnumber :=
    fun f mem => by cases mem
  rcases mem_operations mem with ⟨g,opened,made⟩ | ⟨u,opened,made⟩ | ⟨g,opened,made⟩ |
    ⟨u,opened,made⟩ | ⟨n,opened,made⟩ | ⟨n,opened,made⟩
  · exact safe_group opened made
  · exact safe_user opened made
  · exact safe_membership opened made
  · rcases lockOperations_cases made with ⟨-,rfl⟩ | ⟨-,after,rfl⟩
    · exact safe_plain (fun _ => openUser_free opened) nofun (by decide) (fun _ => noFields)
    · exact safe_plain (fun _ => openUser_free opened) nofun (by decide) (fun _ => noFields)
  · rw [deleteUserOperations_cases made]
    exact safe_plain (fun _ => openAbsentUser_free opened) nofun (by decide) (fun _ => noFields)
  · rcases deleteGroupOperations_cases made with ⟨-,rfl⟩ | ⟨after,rfl⟩
    · exact safe_marker (openAbsentGroup_free opened)
    · exact safe_plain nofun (fun _ => openAbsentGroup_free opened) (by decide) (fun _ => noFields)

end

/-- Every entry of the list stands beside the key it was raised for. -/
def Paired (b : Builder) : Prop :=
  Forall₂ (fun key e => key.name = e.object) b.blocked b.blockedList

theorem paired_block (paired : Paired b) (named : key.name = P.lower object) :
    Paired (b.block P key reason object detail) :=
  rel_append paired (.cons named .nil)

theorem paired_collisions : Paired (blockCollisions P d emptyBuilder) := by
  refine Fold.foldl_invariant (I := Paired) .nil ?_
  intro b key mem paired
  refine paired_block paired ?_
  have some : 1 < (namesOfKey P d key).length := by
    simpa using (mem_filter.mp ((mem_insertionSort _).mp mem)).2
  cases names : namesOfKey P d key with
  | nil => simp [names] at some
  | cons n rest =>
    have listed : n ∈ namesOfKey P d key := names ▸ mem_cons_self
    simp only [namesOfKey,entries,mem_map,mem_filter,mem_append,decide_eq_true_eq] at listed
    obtain ⟨e,⟨(((⟨g,-,rfl⟩ | ⟨n,-,rfl⟩) | ⟨u,-,rfl⟩) | ⟨n,-,rfl⟩),rfl⟩,rfl⟩ := listed <;> rfl

theorem paired_references (paired : Paired b) : Paired (blockReferences P d b) := by
  refine Fold.foldl_invariant (I := Paired) paired ?_
  intro b g _ paired
  unfold blockReference
  dsimp only
  split
  · exact paired
  · exact paired_block paired rfl

theorem paired_visits {α : Type} {name : α → String} {key : String → Key}
    {emit : Builder → α → Builder} {ops : α → List Operation} (named : ∀ n, (key n).name = P.lower n)
    (verdict : α → Option (Reason × String)) (emits : Emits emit ops) (xs : List α) (paired : Paired b) :
    Paired (xs.foldl (visit P name key verdict emit) b) := by
  refine Fold.foldl_invariant (I := Paired) paired ?_
  intro b x _ paired
  unfold visit
  split
  · exact paired
  split
  · exact paired_block paired (named _)
  · rw [Paired,emits.blocked,emits.blockedList]
    exact paired

theorem paired_membership (paired : Paired b) : Paired (membershipPass P v d b) := by
  refine Fold.foldl_invariant (I := Paired) (Fold.foldl_invariant (I := Paired) paired ?_) ?_
  · intro b g _ paired
    unfold groupMembership
    split
    · exact paired
    · exact paired
  · intro b u _ paired
    unfold userLock
    split
    · exact paired
    · exact paired

theorem paired_assembled : Paired (assembled P v d) := by
  have userName : ∀ n, (userKey P n).name = P.lower n := fun _ => rfl
  have groupName : ∀ n, (groupKey P n).name = P.lower n := fun _ => rfl
  refine paired_visits groupName _ (emitGroupDeletion_emits P v) _ ?_
  refine paired_visits userName _ (emitUserDeletion_emits P v) _ ?_
  refine paired_membership (paired_visits userName _ (emitUser_emits P v) _ ?_)
  exact paired_visits groupName _ (emitGroup_emits P v) _ (paired_references paired_collisions)

/-- The entries of the plan's list, each with the user or group it was raised for. -/
def raised (P : Platform) (d : Desired) (live : Live) : List (Key × Blocked) :=
  (assembled P live.directory d).blocked.zip (assembled P live.directory d).blockedList

/-- Every operation of the plan is safe with respect to every object that the plan lists as
    blocked. -/
structure SafePlan (P : Platform) (d : Desired) (live : Live) : Prop where
  entries : ((raised P d live).map Prod.snd).Perm (build P d live).blocked
  named : ∀ r ∈ raised P d live, r.1.name = r.2.object
  safe : ∀ op ∈ (build P d live).operations, SafeOperation P live ((raised P d live).map Prod.fst) op

theorem identity_plan_safe (P : Platform) (d : Desired) (live : Live) : SafePlan P d live := by
  have paired : Paired (assembled P live.directory d) := paired_assembled
  have length := paired.length_eq
  constructor
  · rw [raised,map_snd_zip length.ge]
    exact (perm_insertionSort _ _).symm
  · intro r mem
    exact (forall₂_iff_zip.mp paired).2 mem
  · intro op mem
    rw [raised,map_fst_zip length.le]
    exact safe_operation ((mem_insertionSort _).mp mem)

def lowerChar (c : Char) : Char :=
  if 65 ≤ c.toNat ∧ c.toNat ≤ 90 then Char.ofNat (c.toNat + 32) else c

theorem lowerChar_lowerChar (c : Char) : lowerChar (lowerChar c) = lowerChar c := by
  have capital : ∀ n < 91, 65 ≤ n → lowerChar (Char.ofNat (n + 32)) = Char.ofNat (n + 32) := by
    decide
  by_cases upper : 65 ≤ c.toNat ∧ c.toNat ≤ 90
  · have lowered : lowerChar c = Char.ofNat (c.toNat + 32) := if_pos upper
    rw [lowered]
    exact capital c.toNat (by omega) upper.1
  · have same : lowerChar c = c := if_neg upper
    rw [same,same]

/-- Go's functions on what the samples use: ASCII names without quotes, and
    the digests of the sample groups. -/
def samplePlatform : Platform where
  lower s := String.ofList (s.toList.map lowerChar)
  lower_lower s := by simp [Function.comp_def,lowerChar_lowerChar]
  sha256Hex s :=
    if s = "team-ops" then "6ec5a24ef40b9bc7ba072fb3182979991f2ecac584a581a6a8a970c411f4eacc"
    else if s = "team-old" then "310ffe00d7c9d3fad2d719dd7a2912b4d61211df0bbaa3c00f70e7938500c08c"
    else ""
  base64 _ := none
  format v :=
    match v with
    | .string s => s
    | .int n => toString n
    | _ => ""
  quote s := "\"" ++ s ++ "\""

def mixedCaseDesired : Desired where
  schemaVersion := 3
  principal := "admin"
  users := []
  groups := [⟨"team-ops","team-ops",none,"posix",true,["Bob"],[],true,false⟩]
  absentUsers := ["bob"]
  absentGroups := []
  notInScope := []

def preservedBob : Live where
  users := [⟨"bob","Bob","B","",[],"1001","1001","/bin/bash","/home/bob",true,"","",[],true⟩]
  groups := []

theorem mixed_case_member_blocked : ¬ ∀ (P : Platform) (d : Desired) (live : Live),
    ∀ op ∈ (build P d live).operations, op.kind = .memberUserAdd →
      ∀ m ∈ op.members, userKey P m ∉ (raised P d live).map Prod.fst := by
  intro safe
  have bad := safe samplePlatform mixedCaseDesired preservedBob
  revert bad
  decide +kernel

end Pilot.Identity
