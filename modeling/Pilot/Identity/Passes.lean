import Mathlib.Data.List.Pairwise
import Pilot.Identity.Plan

/-!
What the builder's passes add up to. Two roster entries of one key collide and
are blocked before any other pass, so within the passes every name that is not
blocked at the start is visited once: the operations are those of the entries
left open, and a key is blocked by collision, by reference or by the verdict of
its only entry.
-/
namespace Pilot.Identity
open Pilot.Roster List DesiredGroup

variable {blocked : List Key}

section
variable {α : Type} {P : Platform} {name : α → String} {key : String → Key}
  {verdict : α → Option (Reason × String)} {emit : Builder → α → Builder}
  {ops : α → List Operation}

structure Emits (emit : Builder → α → Builder) (ops : α → List Operation) : Prop where
  operations : ∀ b x, (emit b x).operations = b.operations ++ ops x
  blocked : ∀ b x, (emit b x).blocked = b.blocked
  blockedList : ∀ b x, (emit b x).blockedList = b.blockedList

def unblockedOf (name : α → String) (key : String → Key) (blocked : List Key) (xs : List α) :
    List α :=
  xs.filter (fun x => decide (key (name x) ∉ blocked))

def openOf (name : α → String) (key : String → Key) (verdict : α → Option (Reason × String))
    (blocked : List Key) (xs : List α) : List α :=
  (unblockedOf name key blocked xs).filter (fun x => (verdict x).isNone)

def shutOf (name : α → String) (key : String → Key) (verdict : α → Option (Reason × String))
    (blocked : List Key) (xs : List α) : List α :=
  (unblockedOf name key blocked xs).filter (fun x => (verdict x).isSome)

def Apart (name : α → String) (key : String → Key) (blocked : List Key) (xs : List α) : Prop :=
  xs.Pairwise (fun x y => key (name x) = key (name y) → key (name x) ∈ blocked)

def blockedEntry (P : Platform) (name : α → String) (verdict : α → Option (Reason × String))
    (x : α) : Option Blocked :=
  (verdict x).map (fun r => ⟨r.1,P.lower (name x),r.2⟩)

theorem unblockedOf_block (apart : Apart name key blocked (x :: xs)) (free : key (name x) ∉ blocked) :
    unblockedOf name key (blocked ++ [key (name x)]) xs = unblockedOf name key blocked xs := by
  refine filter_congr ?_
  intro y mem
  have other : key (name y) ≠ key (name x) := by
    intro same
    exact free ((pairwise_cons.mp apart).1 y mem same.symm)
  simp [other]

theorem apart_mono (apart : Apart name key blocked (x :: xs)) : Apart name key (blocked ++ [k]) xs :=
  ((pairwise_cons.mp apart).2).imp (fun known same => by simp [known same])

theorem visit_fold (P : Platform) (verdict : α → Option (Reason × String))
    (emits : Emits emit ops) (xs : List α) (b : Builder)
    (apart : Apart name key b.blocked xs) :
    (xs.foldl (visit P name key verdict emit) b).operations =
        b.operations ++ (openOf name key verdict b.blocked xs).flatMap ops ∧
      (xs.foldl (visit P name key verdict emit) b).blocked =
        b.blocked ++ (shutOf name key verdict b.blocked xs).map (fun x => key (name x)) ∧
      (xs.foldl (visit P name key verdict emit) b).blockedList = b.blockedList ++
          (unblockedOf name key b.blocked xs).filterMap (blockedEntry P name verdict) := by
  induction xs generalizing b with
  | nil => simp [openOf,shutOf,unblockedOf]
  | cons x xs ih =>
    have tail : Apart name key b.blocked xs := (pairwise_cons.mp apart).2
    rw [foldl_cons]
    by_cases skip : key (name x) ∈ b.blocked
    · have step : visit P name key verdict emit b x = b := by simp [visit,skip]
      rw [step]
      have same : unblockedOf name key b.blocked (x :: xs) = unblockedOf name key b.blocked xs := by
        simp [unblockedOf,skip]
      simp only [openOf,shutOf,same] at ih ⊢
      exact ih b tail
    have first : unblockedOf name key b.blocked (x :: xs) = x :: unblockedOf name key b.blocked xs := by
      simp [unblockedOf,skip]
    cases found : verdict x with
    | none =>
      have step : visit P name key verdict emit b x = emit b x := by simp [visit,skip,found]
      have kept := emits.blocked b x
      have rest := ih (emit b x) (by rw [kept]; exact tail)
      rw [step,rest.1,rest.2.1,rest.2.2]
      simp [openOf,shutOf,first,found,blockedEntry,kept,emits.operations,emits.blockedList]
    | some r =>
      have step : visit P name key verdict emit b x = b.block P (key (name x)) r.1 (name x) r.2 := by
        simp [visit,skip,found]
      have kept : (b.block P (key (name x)) r.1 (name x) r.2).blocked = b.blocked ++ [key (name x)] := rfl
      have rest := ih (b.block P (key (name x)) r.1 (name x) r.2)
        (by rw [kept]; exact apart_mono apart)
      rw [step,rest.1,rest.2.1,rest.2.2]
      simp only [openOf,shutOf,kept,unblockedOf_block apart skip]
      simp [first,found,blockedEntry,Builder.block]

end

variable (P : Platform) (d : Desired) (v : Directory)

theorem mem_collidingKeys (k : Key) : k ∈ collidingKeys P d ↔ 1 < ((entries P d).map Prod.fst).count k := by
  have size : (namesOfKey P d k).length = ((entries P d).map Prod.fst).count k := by
    rw [namesOfKey,length_map,← countP_eq_length_filter,count,countP_map]
    rfl
  rw [collidingKeys,mem_insertionSort,mem_filter,mem_dedup,decide_eq_true_iff,size]
  refine ⟨And.right,fun more => ⟨count_pos_iff.mp (by omega),more⟩⟩

theorem repeated_collide {ks : List Key} (part : ks.Sublist ((entries P d).map Prod.fst)) :
    ks.Pairwise (fun a b => a = b → a ∈ collidingKeys P d) := by
  induction ks with
  | nil => exact Pairwise.nil
  | cons k ks ih =>
    refine pairwise_cons.mpr ⟨?_,ih ((sublist_cons_self k ks).trans part)⟩
    rintro b mem rfl
    rw [mem_collidingKeys]
    have twice : 1 < (k :: ks).count k := by
      have once := count_pos_iff.mpr mem
      rw [count_cons_self]
      omega
    exact Nat.lt_of_lt_of_le twice (part.count_le k)

def early : List Key :=
  collidingKeys P d ++
    (d.groups.filter (fun g => decide (absentReferences P d g ≠ []))).map (fun g => groupKey P g.name)

def earlyBuilder : Builder := blockReferences P d (blockCollisions P d emptyBuilder)

theorem blockCollisions_fold (keys : List Key) (b : Builder) :
    (keys.foldl (blockCollision P d) b).operations = b.operations ∧
      (keys.foldl (blockCollision P d) b).blocked = b.blocked ++ keys := by
  induction keys generalizing b with
  | nil => simp
  | cons k keys ih =>
    rw [foldl_cons,(ih _).1,(ih _).2]
    simp [blockCollision,Builder.block]

theorem blockReferences_fold (groups : List DesiredGroup) (b : Builder) :
    (groups.foldl (blockReference P d) b).operations = b.operations ∧
      (groups.foldl (blockReference P d) b).blocked = b.blocked ++
        (groups.filter (fun g => decide (absentReferences P d g ≠ []))).map
          (fun g => groupKey P g.name) := by
  induction groups generalizing b with
  | nil => simp
  | cons g groups ih =>
    rw [foldl_cons,(ih _).1,(ih _).2]
    by_cases none : absentReferences P d g = []
    · simp [blockReference,none]
    · simp [blockReference,none,Builder.block]

theorem earlyBuilder_operations : (earlyBuilder P d).operations = [] := by
  rw [earlyBuilder,blockReferences,(blockReferences_fold P d _ _).1,blockCollisions,
    (blockCollisions_fold P d _ _).1,emptyBuilder]

theorem earlyBuilder_blocked : (earlyBuilder P d).blocked = early P d := by
  rw [earlyBuilder,blockReferences,(blockReferences_fold P d _ _).2,blockCollisions,
    (blockCollisions_fold P d _ _).2,emptyBuilder,early,nil_append]

variable {α : Type} {name : α → String} {key : String → Key} {xs : List α}
  (part : (xs.map (fun x => key (name x))).Sublist ((entries P d).map Prod.fst))

include part in
theorem apart_of_entries (more : ∀ k ∈ collidingKeys P d, k ∈ blocked) :
    Apart name key blocked (sortByName P name xs) := by
  have listed : Apart name key blocked xs :=
    (pairwise_map.mp (repeated_collide P d part)).imp (fun hit same => more _ (hit same))
  refine (Perm.pairwise_iff ?_ (perm_insertionSort _ xs)).mpr listed
  intro x y hit same
  rw [same]
  exact hit same.symm

theorem groups_part : (d.groups.map (fun g => groupKey P g.name)).Sublist ((entries P d).map Prod.fst) := by
  simp only [entries,map_append,map_map,append_assoc]
  exact sublist_append_left _ _

theorem absentGroups_part :
    (d.absentGroups.map (fun n => groupKey P (id n))).Sublist ((entries P d).map Prod.fst) := by
  simp only [entries,map_append,map_map,append_assoc]
  exact (sublist_append_left _ _).trans (sublist_append_right _ _)

theorem users_part : (d.users.map (fun u => userKey P u.name)).Sublist ((entries P d).map Prod.fst) := by
  simp only [entries,map_append,map_map,append_assoc]
  exact ((sublist_append_left _ _).trans (sublist_append_right _ _)).trans
    (sublist_append_right _ _)

theorem absentUsers_part :
    (d.absentUsers.map (fun n => userKey P (id n))).Sublist ((entries P d).map Prod.fst) := by
  simp only [entries,map_append,map_map,append_assoc]
  exact ((sublist_append_right _ _).trans (sublist_append_right _ _)).trans
    (sublist_append_right _ _)

variable {n : String} {g : DesiredGroup}

theorem present_absent_group (present : g ∈ d.groups) (absent : n ∈ d.absentGroups)
    (same : groupKey P g.name = groupKey P n) : groupKey P n ∈ early P d := by
  refine mem_append_left _ ((mem_collidingKeys P d _).mpr ?_)
  have first := count_pos_iff.mpr (mem_map_of_mem (f := fun g => groupKey P g.name) present)
  have second := count_pos_iff.mpr (mem_map_of_mem (f := fun n => groupKey P n) absent)
  simp only [same] at first
  simp only [entries,map_append,map_map,count_append]
  simp only [Function.comp_def] at *
  omega

variable {u : DesiredUser}

theorem present_absent_user (present : u ∈ d.users) (absent : n ∈ d.absentUsers)
    (same : userKey P u.name = userKey P n) : userKey P n ∈ early P d := by
  refine mem_append_left _ ((mem_collidingKeys P d _).mpr ?_)
  have first := count_pos_iff.mpr (mem_map_of_mem (f := fun u => userKey P u.name) present)
  have second := count_pos_iff.mpr (mem_map_of_mem (f := fun n => userKey P n) absent)
  simp only [same] at first
  simp only [entries,map_append,map_map,count_append]
  simp only [Function.comp_def] at *
  omega

def openGroups : List DesiredGroup :=
  openOf DesiredGroup.name (groupKey P) (groupVerdict P v) (early P d)
    (sortByName P DesiredGroup.name d.groups)

def shutGroups : List DesiredGroup :=
  shutOf DesiredGroup.name (groupKey P) (groupVerdict P v) (early P d)
    (sortByName P DesiredGroup.name d.groups)

def openUsers : List DesiredUser :=
  openOf DesiredUser.name (userKey P) (userVerdict P v) (early P d)
    (sortByName P DesiredUser.name d.users)

def shutUsers : List DesiredUser :=
  shutOf DesiredUser.name (userKey P) (userVerdict P v) (early P d)
    (sortByName P DesiredUser.name d.users)

def openAbsentUsers : List String :=
  openOf id (userKey P) (absentUserVerdict P v) (early P d) (sortByName P id d.absentUsers)

def shutAbsentUsers : List String :=
  shutOf id (userKey P) (absentUserVerdict P v) (early P d) (sortByName P id d.absentUsers)

def openAbsentGroups : List String :=
  openOf id (groupKey P) (absentGroupVerdict P v) (early P d) (sortByName P id d.absentGroups)

def shutAbsentGroups : List String :=
  shutOf id (groupKey P) (absentGroupVerdict P v) (early P d) (sortByName P id d.absentGroups)

theorem emitGroup_emits : Emits (emitGroup P v) (groupOperations P v) where
  operations _ _ := rfl
  blocked _ _ := rfl
  blockedList _ _ := rfl

theorem emitUser_emits : Emits (emitUser P v) (userOperations P v) where
  operations _ _ := rfl
  blocked _ _ := rfl
  blockedList _ _ := rfl

theorem emitUserDeletion_emits : Emits (emitUserDeletion P v) (deleteUserOperations P v) where
  operations _ _ := rfl
  blocked _ _ := rfl
  blockedList _ _ := rfl

theorem emitGroupDeletion_emits : Emits (emitGroupDeletion P v) (deleteGroupOperations P v) where
  operations _ _ := rfl
  blocked _ _ := rfl
  blockedList _ _ := rfl

def decided : Builder := usersPass P v d (groupsPass P v d (earlyBuilder P d))

theorem colliding_early : ∀ k ∈ collidingKeys P d, k ∈ early P d :=
  fun _ mem => mem_append_left _ mem

theorem unblockedOf_append (apart : ∀ x ∈ xs, key (name x) ∈ more → key (name x) ∈ blocked) :
    unblockedOf name key (blocked ++ more) xs = unblockedOf name key blocked xs := by
  refine filter_congr ?_
  intro x mem
  have known := apart x mem
  simp only [mem_append,decide_eq_decide]
  tauto

theorem groupsPass_eq :
    (groupsPass P v d (earlyBuilder P d)).operations =
        (openGroups P d v).flatMap (groupOperations P v) ∧
      (groupsPass P v d (earlyBuilder P d)).blocked =
        early P d ++ (shutGroups P d v).map (fun g => groupKey P g.name) ∧
      (groupsPass P v d (earlyBuilder P d)).blockedList = (earlyBuilder P d).blockedList ++
          (unblockedOf DesiredGroup.name (groupKey P) (early P d)
            (sortByName P DesiredGroup.name d.groups)).filterMap
            (blockedEntry P DesiredGroup.name (groupVerdict P v)) := by
  have apart : Apart DesiredGroup.name (groupKey P) (earlyBuilder P d).blocked
      (sortByName P DesiredGroup.name d.groups) := by
    rw [earlyBuilder_blocked]
    exact apart_of_entries P d (groups_part P d) (colliding_early P d)
  have fold := visit_fold P (groupVerdict P v) (emitGroup_emits P v) _ _ apart
  rw [earlyBuilder_blocked,earlyBuilder_operations] at fold
  exact fold

theorem visit_fold_after (verdict : α → Option (Reason × String)) (emits : Emits emit ops)
    (blocked : b.blocked = early P d ++ more)
    (part : (xs.map (fun x => key (name x))).Sublist ((entries P d).map Prod.fst))
    (known : ∀ x ∈ xs, key (name x) ∈ more → key (name x) ∈ early P d) :
    ((sortByName P name xs).foldl (visit P name key verdict emit) b).operations = b.operations ++
          (openOf name key verdict (early P d) (sortByName P name xs)).flatMap ops ∧
      ((sortByName P name xs).foldl (visit P name key verdict emit) b).blocked =
        b.blocked ++ (shutOf name key verdict (early P d) (sortByName P name xs)).map
          (fun x => key (name x)) ∧
      ((sortByName P name xs).foldl (visit P name key verdict emit) b).blockedList =
        b.blockedList ++ (unblockedOf name key (early P d) (sortByName P name xs)).filterMap
          (blockedEntry P name verdict) := by
  have same : unblockedOf name key b.blocked (sortByName P name xs) =
      unblockedOf name key (early P d) (sortByName P name xs) := by
    rw [blocked]
    refine unblockedOf_append ?_
    intro x mem
    exact known x ((mem_sortByName P).mp mem)
  have apart : Apart name key b.blocked (sortByName P name xs) :=
    apart_of_entries P d part (fun k mem => by
      rw [blocked]
      exact mem_append_left _ (colliding_early P d k mem))
  have fold := visit_fold P verdict emits _ b apart
  simp only [openOf,shutOf,same] at fold ⊢
  exact fold

theorem usersPass_eq :
    (decided P d v).operations = (openGroups P d v).flatMap (groupOperations P v) ++
          (openUsers P d v).flatMap (userOperations P v) ∧
      (decided P d v).blocked = early P d ++ (shutGroups P d v).map (fun g => groupKey P g.name) ++
          (shutUsers P d v).map (fun u => userKey P u.name) ∧
      (decided P d v).blockedList = (groupsPass P v d (earlyBuilder P d)).blockedList ++
          (unblockedOf DesiredUser.name (userKey P) (early P d)
            (sortByName P DesiredUser.name d.users)).filterMap
            (blockedEntry P DesiredUser.name (userVerdict P v)) := by
  have before := groupsPass_eq P d v
  have fold := visit_fold_after P d (userVerdict P v) (emitUser_emits P v) before.2.1
    (users_part P d) (fun u _ mem => by simp [userKey,groupKey] at mem)
  rw [before.1,before.2.1] at fold
  exact fold

/-- A pass that adds operations for every entry whose key is not blocked. -/
theorem pass_fold {α : Type} (name : α → String) (key : String → Key) (step : Builder → α → Builder)
    (ops : Builder → α → List Operation) (skips : ∀ b x, key (name x) ∈ b.blocked → step b x = b)
    (acts : ∀ b x, key (name x) ∉ b.blocked →
      (step b x).operations = b.operations ++ ops b x ∧ (step b x).blocked = b.blocked ∧
      (step b x).blockedList = b.blockedList ∧ (step b x).createdUsers = b.createdUsers ∧
      ops (step b x) = ops b) (xs : List α) (b : Builder) :
    (xs.foldl step b).operations =
        b.operations ++ (unblockedOf name key b.blocked xs).flatMap (ops b) ∧
      (xs.foldl step b).blocked = b.blocked ∧ (xs.foldl step b).blockedList = b.blockedList ∧
      (xs.foldl step b).createdUsers = b.createdUsers := by
  induction xs generalizing b with
  | nil => simp [unblockedOf]
  | cons x xs ih =>
    rw [foldl_cons]
    by_cases skip : key (name x) ∈ b.blocked
    · have same : unblockedOf name key b.blocked (x :: xs) = unblockedOf name key b.blocked xs := by
        simp [unblockedOf,skip]
      rw [skips b x skip,same]
      exact ih b
    have first : unblockedOf name key b.blocked (x :: xs) = x :: unblockedOf name key b.blocked xs := by
      simp [unblockedOf,skip]
    obtain ⟨added,blocked,list,created,same⟩ := acts b x skip
    have rest := ih (step b x)
    rw [added,blocked,list,created,same] at rest
    rw [first,flatMap_cons,← append_assoc]
    exact rest

include part in
theorem entry_unique {x y : α} (memX : x ∈ xs) (memY : y ∈ xs) (same : key (name x) = key (name y))
    (free : key (name x) ∉ early P d) : x = y := by
  have listed : Apart name key (early P d) xs :=
    (pairwise_map.mp (repeated_collide P d part)).imp
      (fun hit same => colliding_early P d _ (hit same))
  have symmetric : Std.Symm (fun x y : α => key (name x) = key (name y) →
      key (name x) ∈ early P d) := ⟨fun a b hit same => by
    rw [same]
    exact hit same.symm⟩
  by_contra different
  exact free (listed.forall memX memY different same)

include part in
theorem unblockedOf_shut
    (listed : ∀ x ∈ xs, key (name x) ∈ blocked ↔ key (name x) ∈ early P d ∨
      key (name x) ∈ (shutOf name key verdict (early P d) (sortByName P name xs)).map
        (fun x => key (name x))) :
    unblockedOf name key blocked (sortByName P name xs) =
      openOf name key verdict (early P d) (sortByName P name xs) := by
  unfold openOf unblockedOf
  rw [filter_filter]
  refine filter_congr ?_
  intro x mem
  have memX : x ∈ xs := (mem_sortByName P).mp mem
  rw [Bool.eq_iff_iff]
  simp only [decide_eq_true_eq,Bool.and_eq_true,listed x memX,mem_map,not_or]
  constructor
  · rintro ⟨free,noVerdict⟩
    refine ⟨?_,free⟩
    cases found : verdict x with
    | none => rfl
    | some r =>
      refine absurd ⟨x,?_,rfl⟩ noVerdict
      simp [shutOf,unblockedOf,mem,free,found]
  · rintro ⟨none,free⟩
    refine ⟨free,?_⟩
    rintro ⟨y,shut,same⟩
    simp only [shutOf,unblockedOf,mem_filter] at shut
    have equal := entry_unique P d part memX ((mem_sortByName P).mp shut.1.1) same.symm free
    rw [← equal,← Option.not_isNone,none] at shut
    exact absurd shut.2 (by simp)

theorem decided_openGroups :
    unblockedOf DesiredGroup.name (groupKey P) (decided P d v).blocked
      (sortByName P DesiredGroup.name d.groups) = openGroups P d v := by
  refine unblockedOf_shut P d (groups_part P d) ?_
  intro g _
  rw [(usersPass_eq P d v).2.1]
  simp [shutGroups,groupKey,userKey]

theorem decided_openUsers :
    unblockedOf DesiredUser.name (userKey P) (decided P d v).blocked
      (sortByName P DesiredUser.name d.users) = openUsers P d v := by
  refine unblockedOf_shut P d (users_part P d) ?_
  intro u _
  rw [(usersPass_eq P d v).2.1]
  simp [shutUsers,groupKey,userKey]

theorem membershipPass_eq :
    (membershipPass P v d (decided P d v)).operations = (decided P d v).operations ++
        (openGroups P d v).flatMap (membershipOperations P v (decided P d v)) ++
        (openUsers P d v).flatMap (lockOperations P v (decided P d v)) ∧
      (membershipPass P v d (decided P d v)).blocked = (decided P d v).blocked ∧
      (membershipPass P v d (decided P d v)).blockedList = (decided P d v).blockedList := by
  have members := pass_fold DesiredGroup.name (groupKey P) (groupMembership P v) (membershipOperations P v)
    (fun b g skip => by simp [groupMembership,skip]) (fun b g free => by simp [groupMembership,free]; rfl)
    (sortByName P DesiredGroup.name d.groups) (decided P d v)
  have locks := pass_fold DesiredUser.name (userKey P) (userLock P v) (lockOperations P v)
    (fun b u skip => by simp [userLock,skip]) (fun b u free => by simp [userLock,free]; rfl)
    (sortByName P DesiredUser.name d.users)
    ((sortByName P DesiredGroup.name d.groups).foldl (groupMembership P v) (decided P d v))
  have same : lockOperations P v
      ((sortByName P DesiredGroup.name d.groups).foldl (groupMembership P v) (decided P d v)) =
      lockOperations P v (decided P d v) := by
    funext u
    simp only [lockOperations,members.2.2.2]
  rw [members.1,members.2.1,members.2.2.1,same,decided_openGroups,decided_openUsers] at locks
  exact ⟨locks.1,locks.2.1,locks.2.2.1⟩

theorem assembled_eq :
    (assembled P v d).operations = (openGroups P d v).flatMap (groupOperations P v) ++
          (openUsers P d v).flatMap (userOperations P v) ++
          (openGroups P d v).flatMap (membershipOperations P v (decided P d v)) ++
          (openUsers P d v).flatMap (lockOperations P v (decided P d v)) ++
          (openAbsentUsers P d v).flatMap (deleteUserOperations P v) ++
          (openAbsentGroups P d v).flatMap (deleteGroupOperations P v) ∧
      (assembled P v d).blocked = (decided P d v).blocked ++
          (shutAbsentUsers P d v).map (userKey P) ++ (shutAbsentGroups P d v).map (groupKey P) ∧
      (assembled P v d).blockedList = (decided P d v).blockedList ++
          (unblockedOf id (userKey P) (early P d) (sortByName P id d.absentUsers)).filterMap
            (blockedEntry P id (absentUserVerdict P v)) ++
          (unblockedOf id (groupKey P) (early P d) (sortByName P id d.absentGroups)).filterMap
            (blockedEntry P id (absentGroupVerdict P v)) := by
  have before := membershipPass_eq P d v
  have decidedBlocked := (usersPass_eq P d v).2.1
  have users := visit_fold_after P d
    (absentUserVerdict P v) (emitUserDeletion_emits P v)
    (before.2.1.trans (decidedBlocked.trans (append_assoc _ _ _))) (absentUsers_part P d)
    (fun n mem shut => by
      simp only [mem_append,mem_map] at shut
      rcases shut with ⟨g,-,same⟩ | ⟨u,shut,same⟩
      · cases same
      · simp only [shutUsers,shutOf,unblockedOf,mem_filter] at shut
        exact present_absent_user P d ((mem_sortByName P).mp shut.1.1) mem same)
  rw [before.1,before.2.1,before.2.2] at users
  have groups := visit_fold_after P d
    (absentGroupVerdict P v) (emitGroupDeletion_emits P v)
    (users.2.1.trans (by rw [decidedBlocked,append_assoc,append_assoc]))
    (absentGroups_part P d)
    (fun n mem shut => by
      simp only [mem_append,mem_map] at shut
      rcases shut with ⟨g,shut,same⟩ | ⟨u,-,same⟩ | ⟨m,-,same⟩
      · simp only [shutGroups,shutOf,unblockedOf,mem_filter] at shut
        exact present_absent_group P d ((mem_sortByName P).mp shut.1.1) mem same
      · cases same
      · cases same)
  rw [users.1,users.2.1,users.2.2,(usersPass_eq P d v).1] at groups
  exact groups

section
variable {P : Platform} {d : Desired} {v : Directory} {b : Builder} {op : Operation}

theorem ensureMarker_cases {after : List String} (mem : op ∈ ensureMarker P v n after) :
    v.groups (historyMarkerName P n) = none ∧ op = markerOperation P n after := by
  unfold ensureMarker at mem
  split at mem
  · cases mem
  · rename_i missing
    exact ⟨missing,mem_singleton.mp mem⟩

theorem groupOperations_cases (mem : op ∈ groupOperations P v g) :
    (v.groups (P.lower g.name) = none ∧
      op = operation .groupCreate (P.lower g.name) (groupCreateFields g) [] false []) ∨
    (∃ live, v.groups (P.lower g.name) = some live ∧ op = operation .groupUpdate (P.lower g.name)
      [(.description, ⟨some (listValue live.description),.text g.description⟩)] [] false []) ∨
    (v.groups (historyMarkerName P g.name) = none ∧ ∃ after, op = markerOperation P g.name after) := by
  unfold groupOperations at mem
  simp only at mem
  split at mem
  · rename_i missing
    rcases mem_cons.mp mem with made | marker
    · exact .inl ⟨missing,made⟩
    · obtain ⟨none,same⟩ := ensureMarker_cases marker
      exact .inr (.inr ⟨none,_,same⟩)
  · rename_i live found
    rcases mem_append.mp mem with made | marker
    · split at made
      · cases made
      · exact .inr (.inl ⟨live,found,mem_singleton.mp made⟩)
    · obtain ⟨none,same⟩ := ensureMarker_cases marker
      exact .inr (.inr ⟨none,_,same⟩)

theorem password_cases (mem : op ∈ password P v u) :
    u.hasInitialPassword = true ∧
      ((∃ after, op = operation .passwordInitialize (P.lower u.name) [] [] false after) ∨
        op = operation .passwordReset (P.lower u.name) [] [] true []) := by
  unfold password at mem
  simp only at mem
  split at mem
  · cases mem
  rename_i declared
  refine ⟨by simpa using declared,?_⟩
  split at mem
  · exact .inl ⟨_,mem_singleton.mp mem⟩
  split at mem
  · exact .inl ⟨_,mem_singleton.mp mem⟩
  · split at mem
    · exact .inr (mem_singleton.mp mem)
    · cases mem

theorem userOperations_cases (mem : op ∈ userOperations P v u) :
    (v.users (P.lower u.name) = none ∧ op = operation .userCreate (P.lower u.name)
      ((desiredAttrs u).map fun e => (e.1, ⟨none,e.2⟩)) [] false []) ∨
    (∃ live, v.users (P.lower u.name) = some live ∧
      op = operation .userUpdate (P.lower u.name) (attrChanges u live) [] false []) ∨
    op ∈ password P v u := by
  rcases mem_append.mp mem with made | initial
  · split at made
    · rename_i missing
      exact .inl ⟨missing,mem_singleton.mp made⟩
    rename_i live found
    split at made
    · cases made
    · exact .inr (.inl ⟨live,found,mem_singleton.mp made⟩)
  · exact .inr (.inr initial)

theorem memberOperation_cases {kind : Kind} {name : String} {members after : List String}
    (mem : op ∈ memberOperation kind name members after) :
    op = operation kind name [] members false after := by
  unfold memberOperation at mem
  split at mem
  · cases mem
  · exact mem_singleton.mp mem

theorem membershipOperations_cases (mem : op ∈ membershipOperations P v b g) :
    (g.authoritative = true ∧ op = operation .memberUserRemove (P.lower g.name) []
      (difference P (membersOf (v.groups (P.lower g.name)) LiveGroup.memberUsers) g.users) false []) ∨
    (g.authoritative = true ∧ op = operation .memberGroupRemove (P.lower g.name) []
      (difference P (membersOf (v.groups (P.lower g.name)) LiveGroup.memberGroups) g.groups) false []) ∨
    (∃ after, op = operation .memberUserAdd (P.lower g.name) []
      (difference P (g.users.filter (fun n => decide (userKey P n ∉ b.blocked)))
        (membersOf (v.groups (P.lower g.name)) LiveGroup.memberUsers)) false after) ∨
    ∃ after, op = operation .memberGroupAdd (P.lower g.name) []
      (difference P (g.groups.filter (fun n => decide (groupKey P n ∉ b.blocked)))
        (membersOf (v.groups (P.lower g.name)) LiveGroup.memberGroups)) false after := by
  unfold membershipOperations at mem
  simp only [mem_append] at mem
  rcases mem with (removal | users) | groups
  · split at removal
    · rename_i authoritative
      rcases mem_append.mp removal with users | groups
      · exact .inl ⟨authoritative,memberOperation_cases users⟩
      · exact .inr (.inl ⟨authoritative,memberOperation_cases groups⟩)
    · cases removal
  · exact .inr (.inr (.inl ⟨_,memberOperation_cases users⟩))
  · exact .inr (.inr (.inr ⟨_,memberOperation_cases groups⟩))

theorem lockOperations_cases (mem : op ∈ lockOperations P v b u) :
    (u.enabled = true ∧ op = operation .userEnable (P.lower u.name) [] [] false []) ∨
    (u.enabled = false ∧ ∃ after, op = operation .userDisable (P.lower u.name) [] [] false after) := by
  unfold lockOperations at mem
  simp only at mem
  split at mem
  · split at mem
    · cases mem
    · rename_i off
      exact .inr ⟨by simpa using off,_,mem_singleton.mp mem⟩
  split at mem
  · rename_i on
    simp only [Bool.and_eq_true] at on
    exact .inl ⟨on.2,mem_singleton.mp mem⟩
  · split at mem
    · rename_i off
      simp only [Bool.and_eq_true,Bool.not_eq_true'] at off
      exact .inr ⟨off.2,_,mem_singleton.mp mem⟩
    · cases mem

theorem deleteUserOperations_cases (mem : op ∈ deleteUserOperations P v n) :
    op = operation .userDelete (P.lower n) [] [] true [] := by
  unfold deleteUserOperations at mem
  split at mem
  · exact mem_singleton.mp mem
  · cases mem

theorem deleteGroupOperations_cases (mem : op ∈ deleteGroupOperations P v n) :
    (v.groups (historyMarkerName P n) = none ∧ op = markerOperation P n []) ∨
      ∃ after, op = operation .groupDelete (P.lower n) [] [] true after := by
  unfold deleteGroupOperations at mem
  split at mem
  · rcases mem_append.mp mem with marker | made
    · exact .inl (ensureMarker_cases marker)
    · exact .inr ⟨_,mem_singleton.mp made⟩
  · cases mem

theorem mem_operations (mem : op ∈ (assembled P v d).operations) :
    (∃ g ∈ openGroups P d v, op ∈ groupOperations P v g) ∨
    (∃ u ∈ openUsers P d v, op ∈ userOperations P v u) ∨
    (∃ g ∈ openGroups P d v, op ∈ membershipOperations P v (decided P d v) g) ∨
    (∃ u ∈ openUsers P d v, op ∈ lockOperations P v (decided P d v) u) ∨
    (∃ n ∈ openAbsentUsers P d v, op ∈ deleteUserOperations P v n) ∨
    ∃ n ∈ openAbsentGroups P d v, op ∈ deleteGroupOperations P v n := by
  rw [(assembled_eq P d v).1] at mem
  simpa only [mem_append,mem_flatMap,or_assoc] using mem

end

end Pilot.Identity
