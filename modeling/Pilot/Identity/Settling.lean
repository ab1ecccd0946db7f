import Pilot.Identity.Effects
import Pilot.Identity.Safety

/-!
What a plan does to one name of the directory. The operations that touch a
name come from its own roster entry, and from the deletions that take members
out of groups. Each fact the planner asks about is either true already or made
true by one operation and kept by the rest.
-/
namespace Pilot.Identity
open Pilot.Roster Pilot.Fold List LiveGroup

instance : Std.Total OperationLE where
  total a b := by
    unfold OperationLE
    rcases Nat.lt_trichotomy a.kind.rank b.kind.rank with less | same | more
    · exact .inl (.inl less)
    · rcases le_total a.object b.object with below | above
      · exact .inl (.inr ⟨same,below⟩)
      · exact .inr (.inr ⟨same.symm,above⟩)
    · exact .inr (.inl more)

instance : IsTrans Operation OperationLE where
  trans a b c := by
    unfold OperationLE
    rintro (less | ⟨same,below⟩) (less' | ⟨same',below'⟩)
    · exact .inl (less.trans less')
    · exact .inl (same' ▸ less)
    · exact .inl (same ▸ less')
    · exact .inr ⟨same.trans same',below.trans below'⟩

theorem operations_ranked (P : Platform) (d : Desired) (live : Live) :
    (build P d live).operations.Pairwise (fun a b => a.kind.rank ≤ b.kind.rank) := by
  refine (pairwise_insertionSort OperationLE _).imp ?_
  rintro a b (less | ⟨same,-⟩)
  · exact Nat.le_of_lt less
  · exact Nat.le_of_eq same

def groupNames (d : Desired) : List String := d.groups.map DesiredGroup.name ++ d.absentGroups

/-- No roster group is named like a history marker, and no two roster groups
    have markers of one name. -/
structure MarkersApart (P : Platform) (d : Desired) : Prop where
  reserved : ∀ a ∈ groupNames d, ∀ b ∈ groupNames d, P.lower a ≠ historyMarkerName P b
  distinct : ∀ a ∈ groupNames d, ∀ b ∈ groupNames d, P.sha256Hex a = P.sha256Hex b → a = b

/-- The direct members of the live groups are in lower case, as the reads make them. -/
def LowerLive (P : Platform) (live : Live) : Prop :=
  ∀ g ∈ live.groups, (∀ m ∈ g.memberUsers, P.lower m = m) ∧ ∀ m ∈ g.memberGroups, P.lower m = m

variable {n : String}

section
variable {P : Platform} {d : Desired} {live : Live} {op : Operation}

theorem mem_build : op ∈ (build P d live).operations ↔ op ∈ (assembled P live.directory d).operations :=
  mem_insertionSort _

theorem openGroup_name (opened : g ∈ openGroups P d v) : g.name ∈ groupNames d :=
  mem_append_left _ (mem_map_of_mem (mem_openGroups opened).1)

theorem openAbsentGroup_name (opened : n ∈ openAbsentGroups P d v) : n ∈ groupNames d :=
  mem_append_right _ (mem_openAbsentGroups opened).1

theorem marker_eq (markers : MarkersApart P d) (memA : a ∈ groupNames d) (memB : b ∈ groupNames d)
    (same : historyMarkerName P a = historyMarkerName P b) : a = b :=
  markers.distinct a memA b memB ((String.append_right_inj _).mp same)

end

inductive Side where
  | users | groups

namespace Side

def of : Side → LiveGroup → List String
  | users => memberUsers
  | groups => memberGroups

def set : Side → List String → LiveGroup → LiveGroup
  | users => fun names g => { g with memberUsers := names }
  | groups => fun names g => { g with memberGroups := names }

def wanted : Side → DesiredGroup → List String
  | users => DesiredGroup.users
  | groups => DesiredGroup.groups

def key (P : Platform) : Side → String → Key
  | users => userKey P
  | groups => groupKey P

def absent (d : Desired) : Side → List String
  | users => d.absentUsers
  | groups => d.absentGroups

def removal : Side → Kind
  | users => .memberUserRemove
  | groups => .memberGroupRemove

def addition : Side → Kind
  | users => .memberUserAdd
  | groups => .memberGroupAdd

def stale (P : Platform) (v : Directory) (g : DesiredGroup) (side : Side) : List String :=
  difference P (membersOf (v.groups (P.lower g.name)) side.of) (side.wanted g)

def kept (P : Platform) (b : Builder) (g : DesiredGroup) (side : Side) : List String :=
  (side.wanted g).filter (fun n => decide (side.key P n ∉ b.blocked))

def missing (P : Platform) (v : Directory) (b : Builder) (g : DesiredGroup) (side : Side) :
    List String :=
  difference P (side.kept P b g) (membersOf (v.groups (P.lower g.name)) side.of)

@[simp]
theorem of_set (side : Side) (names : List String) (g : LiveGroup) :
    side.of (side.set names g) = names := by
  cases side <;> rfl

theorem of_set_other {side other : Side} (different : other ≠ side) (names : List String)
    (g : LiveGroup) : side.of (other.set names g) = side.of g := by
  cases side <;> cases other <;> first | rfl | exact absurd rfl different

end Side

def LiveGroup.frame (g : LiveGroup) : List String × GroupType × String :=
  (g.description, g.type, g.gidNumber)

@[simp]
theorem frame_set (side : Side) (names : List String) (g : LiveGroup) :
    (side.set names g).frame = g.frame := by
  cases side <;> rfl

section
variable (P : Platform) (d : Desired) (v : Directory) (g : DesiredGroup)

inductive Dropped : LiveGroup → LiveGroup → Prop
  | same (x : LiveGroup) : Dropped x x
  | member (side : Side) (n : String) (listed : n ∈ side.absent d) (x : LiveGroup) :
      Dropped x (side.set ((side.of x).filter (fun m => decide (m ≠ P.lower n))) x)

inductive GroupMove : LiveGroup → LiveGroup → Prop
  | dropped {x y : LiveGroup} (drop : Dropped P d x y) : GroupMove x y
  | described (x : LiveGroup) : GroupMove x { x with description := [g.description] }
  | removed (side : Side) (authoritative : g.authoritative = true) (x : LiveGroup) :
      GroupMove x (side.set (without (side.of x) (side.stale P v g)) x)
  | added (side : Side) (x : LiveGroup) :
      GroupMove x (side.set (withMembers (side.of x) (side.missing P v (decided P d v) g)) x)

end

variable {name : String} {u : DesiredUser}

section
variable {P : Platform} {d : Desired} {v : Directory} {server : Server} {op : Operation}

theorem group_op_mem (opened : g ∈ openGroups P d v)
    (made : op ∈ groupOperations P v g ∨ op ∈ membershipOperations P v (decided P d v) g) :
    op ∈ (assembled P v d).operations := by
  simp only [(assembled_eq P d v).1,mem_append,mem_flatMap]
  rcases made with made | made
  · exact .inl (.inl (.inl (.inl (.inl ⟨g,opened,made⟩))))
  · exact .inl (.inl (.inl (.inr ⟨g,opened,made⟩)))

theorem user_op_mem (opened : u ∈ openUsers P d v)
    (made : op ∈ userOperations P v u ∨ op ∈ lockOperations P v (decided P d v) u) :
    op ∈ (assembled P v d).operations := by
  simp only [(assembled_eq P d v).1,mem_append,mem_flatMap]
  rcases made with made | made
  · exact .inl (.inl (.inl (.inl (.inr ⟨u,opened,made⟩))))
  · exact .inl (.inl (.inr ⟨u,opened,made⟩))

theorem groupEffect_user (onUser : op.kind.onUser = true) (kept : op.kind ≠ .userDelete)
    (name : String) (s : Option LiveGroup) : groupEffect server name s op = s := by
  have same : editGroup op = id := by
    funext x
    unfold editGroup
    cases kind : op.kind <;> simp_all [Kind.onUser]
  unfold groupEffect
  cases kind : op.kind <;> simp_all [Kind.onUser]

theorem groupEffect_elsewhere (other : op.object ≠ name) (user : op.kind ≠ .userDelete)
    (group : op.kind ≠ .groupDelete) (s : Option LiveGroup) : groupEffect server name s op = s := by
  unfold groupEffect
  cases kind : op.kind <;> simp_all

/-- An operation leaves a group name alone up to dropped members, belongs to
    the open entry of that name, creates it as a marker or deletes it. -/
theorem group_touch (server : Server) (mem : op ∈ (assembled P v d).operations) (name : String) :
    (∃ f, (∀ x, Dropped P d x (f x)) ∧ ∀ s, groupEffect server name s op = s.map f) ∨
    (∃ g ∈ openGroups P d v, P.lower g.name = name ∧ op.kind ≠ .markerCreate ∧
      (op ∈ groupOperations P v g ∨ op ∈ membershipOperations P v (decided P d v) g)) ∨
    (∃ n ∈ groupNames d, historyMarkerName P n = name ∧ v.groups name = none ∧
      groupKey P n ∉ (assembled P v d).blocked ∧ ∃ after, op = markerOperation P n after) ∨
    ∃ n ∈ openAbsentGroups P d v, P.lower n = name ∧ ∀ s, groupEffect server name s op = none := by
  have still (same : ∀ s, groupEffect server name s op = s) :
      ∃ f, (∀ x, Dropped P d x (f x)) ∧ ∀ s, groupEffect server name s op = s.map f :=
    ⟨id,fun x => .same x,fun s => by rw [same,Option.map_id_fun,id]⟩
  rcases mem_operations mem with ⟨g,opened,made⟩ | ⟨u,opened,made⟩ | ⟨g,opened,made⟩ |
    ⟨u,opened,made⟩ | ⟨n,opened,made⟩ | ⟨n,opened,made⟩
  · have inside := made
    rcases groupOperations_cases made with ⟨-,rfl⟩ | ⟨old,-,rfl⟩ | ⟨missing,after,rfl⟩
    iterate 2
      by_cases same : P.lower g.name = name
      · exact .inr (.inl ⟨g,opened,same,nofun,.inl inside⟩)
      · exact .inl (still (groupEffect_elsewhere same nofun nofun))
    · by_cases same : historyMarkerName P g.name = name
      · exact .inr (.inr (.inl ⟨g.name,openGroup_name opened,same,same ▸ missing,
          openGroup_free opened,after,rfl⟩))
      · exact .inl (still (groupEffect_elsewhere same nofun nofun))
  · refine .inl (still ?_)
    rcases userOperations_cases made with ⟨-,rfl⟩ | ⟨old,-,rfl⟩ | initial
    on_goal 3 => obtain ⟨-,⟨after,rfl⟩ | rfl⟩ := password_cases initial
    all_goals exact groupEffect_user rfl (by nofun) name
  · have inside := made
    rcases membershipOperations_cases made with ⟨-,rfl⟩ | ⟨-,rfl⟩ | ⟨after,rfl⟩ | ⟨after,rfl⟩
    all_goals
      by_cases same : P.lower g.name = name
      · exact .inr (.inl ⟨g,opened,same,nofun,.inr inside⟩)
      · exact .inl (still (groupEffect_elsewhere same nofun nofun))
  · refine .inl (still ?_)
    rcases lockOperations_cases made with ⟨-,rfl⟩ | ⟨-,after,rfl⟩
    all_goals exact groupEffect_user rfl (by nofun) name
  · rw [deleteUserOperations_cases made]
    exact .inl ⟨_,Dropped.member .users n (mem_openAbsentUsers opened).1,fun _ => rfl⟩
  · rcases deleteGroupOperations_cases made with ⟨missing,rfl⟩ | ⟨after,rfl⟩
    · by_cases same : historyMarkerName P n = name
      · exact .inr (.inr (.inl ⟨n,openAbsentGroup_name opened,same,same ▸ missing,
          openAbsentGroup_free opened,[],rfl⟩))
      · exact .inl (still (groupEffect_elsewhere same nofun nofun))
    · by_cases same : P.lower n = name
      · exact .inr (.inr (.inr ⟨n,opened,same,fun _ => if_pos same⟩))
      · exact .inl ⟨_,Dropped.member .groups n (mem_openAbsentGroups opened).1, fun _ => if_neg same⟩

end

theorem Dropped.frame_eq (drop : Dropped P d x y) : y.frame = x.frame := by
  cases drop with
  | same => rfl
  | member side n listed => exact frame_set side _ x

def settled (P : Platform) (d : Desired) (server : Server) (live : Live) : Live :=
  applyPlan server live (build P d live).operations

section
variable {P : Platform} {d : Desired} {live : Live} {server : Server} {op : Operation}
  {I : Option LiveGroup → Prop}

theorem group_end (start : I (live.directory.groups name))
    (keep : ∀ s, ∀ op ∈ (assembled P live.directory d).operations, I s →
      I (groupEffect server name s op)) : I ((settled P d server live).directory.groups name) := by
  rw [settled,plan_groups]
  exact foldl_invariant start (fun s op mem => keep s op (mem_build.mp mem))

theorem group_end_made (mem : op ∈ (assembled P live.directory d).operations)
    (make : ∀ s, I (groupEffect server name s op))
    (keep : ∀ s, ∀ op ∈ (assembled P live.directory d).operations, I s →
      I (groupEffect server name s op)) : I ((settled P d server live).directory.groups name) := by
  rw [settled,plan_groups]
  exact foldl_establish (mem_build.mpr mem) make (fun s op mem => keep s op (mem_build.mp mem))

variable (server)

theorem blocked_frame (markers : MarkersApart P d) (listed : n ∈ groupNames d)
    (shut : groupKey P n ∈ (assembled P live.directory d).blocked)
    (its : name = P.lower n ∨ name = historyMarkerName P n) :
    ((settled P d server live).directory.groups name).map frame =
      (live.directory.groups name).map frame := by
  refine group_end (I := fun s => s.map frame = (live.directory.groups name).map frame) rfl ?_
  intro s op mem same
  have foreign {m : String} (free : groupKey P m ∉ (assembled P live.directory d).blocked)
      (known : m ∈ groupNames d) : P.lower m ≠ name ∧ historyMarkerName P m ≠ name := by
    have apart : groupKey P m ≠ groupKey P n := fun equal => free (equal ▸ shut)
    rcases its with rfl | rfl
    · exact ⟨fun equal => apart (congrArg Key.group equal), (markers.reserved n listed m known).symm⟩
    · exact ⟨markers.reserved m known n listed,
        fun equal => apart (congrArg (groupKey P) (marker_eq markers known listed equal))⟩
  rcases group_touch server mem name with ⟨f,drops,acts⟩ | ⟨g,opened,named,-⟩ |
    ⟨m,known,named,-,free,-⟩ | ⟨m,opened,named,-⟩
  · rw [acts,Option.map_map,← same]
    congr 1
    funext x
    exact (drops x).frame_eq
  · exact absurd named (foreign (openGroup_free opened) (openGroup_name opened)).1
  · exact absurd named (foreign free known).2
  · exact absurd named (foreign (openAbsentGroup_free opened) (openAbsentGroup_name opened)).1

theorem deletion_mem (opened : n ∈ openAbsentGroups P d live.directory)
    (present : (live.directory.groups (P.lower n)).isSome) :
    ∃ after, operation .groupDelete (P.lower n) [] [] true after ∈
      (assembled P live.directory d).operations := by
  refine ⟨(ensureMarker P live.directory n []).map Operation.id,?_⟩
  rw [(assembled_eq P d live.directory).1]
  refine mem_append_right _ (mem_flatMap.mpr ⟨n,opened,?_⟩)
  rw [deleteGroupOperations,if_pos present]
  exact mem_append_right _ (mem_singleton_self _)

theorem absent_group_gone (markers : MarkersApart P d) (opened : n ∈ openAbsentGroups P d live.directory) :
    (settled P d server live).directory.groups (P.lower n) = none := by
  have keep : ∀ s, ∀ op ∈ (assembled P live.directory d).operations, s = none →
      groupEffect server (P.lower n) s op = none := by
    rintro s op mem rfl
    rcases group_touch server mem (P.lower n) with ⟨f,-,acts⟩ | ⟨g,present,named,-⟩ |
      ⟨m,known,named,-⟩ | ⟨m,-,-,acts⟩
    · rw [acts,Option.map_none]
    · obtain ⟨absent,free,-⟩ := mem_openAbsentGroups opened
      exact absurd (present_absent_group P d (mem_openGroups present).1 absent
        (congrArg Key.group named)) free
    · exact absurd named.symm (markers.reserved n (openAbsentGroup_name opened) m known)
    · exact acts none
  cases found : live.directory.groups (P.lower n) with
  | none => exact group_end found keep
  | some x =>
    obtain ⟨after,mem⟩ := deletion_mem opened (by rw [found]; rfl)
    exact group_end_made mem (fun _ => if_pos rfl) keep

theorem groupVerdict_none (clear : groupVerdict P v g = none) :
    (g.type = "posix" ∨ g.type = "nonposix") ∧ liveGroupVerdict P v g = none ∧
      markerCollision P v g.name = none := by
  unfold groupVerdict at clear
  split at clear
  · cases clear
  rename_i known
  split at clear
  · cases clear
  · rename_i none
    exact ⟨by tauto,none,clear⟩

theorem markerCollision_none_iff : markerCollision P v n = none ↔
    ∀ x, v.groups (historyMarkerName P n) = some x → historyMarkerDescription n ∈ x.description := by
  unfold markerCollision
  cases found : v.groups (historyMarkerName P n) with
  | none => simp
  | some x => simp

theorem marker_op_mem (missing : v.groups (historyMarkerName P g.name) = none) :
    ∃ after, markerOperation P g.name after ∈ groupOperations P v g := by
  unfold groupOperations
  simp only [ensureMarker,missing]
  split
  · exact ⟨_,mem_cons_of_mem _ (mem_singleton_self _)⟩
  · exact ⟨_,mem_append_right _ (mem_singleton_self _)⟩

theorem marker_created (n : String) (after : List String) :
    (createdGroup server (markerOperation P n after)).description = [historyMarkerDescription n] :=
  rfl

theorem marker_settled (markers : MarkersApart P d) (opened : g ∈ openGroups P d live.directory) :
    Holds (fun x => historyMarkerDescription g.name ∈ x.description)
      ((settled P d server live).directory.groups (historyMarkerName P g.name)) := by
  have listed := openGroup_name opened
  have keep : ∀ s, ∀ op ∈ (assembled P live.directory d).operations,
      Holds (fun x => historyMarkerDescription g.name ∈ x.description) s →
      Holds (fun x => historyMarkerDescription g.name ∈ x.description)
        (groupEffect server (historyMarkerName P g.name) s op) := by
    intro s op mem holds
    rcases group_touch server mem (historyMarkerName P g.name) with ⟨f,drops,acts⟩ |
      ⟨g',present,named,-⟩ | ⟨m,known,named,-,-,after,rfl⟩ | ⟨m,absent,named,-⟩
    · rw [acts]
      refine holds_map holds ?_
      intro x fact
      have same : (f x).description = x.description := congrArg Prod.fst (drops x).frame_eq
      rw [same]
      exact fact
    · exact absurd named (markers.reserved _ (openGroup_name present) _ listed)
    · obtain rfl := marker_eq markers known listed named
      exact ⟨_,if_pos rfl,by simp [marker_created]⟩
    · exact absurd named (markers.reserved _ (openAbsentGroup_name absent) _ listed)
  obtain ⟨-,-,clear⟩ := groupVerdict_none (mem_openGroups opened).2.2
  cases found : live.directory.groups (historyMarkerName P g.name) with
  | none =>
    obtain ⟨after,made⟩ := marker_op_mem found
    exact group_end_made (group_op_mem opened (.inl made))
      (fun _ => ⟨_,if_pos rfl,by simp [marker_created]⟩) keep
  | some x => exact group_end ⟨x,found,markerCollision_none_iff.mp clear x found⟩ keep

def groupCreation (P : Platform) (g : DesiredGroup) : Operation :=
  operation .groupCreate (P.lower g.name) (groupCreateFields g) [] false []

theorem open_group_step (markers : MarkersApart P d) (opened : g ∈ openGroups P d v)
    (mem : op ∈ (assembled P v d).operations) :
    (v.groups (P.lower g.name) = none ∧ op = groupCreation P g) ∨
      ∃ f, (∀ x, GroupMove P d v g x (f x)) ∧ ∀ s, groupEffect server (P.lower g.name) s op = s.map f := by
  obtain ⟨present,free,-⟩ := mem_openGroups opened
  rcases group_touch server mem (P.lower g.name) with ⟨f,drops,acts⟩ |
    ⟨g',opened',named,plain,made⟩ | ⟨m,known,named,-⟩ | ⟨n,absent,named,-⟩
  · exact .inr ⟨f,fun x => .dropped (drops x),acts⟩
  · obtain rfl := entry_unique P d (groups_part P d) (mem_openGroups opened').1 present
      (congrArg Key.group named) (mem_openGroups opened').2.1
    rcases made with made | made
    · rcases groupOperations_cases made with ⟨missing,rfl⟩ | ⟨old,-,rfl⟩ | ⟨-,after,rfl⟩
      · exact .inl ⟨missing,rfl⟩
      · exact .inr ⟨_,fun x => .described x,fun _ => if_pos rfl⟩
      · exact absurd rfl plain
    · rcases membershipOperations_cases made with ⟨authoritative,rfl⟩ | ⟨authoritative,rfl⟩ |
        ⟨after,rfl⟩ | ⟨after,rfl⟩
      · exact .inr ⟨_,fun x => .removed .users authoritative x,fun _ => if_pos rfl⟩
      · exact .inr ⟨_,fun x => .removed .groups authoritative x,fun _ => if_pos rfl⟩
      · exact .inr ⟨_,fun x => .added .users x,fun _ => if_pos rfl⟩
      · exact .inr ⟨_,fun x => .added .groups x,fun _ => if_pos rfl⟩
  · exact absurd named.symm (markers.reserved _ (openGroup_name opened) _ known)
  · obtain ⟨listed,free',-⟩ := mem_openAbsentGroups absent
    exact absurd (present_absent_group P d present listed (congrArg Key.group named.symm)) free'

theorem creation_mem (opened : g ∈ openGroups P d v) (missing : v.groups (P.lower g.name) = none) :
    groupCreation P g ∈ (assembled P v d).operations :=
  group_op_mem opened (.inl (by simp [groupOperations,missing,groupCreation]))

theorem group_touches (markers : MarkersApart P d) (opened : g ∈ openGroups P d live.directory) :
    Touches (groupEffect server (P.lower g.name)) (build P d live).operations
      (live.directory.groups (P.lower g.name)) (groupCreation P g)
      (createdGroup server (groupCreation P g)) (GroupMove P d live.directory g) where
  create _ := if_pos rfl
  creates missing := mem_build.mpr (creation_mem opened missing)
  step _ mem := open_group_step server markers opened (mem_build.mp mem)

end

section
variable {P : Platform} {d : Desired} {v : Directory} {g : DesiredGroup} {x y : LiveGroup}

theorem GroupMove.type_gid (move : GroupMove P d v g x y) :
    y.type = x.type ∧ y.gidNumber = x.gidNumber := by
  have framed (same : y.frame = x.frame) : y.type = x.type ∧ y.gidNumber = x.gidNumber := by
    simp only [frame,Prod.mk.injEq] at same
    exact same.2
  cases move with
  | dropped drop => exact framed drop.frame_eq
  | described => exact ⟨rfl,rfl⟩
  | removed side | added side => exact framed (frame_set side _ x)

theorem GroupMove.description (move : GroupMove P d v g x y) :
    y.description = x.description ∨ y.description = [g.description] := by
  cases move with
  | dropped drop => exact .inl (congrArg Prod.fst drop.frame_eq)
  | described => exact .inr rfl
  | removed side | added side => exact .inl (congrArg Prod.fst (frame_set side _ x))

theorem GroupMove.members (move : GroupMove P d v g x y) (side : Side) :
    side.of y = side.of x ∨
    (∃ n ∈ side.absent d, side.of y = (side.of x).filter (fun m => decide (m ≠ P.lower n))) ∨
    (g.authoritative = true ∧ side.of y = without (side.of x) (side.stale P v g)) ∨
    side.of y = withMembers (side.of x) (side.missing P v (decided P d v) g) := by
  cases move with
  | dropped drop =>
    cases drop with
    | same => exact .inl rfl
    | member other n listed =>
      by_cases same : other = side
      · subst same
        exact .inr (.inl ⟨n,listed,other.of_set _ x⟩)
      · exact .inl (Side.of_set_other same _ x)
  | described => exact .inl (by cases side <;> rfl)
  | removed other authoritative =>
    by_cases same : other = side
    · subst same
      exact .inr (.inr (.inl ⟨authoritative,other.of_set _ x⟩))
    · exact .inl (Side.of_set_other same _ x)
  | added other =>
    by_cases same : other = side
    · subst same
      exact .inr (.inr (.inr (other.of_set _ x)))
    · exact .inl (Side.of_set_other same _ x)

end

inductive UserMove (P : Platform) (server : Server) (v : Directory) (u : DesiredUser) :
    LiveUser → LiveUser → Prop
  | same (x : LiveUser) : UserMove P server v u x x
  | written (old : LiveUser) (found : v.users (P.lower u.name) = some old) (x : LiveUser) :
      UserMove P server v u x (writeUser (attrChanges u old) x)
  | stamped (op : Operation) (x : LiveUser) :
      UserMove P server v u x
        { x with lastPwdChange := server.changed op, pwdExpiration := server.expires op }
  | switched (x : LiveUser) : UserMove P server v u x { x with locked := !u.enabled }

section
variable {P : Platform} {d : Desired} {v : Directory} {op : Operation} (server : Server)

theorem userEffect_elsewhere (other : op.object ≠ name) (s : Option LiveUser) :
    userEffect server name s op = s := by
  unfold userEffect
  cases kind : op.kind <;> simp_all

theorem userEffect_group (onGroup : op.kind.onUser = false) (name : String) (s : Option LiveUser) :
    userEffect server name s op = s := by
  have same : editUser server op = id := by
    funext x
    unfold editUser
    cases kind : op.kind <;> simp_all [Kind.onUser]
  unfold userEffect
  cases kind : op.kind <;> simp_all [Kind.onUser]

/-- An operation leaves a user name alone, belongs to the open entry of that
    name or deletes it. -/
theorem user_touch (mem : op ∈ (assembled P v d).operations) (name : String) :
    (∀ s, userEffect server name s op = s) ∨
    (∃ u ∈ openUsers P d v, P.lower u.name = name ∧
      (op ∈ userOperations P v u ∨ op ∈ lockOperations P v (decided P d v) u)) ∨
    ∃ n ∈ openAbsentUsers P d v, P.lower n = name ∧ ∀ s, userEffect server name s op = none := by
  rcases mem_operations mem with ⟨g,-,made⟩ | ⟨u,opened,made⟩ | ⟨g,-,made⟩ |
    ⟨u,opened,made⟩ | ⟨n,opened,made⟩ | ⟨n,-,made⟩
  · refine .inl ?_
    rcases groupOperations_cases made with ⟨-,rfl⟩ | ⟨old,-,rfl⟩ | ⟨-,after,rfl⟩
    all_goals exact userEffect_group server rfl name
  · by_cases same : P.lower u.name = name
    · exact .inr (.inl ⟨u,opened,same,.inl made⟩)
    refine .inl ?_
    rcases userOperations_cases made with ⟨-,rfl⟩ | ⟨old,-,rfl⟩ | initial
    · exact userEffect_elsewhere server same
    · exact userEffect_elsewhere server same
    · obtain ⟨-,⟨after,rfl⟩ | rfl⟩ := password_cases initial
      all_goals exact userEffect_elsewhere server same
  · refine .inl ?_
    rcases membershipOperations_cases made with ⟨-,rfl⟩ | ⟨-,rfl⟩ | ⟨after,rfl⟩ | ⟨after,rfl⟩
    all_goals exact userEffect_group server rfl name
  · by_cases same : P.lower u.name = name
    · exact .inr (.inl ⟨u,opened,same,.inr made⟩)
    · refine .inl ?_
      rcases lockOperations_cases made with ⟨-,rfl⟩ | ⟨-,after,rfl⟩
      all_goals exact userEffect_elsewhere server same
  · rw [deleteUserOperations_cases made]
    by_cases same : P.lower n = name
    · exact .inr (.inr ⟨n,opened,same,fun _ => if_pos same⟩)
    · exact .inl (userEffect_elsewhere server same)
  · refine .inl ?_
    rcases deleteGroupOperations_cases made with ⟨-,rfl⟩ | ⟨after,rfl⟩
    all_goals exact userEffect_group server rfl name

def userCreation (P : Platform) (u : DesiredUser) : Operation :=
  operation .userCreate (P.lower u.name) ((desiredAttrs u).map fun e => (e.1, ⟨none,e.2⟩)) [] false []

theorem open_user_step (opened : u ∈ openUsers P d v) (mem : op ∈ (assembled P v d).operations) :
    (v.users (P.lower u.name) = none ∧ op = userCreation P u) ∨
      ∃ f, (∀ x, UserMove P server v u x (f x)) ∧
        ∀ s, userEffect server (P.lower u.name) s op = s.map f := by
  obtain ⟨present,free,-⟩ := mem_openUsers opened
  rcases user_touch server mem (P.lower u.name) with same | ⟨u',opened',named,made⟩ |
    ⟨n,absent,named,-⟩
  · exact .inr ⟨id,fun x => .same x,fun s => by rw [same,Option.map_id_fun,id]⟩
  · obtain rfl := entry_unique P d (users_part P d) (mem_openUsers opened').1 present
      (congrArg Key.user named) (mem_openUsers opened').2.1
    rcases made with made | made
    · rcases userOperations_cases made with ⟨missing,rfl⟩ | ⟨old,found,rfl⟩ | initial
      · exact .inl ⟨missing,rfl⟩
      · exact .inr ⟨_,fun x => .written old found x,fun _ => if_pos rfl⟩
      · obtain ⟨-,⟨after,rfl⟩ | rfl⟩ := password_cases initial
        · exact .inr ⟨_,fun x => .stamped _ x,fun _ => if_pos rfl⟩
        · exact .inr ⟨_,fun x => .stamped _ x,fun _ => if_pos rfl⟩
    · have switch (x : LiveUser) (locked : Bool) (right : locked = !u'.enabled) :
          UserMove P server v u' x { x with locked := locked } := right ▸ .switched x
      rcases lockOperations_cases made with ⟨on,rfl⟩ | ⟨off,after,rfl⟩
      · exact .inr ⟨_,fun x => switch x false (by rw [on]; rfl),fun _ => if_pos rfl⟩
      · exact .inr ⟨_,fun x => switch x true (by rw [off]; rfl),fun _ => if_pos rfl⟩
  · obtain ⟨listed,free',-⟩ := mem_openAbsentUsers absent
    exact absurd (present_absent_user P d present listed (congrArg Key.user named.symm)) free'

variable {live : Live}

theorem user_touches (opened : u ∈ openUsers P d live.directory) :
    Touches (userEffect server (P.lower u.name)) (build P d live).operations
      (live.directory.users (P.lower u.name)) (userCreation P u)
      (createdUser server (userCreation P u)) (UserMove P server live.directory u) where
  create _ := if_pos rfl
  creates missing := mem_build.mpr (user_op_mem opened (.inl (by
    simp [userOperations,missing,userCreation])))
  step _ mem := open_user_step server opened (mem_build.mp mem)

theorem blocked_user (shut : userKey P n ∈ (assembled P live.directory d).blocked) :
    (settled P d server live).directory.users (P.lower n) = live.directory.users (P.lower n) := by
  rw [settled,plan_users]
  refine foldl_invariant (I := fun s => s = live.directory.users (P.lower n)) rfl ?_
  intro s op mem same
  rcases user_touch server (mem_build.mp mem) (P.lower n) with still | ⟨u,opened,named,-⟩ |
    ⟨m,opened,named,-⟩
  · rw [still,same]
  · have same : userKey P u.name = userKey P n := congrArg Key.user named
    exact absurd (same ▸ shut) (openUser_free opened)
  · have same : userKey P m = userKey P n := congrArg Key.user named
    exact absurd (same ▸ shut) (openAbsentUser_free opened)

theorem absent_user_gone (opened : n ∈ openAbsentUsers P d live.directory) :
    (settled P d server live).directory.users (P.lower n) = none := by
  have keep : ∀ s, ∀ op ∈ (build P d live).operations, s = none →
      userEffect server (P.lower n) s op = none := by
    rintro s op mem rfl
    rcases user_touch server (mem_build.mp mem) (P.lower n) with still | ⟨u,present,named,-⟩ |
      ⟨m,-,-,acts⟩
    · exact still none
    · obtain ⟨absent,free,-⟩ := mem_openAbsentUsers opened
      exact absurd (present_absent_user P d (mem_openUsers present).1 absent (congrArg Key.user named)) free
    · exact acts none
  rw [settled,plan_users]
  cases found : live.directory.users (P.lower n) with
  | none => exact foldl_invariant (I := fun s => s = none) rfl keep
  | some x =>
    have made : operation .userDelete (P.lower n) [] [] true [] ∈
        (assembled P live.directory d).operations := by
      rw [(assembled_eq P d live.directory).1]
      refine mem_append_left _ (mem_append_right _ (mem_flatMap.mpr ⟨n,opened,?_⟩))
      simp [deleteUserOperations,found]
    exact foldl_establish (mem_build.mpr made) (fun _ => if_pos rfl) keep

end

end Pilot.Identity
