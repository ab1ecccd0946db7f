import Pilot.Identity.Settling

/-!
Planning again after a plan was applied. Every question the planner asks about
an open name is settled, so no operation is left for it, and the verdicts on
the blocked names are the ones of the first plan.
-/
namespace Pilot.Identity
open Pilot.Roster Pilot.Fold List Side LiveGroup

section
variable {P : Platform} {d : Desired} {live : Live} {g : DesiredGroup}

theorem liveGroupVerdict_none_iff : liveGroupVerdict P v g = none ↔
    ∀ x, v.groups (P.lower g.name) = some x →
      x.type ≠ .unrecognized ∧ x.type.text = g.type ∧ ∀ k, g.gid = some k → x.gidNumber = toString k := by
  unfold liveGroupVerdict
  cases found : v.groups (P.lower g.name) with
  | none => simp
  | some x =>
    by_cases unknown : x.type = .unrecognized
    · simp [unknown]
    by_cases other : x.type.text = g.type
    · cases wanted : g.gid with
      | none | some k => simp [unknown,other]
    · simp [unknown,other]

theorem created_type (server : Server) (known : g.type = "posix" ∨ g.type = "nonposix") :
    (createdGroup server (groupCreation P g)).type.text = g.type ∧
      ∀ k, g.gid = some k → (createdGroup server (groupCreation P g)).gidNumber = toString k := by
  unfold createdGroup groupCreation operation groupCreateFields
  rcases known with posix | nonposix
  · cases wanted : g.gid with
    | none => simp [posix,writeGroup,written,GroupType.text]
    | some k => simp [posix,writeGroup,written,writtenText,GroupType.text]
  · cases wanted : g.gid with
    | none => simp [nonposix,writeGroup,written,GroupType.text]
    | some k => simp [nonposix,writeGroup,written,writtenText,GroupType.text]

theorem created_description (server : Server) :
    (createdGroup server (groupCreation P g)).description = [g.description] :=
  rfl

theorem created_members (server : Server) (side : Side) :
    side.of (createdGroup server (groupCreation P g)) = [] := by
  cases side <;> rfl

section
variable (server : Server) (markers : MarkersApart P d)
  (opened : g ∈ openGroups P d live.directory)
include markers opened

theorem type_settled : Holds (fun x => x.type.text = g.type ∧
    ∀ k, g.gid = some k → x.gidNumber = toString k)
      ((settled P d server live).directory.groups (P.lower g.name)) := by
  obtain ⟨known,clear,-⟩ := groupVerdict_none (mem_openGroups opened).2.2
  rw [settled,plan_groups]
  refine (group_touches server markers opened).settles ?_ ?_ ?_
  · intro x y move same
    rw [move.type_gid.1,move.type_gid.2]
    exact same
  · intro _
    exact created_type server known
  · intro x found
    exact (liveGroupVerdict_none_iff.mp clear x found).2

theorem description_settled : Holds (fun x => x.description = [g.description])
    ((settled P d server live).directory.groups (P.lower g.name)) := by
  have closed (x y : LiveGroup) (move : GroupMove P d live.directory g x y)
      (same : x.description = [g.description]) : y.description = [g.description] := by
    rcases move.description with kept | made
    · rw [kept,same]
    · exact made
  have touches := group_touches server markers opened
  rw [settled,plan_groups]
  by_cases right : ∀ x, live.directory.groups (P.lower g.name) = some x → x.description = [g.description]
  · exact touches.settles closed (fun _ => created_description server) right
  push Not at right
  obtain ⟨x,found,wrong⟩ := right
  have made : operation .groupUpdate (P.lower g.name)
      [(.description, ⟨some (listValue x.description),.text g.description⟩)] [] false [] ∈
      groupOperations P live.directory g := by
    simp [groupOperations,found,isOnly,wrong]
  exact touches.settles_made (operations_ranked P d live) (by exact Nat.zero_lt_one)
    (mem_build.mpr (group_op_mem opened (.inl made))) (fun _ => if_pos rfl) (fun _ => rfl) closed

end

section
variable {side : Side}

theorem wanted_lower (lower : LowerMembers P d) (present : g ∈ d.groups) :
    ∀ m ∈ side.wanted g, P.lower m = m := by
  cases side with
  | users => exact (lower g present).1
  | groups => exact (lower g present).2

theorem live_lower (lower : LowerLive P live) {name : String} :
    ∀ m ∈ membersOf (live.directory.groups name) side.of, P.lower m = m := by
  intro m mem
  cases found : live.directory.groups name with
  | none =>
    rw [found] at mem
    cases mem
  | some x =>
    rw [found] at mem
    have listed : x ∈ live.groups := mem_reverse.mp (mem_of_find?_eq_some found)
    cases side with
    | users => exact (lower x listed).1 m mem
    | groups => exact (lower x listed).2 m mem

theorem wanted_not_absent (opened : g ∈ openGroups P d v) :
    ∀ m ∈ side.wanted g, ∀ n ∈ side.absent d, m ≠ P.lower n := by
  cases side with
  | users => exact (openGroup_references opened).1
  | groups => exact (openGroup_references opened).2

theorem GroupMove.keeps_wanted (lower : LowerMembers P d) (opened : g ∈ openGroups P d v)
    (move : GroupMove P d v g x y) (listed : m ∈ side.wanted g) (member : m ∈ side.of x) :
    m ∈ side.of y := by
  rcases move.members side with same | ⟨n,absent,same⟩ | ⟨-,same⟩ | same
  · rw [same]
    exact member
  · have other := wanted_not_absent opened m listed n absent
    simp [same,member,other]
  · have fresh : m ∉ side.stale P v g := by
      intro stale
      refine (mem_difference.mp stale).2 (mem_map.mpr ⟨m,listed,?_⟩)
      exact wanted_lower lower (mem_openGroups opened).1 m listed
    simp [same,without,member,fresh]
  · rw [same]
    exact mem_append_left _ member

theorem GroupMove.members_from (move : GroupMove P d v g x y) (member : m ∈ side.of y) :
    m ∈ side.of x ∨ m ∈ side.wanted g := by
  rcases move.members side with same | ⟨n,absent,same⟩ | ⟨-,same⟩ | same
  · exact .inl (same ▸ member)
  · rw [same] at member
    exact .inl (mem_filter.mp member).1
  · rw [same] at member
    exact .inl (mem_filter.mp member).1
  rw [same] at member
  rcases mem_append.mp member with old | new
  · exact .inl old
  · have added := (mem_difference.mp (mem_filter.mp new).1).1
    exact .inr (mem_filter.mp added).1

theorem memberOperation_mem {kind : Kind} {name : String} {members after : List String}
    (some : members ≠ []) :
    operation kind name [] members false after ∈ memberOperation kind name members after := by
  rw [memberOperation,if_neg some]
  exact mem_singleton_self _

theorem membershipOperations_eq (v : Directory) (b : Builder) :
    membershipOperations P v b g =
      (if g.authoritative then
          memberOperation .memberUserRemove (P.lower g.name) (users.stale P v g) []
          ++ memberOperation .memberGroupRemove (P.lower g.name) (groups.stale P v g) []
        else [])
      ++ memberOperation .memberUserAdd (P.lower g.name) (users.missing P v b g)
          (deps (b.createdGroups.lookup (P.lower g.name)) (users.missing P v b g) b.createdUsers)
      ++ memberOperation .memberGroupAdd (P.lower g.name) (groups.missing P v b g)
          (deps (b.createdGroups.lookup (P.lower g.name)) (groups.missing P v b g) b.createdGroups) :=
  rfl

theorem addition_mem {v : Directory} (side : Side) (some : side.missing P v b g ≠ []) :
    ∃ after, operation side.addition (P.lower g.name) [] (side.missing P v b g) false after ∈
      membershipOperations P v b g := by
  simp only [membershipOperations_eq,mem_append]
  cases side with
  | users => exact ⟨_,.inl (.inr (memberOperation_mem some))⟩
  | groups => exact ⟨_,.inr (memberOperation_mem some)⟩

theorem removal_mem {v : Directory} (side : Side) (authoritative : g.authoritative = true)
    (some : side.stale P v g ≠ []) :
    operation side.removal (P.lower g.name) [] (side.stale P v g) false [] ∈
      membershipOperations P v b g := by
  simp only [membershipOperations_eq,mem_append,authoritative,if_true]
  cases side with
  | users => exact .inl (.inl (.inl (memberOperation_mem some)))
  | groups => exact .inl (.inl (.inr (memberOperation_mem some)))

theorem map_lower {names : List String} (lower : ∀ m ∈ names, P.lower m = m) :
    names.map P.lower = names := by
  rw [map_congr_left lower,map_id']

theorem mem_stale {v : Directory} (lower : LowerMembers P d) (present : g ∈ d.groups) :
    m ∈ side.stale P v g ↔ m ∈ membersOf (v.groups (P.lower g.name)) side.of ∧ m ∉ side.wanted g := by
  rw [stale,mem_difference,map_lower (wanted_lower lower present)]

theorem mem_missing (lower : LowerLive P live) :
    m ∈ side.missing P live.directory b g ↔ m ∈ side.kept P b g ∧
      m ∉ membersOf (live.directory.groups (P.lower g.name)) side.of := by
  rw [missing,mem_difference,map_lower (live_lower lower)]

variable (side) (server : Server) (markers : MarkersApart P d) (lower : LowerMembers P d)
  (opened : g ∈ openGroups P d live.directory)
include markers lower opened

theorem members_added (lowerLive : LowerLive P live) :
    Holds (fun x => ∀ m ∈ side.kept P (decided P d live.directory) g, m ∈ side.of x)
      ((settled P d server live).directory.groups (P.lower g.name)) := by
  have closed (p : String → Prop) (x y : LiveGroup) (move : GroupMove P d live.directory g x y)
      (there : ∀ m ∈ side.kept P (decided P d live.directory) g, p m → m ∈ side.of x) :
      ∀ m ∈ side.kept P (decided P d live.directory) g, p m → m ∈ side.of y :=
    fun m kept right => move.keeps_wanted lower opened (mem_filter.mp kept).1 (there m kept right)
  have touches := group_touches server markers opened
  rw [settled,plan_groups]
  by_cases none : side.missing P live.directory (decided P d live.directory) g = []
  · have all : ∀ m ∈ side.kept P (decided P d live.directory) g,
        m ∈ membersOf (live.directory.groups (P.lower g.name)) side.of := by
      intro m kept
      by_contra out
      have missing := (mem_missing lowerLive).mpr ⟨kept,out⟩
      rw [none] at missing
      cases missing
    refine touches.settles (fun x y move there m kept => closed (fun _ => True) x y move
      (fun m kept _ => there m kept) m kept trivial) ?_ ?_
    · intro missing m kept
      have member := all m kept
      rw [missing] at member
      cases member
    · intro x found m kept
      have member := all m kept
      rw [found] at member
      exact member
  · obtain ⟨after,made⟩ := addition_mem side none
    refine touches.settles_by (operations_ranked P d live) (f := fun x => side.set
        (withMembers (side.of x) (side.missing P live.directory (decided P d live.directory) g)) x)
      (Q := fun x => ∀ m ∈ side.kept P (decided P d live.directory) g,
        m ∈ membersOf (live.directory.groups (P.lower g.name)) side.of → m ∈ side.of x)
      (by cases side <;> exact Nat.zero_lt_succ _) (mem_build.mpr (group_op_mem opened (.inr made)))
      (by cases side <;> exact fun _ => if_pos rfl) ?_ ?_ (closed _) ?_ ?_
    · intro x there m kept
      rw [of_set,withMembers,mem_append,without,mem_filter,decide_eq_true_eq]
      by_cases already : m ∈ side.of x
      · exact .inl already
      · refine .inr ⟨(mem_missing lowerLive).mpr ⟨kept,?_⟩,already⟩
        exact fun member => already (there m kept member)
    · intro x y move there m kept
      exact closed (fun _ => True) x y move (fun m kept _ => there m kept) m kept trivial
    · intro missing m kept member
      rw [missing] at member
      cases member
    · intro x found m kept member
      rw [found] at member
      exact member

theorem members_removed (authoritative : g.authoritative = true) :
    Holds (fun x => ∀ m ∈ side.of x, m ∈ side.wanted g)
      ((settled P d server live).directory.groups (P.lower g.name)) := by
  have present := (mem_openGroups opened).1
  have closed (p : String → Prop) (weak : ∀ m ∈ side.wanted g, p m) (x y : LiveGroup)
      (move : GroupMove P d live.directory g x y) (right : ∀ m ∈ side.of x, p m) :
      ∀ m ∈ side.of y, p m := by
    intro m member
    rcases move.members_from member with old | listed
    · exact right m old
    · exact weak m listed
  have touches := group_touches server markers opened
  rw [settled,plan_groups]
  by_cases none : side.stale P live.directory g = []
  · refine touches.settles (closed _ (fun _ listed => listed)) ?_ ?_
    · intro _ m member
      rw [created_members] at member
      cases member
    intro x found m member
    by_contra out
    have stale : m ∈ side.stale P live.directory g :=
      (mem_stale lower present).mpr ⟨by rw [found]; exact member,out⟩
    rw [none] at stale
    cases stale
  · refine touches.settles_by (operations_ranked P d live) (f := fun x => side.set
        (without (side.of x) (side.stale P live.directory g)) x)
      (Q := fun x => ∀ m ∈ side.of x,
        m ∈ membersOf (live.directory.groups (P.lower g.name)) side.of ∨ m ∈ side.wanted g)
      (by cases side <;> exact Nat.zero_lt_succ _)
      (mem_build.mpr (group_op_mem opened (.inr (removal_mem side authoritative none))))
      (by cases side <;> exact fun _ => if_pos rfl) ?_ (closed _ (fun _ listed => listed))
      (closed _ (fun _ listed => .inr listed)) ?_ ?_
    · intro x from' m member
      rw [of_set,without,mem_filter,decide_eq_true_eq,mem_stale lower present] at member
      rcases from' m member.1 with old | listed
      · by_contra out
        exact member.2 ⟨old,out⟩
      · exact listed
    · intro _ m member
      rw [created_members] at member
      cases member
    · intro x found m member
      rw [found]
      exact .inl member

end

end

structure Agrees (u : DesiredUser) (x : LiveUser) : Prop where
  first : x.first = u.first
  last : x.last = u.last
  shell : x.shell = u.shell
  home : x.home = u.home
  displayName : ∀ s, u.displayName = some s → x.displayName = s
  mail : ∀ s, u.email = some s → x.mail = [s]

structure SameIds (u : DesiredUser) (x : LiveUser) : Prop where
  uid : ∀ n, u.uid = some n → x.uidNumber = toString n
  gid : ∀ n, u.gid = some n → x.gidNumber = toString n

def LiveUser.profile (x : LiveUser) :
    String × String × String × String × String × List String :=
  (x.first, x.last, x.shell, x.home, x.displayName, x.mail)

section
variable {u : DesiredUser} {x old : LiveUser}

@[simp]
theorem written_append (a b : List (Attribute × Change)) (attr : Attribute) :
    written (a ++ b) attr = (written a attr).or (written b attr) := by
  unfold written
  rw [find?_append,Option.map_or]

@[simp]
theorem written_nil (attr : Attribute) : written [] attr = none := rfl

@[simp]
theorem written_cons (f : Attribute × Change) (fields : List (Attribute × Change)) (attr : Attribute) :
    written (f :: fields) attr = if f.1 = attr then some f.2.desired else written fields attr := by
  unfold written
  by_cases same : f.1 = attr
  · simp [same]
  · simp [same]

theorem written_ite [Decidable c] (a b : List (Attribute × Change)) (attr : Attribute) :
    written (if c then a else b) attr = if c then written a attr else written b attr :=
  apply_ite (written · attr) c a b

theorem attrChange_nil : attrChange attr live desired = [] ↔ live = desired := by
  unfold attrChange
  split <;> simp_all

theorem written_attrChange (attr other : Attribute) (live desired : String) :
    written (attrChange attr live desired) other =
      if attr = other ∧ live ≠ desired then some (.text desired) else none := by
  unfold attrChange
  by_cases same : live = desired
  · simp [same]
  · simp [same]

theorem attrChanges_nil_iff : attrChanges u x = [] ↔ Agrees u x := by
  have parts : attrChanges u x = [] ↔ x.first = u.first ∧ x.last = u.last ∧ x.shell = u.shell ∧
      x.home = u.home ∧ (∀ s, u.displayName = some s → x.displayName = s) ∧
      ∀ s, u.email = some s → x.mail = [s] := by
    unfold attrChanges
    cases u.displayName <;> cases u.email <;>
      simp [attrChange_nil,isOnly]
  rw [parts]
  exact ⟨fun ⟨a,b,c,d,e,f⟩ => ⟨a,b,c,d,e,f⟩,fun ⟨a,b,c,d,e,f⟩ => ⟨a,b,c,d,e,f⟩⟩

theorem writtenText_change (change : written fields attr = written (attrChange attr live desired) attr)
    (from' : value = live ∨ value = desired) : writtenText fields attr value = desired := by
  unfold writtenText
  rw [change,written_attrChange]
  by_cases same : live = desired
  · simp only [same,ne_eq,not_true,and_false,if_false]
    rcases from' with old | done
    · rw [old,same]
    · exact done
  · simp [same]

theorem writtenList_mail (change : written fields .mail = if live = [s] then none else some (.list [s]))
    (from' : value = live ∨ value = [s]) : writtenList fields .mail value = [s] := by
  unfold writtenList
  rw [change]
  by_cases same : live = [s]
  · simp only [same,if_true]
    rcases from' with old | done
    · rw [old,same]
    · exact done
  · simp [same]

theorem write_agrees (from' : x.profile = old.profile ∨ Agrees u x) :
    Agrees u (writeUser (attrChanges u old) x) := by
  have attr : (x.first = old.first ∨ x.first = u.first) ∧ (x.last = old.last ∨ x.last = u.last) ∧
      (x.shell = old.shell ∨ x.shell = u.shell) ∧ (x.home = old.home ∨ x.home = u.home) ∧
      (∀ s, u.displayName = some s → x.displayName = old.displayName ∨ x.displayName = s) ∧
      ∀ s, u.email = some s → x.mail = old.mail ∨ x.mail = [s] := by
    rcases from' with same | agrees
    · simp only [LiveUser.profile,Prod.mk.injEq] at same
      tauto
    · exact ⟨.inr agrees.first,.inr agrees.last,.inr agrees.shell,.inr agrees.home,
        fun s given => .inr (agrees.displayName s given),fun s given => .inr (agrees.mail s given)⟩
  obtain ⟨first,last,shell,home,displayName,mail⟩ := attr
  refine ⟨writtenText_change ?_ first,writtenText_change ?_ last,writtenText_change ?_ shell,
    writtenText_change ?_ home,fun s given => writtenText_change ?_ (displayName s given),
    fun s given => writtenList_mail ?_ (mail s given)⟩
  all_goals unfold attrChanges
  on_goal 5 => rw [given]
  on_goal 6 => rw [given]
  all_goals cases u.displayName <;> cases u.email <;> simp [written_attrChange,isOnly,written_ite]

theorem write_ids (u : DesiredUser) (old x : LiveUser) :
    (writeUser (attrChanges u old) x).uidNumber = x.uidNumber ∧
      (writeUser (attrChanges u old) x).gidNumber = x.gidNumber := by
  have unwritten (attr : Attribute) (id : attr = .uidnumber ∨ attr = .gidnumber) :
      written (attrChanges u old) attr = none := by
    unfold written
    rw [Option.map_eq_none_iff,find?_eq_none]
    intro f mem
    have other := attrChanges_ids u old f mem
    rcases id with rfl | rfl
    · simp [other.1]
    · simp [other.2]
  simp [writeUser,writtenText,unwritten .uidnumber (.inl rfl),unwritten .gidnumber (.inr rfl)]

theorem idPart_nil_iff {wanted : Option Int} : idPart attr live wanted = [] ↔
    ∀ n, wanted = some n → live = toString n := by
  cases wanted with
  | none | some n => simp [idPart]

theorem idChange_none_iff : idChange u x = none ↔ SameIds u x := by
  unfold idChange
  simp only [append_eq_nil_iff,idPart_nil_iff,ite_eq_left_iff,reduceCtorEq,imp_false,Decidable.not_not]
  exact ⟨fun same => ⟨same.1,same.2⟩,fun same => ⟨same.uid,same.gid⟩⟩

theorem created_agrees (server : Server) :
    Agrees u (createdUser server (userCreation P u)) ∧
      SameIds u (createdUser server (userCreation P u)) := by
  unfold createdUser userCreation operation desiredAttrs writeUser
  refine ⟨?_,?_⟩
  · constructor <;> cases u.displayName <;> cases u.email <;> simp [writtenText,writtenList]
  · constructor <;> cases u.displayName <;> cases u.email <;> cases u.uid <;> cases u.gid <;>
      simp [writtenText]

end

section
variable {P : Platform} {d : Desired} {live : Live} {u : DesiredUser} {v : Directory}

theorem userVerdict_none_iff : userVerdict P v u = none ↔
    v.preserved (P.lower u.name) = false ∧ ∀ x, v.users (P.lower u.name) = some x → SameIds u x := by
  unfold userVerdict
  cases kept : v.preserved (P.lower u.name) with
  | true => simp [kept]
  | false =>
    cases found : v.users (P.lower u.name) with
    | none => simp [kept,found]
    | some x => simp [kept,found,idChange_none_iff]

def PasswordDone (u : DesiredUser) (x : LiveUser) : Prop :=
  x.lastPwdChange ≠ "" ∧ (u.preserveExisting = true ∨ onResetPassword x = true)

instance (u : DesiredUser) (x : LiveUser) : Decidable (PasswordDone u x) :=
  inferInstanceAs (Decidable (_ ∧ _))

theorem stamped_done (server : Server) (op : Operation) (x : LiveUser) :
    PasswordDone u { x with lastPwdChange := server.changed op, pwdExpiration := server.expires op } := by
  refine ⟨server.changed_nonempty op,.inr ?_⟩
  simp [onResetPassword,server.expires_nonempty op,server.expires_le op]

theorem password_nil_iff (declared : u.hasInitialPassword = true)
    (found : v.users (P.lower u.name) = some x) : password P v u = [] ↔ PasswordDone u x := by
  unfold password PasswordDone
  simp only [declared,Bool.not_true,Bool.false_eq_true,if_false,found]
  by_cases empty : x.lastPwdChange = ""
  · simp [empty]
  · cases u.preserveExisting <;> cases onResetPassword x <;> simp [empty]

theorem password_op (declared : u.hasInitialPassword = true)
    (open' : ∀ x, v.users (P.lower u.name) = some x → ¬ PasswordDone u x) :
    ∃ op ∈ password P v u, 3 < op.kind.rank ∧ ∀ (server : Server) s,
      userEffect server (P.lower u.name) s op = s.map (fun x =>
        { x with lastPwdChange := server.changed op, pwdExpiration := server.expires op }) := by
  have some : password P v u ≠ [] := by
    cases found : v.users (P.lower u.name) with
    | none => simp [password,declared,found]
    | some x => exact fun none => open' x found ((password_nil_iff declared found).mp none)
  obtain ⟨op,made⟩ := exists_mem_of_ne_nil _ some
  refine ⟨op,made,?_⟩
  obtain ⟨-,⟨after,rfl⟩ | rfl⟩ := password_cases made
  · exact ⟨(by decide : 3 < 5),fun _ _ => if_pos rfl⟩
  · exact ⟨(by decide : 3 < 6),fun _ _ => if_pos rfl⟩

variable (server : Server) (opened : u ∈ openUsers P d live.directory)
include opened

theorem ids_settled : Holds (SameIds u) ((settled P d server live).directory.users (P.lower u.name)) := by
  rw [settled,plan_users]
  refine (user_touches server opened).settles ?_ (fun _ => (created_agrees server).2)
    (userVerdict_none_iff.mp (mem_openUsers opened).2.2).2
  intro x y move same
  cases move with
  | same => exact same
  | written old found =>
    obtain ⟨uid,gid⟩ := write_ids u old x
    exact ⟨fun n given => uid.trans (same.uid n given),fun n given => gid.trans (same.gid n given)⟩
  | stamped op | switched => exact ⟨same.uid,same.gid⟩

theorem attrs_settled : Holds (Agrees u) ((settled P d server live).directory.users (P.lower u.name)) := by
  have closed (x y : LiveUser) (move : UserMove P server live.directory u x y)
      (same : Agrees u x) : Agrees u y := by
    cases move with
    | same => exact same
    | written old found => exact write_agrees (.inr same)
    | stamped op | switched => exact ⟨same.first,same.last,same.shell,same.home,same.displayName,same.mail⟩
  have touches := user_touches server opened
  rw [settled,plan_users]
  by_cases right : ∀ x, live.directory.users (P.lower u.name) = some x → Agrees u x
  · exact touches.settles closed (fun _ => (created_agrees server).1) right
  push Not at right
  obtain ⟨old,found,wrong⟩ := right
  have made : operation .userUpdate (P.lower u.name) (attrChanges u old) [] false [] ∈
      userOperations P live.directory u := by
    simp [userOperations,found,attrChanges_nil_iff,wrong]
  refine touches.settles_by
    (operations_ranked P d live) (by exact (by decide : 3 < 4))
    (mem_build.mpr (user_op_mem opened (.inl made))) (fun _ => if_pos rfl)
    (fun x => write_agrees) closed ?_ ?_ ?_
  · rintro x y move (same | agrees)
    · cases move with
      | same => exact .inl same
      | written other found' =>
        rw [found,Option.some.injEq] at found'
        exact .inr (found' ▸ write_agrees (.inl same))
      | stamped op | switched => exact .inl same
    · exact .inr (closed x y move agrees)
  · intro missing
    rw [found] at missing
    cases missing
  · intro x start
    rw [found,Option.some.injEq] at start
    exact .inl (start ▸ rfl)

theorem password_settled (declared : u.hasInitialPassword = true) :
    Holds (PasswordDone u) ((settled P d server live).directory.users (P.lower u.name)) := by
  have closed (x y : LiveUser) (move : UserMove P server live.directory u x y)
      (done : PasswordDone u x) : PasswordDone u y := by
    cases move with
    | same => exact done
    | written old found => exact done
    | stamped op => exact stamped_done server op x
    | switched => exact done
  have touches := user_touches server opened
  rw [settled,plan_users]
  by_cases done : ∃ x, live.directory.users (P.lower u.name) = some x ∧ PasswordDone u x
  · obtain ⟨x,found,done⟩ := done
    rw [found] at touches ⊢
    exact touches.settles closed (by simp) (fun y same => Option.some.inj same ▸ done)
  · push Not at done
    obtain ⟨op,made,later,acts⟩ := password_op declared done
    have made : op ∈ userOperations P live.directory u := mem_append_right _ made
    exact touches.settles_made (operations_ranked P d live) later
      (mem_build.mpr (user_op_mem opened (.inl made))) (acts server) (stamped_done server op) closed

theorem lock_settled : Holds (fun x => x.locked = !u.enabled)
    ((settled P d server live).directory.users (P.lower u.name)) := by
  have closed (x y : LiveUser) (move : UserMove P server live.directory u x y)
      (right : x.locked = !u.enabled) : y.locked = !u.enabled := by
    cases move with
    | same => exact right
    | written old found => exact right
    | stamped op => exact right
    | switched => rfl
  have touches := user_touches server opened
  rw [settled,plan_users]
  by_cases none : lockOperations P live.directory (decided P d live.directory) u = []
  · refine touches.settles closed ?_ ?_
    · intro missing
      have enabled : u.enabled = true := by
        by_contra off
        simp [lockOperations,missing,off] at none
      rw [enabled]
      rfl
    · intro x found
      unfold lockOperations at none
      cases locked : x.locked <;> cases enabled : u.enabled <;> simp_all
  · obtain ⟨op,made⟩ := exists_mem_of_ne_nil _ none
    have listed := mem_build.mpr (user_op_mem opened (.inr made))
    rcases lockOperations_cases made with ⟨on,rfl⟩ | ⟨off,after,rfl⟩
    · exact touches.settles_made (operations_ranked P d live) (by exact (by decide : 3 < 11)) listed
        (fun _ => if_pos rfl) (fun _ => by rw [on]; rfl) closed
    · exact touches.settles_made (operations_ranked P d live) (by exact (by decide : 3 < 12)) listed
        (fun _ => if_pos rfl) (fun _ => by rw [off]; rfl) closed

end

section
variable {α : Type} {name : α → String} {key : String → Key} {blocked : List Key} {xs : List α}
  {verdict verdict' : α → Option (Reason × String)}

theorem openOf_congr (same : ∀ x ∈ xs, key (name x) ∉ blocked → verdict' x = verdict x) :
    openOf name key verdict' blocked xs = openOf name key verdict blocked xs := by
  refine filter_congr ?_
  intro x mem
  have free := mem_filter.mp mem
  rw [same x free.1 (of_decide_eq_true free.2)]

theorem shutOf_congr (same : ∀ x ∈ xs, key (name x) ∉ blocked → verdict' x = verdict x) :
    shutOf name key verdict' blocked xs = shutOf name key verdict blocked xs := by
  refine filter_congr ?_
  intro x mem
  have free := mem_filter.mp mem
  rw [same x free.1 (of_decide_eq_true free.2)]

theorem blockedEntries_congr (P : Platform)
    (same : ∀ x ∈ xs, key (name x) ∉ blocked → verdict' x = verdict x) :
    (unblockedOf name key blocked xs).filterMap (blockedEntry P name verdict') =
      (unblockedOf name key blocked xs).filterMap (blockedEntry P name verdict) := by
  refine filterMap_congr ?_
  intro x mem
  have free := mem_filter.mp mem
  rw [blockedEntry,blockedEntry,same x free.1 (of_decide_eq_true free.2)]

end

variable {n : String}

section
variable {P : Platform} {d : Desired}

theorem markerCollision_congr
    (same : (v'.groups (historyMarkerName P n)).map frame = (v.groups (historyMarkerName P n)).map frame) :
    markerCollision P v' n = markerCollision P v n := by
  unfold markerCollision
  cases new : v'.groups (historyMarkerName P n) <;> cases old : v.groups (historyMarkerName P n)
  · rfl
  · simp [new,old] at same
  · simp [new,old] at same
  · simp only [new,old,Option.map_some,Option.some.injEq,frame,Prod.mk.injEq] at same
    simp only [same.1]

theorem groupVerdict_congr
    (own : (v'.groups (P.lower g.name)).map frame = (v.groups (P.lower g.name)).map frame)
    (marker : (v'.groups (historyMarkerName P g.name)).map frame =
      (v.groups (historyMarkerName P g.name)).map frame) :
    groupVerdict P v' g = groupVerdict P v g := by
  have lives : liveGroupVerdict P v' g = liveGroupVerdict P v g := by
    unfold liveGroupVerdict
    cases new : v'.groups (P.lower g.name) <;> cases old : v.groups (P.lower g.name)
    · rfl
    · simp [new,old] at own
    · simp [new,old] at own
    · simp only [new,old,Option.map_some,Option.some.injEq,frame,Prod.mk.injEq] at own
      simp only [own.2.1,own.2.2]
  rw [groupVerdict,groupVerdict,lives,markerCollision_congr marker]

theorem absentGroupVerdict_congr
    (own : (v'.groups (P.lower n)).map frame = (v.groups (P.lower n)).map frame)
    (marker : (v'.groups (historyMarkerName P n)).map frame =
      (v.groups (historyMarkerName P n)).map frame) :
    absentGroupVerdict P v' n = absentGroupVerdict P v n := by
  have present : (v'.groups (P.lower n)).isSome = (v.groups (P.lower n)).isSome := by
    rw [← Option.isSome_map,own,Option.isSome_map]
  rw [absentGroupVerdict,absentGroupVerdict,present,markerCollision_congr marker]

theorem shut_group_blocked (present : g ∈ d.groups) (free : groupKey P g.name ∉ early P d)
    (shut : (groupVerdict P v g).isSome) : groupKey P g.name ∈ (assembled P v d).blocked := by
  rw [(assembled_eq P d v).2.1,(usersPass_eq P d v).2.1]
  simp only [mem_append,mem_map]
  refine .inl (.inl (.inl (.inr ⟨g,?_,rfl⟩)))
  simp [shutGroups,shutOf,unblockedOf,present,free,shut]

theorem shut_user_blocked (present : u ∈ d.users) (free : userKey P u.name ∉ early P d)
    (shut : (userVerdict P v u).isSome) : userKey P u.name ∈ (assembled P v d).blocked := by
  rw [(assembled_eq P d v).2.1,(usersPass_eq P d v).2.1]
  simp only [mem_append,mem_map]
  refine .inl (.inl (.inr ⟨u,?_,rfl⟩))
  simp [shutUsers,shutOf,unblockedOf,present,free,shut]

theorem shut_absentGroup_blocked (absent : n ∈ d.absentGroups) (free : groupKey P n ∉ early P d)
    (shut : (absentGroupVerdict P v n).isSome) : groupKey P n ∈ (assembled P v d).blocked := by
  rw [(assembled_eq P d v).2.1]
  simp only [mem_append,mem_map]
  refine .inr ⟨n,?_,rfl⟩
  simp [shutAbsentGroups,shutOf,unblockedOf,absent,free,shut]

end

section
variable {P : Platform} {d : Desired} {live : Live} (server : Server)

theorem groupVerdict_again (markers : MarkersApart P d) (present : g ∈ d.groups)
    (free : groupKey P g.name ∉ early P d) :
    groupVerdict P (settled P d server live).directory g = groupVerdict P live.directory g := by
  cases verdict : groupVerdict P live.directory g with
  | none =>
    have opened : g ∈ openGroups P d live.directory := by
      simp [openGroups,openOf,unblockedOf,present,free,verdict]
    obtain ⟨x,found,typed,gid⟩ := type_settled server markers opened
    obtain ⟨m,marked,described⟩ := marker_settled server markers opened
    have known := (groupVerdict_none verdict).1
    have recognized : x.type ≠ .unrecognized := by
      intro unknown
      rw [unknown] at typed
      rcases known with posix | nonposix
      · exact absurd (typed.trans posix) (by decide)
      · exact absurd (typed.trans nonposix) (by decide)
    have lives : liveGroupVerdict P (settled P d server live).directory g = none := by
      refine liveGroupVerdict_none_iff.mpr ?_
      intro y same
      obtain rfl : x = y := Option.some.inj (found.symm.trans same)
      exact ⟨recognized,typed,gid⟩
    have marker : markerCollision P (settled P d server live).directory g.name = none := by
      refine markerCollision_none_iff.mpr ?_
      intro y same
      obtain rfl : m = y := Option.some.inj (marked.symm.trans same)
      exact described
    rw [groupVerdict,if_neg (by tauto),lives,marker]
  | some r =>
    have listed : g.name ∈ groupNames d := mem_append_left _ (mem_map_of_mem present)
    have shut := shut_group_blocked present free (by rw [verdict]; rfl)
    rw [← verdict]
    exact groupVerdict_congr (blocked_frame server markers listed shut (.inl rfl))
      (blocked_frame server markers listed shut (.inr rfl))

theorem userVerdict_again (present : u ∈ d.users) (free : userKey P u.name ∉ early P d) :
    userVerdict P (settled P d server live).directory u = userVerdict P live.directory u := by
  have kept := plan_preserved server live (build P d live).operations (P.lower u.name)
  cases verdict : userVerdict P live.directory u with
  | none =>
    have opened : u ∈ openUsers P d live.directory := by
      simp [openUsers,openOf,unblockedOf,present,free,verdict]
    obtain ⟨x,found,same⟩ := ids_settled server opened
    refine userVerdict_none_iff.mpr ⟨kept.trans (userVerdict_none_iff.mp verdict).1,?_⟩
    intro y again
    obtain rfl : x = y := Option.some.inj (found.symm.trans again)
    exact same
  | some r =>
    have shut := shut_user_blocked present free (by rw [verdict]; rfl)
    rw [← verdict,userVerdict,userVerdict,blocked_user server shut]
    exact congrArg (fun b : Bool => if b then _ else _) kept

theorem absentUserVerdict_again (n : String) :
    absentUserVerdict P (settled P d server live).directory n = absentUserVerdict P live.directory n := by
  have kept := plan_preserved server live (build P d live).operations (P.lower n)
  exact congrArg (fun b : Bool => if b then _ else _) kept

theorem absentGroupVerdict_again (markers : MarkersApart P d) (absent : n ∈ d.absentGroups)
    (free : groupKey P n ∉ early P d) :
    absentGroupVerdict P (settled P d server live).directory n = absentGroupVerdict P live.directory n := by
  cases verdict : absentGroupVerdict P live.directory n with
  | none =>
    have opened : n ∈ openAbsentGroups P d live.directory := by
      simp [openAbsentGroups,openOf,unblockedOf,absent,free,verdict]
    rw [absentGroupVerdict,absent_group_gone server markers opened]
    rfl
  | some r =>
    have listed : n ∈ groupNames d := mem_append_right _ absent
    have shut := shut_absentGroup_blocked absent free (by rw [verdict]; rfl)
    rw [← verdict]
    exact absentGroupVerdict_congr (blocked_frame server markers listed shut (.inl rfl))
      (blocked_frame server markers listed shut (.inr rfl))

section
variable (markers : MarkersApart P d)
include markers

theorem openGroups_again :
    openGroups P d (settled P d server live).directory = openGroups P d live.directory :=
  openOf_congr fun _ mem free => groupVerdict_again server markers ((mem_sortByName P).mp mem) free

theorem openAbsentGroups_again :
    openAbsentGroups P d (settled P d server live).directory = openAbsentGroups P d live.directory :=
  openOf_congr fun _ mem free =>
    absentGroupVerdict_again server markers ((mem_sortByName P).mp mem) free

omit markers in
theorem openUsers_again :
    openUsers P d (settled P d server live).directory = openUsers P d live.directory :=
  openOf_congr fun _ mem free => userVerdict_again server ((mem_sortByName P).mp mem) free

omit markers in
theorem openAbsentUsers_again :
    openAbsentUsers P d (settled P d server live).directory = openAbsentUsers P d live.directory :=
  openOf_congr fun n _ _ => absentUserVerdict_again server n

theorem decided_again : (decided P d (settled P d server live).directory).blocked =
    (decided P d live.directory).blocked := by
  have groups : shutGroups P d (settled P d server live).directory = shutGroups P d live.directory :=
    shutOf_congr fun _ mem free => groupVerdict_again server markers ((mem_sortByName P).mp mem) free
  have users : shutUsers P d (settled P d server live).directory = shutUsers P d live.directory :=
    shutOf_congr fun _ mem free => userVerdict_again server ((mem_sortByName P).mp mem) free
  rw [(usersPass_eq P d _).2.1,(usersPass_eq P d _).2.1,groups,users]

theorem blockedList_again : (assembled P (settled P d server live).directory d).blockedList =
    (assembled P live.directory d).blockedList := by
  simp only [(assembled_eq P d _).2.2,(usersPass_eq P d _).2.2,(groupsPass_eq P d _).2.2]
  refine congrArg₂ (· ++ ·) (congrArg₂ (· ++ ·) (congrArg₂ (· ++ ·) (congrArg₂ (· ++ ·) rfl ?_) ?_) ?_) ?_
  · exact blockedEntries_congr P fun _ mem free =>
      groupVerdict_again server markers ((mem_sortByName P).mp mem) free
  · exact blockedEntries_congr P fun _ mem free =>
      userVerdict_again server ((mem_sortByName P).mp mem) free
  · exact blockedEntries_congr P fun n _ _ => absentUserVerdict_again server n
  · exact blockedEntries_congr P fun _ mem free =>
      absentGroupVerdict_again server markers ((mem_sortByName P).mp mem) free

theorem groupOperations_again (opened : g ∈ openGroups P d live.directory) :
    groupOperations P (settled P d server live).directory g = [] := by
  obtain ⟨x,found,described⟩ := description_settled server markers opened
  obtain ⟨m,marked,-⟩ := marker_settled server markers opened
  simp [groupOperations,found,isOnly,described,ensureMarker,marked]

theorem membershipOperations_again (lower : LowerMembers P d) (lowerLive : LowerLive P live)
    (opened : g ∈ openGroups P d live.directory) :
    membershipOperations P (settled P d server live).directory
      (decided P d (settled P d server live).directory) g = [] := by
  have present := (mem_openGroups opened).1
  have stale (side : Side) (authoritative : g.authoritative = true) :
      side.stale P (settled P d server live).directory g = [] := by
    obtain ⟨x,found,only⟩ := members_removed side server markers lower opened authoritative
    refine eq_nil_iff_forall_not_mem.mpr ?_
    intro m listed
    rw [mem_stale lower present,found] at listed
    exact listed.2 (only m listed.1)
  have missing (side : Side) : side.missing P (settled P d server live).directory
      (decided P d (settled P d server live).directory) g = [] := by
    obtain ⟨x,found,all⟩ := members_added side server markers lower opened lowerLive
    refine eq_nil_iff_forall_not_mem.mpr ?_
    intro m listed
    rw [missing,kept,decided_again server markers,mem_difference,found] at listed
    refine listed.2 (mem_map.mpr ⟨m,all m listed.1,?_⟩)
    exact wanted_lower lower present m (mem_filter.mp listed.1).1
  rw [membershipOperations_eq,missing .users,missing .groups]
  by_cases authoritative : g.authoritative = true
  · simp [memberOperation,stale .users authoritative,stale .groups authoritative]
  · simp [memberOperation,authoritative]

omit markers in
theorem userOperations_again (opened : u ∈ openUsers P d live.directory) :
    userOperations P (settled P d server live).directory u = [] := by
  obtain ⟨x,found,agrees⟩ := attrs_settled server opened
  have quiet : password P (settled P d server live).directory u = [] := by
    cases declared : u.hasInitialPassword with
    | false => simp [password,declared]
    | true =>
      obtain ⟨y,again,done⟩ := password_settled server opened declared
      exact (password_nil_iff declared again).mpr done
  simp [userOperations,found,attrChanges_nil_iff.mpr agrees,quiet]

omit markers in
theorem lockOperations_again (opened : u ∈ openUsers P d live.directory) (b : Builder) :
    lockOperations P (settled P d server live).directory b u = [] := by
  obtain ⟨x,found,locked⟩ := lock_settled server opened
  unfold lockOperations
  simp only [found,locked]
  cases u.enabled <;> rfl

theorem operations_again (lower : LowerMembers P d) (lowerLive : LowerLive P live) :
    (assembled P (settled P d server live).directory d).operations = [] := by
  rw [(assembled_eq P d _).1,openGroups_again server markers,openUsers_again server,
    openAbsentUsers_again server,openAbsentGroups_again server markers]
  simp only [append_eq_nil_iff,flatMap_eq_nil_iff]
  refine ⟨⟨⟨⟨⟨?_,?_⟩,?_⟩,?_⟩,?_⟩,?_⟩
  · exact fun g opened => groupOperations_again server markers opened
  · exact fun u opened => userOperations_again server opened
  · exact fun g opened => membershipOperations_again server markers lower lowerLive opened
  · exact fun u opened => lockOperations_again server opened _
  · intro n opened
    simp [deleteUserOperations,absent_user_gone server opened]
  · intro n opened
    simp [deleteGroupOperations,absent_group_gone server markers opened]

end

end

/-- After a plan is applied there is nothing left to do, and what was blocked
    is blocked for the same reasons. -/
theorem identity_plan_converges (P : Platform) (server : Server)
    (validate : Fields → List RosterViolation) (root : Fields) (d : Desired) (live : Live)
    (ok : fromRoster P validate root = .ok d) (markers : MarkersApart P d)
    (lower : LowerLive P live) :
    (build P d (settled P d server live)).operations = [] ∧
      (build P d (settled P d server live)).blocked = (build P d live).blocked := by
  constructor
  · exact congrArg (insertionSort OperationLE)
      (operations_again server markers (fromRoster_lower ok) lower)
  · exact congrArg (insertionSort BlockedLE) (blockedList_again server markers)

/-- A server that writes nothing of its own and stamps passwords at one time. -/
def plainServer : Server where
  newUser name := ⟨name,"","","",[],"1001","1001","","",false,"","",[],false⟩
  newGroup name := ⟨name,[],"1001",.posix,[],[]⟩
  changed _ := "20260101000000Z"
  expires _ := "20260101000000Z"
  changed_nonempty _ := by decide
  expires_nonempty _ := by decide
  expires_le _ := le_refl _

def sampleRoster : Fields :=
  [("schema_version", .int 3),
    ("users", .list [.map [("name", .string "alice"),
        ("password", .map [("initial", .string "changeme")])],
      .map [("name", .string "bob"),("state", .string "absent")],
      .map [("name", .string "carol"),("uid", .int 2001)]]),
    ("groups", .list [.map [("name", .string "team-ops"),
        ("membership", .map [("users", .list [.string "Alice",.string "carol"])])],
      .map [("name", .string "team-old"),("state", .string "absent")]])]

def sampleLive : Live where
  users := [⟨"alice","Al","alice","",[],"1500","1500","/bin/sh","/home/alice",true,"","",[],false⟩,
    ⟨"carol","carol","carol","",[],"1501","1501","/bin/bash","/home/carol",false,"","",[],false⟩,
    ⟨"bob","Bob","B","",[],"1002","1002","/bin/bash","/home/bob",false,"","",[],false⟩]
  groups := [⟨"team-old",["old"],"3001",.posix,["bob"],[]⟩,⟨"team-ops",["ops"],"3002",.posix,["bob"],[]⟩]

def sampleDesired : Desired :=
  match fromRoster samplePlatform (fun _ => []) sampleRoster with
  | .ok d => d
  | .error _ => mixedCaseDesired

theorem sample_plan_converges :
    fromRoster samplePlatform (fun _ => []) sampleRoster = .ok sampleDesired ∧
      (build samplePlatform sampleDesired
        (settled samplePlatform sampleDesired plainServer sampleLive)).operations = [] ∧
      (build samplePlatform sampleDesired
        (settled samplePlatform sampleDesired plainServer sampleLive)).blocked =
        (build samplePlatform sampleDesired sampleLive).blocked := by
  have ok : fromRoster samplePlatform (fun _ => []) sampleRoster = .ok sampleDesired := by
    decide +kernel
  have markers : MarkersApart samplePlatform sampleDesired := by
    constructor <;> decide +kernel
  have lower : LowerLive samplePlatform sampleLive := by
    unfold LowerLive
    decide +kernel
  exact ⟨ok,identity_plan_converges samplePlatform plainServer (fun _ => []) sampleRoster
    sampleDesired sampleLive ok markers lower⟩

end Pilot.Identity
