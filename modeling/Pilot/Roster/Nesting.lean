import Pilot.Roster.AuthPolicy

/-!
Nested groups, hostgroups and netgroups as graphs of names. The expansions
and the closure of hostgroup names collect what can be reached, in whatever
way they visit, and the search for a netgroup cycle finds one exactly if the
graph has one.
-/
namespace Pilot.Roster
open List Relation

/-- A name that has an entry lists another one. -/
def Lists (entries : List Fields) (nested a b : String) : Prop :=
  ∃ entry, byName entries a = some entry ∧ b ∈ membersOf entry nested

/-- Some entry that can be reached lists the member directly. -/
def ReachesMember (entries : List Fields) (nested own name m : String) : Prop :=
  ∃ g entry, ReflTransGen (Lists entries nested) name g ∧ byName entries g = some entry ∧
    m ∈ membersOf entry own

theorem hasMember_iff : HasMember entries nested own name m ↔ ReachesMember entries nested own name m := by
  constructor
  · intro has
    induction has with
    | direct found mem => exact ⟨_,_,.refl,found,mem⟩
    | nested found child _ ih =>
      obtain ⟨g,entry,reached,rest⟩ := ih
      exact ⟨g,entry,.head ⟨_,found,child⟩ reached,rest⟩
  · rintro ⟨g,entry,reached,found,mem⟩
    induction reached using ReflTransGen.head_induction_on with
    | refl => exact .direct found mem
    | head step _ ih =>
      obtain ⟨_,known,child⟩ := step
      exact .nested known child ih

theorem hostgroupNamesFrom_ends (hostgroups : List Fields) (name : String) :
    ∃ r, hostgroupNamesFrom hostgroups name = some r ∧
      ∀ g, g ∈ r ↔ ReflTransGen (Lists hostgroups "hostgroups") name g := by
  have edge : (fun a b => b ∈ nestedHostgroups hostgroups a) = Lists hostgroups "hostgroups" := by
    funext a b
    unfold nestedHostgroups Lists
    cases byName hostgroups a <;> simp
  have closed : ∀ y ∈ name :: hostgroups.flatMap (membersOf · "hostgroups"),
      nestedHostgroups hostgroups y ⊆ name :: hostgroups.flatMap (membersOf · "hostgroups") := by
    intro y _ z child
    obtain ⟨entry,found,mem⟩ := (congrFun (congrFun edge y) z).mp child
    exact mem_cons_of_mem _ (mem_flatMap.mpr ⟨entry,(byName_some found).1,mem⟩)
  rw [← edge]
  exact Reach.mem_marked closed mem_cons_self (by simp only [length_cons]; omega)

theorem mem_hostgroupNameClosure : g ∈ hostgroupNameClosure hostgroups [name] ↔
    ReflTransGen (Lists hostgroups "hostgroups") name g := by
  obtain ⟨r,ran,mem⟩ := hostgroupNamesFrom_ends hostgroups name
  rw [← mem,hostgroupNameClosure,flatMap_singleton,ran]
  rfl

/-- The walks end, and collect what can be reached. -/
theorem expansion_is_reachability (root : Fields) (name : String) :
    let groups := rosterGroupsByName root
    let hostgroups := rosterHostgroupsByName root
    expandWalk groups "groups" "users" name = some (expandGroupMembers groups name) ∧
    expandWalk hostgroups "hostgroups" "hosts" name = some (expandHostgroupHosts hostgroups name) ∧
    hostgroupNamesFrom hostgroups name = some (hostgroupNameClosure hostgroups [name]) ∧
    (∀ user, user ∈ expandGroupMembers groups name ↔
      ReachesMember groups "groups" "users" name user) ∧
    (∀ host, host ∈ expandHostgroupHosts hostgroups name ↔
      ReachesMember hostgroups "hostgroups" "hosts" name host) ∧
    ∀ host, host ∈ expandHostgroupHosts hostgroups name ↔
      ∃ g ∈ hostgroupNameClosure hostgroups [name], ∃ entry,
        byName hostgroups g = some entry ∧ host ∈ membersOf entry "hosts" := by
  intro groups hostgroups
  have reached : ∀ host, host ∈ expandHostgroupHosts hostgroups name ↔
      ReachesMember hostgroups "hostgroups" "hosts" name host :=
    fun _ => mem_expand.trans hasMember_iff
  refine ⟨expandWalk_eq _ _ _ _,expandWalk_eq _ _ _ _,?_,fun _ => mem_expand.trans hasMember_iff,
    reached,?_⟩
  · obtain ⟨r,ran,-⟩ := hostgroupNamesFrom_ends hostgroups name
    rw [hostgroupNameClosure,flatMap_singleton,ran]
    rfl
  intro host
  simp only [reached host,mem_hostgroupNameClosure]
  constructor
  · rintro ⟨g,entry,chain,rest⟩
    exact ⟨g,chain,entry,rest⟩
  · rintro ⟨g,chain,entry,rest⟩
    exact ⟨g,entry,chain,rest⟩

theorem no_cycle_of_acc {R : String → String → Prop} (finite : Acc (Function.swap R) x) :
    ¬TransGen R x x := by
  replace finite := finite.transGen
  induction finite with
  | intro x _ ih =>
    intro cycle
    exact ih x (transGen_swap.mpr cycle) cycle

section
variable {netgroups : List Fields}

/-- The search never runs out of fuel that exceeds the room left on the path. -/
theorem findNetgroupCycle_ends (distinct : path.Nodup)
    (inside : path ⊆ netgroups.map (fun ng => stringField ng "name"))
    (enough : netgroups.length < path.length + fuel) :
    ∃ r, findNetgroupCycle netgroups fuel path name = some r := by
  induction fuel generalizing path name with
  | zero =>
    have fits := Reach.length_of_path distinct inside
    simp only [length_map] at fits
    omega
  | succ fuel ih =>
    by_cases met : name ∈ path
    · exact ⟨_,by rw [findNetgroupCycle,if_pos met]⟩
    rw [findNetgroupCycle,if_neg met]
    cases found : byName netgroups name with
    | none => exact ⟨_,rfl⟩
    | some ng =>
      obtain ⟨mem,rfl⟩ := byName_some found
      refine Reach.findSomeM_ends fun y _ => ih ?_ ?_ ?_
      · simpa using Nodup.concat met distinct
      · exact append_subset.mpr ⟨inside,by simpa using ⟨ng,mem,rfl⟩⟩
      · simp only [length_append,length_singleton]
        omega

/-- A search that finds nothing leaves only finite chains behind the name. -/
theorem acc_of_no_cycle (nothing : findNetgroupCycle netgroups fuel path name = some none) :
    Acc (Function.swap (Lists netgroups "netgroups")) name := by
  induction fuel generalizing path name with
  | zero => cases nothing
  | succ fuel ih =>
    unfold findNetgroupCycle at nothing
    split at nothing
    · cases nothing
    split at nothing
    · rename_i missing
      constructor
      rintro y ⟨entry,found,-⟩
      rw [missing] at found
      cases found
    · rename_i entry found
      constructor
      rintro y ⟨entry',found',child⟩
      obtain rfl : entry = entry' := Option.some.inj (found.symm.trans found')
      exact ih (Reach.findSomeM_none nothing y child)

theorem cycle_of_found (before : ∀ p ∈ path, TransGen (Lists netgroups "netgroups") p name)
    (last : ∀ init p, path = init ++ [p] → Lists netgroups "netgroups" p name)
    (found : findNetgroupCycle netgroups fuel path name = some (some c)) :
    (∃ z, TransGen (Lists netgroups "netgroups") z z) ∧
      ((∀ z, ¬Lists netgroups "netgroups" z z) → 2 < c.length) := by
  induction fuel generalizing path name with
  | zero => cases found
  | succ fuel ih =>
    unfold findNetgroupCycle at found
    split at found
    · rename_i met
      cases found
      refine ⟨⟨name,before name met⟩,fun irreflexive => ?_⟩
      -- the last node of the path lists the name, so the name stands before it
      rcases eq_nil_or_concat' path with rfl | ⟨init,p,rfl⟩
      · cases met
      have other : name ≠ p := by
        rintro rfl
        exact irreflexive name (last init name rfl)
      have earlier : 0 < init.length := length_pos_of_mem (by simpa [other] using met)
      simp only [length_append,length_singleton]
      omega
    split at found
    · cases found
    rename_i entry known
    obtain ⟨y,child,deeper⟩ := Reach.findSomeM_some found
    have step : Lists netgroups "netgroups" name y := ⟨entry,known,child⟩
    refine ih ?_ ?_ deeper
    · rw [forall_mem_append,forall_mem_singleton]
      exact ⟨fun p old => (before p old).tail step,.single step⟩
    · intro init p same
      obtain ⟨-,rfl⟩ := append_singleton_inj.mp same
      exact step

theorem byName_of_mem (unique : (netgroups.map (fun m => stringField m "name")).Nodup)
    (mem : ng ∈ netgroups) (named : stringField ng "name" ≠ "") :
    byName netgroups (stringField ng "name") = some ng := by
  rw [byName,if_neg named]
  cases found : netgroups.reverse.find? (fun m => stringField m "name" == stringField ng "name") with
  | none => exact absurd (find?_eq_none.mp found ng (mem_reverse.mpr mem)) (by simp)
  | some other =>
    have same : stringField other "name" = stringField ng "name" := by simpa using find?_some found
    rw [inj_on_of_nodup_map unique (mem_reverse.mp (mem_of_find?_eq_some found)) mem same]

end

theorem any_report (p : String → Bool) :
    (report bad rule detail).any (fun v => p v.rule) = (bad && p rule) := by
  cases bad <;> simp [report]

/-- A self-reference or a cycle is reported. -/
def reportsCycle (out : List RosterViolation) : Prop :=
  ∃ v ∈ out, v.rule = "netgroup self-reference" ∨ v.rule = "netgroup cycle"

theorem reportsCycle_iff (F : Formats) (root : Fields) :
    reportsCycle (checkNetgroups F root) ↔
      (∃ ng ∈ maps (listField root "netgroups"), stringField ng "name" ≠ "" ∧
        stringField ng "name" ∈ membersOf ng "netgroups") ∨
      ∃ name ∈ namesOf (listField root "netgroups"), ∃ c, 2 < c.length ∧
        findNetgroupCycle (maps (listField root "netgroups"))
          ((listField root "netgroups").length + 1) [] name = some (some c) := by
  let p (rule : String) : Bool := rule == "netgroup self-reference" || rule == "netgroup cycle"
  have any : reportsCycle (checkNetgroups F root) ↔
      (checkNetgroups F root).any (fun v => p v.rule) = true := by
    simp [reportsCycle,p]
  rw [any]
  simp only [checkNetgroups,checkNetgroup,checkState,reportUnknown,reportDuplicates,reportForeign,
    any_append,any_flatMap,any_report]
  simp [p]
  refine or_congr Iff.rfl ?_
  split
  · rename_i nothing
    simp only [findSome?_eq_none_iff,Option.filter_eq_none_iff,decide_eq_true_eq] at nothing
    simp
    intro name mem c long found
    exact nothing name mem c (by rw [found]; rfl) long
  · rename_i path found
    obtain ⟨name,mem,found⟩ := exists_of_findSome?_eq_some found
    obtain ⟨found,long⟩ := Option.filter_eq_some_iff.mp found
    simp
    exact ⟨name,mem,path,by simpa using long,Option.join_eq_some_iff.mp found⟩

theorem netgroup_cycle_reported_iff (F : Formats) (root : Fields)
    (unique : (namesOf (listField root "netgroups")).Nodup) :
    let netgroups := maps (listField root "netgroups")
    (∀ name, ∃ r, findNetgroupCycle netgroups (netgroups.length + 1) [] name = some r) ∧
      (reportsCycle (checkNetgroups F root) ↔
        ∃ name, TransGen (Lists netgroups "netgroups") name name) := by
  intro netgroups
  have ends : ∀ name, ∃ r, findNetgroupCycle netgroups (netgroups.length + 1) [] name = some r :=
    fun _ => findNetgroupCycle_ends nodup_nil (nil_subset _) (by simp)
  refine ⟨ends,?_⟩
  rw [reportsCycle_iff]
  constructor
  · rintro (⟨ng,mem,named,self⟩ | ⟨name,-,c,-,found⟩)
    · exact ⟨_,.single ⟨ng,byName_of_mem unique mem named,self⟩⟩
    · exact (cycle_of_found (by simp) (by simp) found).1
  · rintro ⟨name,cycle⟩
    by_cases self : ∃ z, Lists netgroups "netgroups" z z
    · obtain ⟨z,ng,found,listed⟩ := self
      obtain ⟨mem,rfl⟩ := byName_some found
      refine .inl ⟨ng,mem,?_,listed⟩
      intro empty
      simp [byName,empty] at found
    · obtain ⟨y,⟨ng,known,-⟩,-⟩ := TransGen.head'_iff.mp cycle
      obtain ⟨mem,rfl⟩ := byName_some known
      obtain ⟨r,found⟩ := ends (stringField ng "name")
      cases r with
      | none => exact absurd cycle (no_cycle_of_acc (acc_of_no_cycle found))
      | some c =>
        refine .inr ⟨_,mem_map_of_mem mem,c,?_,?_⟩
        · exact (cycle_of_found (by simp) (by simp) found).2 (not_exists.mp self)
        · simpa [netgroups,maps] using found

def nestingNetgroup (name nested : String) : Value :=
  .map [("name",.string name),("membership",.map [("netgroups",.list [.string nested])])]

def nestingRoster : Fields :=
  [("netgroups",.list [nestingNetgroup "ng-a" "ng-b",nestingNetgroup "ng-b" "ng-a"])]

theorem mutual_netgroups_are_reported : (namesOf (listField nestingRoster "netgroups")).Nodup ∧
    reportsCycle (checkNetgroups plainFormats nestingRoster) := by
  refine ⟨by decide +kernel,((netgroup_cycle_reported_iff plainFormats nestingRoster
    (by decide +kernel)).2).mpr ⟨"ng-a",.tail (b := "ng-b") (.single ⟨_,rfl,?_⟩) ⟨_,rfl,?_⟩⟩⟩
  · decide +kernel
  · decide +kernel

end Pilot.Roster
