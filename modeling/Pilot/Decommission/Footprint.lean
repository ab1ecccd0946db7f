import Pilot.Decommission.Planner

/-!
What the hash of a derived plan depends on. The order of the teardown, the
cycle and the blockers of the whole plan follow from the host, the components
and the policy the plan was derived under. Two plans derived under one policy
therefore have one view exactly if they agree on the host, the inventory
revision, the references and what the hash reads of the components.
-/
namespace Pilot.Decommission
open Roster List ComponentPlan

variable {S : Setup} {L : Type} {input : PlanInput L} {site : Site L} {hf : HostsFile} {target : Host}
  {p q : Plan}

theorem view_sealHash (p : Plan) : (p.sealHash S).view = p.view := rfl

theorem view_finishPlan (p : Plan) : (finishPlan S p).view = p.view := by
  unfold finishPlan
  dsimp only
  split <;> (rw [view_sealHash]; split <;> rfl)

theorem hash_finishPlan (p : Plan) : (finishPlan S p).planHash = computePlanHash S (finishPlan S p) := by
  unfold finishPlan
  dsimp only
  split <;> rfl

def rolesPlan (S : Setup) (input : PlanInput L) (site : Site L) (hf : HostsFile) (target : Host)
    (retirement : Option RetirementIdentity) : Plan :=
  let found := planComponents S input site hf target retirement
  { basePlan S input hf target with
    components := found.1
    references := found.2
    retentionRequirements := found.1.filterMap (retentionRequirement input)
    warnings := (scanReferences S site.files input.workspaceDir hf.hosts target).2 }

variable (retirement : Option RetirementIdentity)

theorem planRoles_eq :
    planRoles S input site hf target retirement =
      finishPlan S (applyUnreachablePolicy S input.reachability input.offlineDisposition
        (orderComponents S input.catalog (rolesPlan S input site hf target retirement))) := rfl

theorem planTarget_cases (ok : planTarget S input site hf target = .ok p) :
    (∃ role, target.roles.find? (fun r => controlPlaneRoles.contains r) = some role ∧
      p = ({ basePlan S input hf target with
        blockers := [controlPlaneBlocker S (trim input.hostName) role]
        status := .blocked } : Plan).sealHash S) ∨
    target.roles.find? (fun r => controlPlaneRoles.contains r) = none ∧
      ((target.roles = [] ∧
        p = ({ basePlan S input hf target with warnings := [noRolesWarning] } : Plan).sealHash S) ∨
      target.roles ≠ [] ∧ ∃ retirement,
        bindPreviousRetirement S input.previousPlan (basePlan S input hf target) = .ok retirement ∧
        p = planRoles S input site hf target retirement) := by
  obtain ⟨retirement,bound,ok⟩ := Fold.bind_ok ok
  cases control : target.roles.find? (fun r => controlPlaneRoles.contains r) with
  | some role =>
    rw [control] at ok
    cases ok
    exact Or.inl ⟨role,rfl,rfl⟩
  | none =>
    rw [control] at ok
    right
    refine ⟨rfl,?_⟩
    by_cases none : target.roles = []
    · left
      simp only [none,if_true] at ok
      cases ok
      exact ⟨none,rfl⟩
    · right
      simp only [none,if_false] at ok
      cases ok
      exact ⟨none,retirement,bound,rfl⟩

theorem planHost_hash (ok : planHost S input site = .ok p) : p.planHash = computePlanHash S p := by
  obtain ⟨hf,target,_,ok⟩ := planHost_ok ok
  rcases planTarget_cases ok with ⟨_,_,rfl⟩ | ⟨_,⟨_,rfl⟩ | ⟨_,_,_,rfl⟩⟩
  · rfl
  · rfl
  · rw [planRoles_eq]
    exact hash_finishPlan _

def teardownOf (S : Setup) (catalog : Catalog) (ids : List String) : Except SearchError (List String) :=
  resolveTeardownOrder S (dedupeSortedStrings (ids.filter (fun id => id ≠ ""))) catalog

def hostBlocked (reach : Reachability) (disposition : OfflineDisposition) (roles : List String)
    (cycle : Bool) : Bool :=
  roles.any (fun r => controlPlaneRoles.contains r) ||
    (!roles.isEmpty && (cycle || (reach == .unreachable && disposition == .none)))

structure Determined (S : Setup) (input : PlanInput L) (v : View) : Prop where
  environment : v.environment = v.host.env
  order : v.teardownOrder =
    ((teardownOf S input.catalog (v.components.map ComponentView.componentID)).toOption).getD []
  cycle : v.dependencyCycle =
    (teardownOf S input.catalog (v.components.map ComponentView.componentID)).toOption.isNone
  reachability : v.reachability = input.reachability
  offlineDisposition : v.offlineDisposition = input.offlineDisposition
  blocked : v.planLevelBlocked =
    hostBlocked input.reachability input.offlineDisposition v.host.roles v.dependencyCycle

variable (reach : Reachability)

theorem hostBlocked_sorted (disposition : OfflineDisposition) (roles : List String) (cycle : Bool) :
    hostBlocked reach disposition (sortStrings roles) cycle =
      hostBlocked reach disposition roles cycle := by
  have perm : (sortStrings roles).Perm roles := perm_insertionSort _ _
  unfold hostBlocked
  rw [perm.any_eq,perm.isEmpty_eq]

theorem componentID_unreachable (disposition : OfflineDisposition) (c : ComponentPlan) :
    (unreachableComponent S disposition c).componentID = c.componentID := by
  unfold unreachableComponent
  split
  · rfl
  · cases disposition <;> rfl

theorem applyUnreachablePolicy_spec (disposition : OfflineDisposition) (p : Plan) :
    (applyUnreachablePolicy S reach disposition p).components.map componentID =
        p.components.map componentID ∧
      (applyUnreachablePolicy S reach disposition p).teardownOrder = p.teardownOrder ∧
      (applyUnreachablePolicy S reach disposition p).dependencyCycle = p.dependencyCycle ∧
      (applyUnreachablePolicy S reach disposition p).environment = p.environment ∧
      (applyUnreachablePolicy S reach disposition p).reachability = p.reachability ∧
      (applyUnreachablePolicy S reach disposition p).offlineDisposition = p.offlineDisposition ∧
      (!(applyUnreachablePolicy S reach disposition p).blockers.isEmpty) =
        (!p.blockers.isEmpty || (reach == .unreachable && disposition == .none)) := by
  unfold applyUnreachablePolicy
  by_cases here : reach = .unreachable
  · by_cases none : disposition = .none
    · simp [here,none]
    · simp [here,none,componentID_unreachable,Function.comp_def]
  · simp [here]

theorem orderComponents_spec (catalog : Catalog) (p : Plan) (new : p.teardownOrder = [])
    (acyclic : p.dependencyCycle = false) (unblocked : p.blockers = []) :
    (orderComponents S catalog p).teardownOrder =
        ((teardownOf S catalog (p.components.map componentID)).toOption).getD [] ∧
      (orderComponents S catalog p).dependencyCycle =
        (teardownOf S catalog (p.components.map componentID)).toOption.isNone ∧
      (orderComponents S catalog p).components = p.components ∧
      (orderComponents S catalog p).environment = p.environment ∧
      (orderComponents S catalog p).reachability = p.reachability ∧
      (orderComponents S catalog p).offlineDisposition = p.offlineDisposition ∧
      (!(orderComponents S catalog p).blockers.isEmpty) =
        (orderComponents S catalog p).dependencyCycle := by
  unfold orderComponents teardownOf
  dsimp only
  split
  · rename_i detail failed
    rw [failed]
    simp [Except.toOption,new]
  · rename_i order ok
    rw [ok]
    simp [Except.toOption,acyclic,unblocked]

theorem revision_applyUnreachablePolicy (disposition : OfflineDisposition) (p : Plan) :
    (applyUnreachablePolicy S reach disposition p).inventoryRevision = p.inventoryRevision := by
  unfold applyUnreachablePolicy
  split
  · rfl
  · split <;> rfl

theorem revision_orderComponents (catalog : Catalog) (p : Plan) :
    (orderComponents S catalog p).inventoryRevision = p.inventoryRevision := by
  unfold orderComponents
  dsimp only
  split <;> rfl

theorem planRoles_determined (ordinary : target.roles.find? (fun r => controlPlaneRoles.contains r) = none)
    (some_ : target.roles ≠ []) :
    Determined S input (planRoles S input site hf target retirement).view := by
  rw [planRoles_eq,view_finishPlan]
  obtain ⟨order,cycle,components,environment,reach,disposition,blocked⟩ :=
    orderComponents_spec input.catalog (rolesPlan S input site hf target retirement) rfl rfl rfl
  obtain ⟨ids',order',cycle',environment',reach',disposition',blocked'⟩ :=
    applyUnreachablePolicy_spec input.reachability input.offlineDisposition
      (orderComponents S input.catalog (rolesPlan S input site hf target retirement))
  have host : (applyUnreachablePolicy S input.reachability input.offlineDisposition
      (orderComponents S input.catalog (rolesPlan S input site hf target retirement))).host =
        .ofHost target := by
    rw [host_applyUnreachablePolicy,host_orderComponents]
    rfl
  have ids : (((applyUnreachablePolicy S input.reachability input.offlineDisposition
      (orderComponents S input.catalog (rolesPlan S input site hf target retirement))).components.map
        view).map ComponentView.componentID) =
      (rolesPlan S input site hf target retirement).components.map componentID := by
    rw [map_map,← components]
    exact ids'
  constructor
  · change Plan.environment _ = (canonicalHostSnapshot (Plan.host _)).env
    rw [environment',environment,host]
    rfl
  · change Plan.teardownOrder _ = _
    rw [order',order]
    change _ = ((teardownOf S input.catalog (map _ (map _ (Plan.components _)))).toOption).getD []
    rw [ids]
  · change Plan.dependencyCycle _ = _
    rw [cycle',cycle]
    change _ = (teardownOf S input.catalog (map _ (map _ (Plan.components _)))).toOption.isNone
    rw [ids]
  · change Plan.reachability _ = _
    rw [reach',reach]
    rfl
  · change Plan.offlineDisposition _ = _
    rw [disposition',disposition]
    rfl
  change (!(Plan.blockers _).isEmpty) = hostBlocked _ _ (canonicalHostSnapshot (Plan.host _)).roles
    (Plan.dependencyCycle _)
  rw [blocked',blocked,cycle',host]
  change _ = hostBlocked _ _ (sortStrings target.roles) _
  have plain : target.roles.any (fun r => controlPlaneRoles.contains r) = false := by
    rw [any_eq_false]
    exact fun r mem => find?_eq_none.mp ordinary r mem
  have filled : target.roles.isEmpty = false := by
    simpa using some_
  rw [hostBlocked_sorted]
  unfold hostBlocked
  rw [plain,filled]
  simp

theorem planHost_determined (ok : planHost S input site = .ok p) : Determined S input p.view := by
  obtain ⟨hf,target,_,ok⟩ := planHost_ok ok
  rcases planTarget_cases ok with ⟨role,control,rfl⟩ | ⟨ordinary,⟨none,rfl⟩ | ⟨some_,retirement,_,rfl⟩⟩
  · have any : target.roles.any (fun r => controlPlaneRoles.contains r) = true :=
      any_eq_true.mpr ⟨role,mem_of_find?_eq_some control,find?_some control⟩
    refine ⟨rfl,rfl,rfl,rfl,rfl,?_⟩
    change true = hostBlocked _ _ (sortStrings target.roles) _
    rw [hostBlocked_sorted]
    unfold hostBlocked
    rw [any]
    rfl
  · refine ⟨rfl,rfl,rfl,rfl,rfl,?_⟩
    change false = hostBlocked _ _ (sortStrings target.roles) _
    rw [none]
    rfl
  · exact planRoles_determined retirement ordinary some_

theorem revision_planRoles :
    (planRoles S input site hf target retirement).inventoryRevision = canonicalInventoryHash S hf := by
  have revision := congrArg View.inventoryRevision (view_finishPlan (S := S)
    (applyUnreachablePolicy S input.reachability input.offlineDisposition
      (orderComponents S input.catalog (rolesPlan S input site hf target retirement))))
  rw [planRoles_eq]
  refine revision.trans ?_
  change Plan.inventoryRevision _ = _
  rw [revision_applyUnreachablePolicy,revision_orderComponents]
  rfl

structure SameFootprint (p q : Plan) : Prop where
  host : canonicalHostSnapshot p.host = canonicalHostSnapshot q.host
  revision : p.inventoryRevision = q.inventoryRevision
  components : p.components.map view = q.components.map view
  references : sortRefs p.references = sortRefs q.references

structure SamePolicy (a b : PlanInput L) : Prop where
  catalog : a.catalog = b.catalog
  reachability : a.reachability = b.reachability
  offlineDisposition : a.offlineDisposition = b.offlineDisposition

theorem view_eq_iff (policy : SamePolicy a b) (left : Determined S a p.view)
    (right : Determined S b q.view) : p.view = q.view ↔ SameFootprint p q := by
  constructor
  · intro same
    exact ⟨congrArg View.host same,congrArg View.inventoryRevision same,
      congrArg View.components same,congrArg View.references same⟩
  rintro ⟨host,revision,components,references⟩
  have hosts : p.view.host = q.view.host := host
  have views : p.view.components = q.view.components := components
  have cycles : p.view.dependencyCycle = q.view.dependencyCycle := by
    rw [left.cycle,right.cycle,views,policy.catalog]
  have orders : p.view.teardownOrder = q.view.teardownOrder := by
    rw [left.order,right.order,views,policy.catalog]
  have environments : p.view.environment = q.view.environment := by
    rw [left.environment,right.environment,hosts]
  have reach : p.view.reachability = q.view.reachability := by
    rw [left.reachability,right.reachability,policy.reachability]
  have disposition : p.view.offlineDisposition = q.view.offlineDisposition := by
    rw [left.offlineDisposition,right.offlineDisposition,policy.offlineDisposition]
  have blocked : p.view.planLevelBlocked = q.view.planLevelBlocked := by
    rw [left.blocked,right.blocked,hosts,cycles,policy.reachability,policy.offlineDisposition]
  exact View.ext host environments revision components orders cycles references reach disposition
    blocked

end Pilot.Decommission
