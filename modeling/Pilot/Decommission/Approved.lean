import Pilot.Decommission.Footprint
import Pilot.Decommission.Providers
import Pilot.Decommission.Rollback
import Pilot.Library.Table

/-!
What an approved hash says about the run. The hash fixes the components, the
order of the teardown and which local steps are left out; it does not read
the steps, which the providers plan anew each time. Two plans with one hash
run the same steps exactly if each component's provider gives the same answer
on the two sites.
-/
namespace Pilot.Decommission
open Roster Interrupt Yaml List ComponentPlan

variable {S : Setup} {L : Type} {providers : Registry L} {plan p q : Plan} {site : Site L}

structure StepEffect where
  (action targetIdentity : String)
  params : StringMap
  deriving DecidableEq, Repr

def Step.effect (step : Step) : StepEffect := ⟨step.action,step.targetIdentity,step.params⟩

/-- What is run of the steps a provider planned for the component. -/
def ComponentPlan.carries (c : ComponentPlan) (steps : List Step) : List StepEffect :=
  (steps.filter c.attempts).map Step.effect

def effectsOf (plan : Plan) (id : String) : List StepEffect :=
  match componentByID plan id with
  | none => []
  | some c => c.carries c.steps

def effects (plan : Plan) : List (String × StepEffect) :=
  Table.tagged (effectsOf plan) (executionOrder plan)

section Execution

theorem ExecStep.run_action {s : ExecStep L} (ran : s.run.result site = .ok (t,none)) :
    t.action = s.action := by
  unfold ExecStep.run at ran
  split at ran
  · cases ran
    rfl
  · cases ran
    rfl
  · cases ran
  all_goals
    obtain ⟨looked,_,ran⟩ := result_bind_ok ran
    split at ran
    · cases ran
    · cases ran
      rfl
    obtain ⟨done,_,ran⟩ := result_bind_ok ran
    split at ran <;> cases ran
    rfl

theorem runSteps_actions {execs execs' : List (ExecStep L)}
    (ran : (runSteps execs).result site = .ok (execs',none)) :
    execs'.map ExecStep.action = execs.map ExecStep.action := by
  induction execs generalizing site execs' with
  | nil =>
    cases ran
    rfl
  | cons s rest ih =>
    obtain ⟨⟨t,failed⟩,here,ran⟩ := result_bind_ok ran
    cases failed with
    | some err => cases ran
    | none =>
      obtain ⟨⟨others,end_⟩,there,ran⟩ := result_bind_ok ran
      cases ran
      simp only [map_cons,ExecStep.run_action here,ih there]

theorem execSteps_actions {id : String} {c : ComponentPlan} {execs : List (ExecStep L)}
    (made : execSteps S providers id c = .ok execs) :
    execs.map ExecStep.action = (c.carries c.steps).map StepEffect.action := by
  unfold execSteps at made
  split at made
  · cases made
  split at made
  · cases made
  rename_i runner _
  have each : ∀ s (e : ExecStep L), execStep id runner s = .ok e → e.action = s.1.action := by
    intro s e ok
    unfold execStep at ok
    split at ok <;> cases ok
    rfl
  have mapped : execs.map ExecStep.action = c.attempted.map (fun s => s.1.action) := by
    generalize c.attempted = planned at made
    induction planned generalizing execs with
    | nil =>
      cases made
      rfl
    | cons s rest ih =>
      rw [mapM_cons] at made
      obtain ⟨e,here,made⟩ := Fold.bind_ok made
      obtain ⟨others,there,made⟩ := Fold.bind_ok made
      cases made
      rw [map_cons,map_cons,each s e here,ih there]
  have steps_of : c.attempted.map Prod.fst = c.steps.filter c.attempts := by
    conv_rhs => rw [← zipIdx_map_fst 0 c.steps,filter_map]
    rfl
  rw [mapped,carries,← steps_of]
  simp [Step.effect,Function.comp_def]

/-- A cleanup that ends well ran the actions of the plan's effects, in their
    order. -/
theorem executeComponents_ran (ok : (executeComponents S providers plan).result site = .ok ran) :
    ran.map ExecStep.action = (effects plan).map (fun e => e.2.action) := by
  unfold executeComponents effects at *
  generalize executionOrder plan = order at *
  induction order generalizing site ran with
  | nil =>
    cases ok
    rfl
  | cons id rest ih =>
    obtain ⟨here,first,ok⟩ := result_bind_ok ok
    obtain ⟨others,then_,ok⟩ := result_bind_ok ok
    cases ok
    rw [Table.tagged_cons,map_append,map_append,ih then_,map_map]
    congr 1
    change _ = (effectsOf plan id).map StepEffect.action
    unfold executeComponent at first
    unfold effectsOf
    cases found : componentByID plan id with
    | none =>
      rw [found] at first
      cases first
      rfl
    | some c =>
    rw [found] at first
    dsimp only at first ⊢
    split at first
    · rename_i without
      cases first
      simp [carries,without]
    obtain ⟨steps,made,first⟩ := result_bind_ok first
    obtain ⟨⟨after,failed⟩,done,first⟩ := result_bind_ok first
    cases failed with
    | some err => cases first
    | none =>
      cases first
      exact (runSteps_actions done).trans (execSteps_actions made)

end Execution

section Answers

variable {input : PlanInput L} {hf : HostsFile} {target : Host} {retirement : Option RetirementIdentity}
  {id : String}

def referenceRequest (target : Host) : ProviderPlanInput :=
  ⟨target.name,providerFQDN target.name target.ansibleHost,.none,"",none⟩

/-- The component is there because of a reference to the host. -/
def referenced (S : Setup) (input : PlanInput L) (site : Site L) (hf : HostsFile) (target : Host)
    (id : String) : Bool :=
  (id == loginProbeTargetsProviderID &&
    (planLoginProbeTargets S input.providers site target).isSome) ||
  (id == internalEndpointProviderID &&
    (planInternalEndpointReferences input.providers site
      (scanReferences S site.files input.workspaceDir hf.hosts target).1 target.name
      (providerFQDN target.name target.ansibleHost)).1.isSome)

/-- What the planner asks the component's provider. -/
def requestFor (S : Setup) (input : PlanInput L) (site : Site L) (hf : HostsFile) (target : Host)
    (retirement : Option RetirementIdentity) (id : String) : ProviderPlanInput :=
  if referenced S input site hf target id then referenceRequest target
  else ⟨target.name,providerFQDN target.name target.ansibleHost,input.offlineDisposition,
    rosterPathFor S input.workspaceDir hf.hosts target,
    if id = freeIPAClientProviderID then retirement else none⟩

def answerTo (providers : Registry L) (site : Site L) (id : String) (request : ProviderPlanInput) :
    List Step :=
  match providers id with
  | none => []
  | some provider => ((provider.plan site request).toOption).getD []

/-- The steps the component's provider plans on the site for the host. -/
def answered (S : Setup) (input : PlanInput L) (site : Site L) (id : String) : List Step :=
  match loadHostsFile S site.files (hostsPath S input.workspaceDir) with
  | .error _ => []
  | .ok hf =>
    match hf.hosts.find? (fun h => h.name == trim input.hostName) with
    | none => []
    | some target =>
      match bindPreviousRetirement S input.previousPlan (basePlan S input hf target) with
      | .error _ => []
      | .ok retirement =>
        answerTo input.providers site id (requestFor S input site hf target retirement id)

theorem answered_of_located (located : Located S input site hf target)
    (bound : bindPreviousRetirement S input.previousPlan (basePlan S input hf target) = .ok retirement)
    (id : String) : answered S input site id =
      answerTo input.providers site id (requestFor S input site hf target retirement id) := by
  unfold answered
  simp only [located.loaded,located.found,bound]

theorem steps_askProvider (answer : Except ProviderError (List Step)) {cp : ComponentPlan}
    (none : cp.steps = []) : (askProvider answer cp).steps = (answer.toOption).getD [] := by
  cases answer with
  | error err => exact none
  | ok steps => rfl

theorem steps_retentionGate (c : Contract) (disposition : RetentionDisposition) (cp : ComponentPlan) :
    (retentionGate S c disposition cp).steps = cp.steps ∧
      (retentionGate S c disposition cp).componentID = cp.componentID := by
  unfold retentionGate
  split
  · exact ⟨rfl,rfl⟩
  · dsimp only
    split
    · split <;> exact ⟨rfl,rfl⟩
    · exact ⟨rfl,rfl⟩

theorem componentID_askProvider (answer : Except ProviderError (List Step)) (cp : ComponentPlan) :
    (askProvider answer cp).componentID = cp.componentID := by
  cases answer <;> rfl

theorem steps_planComponent (role : String)
    (named : (planComponent S input site hf.hosts target retirement role).componentID = id)
    (there : id ≠ "") (direct : referenced S input site hf target id = false) :
    (planComponent S input site hf.hosts target retirement role).steps =
      answerTo input.providers site id (requestFor S input site hf target retirement id) := by
  unfold planComponent at named ⊢
  split at named
  · exact absurd named.symm there
  rename_i matched _ _
  rw [(steps_retentionGate ..).2] at named
  simp only [(steps_retentionGate ..).1]
  unfold requestFor answerTo
  rw [direct]
  cases known : input.providers matched.id with
  | none =>
    simp only [known] at named
    change matched.id = id at named
    subst named
    simp only [known]
    rfl
  | some provider =>
    simp only [known,componentID_askProvider] at named
    change matched.id = id at named
    subst named
    simp only [known]
    exact steps_askProvider _ rfl

theorem referenceComponent_some {provider : Provider L} (known : input.providers id = some provider)
    {cp c : ComponentPlan} (named : cp.componentID = id) (none : cp.steps = [])
    (there : referenceComponent provider site target.name (providerFQDN target.name target.ansibleHost)
      cp = some c) :
    c.componentID = id ∧ c.steps = answerTo input.providers site id (referenceRequest target) := by
  unfold referenceComponent at there
  split at there
  · cases there
  cases there
  refine ⟨(componentID_askProvider ..).trans named,?_⟩
  rw [answerTo,known]
  exact steps_askProvider _ none

theorem planLoginProbeTargets_some {c : ComponentPlan}
    (there : planLoginProbeTargets S input.providers site target = some c) :
    c.componentID = loginProbeTargetsProviderID ∧
      c.steps = answerTo input.providers site loginProbeTargetsProviderID (referenceRequest target) := by
  unfold planLoginProbeTargets at there
  split at there
  · cases there
  split at there
  · cases there
  rename_i provider known
  exact referenceComponent_some known rfl rfl there

theorem planInternalEndpointReferences_some {c : ComponentPlan} {refs : List Reference}
    (there : (planInternalEndpointReferences input.providers site refs target.name
      (providerFQDN target.name target.ansibleHost)).1 = some c) :
    c.componentID = internalEndpointProviderID ∧
      c.steps = answerTo input.providers site internalEndpointProviderID (referenceRequest target) := by
  unfold planInternalEndpointReferences at there
  split at there
  · split at there
    · cases there
    rename_i provider known
    split at there
    · cases there
    rename_i cp made
    cases there
    exact referenceComponent_some known rfl rfl made
  · cases there

theorem find?_last {α : Type} {xs : List α} {o : Option α} {p : α → Bool} {c : α}
    (found : (xs ++ o.toList).reverse.find? p = some c) :
    (o = some c ∧ p c = true) ∨ (∀ x ∈ o, p x = false) ∧ xs.reverse.find? p = some c := by
  cases o with
  | none =>
    right
    simpa using found
  | some last =>
    cases here : p last with
    | true =>
      left
      have same : last = c := by simpa [here] using found
      exact ⟨congrArg some same,same ▸ here⟩
    | false =>
      right
      refine ⟨fun x mem => Option.mem_some.mp mem ▸ here,?_⟩
      simpa [here] using found

/-- The last component of a name, which is the one that is run, has the steps
    its provider answered. -/
theorem steps_planComponents {c : ComponentPlan} (there : id ≠ "")
    (found : (planComponents S input site hf target retirement).1.reverse.find?
      (fun c => c.componentID == id) = some c) :
    c.steps = answerTo input.providers site id (requestFor S input site hf target retirement id) := by
  rcases find?_last found with ⟨login,named⟩ | ⟨noLogin,found⟩
  · obtain ⟨name,steps⟩ := planLoginProbeTargets_some login
    have same : loginProbeTargetsProviderID = id := by rwa [beq_iff_eq,name] at named
    subst same
    rw [steps,requestFor,referenced,login]
    rfl
  rcases find?_last found with ⟨endpoint,named⟩ | ⟨noEndpoint,found⟩
  · obtain ⟨name,steps⟩ := planInternalEndpointReferences_some endpoint
    have same : internalEndpointProviderID = id := by rwa [beq_iff_eq,name] at named
    subst same
    rw [steps,requestFor,referenced,endpoint]
    rfl
  · obtain ⟨role,_,rfl⟩ := mem_map.mp (mem_reverse.mp (mem_of_find?_eq_some found))
    refine steps_planComponent role (by simpa using find?_some found) there ?_
    have login : ∀ l, planLoginProbeTargets S input.providers site target = some l →
        ¬ id = loginProbeTargetsProviderID := by
      rintro l made rfl
      simpa [(planLoginProbeTargets_some made).1] using noLogin l made
    have endpoint : ∀ e, (planInternalEndpointReferences input.providers site
        (scanReferences S site.files input.workspaceDir hf.hosts target).1 target.name
        (providerFQDN target.name target.ansibleHost)).1 = some e →
        ¬ id = internalEndpointProviderID := by
      rintro e made rfl
      simpa [(planInternalEndpointReferences_some made).1] using noEndpoint e made
    rw [referenced,Bool.or_eq_false_iff,Bool.and_eq_false_imp,Bool.and_eq_false_imp]
    constructor
    · intro same
      refine Option.isSome_eq_false_iff.mpr (Option.isNone_iff_eq_none.mpr
        (Option.eq_none_iff_forall_ne_some.mpr fun l made => ?_))
      exact login l made (beq_iff_eq.mp same)
    · intro same
      refine Option.isSome_eq_false_iff.mpr (Option.isNone_iff_eq_none.mpr
        (Option.eq_none_iff_forall_ne_some.mpr fun e made => ?_))
      exact endpoint e made (beq_iff_eq.mp same)

theorem unreachableComponent_keeps (disposition : OfflineDisposition) (c : ComponentPlan) :
    (unreachableComponent S disposition c).steps = c.steps := by
  unfold unreachableComponent
  split
  · rfl
  · cases disposition <;> rfl

theorem components_finishPlan (p : Plan) : (finishPlan S p).components = p.components := by
  unfold finishPlan Plan.sealHash
  split <;> (dsimp only; split <;> rfl)

theorem components_orderComponents (catalog : Catalog) (p : Plan) :
    (orderComponents S catalog p).components = p.components := by
  unfold orderComponents
  dsimp only
  split <;> rfl

theorem steps_planHost {c : ComponentPlan} (planned : planHost S input site = .ok p)
    (found : componentByID p id = some c) : c.steps = answered S input site id := by
  obtain ⟨hf,target,located,planned⟩ := planHost_ok planned
  unfold componentByID at found
  split at found
  · cases found
  rename_i there
  rcases planTarget_cases planned with ⟨_,_,rfl⟩ | ⟨_,⟨_,rfl⟩ | ⟨_,retirement,bound,rfl⟩⟩
  · cases found
  · cases found
  rw [answered_of_located located bound]
  rw [planRoles_eq,components_finishPlan] at found
  unfold applyUnreachablePolicy at found
  split at found
  · rw [components_orderComponents] at found
    exact steps_planComponents there found
  split at found
  · rw [components_orderComponents] at found
    exact steps_planComponents there found
  · dsimp only at found
    rw [components_orderComponents,← map_reverse,find?_map] at found
    obtain ⟨old,first,rfl⟩ := Option.map_eq_some_iff.mp found
    rw [unreachableComponent_keeps]
    simp only [Function.comp_def,componentID_unreachable] at first
    exact steps_planComponents there first

end Answers

theorem view_componentByID (p : Plan) (id : String) :
    (componentByID p id).map view = if id = "" then none else
      (p.components.map view).reverse.find? (fun v => v.componentID == id) := by
  unfold componentByID
  split
  · rfl
  · rw [← map_reverse,find?_map]
    rfl

theorem executionOrder_of_view (same : p.view = q.view) : executionOrder p = executionOrder q := by
  have order : p.teardownOrder = q.teardownOrder := congrArg View.teardownOrder same
  have views := congrArg (fun v : View => v.components.map ComponentView.componentID) same
  have ids : p.components.map componentID = q.components.map componentID := by
    simpa [Plan.view,map_map,Function.comp_def,view] using views
  unfold executionOrder
  rw [order,ids]

theorem carries_of_view {c d : ComponentPlan} (same : c.view = d.view) : c.carries = d.carries := by
  have status : c.localCleanupStatus = d.localCleanupStatus :=
    congrArg ComponentView.localCleanupStatus same
  funext steps
  unfold carries attempts
  rw [status]

/-- The providers of the components of the plan answer the same on both sites,
    up to the local steps that are left out. -/
def SameAnswers (S : Setup) (a b : PlanInput L) (siteA siteB : Site L) (p : Plan) : Prop :=
  ∀ id ∈ executionOrder p, ∀ c, componentByID p id = some c →
    c.carries (answered S a siteA id) = c.carries (answered S b siteB id)

/-- What one hash fixes of two derivations: the order, the components with
    their statuses, and that the freshness check and any approval of the first
    let the second run. -/
structure FixedByHash (S : Setup) (b : PlanInput L) (siteB : Site L) (p q : Plan) : Prop where
  order : executionOrder p = executionOrder q
  components : p.components.map view = q.components.map view
  fresh : checkFreshness S b p.planHash siteB = .ok q
  approved : ∀ store : Store, store.approvedForHash p.id p.planHash = store.approvedForHash p.id q.planHash

/-- One hash fixes the components, their order and their approval, and the run
    exactly if the providers answer the same on the two sites. -/
theorem same_hash_same_run_iff (S : Setup) {a b : PlanInput L} {siteA siteB : Site L} {p q : Plan}
    (plannedA : planHost S a siteA = .ok p) (plannedB : planHost S b siteB = .ok q)
    (apart : HashApart S p q) (sameHash : p.planHash = q.planHash) :
    FixedByHash S b siteB p q ∧ (effects p = effects q ↔ SameAnswers S a b siteA siteB p) := by
  have views : p.view = q.view := by
    rw [planHost_hash plannedA,planHost_hash plannedB] at sameHash
    exact (computePlanHash_eq_iff apart).mp sameHash
  have order := executionOrder_of_view views
  have components : p.components.map view = q.components.map view := congrArg View.components views
  refine ⟨⟨order,components,checkFreshness_of_planned plannedB sameHash.symm,fun _ => by rw [sameHash]⟩,?_⟩
  unfold effects
  rw [← order,Table.tagged_eq_iff]
  refine forall₂_congr fun id _ => ?_
  have both : (componentByID p id).map view = (componentByID q id).map view := by
    rw [view_componentByID,view_componentByID,components]
  unfold effectsOf
  cases left : componentByID p id with
  | none =>
    rw [left] at both
    rw [Option.map_eq_none_iff.mp both.symm]
    simp
  | some c =>
    rw [left] at both
    obtain ⟨d,right,same⟩ := Option.map_eq_some_iff.mp both.symm
    simp only [right,Option.some.injEq,forall_eq',carries_of_view same,steps_planHost plannedA left,
      steps_planHost plannedB right]

def monitoredHost : Host := { plainHost "web1" "10.0.0.11" with roles := ["host-monitoring"] }

def monitoredHosts : HostsFile := ⟨[("ansible_user","ops")],[monitoredHost]⟩

def monitoredText : String := "vars:\n  ansible_user: \"ops\"\n\nhosts:\n  web1:\n    ansible_host: " ++
  "\"10.0.0.11\"\n    roles: [host-monitoring]\n"

def endpointNode (fqdn state : String) : Node :=
  mapNode [("fqdn",strNode fqdn),("state",strNode state),
    ("route",mapNode [("mode",strNode "direct"),
      ("target",mapNode [("inventory_host",strNode "web1")])])]

def manifestNode (endpoints : List Node) : Node :=
  mapNode [("safety",mapNode [("allow_endpoint_delete",.scalar "!!bool" "true")]),
    ("endpoints",.sequence endpoints)]

def endpointText (fqdn state : String) : String :=
  "  - fqdn: " ++ fqdn ++ "\n    state: " ++ state ++
    "\n    route:\n      mode: direct\n      target:\n        inventory_host: web1\n"

def manifestText (endpoints : List String) : String :=
  "safety:\n  allow_endpoint_delete: true\nendpoints:\n" ++ String.join endpoints

def boolLibrary (files : List (String × Node)) : Library :=
  { fileLibrary files with
    resolve := fun tag text =>
      if tag = "!!bool" then .ok (.bool (text == "true")) else resolveCore tag text
    resolve_leaf := by
      intro tag text v resolved
      split at resolved
      · cases resolved
        trivial
      · exact (fileLibrary []).resolve_leaf resolved
    resolve_string := fun _ => rfl
    resolve_null := by
      intro tag text resolved
      split at resolved
      · cases resolved
      · exact (fileLibrary []).resolve_null resolved }

def endpointSetup (files : List (String × Node)) : Setup :=
  { plainSetup with
    sha256 := fun text =>
      if text = Json.marshal monitoredHosts.value then
        "10e0e15561c2b947d7521069082c17fa59f51a198ea0c474528e2b09e70b23f1"
      else "e730b3ea3a9cffc3e11572e4909bcad6db67ba08e2474f4fba4c973e9e59de9e"
    yaml := boolLibrary files
    parse := fun text => if text = monitoredText then .ok monitoredHosts else .error "no such document" }

def monitoringContract : Contract :=
  ⟨"host-monitoring","host-monitoring",[],
    some "playbooks/decommission/host-monitoring-decommission.yml",some ⟨.stateless,.none,true⟩⟩

def twoText (state : String) : String :=
  manifestText [endpointText "api.example.internal" state,endpointText "app.example.internal" "present"]

def twoNode (state : String) : Node :=
  manifestNode [endpointNode "api.example.internal" state,endpointNode "app.example.internal" "present"]

def twoSetup : Setup :=
  endpointSetup [(twoText "absent",twoNode "absent"),(twoText "present",twoNode "present")]

def encodeValue : Nat → Roster.Value → Node
  | depth + 1, .map entries =>
    mapNode ((entries.insertionSort (fun a b => a.1 ≤ b.1)).map fun e => (e.1,encodeValue depth e.2))
  | _, .string text => strNode text
  | _, _ => strNode ""

structure Live where
  monitoring : Bool
  endpoints : List String
  deriving DecidableEq, Repr

def liveEndpoints : InternalEndpointProviderConfig Live where
  manifestPath := "/srv/ws/internal-endpoints.yaml"
  encode := fun fields => encodeValue 3 (.map fields)
  manifestWrite := none
  endpointObject := fun site fqdn =>
    if site.live.endpoints.contains fqdn then .ok ("Host name: " ++ fqdn,"A record: 10.0.0.11")
    else .ok ("ipa: ERROR: " ++ fqdn ++ ": host not found","ipa: ERROR: " ++ fqdn ++ ": DNS resource record not found")
  applyConverge := Prog.act fun site => (.ok (),{ site with live := { site.live with endpoints := [] } })

def monitoring : GenericComponentProviderConfig Live where
  componentID := "host-monitoring"
  decommissioned := fun site _ => .ok (!site.live.monitoring)
  decommission := fun _ =>
    Prog.act fun site => (.ok (),{ site with live := { site.live with monitoring := false } })

def twoProviders (S : Setup) : Registry Live := fun id =>
  if id = "host-monitoring" then some (genericComponentProvider S monitoring)
  else if id = internalEndpointProviderID then some (internalEndpointProvider S liveEndpoints)
  else none

def monitoredInput (S : Setup) (newPlanID : String) : PlanInput Live where
  workspaceDir := "/srv/ws"
  hostName := "web1"
  catalog := ⟨[monitoringContract],List.nodup_singleton _⟩
  reachability := .reachable
  offlineDisposition := .none
  retentionDispositions := fun _ => .none
  providers := twoProviders S
  now := 0
  newPlanID := newPlanID
  previousPlan := none

def monitoredSite (manifest : String) : Site Live where
  files := fun path =>
    if path = "/srv/ws/hosts.yml" then some monitoredText
    else if path = "/srv/ws/internal-endpoints.yaml" then some manifest else none
  live := ⟨true,["app.example.internal"]⟩

structure Monitored (S : Setup) (site : Site Live) : Prop where
  path : hostsPath S "/srv/ws" = "/srv/ws/hosts.yml"
  parsed : S.parse monitoredText = .ok monitoredHosts
  there : site.files "/srv/ws/hosts.yml" = some monitoredText

section
variable {S : Setup} {site : Site Live} (monitored : Monitored S site) (newPlanID : String)
  (previous : Option Plan)
include monitored

theorem Monitored.located :
    Located S { monitoredInput S newPlanID with previousPlan := previous } site monitoredHosts
      monitoredHost where
  named := show trim "web1" ≠ "" by decide
  placed := show trim "/srv/ws" ≠ "" by decide
  loaded := by
    change loadHostsFile S _ (hostsPath S "/srv/ws") = _
    unfold loadHostsFile
    rw [monitored.path,monitored.there]
    dsimp only
    rw [monitored.parsed]
  found := show monitoredHosts.hosts.find? (fun h => h.name == trim "web1") = _ by decide

theorem Monitored.planned
    (absent : ∀ prev ∈ previous, ∀ c ∈ prev.components, c.componentID ≠ freeIPAClientProviderID) :
    planHost S { monitoredInput S newPlanID with previousPlan := previous } site =
      .ok (planRoles S (monitoredInput S newPlanID) site monitoredHosts monitoredHost none) := by
  rw [planHost_of_located (monitored.located newPlanID previous),
    planTarget_of_roles (bindPreviousRetirement_of_no_client _ absent) (by decide) (by decide),
    planRoles_previous]

end

theorem endpointSetup_monitored (files : List (String × Node)) (manifest : String) :
    Monitored (endpointSetup files) (monitoredSite manifest) where
  path := by
    change "/srv/ws" ++ "/" ++ "hosts.yml" = _
    decide
  parsed := by simp [endpointSetup]
  there := by simp [monitoredSite]

def twoPlan (newPlanID state : String) : Plan :=
  planRoles twoSetup (monitoredInput twoSetup newPlanID) (monitoredSite (twoText state)) monitoredHosts
    monitoredHost none

def seenPlan : Plan := twoPlan "plan-1" "absent"
def runPlan : Plan := twoPlan "plan-2" "present"

def endpointEffects (fqdn : String) : List (String × StepEffect) :=
  [("internal-endpoint",⟨"internal_endpoint_manifest_absent",fqdn,[]⟩),
    ("internal-endpoint",⟨"internal_endpoint_apply_converge",fqdn,[]⟩)]

def monitoringEffects : List (String × StepEffect) :=
  [("host-monitoring",⟨"generic_component_uninstall","web1",[]⟩)]

theorem both_views :
    seenPlan.components.all (fun c => c.componentID ≠ freeIPAClientProviderID) = true ∧
    runPlan.components.map view = seenPlan.components.map view ∧
    sortRefs runPlan.references = sortRefs seenPlan.references := by
  decide +kernel

theorem both_runs :
    (runPlan.blocked,effects seenPlan,effects runPlan) =
      (false,endpointEffects "app.example.internal" ++ monitoringEffects,
        endpointEffects "api.example.internal" ++ endpointEffects "app.example.internal" ++
          monitoringEffects) := by
  decide +kernel

theorem unchanged_views :
    (twoPlan "plan-2" "absent").components.map view =
      seenPlan.components.map view ∧
    sortRefs (twoPlan "plan-2" "absent").references = sortRefs seenPlan.references := by
  decide +kernel

theorem seenPlan_planned :
    planHost twoSetup (monitoredInput twoSetup "plan-1") (monitoredSite (twoText "absent")) =
      .ok seenPlan :=
  (endpointSetup_monitored _ _).planned "plan-1" none (by simp)

theorem seen_without_client :
    ∀ prev ∈ some seenPlan, ∀ c ∈ prev.components, c.componentID ≠ freeIPAClientProviderID := by
  intro prev same
  rw [← Option.mem_some.mp same]
  simpa using both_views.1

theorem planned_after_seen (newPlanID state : String) :
    planHost twoSetup { monitoredInput twoSetup newPlanID with previousPlan := some seenPlan }
      (monitoredSite (twoText state)) = .ok (twoPlan newPlanID state) :=
  (endpointSetup_monitored _ _).planned newPlanID _ seen_without_client

theorem runPlan_planned :
    planHost twoSetup { monitoredInput twoSetup "plan-2" with previousPlan := some seenPlan }
      (monitoredSite (twoText "present")) = .ok runPlan :=
  planned_after_seen "plan-2" "present"

theorem twoPlan_host (newPlanID state : String) : (twoPlan newPlanID state).host = .ofHost monitoredHost :=
  host_planRoles none

theorem twoPlan_revision (newPlanID state : String) :
    (twoPlan newPlanID state).inventoryRevision = canonicalInventoryHash twoSetup monitoredHosts :=
  revision_planRoles none

theorem twoPlan_view
    (components : (twoPlan newPlanID state).components.map view = seenPlan.components.map view)
    (references : sortRefs (twoPlan newPlanID state).references = sortRefs seenPlan.references) :
    (twoPlan newPlanID state).view = seenPlan.view := by
  have same : SameFootprint (twoPlan newPlanID state) seenPlan := by
    constructor
    · rw [seenPlan,twoPlan_host,twoPlan_host]
    · rw [seenPlan,twoPlan_revision,twoPlan_revision]
    · exact components
    · exact references
  have policy : SamePolicy { monitoredInput twoSetup newPlanID with previousPlan := some seenPlan }
    (monitoredInput twoSetup "plan-1") := ⟨rfl,rfl,rfl⟩
  exact (view_eq_iff policy (planHost_determined (planned_after_seen newPlanID state))
    (planHost_determined seenPlan_planned)).mpr same

theorem twoPlan_hash (view : (twoPlan newPlanID state).view = seenPlan.view) :
    (twoPlan newPlanID state).planHash = seenPlan.planHash := by
  rw [planHost_hash seenPlan_planned,planHost_hash (planned_after_seen newPlanID state)]
  unfold computePlanHash
  rw [view]

theorem same_hash_of_both : runPlan.planHash = seenPlan.planHash :=
  twoPlan_hash (twoPlan_view both_views.2.1 both_views.2.2)

def approvedStore : Store :=
  ⟨[seenPlan],[],[⟨"approval-1",seenPlan.id,seenPlan.planHash,"approve","1970-01-01T00:01:00Z"⟩]⟩

/-- The approval of the plan that was seen, and its hash, let the steps for the
    other endpoint run as well. -/
theorem approved_hash_runs_unseen_steps :
    planHost twoSetup (monitoredInput twoSetup "plan-1") (monitoredSite (twoText "absent")) =
      .ok seenPlan ∧
    effects seenPlan = endpointEffects "app.example.internal" ++ monitoringEffects ∧
    requireApproval twoSetup seenPlan.id seenPlan.planHash seenPlan.environment approvedStore = .ok () ∧
    checkFreshness twoSetup
      { monitoredInput twoSetup "plan-2" with previousPlan := some seenPlan } seenPlan.planHash
      (monitoredSite (twoText "present")) = .ok runPlan ∧
    runPlan.planHash = seenPlan.planHash ∧ runPlan.blocked = false ∧
    effects runPlan = endpointEffects "api.example.internal" ++
      endpointEffects "app.example.internal" ++ monitoringEffects := by
  have evaluated := both_runs
  simp only [Prod.mk.injEq] at evaluated
  refine ⟨seenPlan_planned,evaluated.2.1,?_,
    checkFreshness_of_planned runPlan_planned same_hash_of_both,same_hash_of_both,
    evaluated.1,evaluated.2.2⟩
  simp [requireApproval,Store.approvedForHash,approvedStore]

/-- In an unchanged workspace the approved steps are the ones that run. -/
theorem approved_hash_of_an_unchanged_workspace :
    planHost twoSetup (monitoredInput twoSetup "plan-1") (monitoredSite (twoText "absent")) =
      .ok seenPlan ∧
    requireApproval twoSetup seenPlan.id seenPlan.planHash seenPlan.environment approvedStore = .ok () ∧
    planHost twoSetup { monitoredInput twoSetup "plan-2" with previousPlan := some seenPlan }
      (monitoredSite (twoText "absent")) = .ok (twoPlan "plan-2" "absent") ∧
    HashApart twoSetup seenPlan (twoPlan "plan-2" "absent") ∧
    seenPlan.planHash = (twoPlan "plan-2" "absent").planHash ∧
    effects seenPlan = effects (twoPlan "plan-2" "absent") := by
  have planned := planned_after_seen "plan-2" "absent"
  obtain ⟨components,references⟩ := unchanged_views
  have view := twoPlan_view components references
  have hash : seenPlan.planHash = (twoPlan "plan-2" "absent").planHash := (twoPlan_hash view).symm
  have apart : HashApart twoSetup seenPlan (twoPlan "plan-2" "absent") := by
    intro
    rw [view]
  have answers : SameAnswers twoSetup (monitoredInput twoSetup "plan-1")
      { monitoredInput twoSetup "plan-2" with previousPlan := some seenPlan }
      (monitoredSite (twoText "absent")) (monitoredSite (twoText "absent")) seenPlan := by
    intro id _ c _
    have monitored := endpointSetup_monitored
      [(twoText "absent",twoNode "absent"),(twoText "present",twoNode "present")] (twoText "absent")
    have first : answered twoSetup _ _ id = _ :=
      answered_of_located (monitored.located "plan-1" none) rfl id
    have second : answered twoSetup _ _ id = _ :=
      answered_of_located (monitored.located "plan-2" (some seenPlan))
        (bindPreviousRetirement_of_no_client _ seen_without_client) id
    exact congrArg c.carries (first.trans second.symm)
  refine ⟨seenPlan_planned,?_,planned,apart,hash,
    (same_hash_same_run_iff twoSetup seenPlan_planned planned apart hash).2.mpr answers⟩
  simp [requireApproval,Store.approvedForHash,approvedStore]

end Pilot.Decommission
