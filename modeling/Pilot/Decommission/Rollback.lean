import Pilot.Decommission.Finalize

/-!
Finalizing is all or nothing, except for the store. A failed change of the
workspace is undone from the snapshot, which has every path the change can
touch. A store that refuses one of the two records is not noticed until the
workspace has been rewritten, and then nothing is undone.
-/
namespace Pilot.Decommission
open Roster Interrupt List Function Or

variable {L : Type} {S : Setup} {F : Faults} {input : FinalizeInput L} {w : World L} {c : Cleared}

def managedPaths (S : Setup) (dir hostName : String) : List String :=
  (finalizeManagedRelPaths S hostName).map (S.join dir)

section
variable (S : Setup) (dir hostName : String)

theorem hostsPath_managed : hostsPath S dir ∈ managedPaths S dir hostName := by
  simp [managedPaths,finalizeManagedRelPaths,hostsPath]

theorem inventoryPath_managed : S.join dir "inventory.yml" ∈ managedPaths S dir hostName := by
  simp [managedPaths,finalizeManagedRelPaths]

theorem hostVarsPath_managed : hostVarsPath S dir hostName ∈ managedPaths S dir hostName := by
  simp [managedPaths,finalizeManagedRelPaths,hostVarsPath]

end

structure Within (paths : List String) (before now : World L) : Prop where
  files : ∀ p, p ∉ paths → now.site.files p = before.site.files p
  live : now.site.live = before.site.live
  store : now.store = before.store

theorem Within.refl (paths : List String) (w : World L) : Within paths w w :=
  ⟨fun _ _ => rfl,rfl,rfl⟩

variable {before : World L}

theorem Within.setFile (within : Within paths before now) (mem : path ∈ paths)
    (content : Option String) : Within paths before (now.setFile path content) := by
  refine ⟨?_,within.live,within.store⟩
  intro p outside
  have differ : p ≠ path := fun same => outside (same ▸ mem)
  rw [files_setFile,update_of_ne differ]
  exact within.files p outside

theorem within_writeFile (mem : path ∈ paths) (fault : Option (String × Option String))
    (content : String) : Keeps (Within paths before) (writeFile fault path content) := by
  intro s t within reached
  rcases reached with rfl | visited
  · exact within
  cases fault with
  | some f =>
    rw [mem_singleton.mp visited]
    exact within.setFile mem _
  | none =>
    rcases mem_cons.mp visited with rfl | last
    · exact within.setFile mem _
    · rw [mem_singleton.mp last]
      exact within.setFile mem _

theorem within_removeHostVars (S : Setup) (F : Faults) (dir hostName : String) :
    Keeps (Within (managedPaths S dir hostName) before) (removeHostVarsFileIfPresent S F dir hostName) := by
  refine keeps_bind (keeps_read _) ?_
  intro present
  split
  · exact keeps_read (fun _ => .ok false)
  intro s t within reached
  rcases reached with rfl | visited
  · exact within
  · rw [mem_singleton.mp visited]
    exact within.setFile (hostVarsPath_managed S dir hostName) none

theorem within_writeFinalized (S : Setup) (F : Faults) (dir hostName : String) (hf : HostsFile) :
    Keeps (Within (managedPaths S dir hostName) before) (writeFinalizedWorkspace S F dir hf) := by
  unfold writeFinalizedWorkspace
  split
  · exact keeps_read (fun _ => .error _)
  refine keeps_bind (keeps_read _) ?_
  intro rendered
  refine keeps_bind (within_writeFile (hostsPath_managed S dir hostName) _ _) ?_
  intro _
  refine keeps_bind (keeps_read _) ?_
  intro generated
  exact within_writeFile (inventoryPath_managed S dir hostName) _ _

theorem mapError_ok {ε ε' α : Type} {f : ε → ε'} {x : Except ε α} {a : α}
    (ok : x.mapError f = .ok a) : x = .ok a := by
  cases x with
  | error e => cases ok
  | ok b => exact congrArg Except.ok (Except.ok.inj ok)

def Recorded (S : Setup) (dir : String) (before : World L) (entries : List FileEntry) : Prop :=
  ∀ e ∈ entries, e.content = before.site.files (S.join dir e.rel)

theorem restoreFile_spec (restores : ∀ rel, F.restore rel = none) (dir : String) (e : FileEntry)
    (w : World L) :
    (restoreFile S F dir e).result w = .ok () ∧ ((restoreFile S F dir e).final w).site.files =
        update w.site.files (S.join dir e.rel) e.content ∧
      ((restoreFile S F dir e).final w).site.live = w.site.live ∧
      ((restoreFile S F dir e).final w).store = w.store := by
  unfold restoreFile
  rw [restores e.rel]
  cases e.content with
  | none | some content => exact ⟨rfl,rfl,rfl,rfl⟩

theorem restore_spec (restores : ∀ rel, F.restore rel = none) (dir : String) (before : World L)
    (recorded : Recorded S dir before entries) (w : World L)
    (within : Within (entries.map (fun e => S.join dir e.rel)) before w) :
    (restoreWorkspaceFiles S F dir entries).result w = .ok () ∧
      ((restoreWorkspaceFiles S F dir entries).final w).site.files = before.site.files := by
  induction entries generalizing w with
  | nil =>
    refine ⟨rfl,?_⟩
    funext p
    exact within.files p not_mem_nil
  | cons e rest ih =>
    obtain ⟨here,others⟩ := forall_mem_cons.mp recorded
    obtain ⟨ok,files,live,store⟩ := restoreFile_spec restores dir e w
    have next : Within (rest.map (fun e => S.join dir e.rel)) before
        ((restoreFile S F dir e).final w) := by
      refine ⟨?_,live.trans within.live,store.trans within.store⟩
      intro p outside
      rw [files]
      by_cases same : p = S.join dir e.rel
      · rw [same,update_self,here]
      · rw [update_of_ne same]
        apply within.files
        simpa using ⟨same,by simpa using outside⟩
    obtain ⟨done,restored⟩ := ih others _ next
    constructor
    · change (restoreFile S F dir e >>= fun _ => restoreWorkspaceFiles S F dir rest).result w = _
      rw [result_bind_of_ok ok]
      exact done
    · change ((restoreFile S F dir e >>= fun _ => restoreWorkspaceFiles S F dir rest).final w).site.files = _
      rw [final_bind_of_ok ok]
      exact restored

theorem snapshot_spec (ok : snapshotWorkspaceFiles S F dir hostName w.site.files = .ok entries) :
    Recorded S dir w entries ∧ entries.map FileEntry.rel = finalizeManagedRelPaths S hostName := by
  unfold snapshotWorkspaceFiles at ok
  generalize finalizeManagedRelPaths S hostName = rels at ok ⊢
  induction rels generalizing entries with
  | nil =>
    cases ok
    exact ⟨fun e mem => absurd mem not_mem_nil,rfl⟩
  | cons rel rels ih =>
    rw [mapM_cons] at ok
    obtain ⟨first,here,ok⟩ := Fold.bind_ok ok
    obtain ⟨rest,later,ok⟩ := Fold.bind_ok ok
    cases ok
    obtain ⟨recorded,same⟩ := ih later
    have entry : first = ⟨rel,w.site.files (S.join dir rel)⟩ := by
      unfold snapshotFile at here
      split at here
      · cases here
      · exact (Except.ok.inj here).symm
    subst entry
    exact ⟨forall_mem_cons.mpr ⟨rfl,recorded⟩,by rw [map_cons,same]⟩

structure Passed (S : Setup) (F : Faults) (input : FinalizeInput L) (plan : Plan) (w : World L)
    (c : Cleared) : Prop where
  fresh : ∃ derived, planHost S (freshInput input plan) w.site = .ok derived ∧
    derived.planHash = plan.planHash ∧ derived.blocked = false ∧
    c.fresh = retainPlanFQDN S derived plan
  verified : (evaluateVerifications input.verifications).passed = true
  readable : F.hostsRead = none
  loaded : loadHostsFile S w.site.files (hostsPath S input.planInput.workspaceDir) = .ok c.hf
  snapshot : snapshotWorkspaceFiles S F input.planInput.workspaceDir c.fresh.host.name
    w.site.files = .ok c.snapshot
  present : c.hf.hosts.any (fun h => h.name == c.fresh.host.name) = true

variable {plan : Plan}

theorem gates_cleared (ok : gates S F input plan w = .ok (.inr c)) : Passed S F input plan w c := by
  obtain ⟨derived,fresh,ok⟩ := Fold.bind_ok ok
  obtain ⟨planned,hash⟩ := checkFreshness_ok fresh
  split at ok
  · cases ok
  rename_i unblocked
  dsimp only at ok
  cases verified : (evaluateVerifications input.verifications).passed with
  | false =>
    rw [verified] at ok
    cases ok
  | true =>
    rw [verified] at ok
    cases read : F.hostsRead with
    | some err =>
      rw [read] at ok
      cases ok
    | none =>
      rw [read] at ok
      obtain ⟨hf,loaded,ok⟩ := Fold.bind_ok ok
      obtain ⟨snapshot,taken,ok⟩ := Fold.bind_ok ok
      obtain ⟨present,ok⟩ := Fold.guard_ok ok
      cases ok
      exact ⟨⟨derived,planned,hash,by simpa using unblocked,rfl⟩,verified,read,loaded,taken,
        by simpa using present⟩

theorem gates_of_passed (passed : Passed S F input plan w c) : gates S F input plan w = .ok (.inr c) := by
  obtain ⟨derived,planned,hash,unblocked,fresh⟩ := passed.fresh
  unfold gates
  rw [checkFreshness_of_planned planned hash]
  simp only [bind,Except.bind,unblocked,passed.verified,passed.readable,passed.loaded,← fresh,
    passed.snapshot,passed.present]
  rfl

theorem within_snapshot (passed : Passed S F input plan w c)
    (within : Within (managedPaths S input.planInput.workspaceDir c.fresh.host.name) w now) :
    Within (c.snapshot.map (fun e => S.join input.planInput.workspaceDir e.rel)) w now := by
  have rels := (snapshot_spec passed.snapshot).2
  have same : c.snapshot.map (fun e => S.join input.planInput.workspaceDir e.rel) =
      managedPaths S input.planInput.workspaceDir c.fresh.host.name := by
    rw [managedPaths,← rels,map_map]
    rfl
  rw [same]
  exact within

def afterVars (S : Setup) (F : Faults) (input : FinalizeInput L) (c : Cleared) (w : World L) :
    World L :=
  (removeHostVarsFileIfPresent S F input.planInput.workspaceDir c.fresh.host.name).final w

def writes (S : Setup) (F : Faults) (input : FinalizeInput L) (c : Cleared) :
    Prog (World L) String Unit :=
  writeFinalizedWorkspace S F input.planInput.workspaceDir (c.hf.removeHost c.fresh.host.name)

theorem within_afterVars (w : World L) :
    Within (managedPaths S input.planInput.workspaceDir c.fresh.host.name) w (afterVars S F input c w) :=
  within_removeHostVars S F _ _ w _ (Within.refl _ w) (final_reaches _ w)

theorem within_writes (w : World L) :
    Within (managedPaths S input.planInput.workspaceDir c.fresh.host.name) w
      ((writes S F input c).final (afterVars S F input c w)) :=
  within_writeFinalized S F _ _ _ _ _ (within_afterVars w) (final_reaches _ _)

theorem result_removeHostVars (dir hostName : String) (w : World L) :
    ∃ removed, (removeHostVarsFileIfPresent S F dir hostName).result w = .ok removed := by
  unfold removeHostVarsFileIfPresent
  rw [result_bind_of_ok rfl]
  split
  · exact ⟨false,rfl⟩
  · exact ⟨true,rfl⟩

theorem rewrite_cases (restores : ∀ rel, F.restore rel = none) (passed : Passed S F input plan w c) :
    (∃ removed, (rewriteWorkspace S F input c).result w = .ok removed ∧
      (writes S F input c).result (afterVars S F input c w) = .ok () ∧
      (rewriteWorkspace S F input c).final w =
        (writes S F input c).final (afterVars S F input c w)) ∨
    (writes S F input c).result (afterVars S F input c w) ≠ .ok () ∧
      ∃ err, (rewriteWorkspace S F input c).result w = .error err ∧
        ((rewriteWorkspace S F input c).final w).site.files = w.site.files := by
  obtain ⟨removed,vars⟩ := result_removeHostVars
    input.planInput.workspaceDir c.fresh.host.name w
  have result : (rewriteWorkspace S F input c).result w =
      (settleWorkspace S F input c removed ((writes S F input c).result (afterVars S F input c w))).result
        ((writes S F input c).final (afterVars S F input c w)) := by
    unfold rewriteWorkspace
    rw [result_bind_of_ok vars,result_bind_of_ok (result_attempt _ _),final_attempt]
    rfl
  have final : (rewriteWorkspace S F input c).final w =
      (settleWorkspace S F input c removed ((writes S F input c).result (afterVars S F input c w))).final
        ((writes S F input c).final (afterVars S F input c w)) := by
    unfold rewriteWorkspace
    rw [final_bind_of_ok vars,final_bind_of_ok (result_attempt _ _),final_attempt]
    rfl
  rw [result,final]
  cases done : (writes S F input c).result (afterVars S F input c w) with
  | ok _ => exact inl ⟨removed,rfl,rfl,rfl⟩
  | error mutateErr =>
    right
    obtain ⟨restored,files⟩ := restore_spec restores input.planInput.workspaceDir w
      (snapshot_spec passed.snapshot).1 _ (within_snapshot passed (within_writes w))
    have wrappedOk : ∀ message : String → Err, (wrapped message
        (restoreWorkspaceFiles S F input.planInput.workspaceDir c.snapshot)).result
        ((writes S F input c).final (afterVars S F input c w)) = .ok () := by
      intro message
      change ((restoreWorkspaceFiles S F input.planInput.workspaceDir c.snapshot).result _).mapError _ = _
      rw [restored]
      rfl
    unfold settleWorkspace
    refine ⟨by simp,_,result_bind_of_ok (wrappedOk _),?_⟩
    rw [final_bind_of_ok (wrappedOk _)]
    exact files

/-- Nothing stands against writing the two files without the host. -/
structure Writable (S : Setup) (F : Faults) (hf : HostsFile) : Prop where
  lint : hasErrors (S.lint hf) = false
  render : ∃ text, S.render hf = .ok text
  generate : ∃ text, S.generate hf = .ok text
  hosts : F.hostsWrite = none
  inventory : F.inventoryWrite = none

theorem writes_of_writable (writable : Writable S F (c.hf.removeHost c.fresh.host.name)) (v : World L) :
    (writes S F input c).result v = .ok () := by
  obtain ⟨rendered,render⟩ := writable.render
  obtain ⟨generated,generate⟩ := writable.generate
  have readR (v : World L) : (Prog.read fun _ : World L => (S.render (c.hf.removeHost
      c.fresh.host.name)).mapError (fun e => s!"render hosts.yml: {e}")).result v = .ok rendered :=
    congrArg (Except.mapError _) render
  have readG (v : World L) : (Prog.read fun _ : World L => (S.generate (c.hf.removeHost
      c.fresh.host.name)).mapError (fun e => s!"regenerate inventory.yml: {e}")).result v = .ok generated :=
    congrArg (Except.mapError _) generate
  unfold writes writeFinalizedWorkspace
  rw [if_neg (by simp [writable.lint]),result_bind_of_ok (readR v),writable.hosts,writable.inventory,
    result_bind_of_ok rfl,result_bind_of_ok (readG _)]
  rfl

theorem writes_ok {v : World L} (done : (writes S F input c).result v = .ok ()) :
    Writable S F (c.hf.removeHost c.fresh.host.name) ∧
    ∃ rendered, S.render (c.hf.removeHost c.fresh.host.name) = .ok rendered ∧
      ((writes S F input c).final v).site.files (hostsPath S input.planInput.workspaceDir) =
        some rendered := by
  unfold writes writeFinalizedWorkspace at done ⊢
  split at done
  · cases done
  rename_i clean
  rw [if_neg clean]
  obtain ⟨rendered,readR,done⟩ := result_bind_ok done
  obtain ⟨_,wroteR,done⟩ := result_bind_ok done
  obtain ⟨generated,readG,done⟩ := result_bind_ok done
  rw [final_bind_of_ok readR,final_bind_of_ok wroteR,final_bind_of_ok readG]
  have hosts : F.hostsWrite = none := by
    cases fault : F.hostsWrite with
    | none => rfl
    | some f =>
      rw [fault] at wroteR
      cases wroteR
  have inventory : F.inventoryWrite = none := by
    cases fault : F.inventoryWrite with
    | none => rfl
    | some f =>
      rw [fault] at done
      cases done
  rw [hosts,inventory]
  refine ⟨⟨by simpa using clean,⟨rendered,mapError_ok readR⟩,⟨generated,mapError_ok readG⟩,hosts,inventory⟩,
    rendered,mapError_ok readR,?_⟩
  change update (update _ _ _) _ _ _ = _
  have apart : hostsPath S input.planInput.workspaceDir ≠
    S.join input.planInput.workspaceDir "inventory.yml" := S.files_apart _
  rw [update_of_ne apart]
  exact update_self ..

/-- What the store does not take: a host with a variable that looks like a
    secret, or a row when one of the two writes fails. -/
def StoreRefuses (S : Setup) (F : Faults) (c : Cleared) : Prop :=
  (∃ e ∈ c.fresh.host.extra, S.looksSecretLike e.1 = true) ∨ F.savePlan ≠ none ∨
    F.saveRetiredHost ≠ none

theorem savePlan_cases (fault : Option String) (plan : Plan) (store : Store) :
    (Store.savePlan S fault plan store =
        (.ok (),{ store with
          plans := upsert Plan.id { plan with fqdn := planFQDN S plan } store.plans }) ∧
      (∀ e ∈ plan.host.extra, S.looksSecretLike e.1 = false) ∧ fault = none) ∨
    (∃ err, Store.savePlan S fault plan store = (.error err,store)) ∧
      ((∃ e ∈ plan.host.extra, S.looksSecretLike e.1 = true) ∨ fault ≠ none) := by
  unfold Store.savePlan encodePlan
  cases secret : plan.host.extra.find? (fun e => S.looksSecretLike e.1) with
  | some e =>
    exact inr ⟨⟨_,rfl⟩,inl ⟨e,mem_of_find?_eq_some secret,
      find?_some (p := fun e : String × String => S.looksSecretLike e.1) secret⟩⟩
  | none =>
    cases fault with
    | some err => exact inr ⟨⟨_,rfl⟩,inr (by simp)⟩
    | none =>
      refine inl ⟨rfl,?_,rfl⟩
      intro e mem
      simpa using find?_eq_none.mp secret e mem

theorem record_cases (planID : String) (receipt : Receipt) (row : RetiredHost) (v : World L) :
    ((recordCompletion S F (completedPlan planID c receipt) row).final v).site = v.site ∧
    (((recordCompletion S F (completedPlan planID c receipt) row).result v = .ok () ∧
        ¬ StoreRefuses S F c ∧
        (∃ p ∈ ((recordCompletion S F (completedPlan planID c receipt) row).final v).store.plans,
          p.id = planID ∧ p.status = .completed ∧ p.receipt = some receipt) ∧
        row ∈ ((recordCompletion S F (completedPlan planID c receipt) row).final v).store.retired) ∨
      (∃ err, (recordCompletion S F (completedPlan planID c receipt) row).result v = .error err) ∧
        StoreRefuses S F c) := by
  unfold recordCompletion
  rcases savePlan_cases F.savePlan (completedPlan planID c receipt) v.store with
    ⟨saved,plain,noFault⟩ | ⟨⟨err,refused⟩,why⟩
  · have first : (wrapped (fun (err : Err) =>
        { err with message := s!"finalize: persist completed plan: {err.message}" })
        (onStore (Store.savePlan S F.savePlan (completedPlan planID c receipt)))).result v =
        .ok () := by
      change (Store.savePlan S F.savePlan (completedPlan planID c receipt) v.store).1.mapError _ = _
      rw [saved]
      rfl
    rw [result_bind_of_ok first,final_bind_of_ok first]
    cases fault : F.saveRetiredHost with
    | some err =>
      exact ⟨rfl,inr ⟨⟨_,rfl⟩,inr (inr (by simp [fault]))⟩⟩
    | none =>
      refine ⟨rfl,inl ⟨rfl,?_,?_,mem_upsert _ _ _⟩⟩
      · rintro (⟨e,mem,secret⟩ | failed | failed)
        · rw [plain e mem] at secret
          cases secret
        · exact failed noFault
        · exact failed fault
      · refine ⟨{ completedPlan planID c receipt with fqdn := planFQDN S (completedPlan planID c receipt) },
          ?_,rfl,rfl,rfl⟩
        change _ ∈ (Store.savePlan S F.savePlan (completedPlan planID c receipt) v.store).2.plans
        rw [saved]
        exact mem_upsert _ _ _
  · have first : (wrapped (fun (err : Err) =>
        { err with message := s!"finalize: persist completed plan: {err.message}" })
        (onStore (Store.savePlan S F.savePlan (completedPlan planID c receipt)))).result v =
        .error { err with message := s!"finalize: persist completed plan: {err.message}" } := by
      change (Store.savePlan S F.savePlan (completedPlan planID c receipt) v.store).1.mapError _ = _
      rw [refused]
      rfl
    rw [result_bind_of_error first,final_bind_of_error first]
    refine ⟨rfl,inr ⟨⟨_,rfl⟩,?_⟩⟩
    rcases why with secret | failed
    · exact inl secret
    · exact inr (inl failed)

variable {r : FinalizeResult}

theorem gates_blocked (ok : gates S F input plan w = .ok (.inl r)) : r.status = .blocked := by
  obtain ⟨derived,_,ok⟩ := Fold.bind_ok ok
  split at ok
  · cases ok
    rfl
  dsimp only at ok
  cases verified : (evaluateVerifications input.verifications).passed with
  | false =>
    rw [verified] at ok
    cases ok
    rfl
  | true =>
    rw [verified] at ok
    cases read : F.hostsRead with
    | some err =>
      rw [read] at ok
      cases ok
    | none =>
      rw [read] at ok
      obtain ⟨hf,_,ok⟩ := Fold.bind_ok ok
      obtain ⟨snapshot,_,ok⟩ := Fold.bind_ok ok
      obtain ⟨_,ok⟩ := Fold.guard_ok ok
      cases ok

/-- The call gets as far as changing the workspace. -/
structure Admitted (S : Setup) (F : Faults) (input : FinalizeInput L) (w : World L) (plan : Plan)
    (c : Cleared) : Prop where
  given : input.plan = some plan
  unfinished : plan.replay = none
  current : expired S input.now plan = false
  unlocked : F.lock = none
  passed : Passed S F input plan w c

theorem admission_ok {next : FinalizeResult ⊕ (Plan × Cleared)} (ok : admission S F input w = .ok next) :
    (∃ r, next = .inl r ∧ r.status ≠ .completed) ∨
      ∃ plan c, next = .inr (plan,c) ∧ Admitted S F input w plan c := by
  unfold admission at ok
  split at ok
  · cases ok
  rename_i plan given
  split at ok
  · rename_i result replay
    cases ok
    left
    refine ⟨result,rfl,?_⟩
    unfold Plan.replay at replay
    split at replay
    · cases replay
      intro same
      cases same
    · cases replay
  · rename_i unfinished
    split at ok
    · cases ok
    rename_i current
    split at ok
    · cases ok
    rename_i unlocked
    obtain ⟨found,gated,ok⟩ := Fold.bind_ok ok
    cases found with
    | inl r =>
      cases ok
      left
      refine ⟨r,rfl,?_⟩
      rw [gates_blocked gated]
      decide
    | inr c =>
      cases ok
      exact inr ⟨plan,c,rfl,given,unfinished,by simpa using current,unlocked,gates_cleared gated⟩

theorem admission_of_admitted (admitted : Admitted S F input w plan c) :
    admission S F input w = .ok (.inr (plan,c)) := by
  unfold admission
  simp only [admitted.given,admitted.unfinished,admitted.current,admitted.unlocked,
    gates_of_passed admitted.passed]
  rfl

def HostsFile.names (hf : HostsFile) (name : String) : Prop := ∃ h ∈ hf.hosts, h.name = name

/-- What `Render` writes of the hosts file is parsed back with the same hosts. -/
def ReadsBack (S : Setup) (hf : HostsFile) : Prop :=
  ∀ text, S.render hf = .ok text →
    ∃ back, S.parse text = .ok back ∧ ∀ name, back.names name ↔ hf.names name

structure Completed (S : Setup) (input : FinalizeInput L) (before after : World L)
    (r : FinalizeResult) : Prop where
  gone : ∃ hf remaining,
    loadHostsFile S before.site.files (hostsPath S input.planInput.workspaceDir) = .ok hf ∧
    loadHostsFile S after.site.files (hostsPath S input.planInput.workspaceDir) = .ok remaining ∧
    ∀ name, remaining.names name ↔ hf.names name ∧ name ≠ trim input.planInput.hostName
  verified : (evaluateVerifications input.verifications).passed = true
  fresh : ∃ plan derived, input.plan = some plan ∧
    planHost S (freshInput input plan) before.site = .ok derived ∧ derived.planHash = plan.planHash
  stored : input.hasStore = true → ∃ plan receipt, input.plan = some plan ∧ r.receipt = some receipt ∧
    (∃ p ∈ after.store.plans, p.id = plan.id ∧ p.status = .completed ∧ p.receipt = some receipt) ∧
    ∃ row ∈ after.store.retired, row.host = trim input.planInput.hostName ∧
      row.decommissionID = input.decommissionID

structure AllOrNothing (S : Setup) (F : Faults) (input : FinalizeInput L) (w : World L) : Prop where
  failed : ∀ err, (finalize S F input).result w = .error err →
    ((finalize S F input).final w).site.files = w.site.files
  completed : ∀ r, (finalize S F input).result w = .ok r → r.status = .completed →
    Completed S input w ((finalize S F input).final w) r

theorem finalize_of_inl (admitted : admission S F input w = .ok (.inl r)) :
    (finalize S F input).result w = .ok r ∧ (finalize S F input).final w = w := by
  have read : (Prog.read (admission S F input)).result w = .ok (.inl r) := admitted
  exact ⟨result_bind_of_ok read,final_bind_of_ok read⟩

theorem finalize_of_error (refused : admission S F input w = .error err) :
    (finalize S F input).result w = .error err ∧ (finalize S F input).final w = w := by
  have read : (Prog.read (admission S F input)).result w = .error err := refused
  exact ⟨result_bind_of_error read,final_bind_of_error read⟩

theorem finalize_of_inr (admitted : admission S F input w = .ok (.inr (plan,c))) :
    (finalize S F input).result w = (commit S F input plan.id c).result w ∧
      (finalize S F input).final w = (commit S F input plan.id c).final w := by
  have read : (Prog.read (admission S F input)).result w = .ok (.inr (plan,c)) := admitted
  exact ⟨result_bind_of_ok read,final_bind_of_ok read⟩

theorem commit_cases (restores : ∀ rel, F.restore rel = none) (passed : Passed S F input plan w c)
    (planID : String) :
    ((writes S F input c).result (afterVars S F input c w) ≠ .ok () ∧
      ∃ err, (commit S F input planID c).result w = .error err ∧
        ((commit S F input planID c).final w).site.files = w.site.files) ∨
    (writes S F input c).result (afterVars S F input c w) = .ok () ∧
      ((commit S F input planID c).final w).site =
        ((writes S F input c).final (afterVars S F input c w)).site ∧
      ((input.hasStore = true ∧ StoreRefuses S F c ∧
          ∃ err, (commit S F input planID c).result w = .error err) ∨
        ¬ (input.hasStore = true ∧ StoreRefuses S F c) ∧
          ∃ removed, (commit S F input planID c).result w = .ok ⟨.completed,[],
              some (completionReceipt S input c removed),
              completedPlan planID c (completionReceipt S input c removed)⟩ ∧
            (input.hasStore = true →
              (∃ p ∈ ((commit S F input planID c).final w).store.plans, p.id = planID ∧
                p.status = .completed ∧ p.receipt = some (completionReceipt S input c removed)) ∧
              retiredRow S input c (completionReceipt S input c removed) ∈
                ((commit S F input planID c).final w).store.retired)) := by
  unfold commit
  rcases rewrite_cases restores passed with ⟨removed,rewritten,written,final⟩ | ⟨unwritten,err,failed,files⟩
  · right
    refine ⟨written,?_⟩
    rw [result_bind_of_ok rewritten,final_bind_of_ok rewritten,← final]
    cases stores : input.hasStore with
    | false => exact ⟨rfl,inr ⟨by simp,removed,rfl,by simp⟩⟩
    | true =>
      obtain ⟨site,outcome⟩ := record_cases planID
        (completionReceipt S input c removed)
        (retiredRow S input c (completionReceipt S input c removed))
        ((rewriteWorkspace S F input c).final w)
      rcases outcome with ⟨recorded,accepted,plan,row⟩ | ⟨⟨err,refused⟩,why⟩
      · rw [if_pos rfl,result_bind_of_ok recorded,final_bind_of_ok recorded]
        exact ⟨site,inr ⟨fun both => accepted both.2,removed,rfl,fun _ => ⟨plan,row⟩⟩⟩
      · rw [if_pos rfl,result_bind_of_error refused,final_bind_of_error refused]
        exact ⟨site,inl ⟨rfl,why,err,rfl⟩⟩
  · left
    rw [result_bind_of_error failed,final_bind_of_error failed]
    exact ⟨unwritten,err,rfl,files⟩

theorem Passed.name (passed : Passed S F input plan w c) :
    c.fresh.host.name = trim input.planInput.hostName := by
  obtain ⟨derived,planned,_,_,same⟩ := passed.fresh
  have name := planHost_host planned
  rw [same,host_retainPlanFQDN]
  exact name

section WrittenFiles

variable (readsBack : ∀ hf,
  loadHostsFile S w.site.files (hostsPath S input.planInput.workspaceDir) = .ok hf →
    ReadsBack S (hf.removeHost (trim input.planInput.hostName)))

include readsBack

theorem Passed.gone (passed : Passed S F input plan w c) {after : World L}
    (written : (writes S F input c).result (afterVars S F input c w) = .ok ())
    (site : after.site = ((writes S F input c).final (afterVars S F input c w)).site) :
    ∃ remaining,
      loadHostsFile S after.site.files (hostsPath S input.planInput.workspaceDir) = .ok remaining ∧
      ∀ name, remaining.names name ↔ c.hf.names name ∧ name ≠ trim input.planInput.hostName := by
  obtain ⟨_,rendered,render,hosts⟩ := writes_ok written
  rw [passed.name] at render
  obtain ⟨remaining,parsed,same⟩ := readsBack c.hf passed.loaded rendered render
  refine ⟨remaining,?_,?_⟩
  · unfold loadHostsFile
    rw [site,hosts]
    dsimp only
    rw [parsed]
  · intro name
    rw [same]
    simp only [HostsFile.names,HostsFile.removeHost,mem_filter,decide_eq_true_eq]
    constructor
    · rintro ⟨h,⟨mem,other⟩,rfl⟩
      exact ⟨⟨h,mem,rfl⟩,by simpa using other⟩
    · rintro ⟨⟨h,mem,rfl⟩,other⟩
      exact ⟨h,⟨mem,by simpa using other⟩,rfl⟩

/-- The file was parsed with the host before the call and is parsed without it
    after, so it cannot have the bytes it had. -/
theorem Passed.changed (passed : Passed S F input plan w c) {after : World L}
    (written : (writes S F input c).result (afterVars S F input c w) = .ok ())
    (site : after.site = ((writes S F input c).final (afterVars S F input c w)).site) :
    after.site.files ≠ w.site.files := by
  intro kept
  obtain ⟨remaining,loaded,names⟩ := passed.gone readsBack written site
  rw [kept,passed.loaded] at loaded
  cases loaded
  obtain ⟨h,mem,named⟩ := any_eq_true.mp passed.present
  have here : c.hf.names (trim input.planInput.hostName) :=
    ⟨h,mem,(beq_iff_eq.mp named).trans passed.name⟩
  exact ((names _).mp here).2 rfl

theorem Passed.completed (passed : Passed S F input plan w c)
    (given : input.plan = some plan) {after : World L}
    (written : (writes S F input c).result (afterVars S F input c w) = .ok ())
    (site : after.site = ((writes S F input c).final (afterVars S F input c w)).site)
    (stored : input.hasStore = true → ∃ receipt, r.receipt = some receipt ∧
      (∃ p ∈ after.store.plans, p.id = plan.id ∧ p.status = .completed ∧ p.receipt = some receipt) ∧
      retiredRow S input c receipt ∈ after.store.retired) :
    Completed S input w after r := by
  obtain ⟨derived,planned,hash,_⟩ := passed.fresh
  obtain ⟨remaining,loaded,names⟩ := passed.gone readsBack written site
  constructor
  · exact ⟨c.hf,remaining,passed.loaded,loaded,names⟩
  · exact passed.verified
  · exact ⟨plan,derived,given,planned,hash⟩
  · intro has
    obtain ⟨receipt,same,row,retired⟩ := stored has
    exact ⟨plan,receipt,given,same,row,_,retired,passed.name,rfl⟩

end WrittenFiles

def plainHost (name address : String) : Host := ⟨name,address,"","",[],"","","",[],[]⟩

def twoHosts : HostsFile :=
  ⟨[("ansible_user","ops")],[plainHost "db1" "10.0.0.10",plainHost "web1" "10.0.0.11"]⟩

def plainHostsText (hf : HostsFile) : String :=
  "vars:\n  ansible_user: \"ops\"\n\nhosts:\n" ++ String.join (hf.hosts.map fun h =>
    "  " ++ h.name ++ ":\n    ansible_host: \"" ++ h.ansibleHost ++ "\"\n    roles: []\n")

def emptyGroup (pad name : String) : String := pad ++ name ++ ":\n" ++ pad ++ "  hosts: \x7b\x7d\n"

def plainInventoryText (hf : HostsFile) : String :=
  let infra := ["dns","ntp","docker","keycloak","keycloak-db"]
  "---\nall:\n  hosts:\n" ++ String.join (hf.hosts.map fun h =>
    "    " ++ h.name ++ ":\n      ansible_host: \"" ++ h.ansibleHost ++ "\"\n") ++
  "  vars:\n    ansible_user: \"ops\"\n  children:\n    freeipa:\n      children:\n" ++
  String.join (["freeipa-server","freeipa-client","freeipa-server-replica","freeipa-nfs-server",
    "freeipa-nfs-client","freeipa-dns-client"].map (emptyGroup "        ")) ++
  String.join (("reverse-proxy" :: infra).map (emptyGroup "    ")) ++
  "    infra-provider:\n      children:\n" ++
  String.join (infra.map fun name => "        " ++ name ++ ":\n") ++
  String.join (["linux-servers","log-server","audit-log-forwarding","wazuh-manager","wazuh-fim",
    "seaweedfs-s3","restic-backup","host-monitoring","dcgm-exporter","alertmanager",
    "snmp-exporter","prometheus","thanos-query","detection-engine","login-probe",
    "agent-controller","dashboard","pilot-access-gateway","pilot-access-directory",
    "pilot-session-store","pilot-access-target-policy","prod","staging","sandbox"].map
    (emptyGroup "    "))

/-- The surroundings of a workspace with two plain hosts, with the digests of
    the two inventories and of the plan for `web1`. -/
def plainSetup : Setup where
  sha256 text :=
    if text = Json.marshal twoHosts.value then
      "39892bba544e275b1187c9cf7a903ae88a6a14593542323234bf5e8e78eb54ab"
    else if text = Json.marshal (twoHosts.removeHost "web1").value then
      "43256c1d0ccdef93869a53438cff91f709cc83defe01d40ae2ec38a4d356e98e"
    else "783ef66e51ce0496b4d147d009bb51a37af27a78235fe305ca20276f7b63cc71"
  quote s := "\"" ++ s ++ "\""
  toLower s := String.ofList (s.toList.map Char.toLower)
  isIP _ := false
  join a b := a ++ "/" ++ b
  isAbs s := s.toList.head? == some '/'
  formatTime t := if t = 0 then "1970-01-01T00:00:00Z" else "1970-01-01T00:30:00Z"
  parseTime s :=
    if s = "1970-01-01T00:00:00Z" then some 0
    else if s = "1970-01-01T00:30:00Z" then some defaultPlanTTL else none
  yaml := Yaml.fileLibrary []
  parse text :=
    if text = plainHostsText twoHosts then .ok twoHosts
    else if text = plainHostsText (twoHosts.removeHost "web1") then .ok (twoHosts.removeHost "web1")
    else .error "no such document"
  lint hf := hf.hosts.map fun h =>
    ⟨h.name,.warning,"no roles assigned — this host won't be targeted by any playbook"⟩
  issuesText _ := "[]"
  render hf := .ok (plainHostsText hf)
  generate hf := .ok (plainInventoryText hf)
  looksSecretLike _ := false
  files_apart := by
    intro dir same
    have lists := congrArg String.toList same
    simp only [String.toList_append,append_cancel_left_eq] at lists
    revert lists
    decide

def noFaults : Faults := ⟨none,none,fun _ => none,false,none,none,fun _ => none,none,none⟩

def plainPlanInput : PlanInput Unit where
  workspaceDir := "/srv/ws"
  hostName := "web1"
  catalog := ⟨[],nodup_nil⟩
  reachability := .reachable
  offlineDisposition := .none
  retentionDispositions := fun _ => .none
  providers := fun _ => none
  now := 0
  newPlanID := "plan-1"
  previousPlan := none

def plainWorld : World Unit where
  site := ⟨fun path =>
    if path = "/srv/ws/hosts.yml" then some (plainHostsText twoHosts)
    else if path = "/srv/ws/inventory.yml" then some (plainInventoryText twoHosts) else none,()⟩
  store := ⟨[],[],[]⟩

def plainPlan : Plan :=
  ({ basePlan plainSetup plainPlanInput twoHosts (plainHost "web1" "10.0.0.11") with
    warnings := [noRolesWarning] } : Plan).sealHash plainSetup

def plainInput : FinalizeInput Unit where
  plan := some plainPlan
  planInput := plainPlanInput
  verifications := []
  decommissionID := "plan-1"
  reason := "retired"
  startedAt := 0
  now := 0
  hasStore := true

theorem plain_loaded :
    loadHostsFile plainSetup plainWorld.site.files (hostsPath plainSetup plainPlanInput.workspaceDir) =
      .ok twoHosts := by
  have path : hostsPath plainSetup plainPlanInput.workspaceDir = "/srv/ws/hosts.yml" := by decide
  have here : plainWorld.site.files "/srv/ws/hosts.yml" = some (plainHostsText twoHosts) := by
    simp [plainWorld]
  have parsed : plainSetup.parse (plainHostsText twoHosts) = .ok twoHosts := by
    simp [plainSetup]
  unfold loadHostsFile
  rw [path,here]
  dsimp only
  rw [parsed]

theorem plain_readsBack : ReadsBack plainSetup (twoHosts.removeHost "web1") := by
  intro text rendered
  cases rendered
  have other : plainHostsText (twoHosts.removeHost "web1") ≠ plainHostsText twoHosts := by
    decide +kernel
  refine ⟨twoHosts.removeHost "web1",?_,fun _ => Iff.rfl⟩
  simp only [plainSetup,if_neg other,if_true]

theorem plain_located (previous : Option Plan) :
    Located plainSetup { plainPlanInput with previousPlan := previous } plainWorld.site twoHosts
      (plainHost "web1" "10.0.0.11") where
  named := show trim "web1" ≠ "" by decide
  placed := show trim "/srv/ws" ≠ "" by decide
  loaded := plain_loaded
  found := show twoHosts.hosts.find? (fun h => h.name == trim "web1") = _ by decide

theorem plain_planned (given : previous = none ∨ previous = some plainPlan) :
    planHost plainSetup { plainPlanInput with previousPlan := previous } plainWorld.site =
      .ok plainPlan := by
  rw [planHost_of_located (plain_located previous)]
  refine planTarget_of_no_roles (r := none) ?_ rfl
  rcases given with rfl | rfl
  · rfl
  · simp [bindPreviousRetirement,plainPlan,Plan.sealHash,basePlan]

def plainCleared : Cleared where
  fresh := retainPlanFQDN plainSetup plainPlan plainPlan
  hf := twoHosts
  snapshot := [⟨"hosts.yml",some (plainHostsText twoHosts)⟩,
    ⟨"inventory.yml",some (plainInventoryText twoHosts)⟩,⟨"host_vars/web1.yml",none⟩]

theorem plainCleared_name : plainCleared.fresh.host.name = "web1" := by
  unfold plainCleared
  rw [host_retainPlanFQDN]
  rfl

variable (savePlan saveRetiredHost : Option String)

theorem plain_passed :
    Passed plainSetup { noFaults with savePlan := savePlan, saveRetiredHost := saveRetiredHost }
      plainInput plainPlan plainWorld plainCleared where
  fresh := ⟨plainPlan,plain_planned (inr rfl),rfl,rfl,rfl⟩
  verified := rfl
  readable := rfl
  loaded := plain_loaded
  snapshot := by
    rw [plainCleared_name]
    have rels : finalizeManagedRelPaths plainSetup "web1" =
      ["hosts.yml","inventory.yml","host_vars/web1.yml"] := by decide
    have hosts : plainSetup.join "/srv/ws" "hosts.yml" = "/srv/ws/hosts.yml" := by decide
    have inventory : plainSetup.join "/srv/ws" "inventory.yml" = "/srv/ws/inventory.yml" := by decide
    have vars : plainSetup.join "/srv/ws" "host_vars/web1.yml" = "/srv/ws/host_vars/web1.yml" := by
      decide
    change snapshotWorkspaceFiles plainSetup _ "/srv/ws" "web1" _ = _
    unfold snapshotWorkspaceFiles
    rw [rels]
    simp [snapshotFile,noFaults,hosts,inventory,vars,plainWorld,plainCleared]
    rfl
  present := by
    rw [plainCleared_name]
    decide

theorem plain_admission :
    admission plainSetup
      { noFaults with savePlan := savePlan, saveRetiredHost := saveRetiredHost } plainInput
      plainWorld = .ok (.inr (plainPlan,plainCleared)) :=
  admission_of_admitted ⟨rfl,rfl,by decide,rfl,plain_passed _ _⟩

def lockedStore : Faults := { noFaults with savePlan := some "database is locked" }

def textOfBoth : String := "vars:\n  ansible_user: \"ops\"\n\nhosts:\n  db1:\n    ansible_host: " ++
  "\"10.0.0.10\"\n    roles: []\n  web1:\n    ansible_host: \"10.0.0.11\"\n    roles: []\n"
def textWithout : String := "vars:\n  ansible_user: \"ops\"\n\nhosts:\n  db1:\n    ansible_host: " ++
  "\"10.0.0.10\"\n    roles: []\n"

end Pilot.Decommission
