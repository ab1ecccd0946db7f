import Pilot.SshCache.Propagation

/-!
Whether a retirement is final. A settle writes back the hosts a prepare
required, and the epoch that guards it changes only when a retired host was
still pending. A host that was acknowledged first can therefore come back.
-/
namespace Pilot.SshCache
open Fold Transition List

variable {Epoch : Type}

/-- A settle that makes a retired host pending again. -/
def Restores (w : World Epoch) : Action Epoch → Prop
  | .settle prepared changed => ∃ name p h, prepared.get? name = some p ∧ name ∉ changed ∧
      h ∈ p.required ∧ w.retired.has h = true
  | _ => False

def Discharged (users : Dict String (Entry Epoch)) (retired : Dict String Receipt) : Prop :=
  ∀ h, retired.has h = true → ∀ name, h ∉ pendingOf (users.get? name)

section
variable [DecidableEq Epoch]

/-- No retired host is pending, so no retire action meets one and the status
    of every receipt is settled. -/
structure Final (env : Env Epoch) (w : World Epoch) : Prop where
  discharged : ∀ h, w.retired.has h = true → ∀ name, h ∉ w.pending name
  retires : ∀ now domain stage items,
    journal env now domain w.stored w.draws (.retire stage items) ≠
      .error "retired alias has unexpected pending work"
  settled : ∀ state, w.stored = some state → ∀ hostAlias receipt,
    state.retired.get? hostAlias = some receipt → ∀ fqdn query, env.lower fqdn = receipt.fqdn →
    (query = "" ∨ query = hostAlias) → ∃ hits, receipt ∈ hits ∧
      retirementStatus env state fqdn query receipt.stage =
        .status true hits (env.lower fqdn) query receipt.stage

end

section
variable {env : Env Epoch} {w w' : World Epoch} {action : Action Epoch}

theorem discharged_retire (discharged : Discharged users retired)
    (made : RetiredFrom env users retired draws items s) : Discharged s.users s.retired := by
  intro h recorded name pending
  cases known : retired.has h with
  | false => exact made.cleared h recorded known name pending
  | true =>
    rcases made.entries name with ⟨-,none⟩ | ⟨old,new,before,now,-,-,fewer,-⟩
    · rw [none] at pending
      cases pending
    · rw [now] at pending
      exact discharged h known name (by rw [before]; exact fewer h pending)

theorem discharged_step (discharged : Discharged w.users w.retired)
    (effect : Effect env w action w') (orderly : ¬ Restores w action) :
    Discharged w'.users w'.retired := by
  intro h recorded name pending
  cases effect with
  | quiet _ users retired =>
    rw [users] at pending
    rw [retired] at recorded
    exact discharged h recorded name pending
  | @prepare hosts items _ s made active users retired =>
    rw [users] at pending
    rw [retired] at recorded
    cases listed : s.prepared.get? name with
    | none =>
      rw [made.kept name listed] at pending
      exact discharged h recorded name pending
    | some p =>
      obtain ⟨keys,entry,-⟩ := made.made name p listed
      rw [entry] at pending
      rcases mem_append.mp (mem_sortedSet.mp pending) with host | earlier
      · rw [active h host] at recorded
        cases recorded
      · exact discharged h recorded name earlier
  | @settle changed _ issue mem users retired =>
    rw [retired] at recorded
    rcases users name with ⟨-,kept⟩ | ⟨p,entry,listed,old,-,now⟩
    · rw [kept] at pending
      exact discharged h recorded name pending
    rw [now] at pending
    by_cases same : name ∈ changed
    · rw [if_pos same] at pending
      exact discharged h recorded name (by rwa [old])
    · rw [if_neg same] at pending
      exact orderly ⟨name,p,h,listed,same,pending,recorded⟩
  | ack read users retired =>
    rw [retired] at recorded
    rcases users name with ⟨-,none,-⟩ | ⟨entry,rest,old,now,-,left⟩
    · rw [none] at pending
      cases pending
    · rw [now] at pending
      exact discharged h recorded name (by rw [old]; exact ((left h).mp pending).1)
  | retire made users retired =>
    rw [users] at pending
    rw [retired] at recorded
    exact discharged_retire discharged made h recorded name pending

theorem restored_step (effect : Effect env w action w') (restores : Restores w action) :
    ¬ Discharged w'.users w'.retired := by
  cases effect with
  | @settle changed _ issue mem users retired =>
    obtain ⟨name,p,h,listed,unchanged,required,recorded⟩ := restores
    intro discharged
    rcases users name with ⟨none,-⟩ | ⟨q,entry,listed',-,-,now⟩
    · cases none.symm.trans listed
    cases listed'.symm.trans listed
    refine discharged h (by rwa [retired]) name ?_
    rw [now,if_neg unchanged]
    exact required
  | quiet idle =>
    cases action with
    | settle => cases idle
    | _ => exact restores.elim
  | prepare | ack | retire => exact restores.elim

end

section
variable {env : Env Epoch} {state : Journal Epoch}

theorem retireItem_total (discharged : Discharged s.users s.retired) :
    ∃ t, retireItem env now s item = .ok t ∧ Discharged t.users t.retired := by
  cases known : s.retired.has item.hostAlias with
  | true =>
    have idle : s.users.entries.any (fun p => p.2.pending.contains item.hostAlias) = false := by
      rw [any_eq_false]
      rintro ⟨name,entry⟩ mem pending
      refine discharged item.hostAlias known name ?_
      rw [Dict.mem_entries.mp mem]
      exact contains_iff_mem.mp pending
    refine ⟨s,?_,discharged⟩
    simp only [retireItem,known,idle]
    rfl
  | false =>
    have ok : ∃ t, retireItem env now s item = .ok t := by
      simp only [retireItem,known]
      exact ⟨_,rfl⟩
    obtain ⟨t,ok⟩ := ok
    have made := retireItem_from (mem_singleton_self item) (retiredFrom_start s [item]) ok
    exact ⟨t,ok,discharged_retire discharged made⟩

/-- The messages of the checks that come before a retire touches any state. -/
def batchErrors : List String :=
  ["invalid authorized retirement","ambiguous retirement alias",
    "retirement identity conflicts with durable receipt"]

theorem checkRetirement_error (err : checkRetirement env state stage batch item = .error e) :
    e ∈ batchErrors := by
  unfold checkRetirement at err
  split at err
  · cases err
    simp [batchErrors]
  split at err
  · cases err
    simp [batchErrors]
  split at err
  · cases err
    simp [batchErrors]
  · cases err

theorem retire_error (discharged : Discharged state.users state.retired)
    (err : retire env now state draws stage items = .error e) : e ∈ batchErrors := by
  unfold retire at err
  cases checked : items.foldlM (checkRetirement env state stage) Dict.empty with
  | error e' =>
    rw [checked] at err
    cases err
    obtain ⟨batch,item,-,failed⟩ := foldlM_error checked
    exact checkRetirement_error failed
  | ok batch =>
    rw [checked] at err
    have total : ∃ t, items.foldlM (retireItem env now) ⟨state.users,state.retired,draws,false⟩ = .ok t :=
      foldlM_total discharged
        (fun s item _ => retireItem_total)
    obtain ⟨t,ok⟩ := total
    cases err.symm.trans ok

/-- A receipt is recorded under its own alias. -/
def Filed (retired : Dict String Receipt) : Prop :=
  ∀ hostAlias receipt, retired.get? hostAlias = some receipt → receipt.hostAlias = hostAlias

theorem status_settled (discharged : Discharged state.users state.retired)
    (filed : Filed state.retired) (found : state.retired.get? hostAlias = some receipt)
    (name : env.lower fqdn = receipt.fqdn) (asked : query = "" ∨ query = hostAlias) :
    ∃ hits, receipt ∈ hits ∧ retirementStatus env state fqdn query receipt.stage =
        .status true hits (env.lower fqdn) query receipt.stage := by
  have hit : receipt ∈ (state.retired.entries.map Prod.snd).filter (fun r =>
      r.fqdn == env.lower fqdn && (query == "" || r.hostAlias == query) && r.stage == receipt.stage) := by
    rw [mem_filter]
    refine ⟨mem_map.mpr ⟨_,Dict.mem_entries.mpr found,rfl⟩,?_⟩
    rcases asked with rfl | rfl
    · simp [name]
    · simp [name,filed _ _ found]
  refine ⟨_,hit,?_⟩
  unfold retirementStatus
  dsimp only
  congr 1
  rw [Bool.and_eq_true]
  refine ⟨by simpa using ne_nil_of_mem hit,?_⟩
  rw [all_eq_true]
  intro r mem
  obtain ⟨⟨other,r'⟩,stored,rfl⟩ := mem_map.mp (mem_filter.mp mem).1
  have recorded := Dict.mem_entries.mp stored
  rw [Bool.not_eq_true',any_eq_false]
  intro item open_ same
  obtain ⟨entry,user,pending,-⟩ := mem_workOf.mp open_
  refine discharged other (Dict.has_iff.mpr ⟨_,recorded⟩) item.user ?_
  rw [user,← filed _ _ recorded,← beq_iff_eq.mp same]
  exact pending

end

theorem filed_step (filed : Filed w.retired) (effect : Effect env w action w') : Filed w'.retired := by
  cases effect with
  | quiet _ _ retired | prepare _ _ _ retired | settle _ _ retired | ack _ _ retired => rwa [retired]
  | retire made _ retired =>
    intro hostAlias receipt found
    rw [retired] at found
    rcases made.filed hostAlias receipt found with old | new
    · exact filed hostAlias receipt old
    · exact new

section
variable [DecidableEq Epoch] {env : Env Epoch} {w : World Epoch}

theorem final_of_discharged (discharged : Discharged w.users w.retired) (filed : Filed w.retired) :
    Final env w := by
  refine ⟨discharged,?_,?_⟩
  · intro now domain stage items failed
    rcases bind_error failed with failed | ⟨_,-,written⟩
    · unfold update at failed
      rcases guard_error failed with other | failed
      · exact absurd other (by decide)
      rcases bind_error failed with failed | ⟨_,-,answered⟩
      · rw [World.users,← users_getD w.stored domain,← retired_getD w domain] at discharged
        have known := retire_error discharged failed
        revert known
        decide
      · cases answered
    · cases written
  · intro state stored hostAlias receipt found fqdn query name asked
    rw [World.users,World.retired,stored] at discharged
    rw [World.retired,stored] at filed
    exact status_settled discharged filed found name asked

/-- Retirement is final along a run exactly when no settle in it requires a
    host that was retired since its prepare. -/
theorem retirement_is_final_iff (env : Env Epoch) (calls : List (Call Epoch)) :
    (∀ front w, front <+: calls → Run (Step env) World.empty front w → Final env w) ↔
      ∀ front call w w', front ++ [call] <+: calls → Run (Step env) World.empty front w →
        Step env w call w' → ¬ Restores w call.action := by
  constructor
  · intro final front call w w' within run step restores
    have after := final _ w' within (.next run step)
    exact restored_step (step_effect step).1 restores after.discharged
  intro orderly front w within run
  have kept : Discharged w.users w.retired ∧ Filed w.retired := by
    induction run with
    | start => exact ⟨nofun,nofun⟩
    | @next t u front call run step ih =>
      obtain ⟨discharged,filed⟩ := ih ((prefix_append _ _).trans within)
      have effect := (step_effect step).1
      exact ⟨discharged_step discharged effect (orderly _ _ _ _ within run step), filed_step filed effect⟩
  exact final_of_discharged kept.1 kept.2

end

def sampleRetirement : Retirement := ⟨"web","web.ipa.test","prod","decommissioned","operator"⟩

def sampleReceipts : Dict String Receipt :=
  ⟨[("web",{ sampleRetirement with discharged := 0, result := "retired", recordedAt := 0 })],by simp⟩

def sampleRetire : Call Nat := ⟨0,"ipa.test",.retire "prod" [sampleRetirement]⟩
def sampleSettle : Call Nat := ⟨0,"ipa.test",.settle samplePrepared []⟩

def sampleRetired : World Nat :=
  sampleDone.learn sampleRetire.action (some (sampleJournal [] sampleReceipts)) 1
    (.retired true sampleReceipts [])

def sampleRestored : World Nat :=
  sampleRetired.learn sampleSettle.action (some (sampleJournal ["web"] sampleReceipts)) 1
    (.work [⟨"alice","web",0,[sampleKey]⟩])

/-- The host is acknowledged and retired between a prepare and its settle. The
    settle makes it pending again, and the same retirement is then refused. -/
theorem settle_restores_retired_host :
    Run (Step sampleEnv) World.empty [samplePrepare,sampleAck,sampleRetire,sampleSettle]
        sampleRestored ∧
      sampleRestored.retired.has "web" = true ∧ sampleRestored.pending "alice" = ["web"] ∧
      journal sampleEnv 0 "ipa.test" sampleRestored.stored sampleRestored.draws sampleRetire.action =
        .error "retired alias has unexpected pending work" ∧
      ¬ Final sampleEnv sampleRestored := by
  have retired : Step sampleEnv sampleDone sampleRetire sampleRetired :=
    ⟨trivial,_,_,_,by decide +kernel,rfl⟩
  have restored : Step sampleEnv sampleRetired sampleSettle sampleRestored :=
    ⟨⟨_,mem_singleton_self _,rfl⟩,_,_,_,by decide +kernel,rfl⟩
  refine ⟨.next (.next sample_run retired) restored,by decide +kernel,by decide +kernel,
    by decide +kernel,?_⟩
  intro final
  exact final.discharged "web" (by decide +kernel) "alice" (by decide +kernel)

end Pilot.SshCache
