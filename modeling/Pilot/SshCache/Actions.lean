import Pilot.Library.Fold
import Pilot.SshCache.Journal

/-!
What each action of the journal does to the entry of one user. The loops over
users, work items and retirements are read here once.
-/
namespace Pilot.SshCache
open Fold List Dict

variable {Epoch : Type} {env : Env Epoch}

@[simp] theorem mem_sorted : x ∈ sorted xs ↔ x ∈ xs :=
  mem_insertionSort _

@[simp] theorem mem_sortedSet : x ∈ sortedSet xs ↔ x ∈ xs := by
  simp [sortedSet]

theorem mem_workOf :
    item ∈ workOf users ↔ ∃ entry, users.get? item.user = some entry ∧ item.host ∈ entry.pending ∧
      item.epoch = entry.epoch ∧ item.keys = entry.keys := by
  obtain ⟨user,host,epoch,keys⟩ := item
  simp only [workOf,mem_flatMap,mem_insertionSort,mem_map,mem_sorted,
    WorkItem.mk.injEq,Prod.exists,mem_entries]
  constructor
  · rintro ⟨name,entry,found,h,mem,rfl,rfl,rfl,rfl⟩
    exact ⟨entry,found,mem,rfl,rfl⟩
  · rintro ⟨entry,found,mem,rfl,rfl⟩
    exact ⟨user,entry,found,host,mem,rfl,rfl,rfl,rfl⟩

theorem required_spec (hosts keys : List String) (previous : Option (Entry Epoch)) :
    (∀ h ∈ pendingOf previous, h ∈ requiredHosts hosts keys previous) ∧
      (∀ h ∈ requiredHosts hosts keys previous, h ∈ hosts ++ pendingOf previous) ∧
      ∀ h ∈ hosts, h ∉ requiredHosts hosts keys previous →
        ∃ entry, previous = some entry ∧ entry.keys = keys ∧ h ∈ entry.hosts ∧ h ∉ entry.pending := by
  cases previous with
  | none => simp [requiredHosts,pendingOf]
  | some entry =>
    by_cases same : entry.keys = keys
    · simp only [requiredHosts,pendingOf,same,if_true,mem_sortedSet,mem_append,mem_filter,Option.elim_some]
      refine ⟨fun h mem => .inl mem,?_,?_⟩
      · rintro h (pending | ⟨host,-⟩)
        · exact .inr pending
        · exact .inl host
      · intro h host skipped
        refine ⟨entry,rfl,same,?_,fun pending => skipped (.inl pending)⟩
        by_contra other
        exact skipped (.inr ⟨host,by simpa using other⟩)
    · simp only [requiredHosts,pendingOf,same,if_false,mem_sortedSet,mem_append,Option.elim_some]
      exact ⟨fun h mem => .inr mem,fun h mem => mem,fun h host skipped => absurd (.inl host) skipped⟩

/-- A prepare so far: each user of the answer has a new entry under its own
    epoch, built from what the journal held before. -/
structure PreparedFrom (env : Env Epoch) (hosts : List String) (before : Dict String (Entry Epoch))
    (start : Nat) (s : Preparing Epoch) : Prop where
  later : start ≤ s.draws
  kept : ∀ name, s.prepared.get? name = none → s.users.get? name = before.get? name
  made : ∀ name p, s.prepared.get? name = some p → ∃ keys,
    s.users.get? name = some ⟨keys,p.epoch,hosts,sortedSet (hosts ++ pendingOf (before.get? name))⟩ ∧
      p.required = requiredHosts hosts keys (before.get? name)
  drawn : ∀ name p, s.prepared.get? name = some p →
    ∃ n, start ≤ n ∧ n < s.draws ∧ p.epoch = env.uuid n
  distinct : Function.Injective env.uuid → ∀ a b p q, s.prepared.get? a = some p →
    s.prepared.get? b = some q → p.epoch = q.epoch → a = b

variable {hosts : List String}

theorem prepareUser_cases (ok : prepareUser env hosts s item = .ok t) :
    s.prepared.get? item.name = none ∧ ∃ keys, t.users = s.users.set item.name
        ⟨keys,env.uuid s.draws,hosts,sortedSet (hosts ++ pendingOf (s.users.get? item.name))⟩ ∧
      t.prepared = s.prepared.set item.name
        ⟨env.uuid s.draws,requiredHosts hosts keys (s.users.get? item.name)⟩ ∧
      t.draws = s.draws + 1 := by
  obtain ⟨keys,-,ok⟩ := bind_ok ok
  obtain ⟨-,ok⟩ := guard_ok ok
  obtain ⟨new,ok⟩ := guard_ok ok
  cases ok
  exact ⟨has_false.mp (by simpa using new),keys,rfl,rfl,rfl⟩

variable {before : Dict String (Entry Epoch)}

theorem prepareUser_from (from_ : PreparedFrom env hosts before start s)
    (ok : prepareUser env hosts s item = .ok t) : PreparedFrom env hosts before start t := by
  obtain ⟨new,keys,users,prepared,draws⟩ := prepareUser_cases ok
  rw [from_.kept item.name new] at users prepared
  have older (fresh : Function.Injective env.uuid) {name : String} {p : Prepared Epoch}
      (found : s.prepared.get? name = some p) : p.epoch ≠ env.uuid s.draws := by
    obtain ⟨n,-,less,drawn⟩ := from_.drawn name p found
    rw [drawn]
    intro same
    exact absurd (fresh same) (Nat.ne_of_lt less)
  refine ⟨by have := from_.later; omega,?_,?_,?_,?_⟩
  · intro name missing
    rw [prepared,get?_set] at missing
    split at missing
    · cases missing
    · rename_i other
      rw [users,get?_set,if_neg other,from_.kept name missing]
  · intro name p found
    rw [prepared,get?_set] at found
    rw [users,get?_set]
    split at found
    · rename_i same
      cases found
      rw [if_pos same,same]
      exact ⟨keys,rfl,rfl⟩
    · rename_i other
      rw [if_neg other]
      exact from_.made name p found
  · intro name p found
    rw [prepared,get?_set] at found
    split at found
    · cases found
      exact ⟨s.draws,from_.later,by omega,rfl⟩
    · obtain ⟨n,first,last,drawn⟩ := from_.drawn name p found
      exact ⟨n,first,by omega,drawn⟩
  · intro fresh a b p q foundA foundB same
    rw [prepared,get?_set] at foundA foundB
    split at foundA
    · rename_i here
      cases foundA
      split at foundB
      · rename_i there
        rw [here,there]
      · exact absurd same.symm (older fresh foundB)
    · split at foundB
      · cases foundB
        exact absurd same (older fresh foundA)
      · exact from_.distinct fresh a b p q foundA foundB same

theorem prepare_spec (ok : prepare env state draws hosts users = .ok s) :
    PreparedFrom env (sortedSet hosts) state.users draws s ∧
      ∀ h ∈ sortedSet hosts, state.retired.has h = false := by
  unfold prepare at ok
  obtain ⟨-,ok⟩ := guard_ok ok
  obtain ⟨active,ok⟩ := guard_ok ok
  refine ⟨?_,by simpa using active⟩
  refine foldlM_invariant ?_ (fun s item t _ => prepareUser_from) ok
  exact ⟨le_rfl,fun _ _ => rfl,nofun,nofun,fun _ => nofun⟩

section
variable [DecidableEq Epoch]

variable {users after : Dict String (Entry Epoch)}

theorem settleUser_cases (ok : settleUser env changed users item = .ok after) :
    ∃ entry, users.get? item.1 = some entry ∧ entry.epoch = item.2.epoch ∧ ∀ name,
      after.get? name = if name = item.1 then
          some (if item.1 ∈ changed then entry else { entry with pending := item.2.required })
        else users.get? name := by
  unfold settleUser at ok
  split at ok
  · cases ok
  rename_i entry found
  split at ok
  · cases ok
  rename_i same
  refine ⟨entry,found,by simpa using same,?_⟩
  split at ok
  · rename_i kept
    cases ok
    intro name
    by_cases here : name = item.1
    · rw [here,if_pos rfl,if_pos kept,found]
    · rw [if_neg here]
  · rename_i reset
    cases ok
    intro name
    rw [get?_set,if_neg reset]

theorem settleUsers_spec {items : List (String × Prepared Epoch)} (distinct : (items.map Prod.fst).Nodup)
    (ok : items.foldlM (settleUser env changed) users = .ok after) (name : String) :
    ((∀ p, (name,p) ∉ items) ∧ after.get? name = users.get? name) ∨
      ∃ p entry, (name,p) ∈ items ∧ users.get? name = some entry ∧ entry.epoch = p.epoch ∧ after.get? name =
          some (if name ∈ changed then entry else { entry with pending := p.required }) := by
  induction items generalizing users with
  | nil =>
    cases ok
    exact .inl ⟨by simp,rfl⟩
  | cons item rest ih =>
    obtain ⟨absent,distinct⟩ := nodup_cons.mp distinct
    rw [foldlM_cons] at ok
    obtain ⟨mid,first,ok⟩ := bind_ok ok
    obtain ⟨entry,found,same,lookup⟩ := settleUser_cases first
    by_cases here : name = item.1
    · subst here
      rcases ih distinct ok with ⟨-,last⟩ | ⟨p,entry,mem,-⟩
      · rw [lookup,if_pos rfl] at last
        exact .inr ⟨item.2,entry,by simp,found,same,last⟩
      · exact absurd (mem_map_of_mem mem) absent
    · rcases ih distinct ok with ⟨none,last⟩ | ⟨p,entry,mem,found,same,last⟩
      · rw [lookup,if_neg here] at last
        refine .inl ⟨fun p mem => ?_,last⟩
        rcases mem_cons.mp mem with rfl | later
        · exact here rfl
        · exact none p later
      · rw [lookup,if_neg here] at found
        exact .inr ⟨p,entry,by simp [mem],found,same,last⟩

theorem settle_spec {prepared : Dict String (Prepared Epoch)}
    (ok : settle env users prepared changed = .ok after) (name : String) :
    (prepared.get? name = none ∧ after.get? name = users.get? name) ∨
      ∃ p entry, prepared.get? name = some p ∧ users.get? name = some entry ∧
        entry.epoch = p.epoch ∧
        after.get? name =
          some (if name ∈ changed then entry else { entry with pending := p.required }) := by
  rcases settleUsers_spec prepared.distinct ok name with ⟨none,same⟩ | ⟨p,entry,mem,rest⟩
  · refine .inl ⟨?_,same⟩
    rw [Option.eq_none_iff_forall_not_mem]
    intro p found
    exact none p (mem_entries.mpr found)
  · exact .inr ⟨p,entry,mem_entries.mp mem,rest⟩

theorem ackItem_cases (ok : ackItem env users pair = .ok after) :
    ∃ entry, users.get? pair.user = some entry ∧ pair.epoch = entry.epoch ∧ ∀ name,
      after.get? name = if name = pair.user then
          some { entry with pending := entry.pending.filter (· ≠ pair.host) }
        else users.get? name := by
  unfold ackItem at ok
  split at ok
  · cases ok
  rename_i entry found
  split at ok
  · cases ok
  · rename_i same
    cases ok
    exact ⟨entry,found,by simpa [eq_comm] using same,fun name => get?_set users⟩

theorem ack_spec (ok : ack env users items = .ok after) (name : String) :
    (users.get? name = none ∧ after.get? name = none ∧ ∀ item ∈ items, item.user ≠ name) ∨
      ∃ entry pending, users.get? name = some entry ∧
        after.get? name = some { entry with pending := pending } ∧
        (∀ item ∈ items, item.user = name → item.epoch = entry.epoch) ∧
        ∀ h, h ∈ pending ↔ h ∈ entry.pending ∧ ∀ item ∈ items, item.user = name → item.host ≠ h := by
  unfold ack at ok
  induction items generalizing users with
  | nil =>
    cases ok
    cases found : after.get? name with
    | none => exact .inl ⟨rfl,rfl,by simp⟩
    | some entry => exact .inr ⟨entry,entry.pending,rfl,rfl,by simp,by simp⟩
  | cons item rest ih =>
    rw [foldlM_cons] at ok
    obtain ⟨mid,first,ok⟩ := bind_ok ok
    obtain ⟨entry,found,same,lookup⟩ := ackItem_cases first
    by_cases here : name = item.user
    · subst here
      rcases ih ok with ⟨missing,-⟩ | ⟨entry',pending,found',last,epochs,left⟩
      · rw [lookup,if_pos rfl] at missing
        cases missing
      rw [lookup,if_pos rfl] at found'
      cases found'
      refine .inr ⟨entry,pending,found,last,?_,?_⟩
      · exact forall_mem_cons.mpr ⟨fun _ => same,epochs⟩
      · intro h
        rw [left h]
        simp only [mem_filter,decide_eq_true_eq,mem_cons,forall_eq_or_imp]
        tauto
    · rcases ih ok with ⟨missing,last,none⟩ | ⟨entry',pending,found',last,epochs,left⟩
      · rw [lookup,if_neg here] at missing
        exact .inl ⟨missing,last,forall_mem_cons.mpr ⟨Ne.symm here,none⟩⟩
      · rw [lookup,if_neg here] at found'
        refine .inr ⟨entry',pending,found',last,?_,?_⟩
        · exact forall_mem_cons.mpr ⟨fun sameUser => absurd sameUser.symm here,epochs⟩
        · intro h
          rw [left h]
          simp only [mem_cons,forall_eq_or_imp]
          have skip : item.user = name → item.host ≠ h := fun sameUser => absurd sameUser.symm here
          tauto

end

/-- A retire so far: hosts leave the pending lists only as they are retired,
    and an entry that loses one has a new epoch. -/
structure RetiredFrom (env : Env Epoch) (before : Dict String (Entry Epoch))
    (receipts : Dict String Receipt) (start : Nat) (items : List Retirement)
    (s : Retiring Epoch) : Prop where
  later : start ≤ s.draws
  kept : ∀ hostAlias receipt, receipts.get? hostAlias = some receipt →
    s.retired.get? hostAlias = some receipt
  filed : ∀ hostAlias receipt, s.retired.get? hostAlias = some receipt →
    receipts.get? hostAlias = some receipt ∨ receipt.hostAlias = hostAlias
  cleared : ∀ h, s.retired.has h = true → receipts.has h = false →
    ∀ name, h ∉ pendingOf (s.users.get? name)
  entries : ∀ name, (before.get? name = none ∧ s.users.get? name = none) ∨
    ∃ old new, before.get? name = some old ∧ s.users.get? name = some new ∧
      new.keys = old.keys ∧ new.hosts = old.hosts ∧
      (∀ h ∈ new.pending, h ∈ old.pending) ∧
      (∀ h ∈ old.pending, h ∉ new.pending →
        s.retired.has h = true ∧ ∃ item ∈ items, item.hostAlias = h) ∧
      (new = old ∨ ∃ n, start ≤ n ∧ n < s.draws ∧ new.epoch = env.uuid n)

theorem retireItem_cases (ok : retireItem env now s item = .ok t) :
    (s.retired.has item.hostAlias = true ∧ t = s) ∨
      (s.retired.has item.hostAlias = false ∧
        t.users = (s.users.mapAccum (discharge env item.hostAlias) s.draws).1 ∧
        t.draws = (s.users.mapAccum (discharge env item.hostAlias) s.draws).2 ∧
        ∃ receipt, t.retired = s.retired.set item.hostAlias receipt ∧ receipt.toRetirement = item) := by
  unfold retireItem at ok
  split at ok
  · rename_i known
    split at ok
    · cases ok
    · cases ok
      exact .inl ⟨known,rfl⟩
  · rename_i new
    cases ok
    exact .inr ⟨by simpa using new,rfl,rfl,_,rfl,rfl⟩

theorem discharge_grows (hostAlias : String) (draws : Nat) (entry : Entry Epoch) :
    draws ≤ (discharge env hostAlias draws entry).2 := by
  unfold discharge
  split <;> simp

theorem discharge_spec (env : Env Epoch) (hostAlias : String) (users : Dict String (Entry Epoch)) (draws : Nat)
    (name : String) :
    let result := users.mapAccum (discharge env hostAlias) draws
    (users.get? name = none ∧ result.1.get? name = none) ∨
      ∃ old new, users.get? name = some old ∧ result.1.get? name = some new ∧
        new.keys = old.keys ∧ new.hosts = old.hosts ∧
        (∀ h, h ∈ new.pending ↔ h ∈ old.pending ∧ h ≠ hostAlias) ∧
        (new = old ∨ ∃ n, draws ≤ n ∧ n < result.2 ∧ new.epoch = env.uuid n) := by
  rcases get?_mapAccum (discharge_grows hostAlias) users draws name with
    missing | ⟨old,n,found,first,last,now⟩
  · exact .inl missing
  refine .inr ⟨old,_,found,now,?_⟩
  unfold discharge at last ⊢
  split
  · rename_i pending
    rw [if_pos pending] at last
    refine ⟨rfl,rfl,by simp,.inr ⟨n,first,last,rfl⟩⟩
  · rename_i other
    refine ⟨rfl,rfl,fun h => ⟨fun mem => ⟨mem,?_⟩,And.left⟩,.inl rfl⟩
    rintro rfl
    exact other mem

theorem retireItem_from (mem : item ∈ items) (from_ : RetiredFrom env before receipts start items s)
    (ok : retireItem env now s item = .ok t) : RetiredFrom env before receipts start items t := by
  rcases retireItem_cases ok with ⟨-,rfl⟩ | ⟨new,users,draws,receipt,retired,filed⟩
  · exact from_
  have spec (name : String) := discharge_spec env item.hostAlias s.users s.draws name
  dsimp only at spec
  rw [← users,← draws] at spec
  have grows : s.draws ≤ t.draws := by
    rw [draws]
    exact le_mapAccum (discharge_grows item.hostAlias) s.users s.draws
  refine ⟨from_.later.trans grows,?_,?_,?_,?_⟩
  · intro other old found
    rw [retired,get?_set,if_neg]
    · exact from_.kept other old found
    · rintro rfl
      rw [has_false,from_.kept _ old found] at new
      cases new
  · intro other receipt' found
    rw [retired,get?_set] at found
    split at found
    · rename_i here
      cases found
      exact .inr (by rw [here,← filed])
    · exact from_.filed other receipt' found
  · intro h recorded unknown name pending
    rw [retired,has_set] at recorded
    rcases spec name with ⟨-,none⟩ | ⟨mid,new',before,now,-,-,fewer,-⟩
    · rw [none] at pending
      cases pending
    rw [now] at pending
    obtain ⟨earlier,other⟩ := (fewer h).mp pending
    have known : s.retired.has h = true := by simpa [other] using recorded
    refine from_.cleared h known unknown name ?_
    rw [before]
    exact earlier
  · intro name
    have spec := spec name
    rcases from_.entries name with ⟨missing,missing'⟩ |
        ⟨old,mid,found,found',keys,hosts,fewer,gone,renewed⟩
    · rcases spec with ⟨-,last⟩ | ⟨_,_,found,-⟩
      · exact .inl ⟨missing,last⟩
      · cases missing'.symm.trans found
    rcases spec with ⟨missing,-⟩ | ⟨mid',new',same,last,keys',hosts',fewer',renewed'⟩
    · cases missing.symm.trans found'
    cases found'.symm.trans same
    refine .inr ⟨old,new',found,last,keys'.trans keys,hosts'.trans hosts,?_,?_,?_⟩
    · intro h pending
      exact fewer h ((fewer' h).mp pending).1
    · intro h pending left
      by_cases stays : h ∈ mid.pending
      · have here : h = item.hostAlias := by
          by_contra other
          exact left ((fewer' h).mpr ⟨stays,other⟩)
        rw [retired,has_set]
        exact ⟨by simp [here],item,mem,here.symm⟩
      · obtain ⟨recorded,listed⟩ := gone h pending stays
        rw [retired,has_set,recorded]
        exact ⟨by simp,listed⟩
    · rcases renewed' with rfl | ⟨n,first,last,epoch⟩
      · rcases renewed with rfl | ⟨n,first,last,epoch⟩
        · exact .inl rfl
        · exact .inr ⟨n,first,by omega,epoch⟩
      · exact .inr ⟨n,by have := from_.later; omega,last,epoch⟩

theorem retiredFrom_start (s : Retiring Epoch) (items : List Retirement) :
    RetiredFrom env s.users s.retired s.draws items s := by
  refine ⟨le_rfl,fun _ _ found => found,fun _ _ found => .inl found,?_,fun name => ?_⟩
  · intro h recorded unknown
    cases recorded.symm.trans unknown
  · cases found : s.users.get? name with
    | none => exact .inl ⟨rfl,rfl⟩
    | some entry => exact .inr ⟨entry,entry,rfl,rfl,rfl,rfl,by simp,by tauto,.inl rfl⟩

theorem retire_spec (ok : retire env now state draws stage items = .ok s) :
    RetiredFrom env state.users state.retired draws items s := by
  obtain ⟨_,-,ok⟩ := bind_ok ok
  exact foldlM_invariant (retiredFrom_start ⟨state.users,state.retired,draws,false⟩ items)
    (fun s item t mem => retireItem_from mem) ok

end Pilot.SshCache
