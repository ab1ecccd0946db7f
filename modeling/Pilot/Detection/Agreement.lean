import Pilot.Detection.Engine

/-!
The lifecycles in memory against the episodes in the store. A host has an
active lifecycle exactly when its fingerprint has an active episode, as long as
the writes of transitions go through and no active host moves to another site:
the advance is made in memory first and nothing takes it back.
-/
namespace Pilot.Detection
open Pilot.Table List EpisodeRecord Function

def Engine.printOf (P : Platform) (e : Engine) (subject : String × String) : String :=
  e.fingerprintOf P subject.1 subject.2

/-- A subject is firing or recovering exactly when the store holds an active
    episode for its fingerprint. The subject of a host is that of its site. -/
def Agrees (P : Platform) (subjects : List (String × String)) (sites : String → String) (e : Engine) :
    Prop :=
  ∀ s ∈ subjects, sites s.1 = s.2 →
    ((e.lifecycleFor s.1).state = .firing ∨ (e.lifecycleFor s.1).state = .recovering ↔
      (getEpisodeByFingerprint e.store (e.printOf P s)).isSome = true)

def hasActive (episodes : List EpisodeRecord) (fp : String) : Bool := episodes.any (activeAt fp)

/-- The store's own order: ids are drawn ones, and no outbox row is ahead of its
    episode. -/
structure Shelved (P : Platform) (store : Store) (drawn : Nat) : Prop where
  signals : (store.episodes.map signalID).Nodup
  unique : activeUnique store.episodes = true
  undrawn : ∀ episode ∈ store.episodes, ∀ n, drawn ≤ n → episode.signalID ≠ P.ulid n
  mailed : ∀ row ∈ store.outbox, (∀ n, drawn ≤ n → row.id ≠ P.ulid n) ∧
    ∃ episode ∈ store.episodes, episode.signalID = row.signalID ∧ row.revision ≤ episode.revision

structure Consistent (P : Platform) (subjects : List (String × String)) (sites : String → String)
    (e : Engine) : Prop where
  agree : ∀ s ∈ subjects, hasActive e.store.episodes (e.printOf P s) =
    ((e.lifecycleFor s.1).state.active && decide (sites s.1 = s.2))
  shelved : Shelved P e.store e.drawn

theorem active_iff (state : LifecycleState) :
    state.active = true ↔ state = .firing ∨ state = .recovering := by
  cases state <;> simp [LifecycleState.active]

theorem Consistent.agrees (consistent : Consistent P subjects sites e) : Agrees P subjects sites e := by
  intro s mem here
  rw [← active_iff,getEpisodeByFingerprint,isSome_find?]
  have agree := consistent.agree s mem
  simp only [here,decide_true,Bool.and_true] at agree
  rw [← agree]
  rfl

variable {episode : EpisodeRecord}

theorem activeAt_iff :
    activeAt fp episode = true ↔ episode.fingerprint = fp ∧ episode.state ≠ .resolved := by
  simp [activeAt]

theorem active_eq (unique : activeUnique episodes = true) (inA : a ∈ episodes)
    (inB : b ∈ episodes) (activeA : activeAt fp a = true) (activeB : activeAt fp b = true) :
    a = b := by
  obtain ⟨rfl,notResolved⟩ := activeAt_iff.mp activeA
  have one := all_eq_true.mp unique a inA
  simp only [Bool.or_eq_true,beq_iff_eq,notResolved,false_or,decide_eq_true_eq,
    countP_eq_length_filter] at one
  have memA : a ∈ episodes.filter (activeAt a.fingerprint) := mem_filter.mpr ⟨inA,activeA⟩
  have memB : b ∈ episodes.filter (activeAt a.fingerprint) := mem_filter.mpr ⟨inB,activeB⟩
  match chosen : episodes.filter (activeAt a.fingerprint) with
  | [] => rw [chosen] at memA; simp at memA
  | [x] =>
    rw [chosen,mem_singleton] at memA memB
    rw [memA,memB]
  | x :: y :: rest =>
    rw [chosen] at one
    simp at one

theorem upsert_fresh (fresh : ∀ episode ∈ episodes, episode.signalID ≠ new.signalID) :
    upsertEpisode episodes new = episodes ++ [new] := by
  unfold upsertEpisode
  rw [if_neg]
  intro hit
  obtain ⟨episode,mem,same⟩ := any_eq_true.mp hit
  exact fresh episode mem (by simpa [ofSignal] using same)

theorem upsert_existing (mem : old ∈ episodes) (same : old.signalID = new.signalID) :
    upsertEpisode episodes new = updateWhere (ofSignal new.signalID) (overwriteEpisode new) episodes := by
  unfold upsertEpisode
  rw [if_pos]
  exact any_eq_true.mpr ⟨old,mem,by simpa [ofSignal] using same⟩

theorem hasActive_update
    (same : ∀ episode ∈ episodes, p episode = true → activeAt fp (f episode) = activeAt fp episode) :
    hasActive (updateWhere p f episodes) fp = hasActive episodes fp := by
  unfold hasActive updateWhere
  rw [any_map,Bool.eq_iff_iff,any_eq_true,any_eq_true]
  have each : ∀ episode ∈ episodes,
      activeAt fp (if p episode = true then f episode else episode) = activeAt fp episode := by
    intro episode mem
    split
    · rename_i hit; exact same episode mem hit
    · rfl
  constructor
  · rintro ⟨episode,mem,active⟩
    exact ⟨episode,mem,by rw [← each episode mem]; exact active⟩
  · rintro ⟨episode,mem,active⟩
    exact ⟨episode,mem,by rw [comp,each episode mem]; exact active⟩

section Existing
variable {episodes : List EpisodeRecord} {new old : EpisodeRecord}

theorem hasActive_stays (signals : (episodes.map signalID).Nodup)
    (mem : old ∈ episodes) (same : old.signalID = new.signalID) (before : old.state ≠ .resolved)
    (after : new.state ≠ .resolved) (fp : String) :
    hasActive (upsertEpisode episodes new) fp = hasActive episodes fp := by
  rw [upsert_existing mem same]
  apply hasActive_update
  intro episode inList hit
  have isOld : episode = old := unique_row signals inList mem
    ((by simpa [ofSignal] using hit : episode.signalID = new.signalID).trans same.symm)
  rw [isOld,Bool.eq_iff_iff,activeAt_iff,activeAt_iff]
  simp [overwriteEpisode,before,after]

theorem hasActive_closes (signals : (episodes.map signalID).Nodup)
    (unique : activeUnique episodes = true) (mem : old ∈ episodes)
    (same : old.signalID = new.signalID) (before : old.state ≠ .resolved)
    (after : new.state = .resolved) (fp : String) :
    hasActive (upsertEpisode episodes new) fp = (hasActive episodes fp && old.fingerprint != fp) := by
  rw [upsert_existing mem same]
  have only : ∀ episode ∈ episodes, ofSignal new.signalID episode = true → episode = old := by
    intro episode inList hit
    exact unique_row signals inList mem
      ((by simpa [ofSignal] using hit : episode.signalID = new.signalID).trans same.symm)
  by_cases home : old.fingerprint = fp
  · -- nothing else is active there
    have none_ : hasActive
        (updateWhere (ofSignal new.signalID) (overwriteEpisode new) episodes) fp = false := by
      rw [hasActive,any_eq_false]
      intro episode inNew active
      rcases mem_updateWhere.mp inNew with ⟨prior,_,_,rfl⟩ | ⟨inOld,miss⟩
      · exact (activeAt_iff.mp active).2 after
      · have isOld := active_eq unique inOld mem active (activeAt_iff.mpr ⟨home,before⟩)
        simp [isOld,ofSignal,same] at miss
    simp [none_,home]
  · rw [hasActive_update]
    · simp [home]
    · intro episode inList hit
      rw [only episode inList hit,Bool.eq_iff_iff,activeAt_iff,activeAt_iff]
      simp [overwriteEpisode,home]

theorem signals_upsert (mem : old ∈ episodes) (same : old.signalID = new.signalID) :
    (upsertEpisode episodes new).map signalID = episodes.map signalID := by
  rw [upsert_existing mem same]
  exact column_updateWhere (f := overwriteEpisode new) signalID (fun _ => rfl) _

end Existing

theorem getEpisode_active (found : getEpisodeByFingerprint s fp = some episode) :
    episode ∈ s.episodes ∧ episode.fingerprint = fp ∧ episode.state ≠ .resolved :=
  ⟨mem_of_find?_eq_some found,activeAt_iff.mp (find?_some found)⟩

theorem insertOutbox_fresh (P : Platform) (wall : Int) (fresh : ∀ row ∈ rows, row.id ≠ o.id ∧
      (row.signalID = o.signalID → row.revision = o.revision → row.sequence ≠ o.sequence)) :
    ∃ row : OutboxRow, insertOutbox P wall rows o = .ok (rows ++ [row]) ∧ row.id = o.id ∧
      row.signalID = o.signalID ∧ row.revision = o.revision ∧ row.sequence = o.sequence := by
  unfold insertOutbox
  rw [if_neg]
  · exact ⟨_,rfl,rfl,rfl,rfl,rfl⟩
  · simp only [any_eq_true,Bool.or_eq_true,Bool.and_eq_true,beq_iff_eq,not_exists,not_and]
    rintro row mem (id | ⟨⟨⟨signal,revision⟩,sequence⟩,-⟩)
    · exact (fresh row mem).1 id
    · exact (fresh row mem).2 signal revision sequence

/-- Rows of one revision, with ids and sequence numbers of their own, go in. -/
theorem insertOutboxes_fresh {outbox : List OutboxRecord}
    (fresh : ∀ o ∈ outbox, ∀ row ∈ rows, row.id ≠ o.id ∧
      (row.signalID = o.signalID → row.revision = o.revision → row.sequence ≠ o.sequence))
    (apart : outbox.Pairwise (fun a b => a.id ≠ b.id ∧ a.sequence ≠ b.sequence)) :
    ∃ rows', insertOutboxes P wall rows outbox = .ok rows' := by
  induction outbox generalizing rows with
  | nil => exact ⟨rows,rfl⟩
  | cons o rest ih =>
    obtain ⟨row,ok,id,signal,revision,sequence⟩ := insertOutbox_fresh P wall (fresh o mem_cons_self)
    obtain ⟨first,others⟩ := pairwise_cons.mp apart
    simp only [insertOutboxes,ok]
    refine ih ?_ others
    intro o' later row' mem
    rcases mem_append.mp mem with old | new
    · exact fresh o' (mem_cons_of_mem _ later) row' old
    · rw [mem_singleton.mp new,id,sequence]
      exact ⟨(first o' later).1,fun _ _ => (first o' later).2⟩

theorem mem_insertOutboxes (ok : insertOutboxes P wall rows outbox = .ok rows') :
    ∀ row ∈ rows', row ∈ rows ∨
      ∃ o ∈ outbox, row.id = o.id ∧ row.signalID = o.signalID ∧ row.revision = o.revision := by
  induction outbox generalizing rows with
  | nil =>
    cases ok
    exact fun row mem => .inl mem
  | cons o rest ih =>
    simp only [insertOutboxes] at ok
    split at ok
    · cases ok
    rename_i middle first
    unfold insertOutbox at first
    split at first
    · cases first
    cases first
    intro row mem
    rcases ih ok row mem with old | ⟨o',later,same⟩
    · rcases mem_append.mp old with old | new
      · exact .inl old
      · rw [mem_singleton.mp new]
        exact .inr ⟨o,mem_cons_self,rfl,rfl,rfl⟩
    · exact .inr ⟨o',mem_cons_of_mem _ later,same⟩

theorem applyTransition_ok (ok : applyTransition P s fails wall episode history outbox = .ok s') :
    fails = false ∧ s'.episodes = upsertEpisode s.episodes (storedEpisode P episode) ∧
      activeUnique s'.episodes = true ∧ insertOutboxes P wall s.outbox outbox = .ok s'.outbox := by
  unfold applyTransition at ok
  split at ok
  · cases ok
  rename_i accepted
  dsimp only at ok
  split at ok
  · rename_i unique
    split at ok
    · cases ok
    · rename_i rows inserted
      cases ok
      exact ⟨by simpa using accepted,rfl,unique,inserted⟩
  · cases ok

theorem applyTransition_accepts
    (unique : activeUnique (upsertEpisode s.episodes (storedEpisode P episode)) = true)
    (inserted : insertOutboxes P wall s.outbox outbox = .ok rows) :
    ∃ s', applyTransition P s false wall episode history outbox = .ok s' := by
  unfold applyTransition
  simp only [Bool.false_eq_true,if_false,unique,if_true,inserted]
  exact ⟨_,rfl⟩

/-- A write of the engine: it adds an episode under a new signal, or rewrites the
    active episode of the fingerprint. Its outbox rows are of its revision. -/
structure Write (P : Platform) (e : Engine) (fp : String) (b : Boundary) (new : EpisodeRecord)
    (outbox : List OutboxRecord) (draws : Nat) : Prop where
  opens : b = .opens → new.signalID = P.ulid e.drawn ∧ 0 < draws ∧ new.fingerprint = fp ∧
    new.state ≠ .resolved
  keeps : b ≠ .opens → ∃ existing ∈ e.store.episodes, existing.fingerprint = fp ∧
    existing.state ≠ .resolved ∧ new.signalID = existing.signalID ∧
    (new.state = .resolved ↔ b = .closes) ∧ new.revision = existing.revision + 1
  mail : ∀ o ∈ outbox, o.signalID = new.signalID ∧ o.revision = new.revision ∧
    ∃ k, k < draws ∧ o.id = P.ulid (e.drawn + k)
  apart : outbox.Pairwise (fun a b => a.id ≠ b.id ∧ a.sequence ≠ b.sequence)

/-- What `persistTransition` comes to: nothing, an error without a write, or one
    write. -/
inductive Persist (P : Platform) (e : Engine) (wall : Int) (ph : PendingHost) (action : LifecycleAction) :
    Engine × Option String → Prop
  | nothing (idle : action = .none) : Persist P e wall ph action (e,none)
  | missing (err : String) (acts : action ≠ .none) (kept : action.boundary ≠ .opens)
      (unknown : getEpisodeByFingerprint e.store (e.fingerprintOf P ph.host ph.site) = none) :
      Persist P e wall ph action (e,some err)
  | write (draws : Nat) (episode : EpisodeRecord) (history : HistoryRecord) (outbox : List OutboxRecord)
      (acts : action ≠ .none) (write : Write P e (e.fingerprintOf P ph.host ph.site) action.boundary
        (storedEpisode P episode) outbox draws) : Persist P e wall ph action
        (e.commit draws (applyTransition P e.store ph.writeFails wall episode history outbox))

theorem write_existing (found : getEpisodeByFingerprint e.store fp = some existing)
    (kept : b ≠ .opens) (signal : episode.signalID = existing.signalID)
    (state : episode.state = .resolved ↔ b = .closes) (revision : episode.revision = existing.revision + 1)
    (mail : ∀ o ∈ outbox, o.signalID = episode.signalID ∧ o.revision = episode.revision ∧
      ∃ k, k < draws ∧ o.id = P.ulid (e.drawn + k))
    (apart : outbox.Pairwise (fun a b => a.id ≠ b.id ∧ a.sequence ≠ b.sequence)) :
    Write P e fp b (storedEpisode P episode) outbox draws :=
  ⟨fun opens => absurd opens kept,
    fun _ => ⟨existing,(getEpisode_active found).1,(getEpisode_active found).2.1,
      (getEpisode_active found).2.2,signal,state,revision⟩,mail,apart⟩

theorem mail_one (P : Platform) (e : Engine) (signal : String) (revision : Nat) (kind payload : String) (now : Int) :
    ∀ o ∈ [(⟨P.ulid e.drawn,signal,revision,1,kind,payload,now⟩ : OutboxRecord)],
      o.signalID = signal ∧ o.revision = revision ∧ ∃ k, k < 1 ∧ o.id = P.ulid (e.drawn + k) := by
  intro o mem
  rw [mem_singleton.mp mem]
  exact ⟨rfl,rfl,0,Nat.one_pos,rfl⟩

theorem persist_shape (P : Platform) (ulids : Injective P.ulid) (e : Engine) (wall : Int)
    (ph : PendingHost) (tr : Transition) (evaluationTime : Int) :
    Persist P e wall ph tr.action (persistTransition P e wall ph tr evaluationTime) := by
  have apart : P.ulid e.drawn ≠ P.ulid (e.drawn + 1) := fun same => by
    have := ulids same
    omega
  unfold persistTransition
  have create : ∀ action now, action.boundary = .opens → Persist P e wall ph action
      (persistCreate P e wall ph tr now) := by
    intro action now opens
    refine .write 2 _ _ _ (by rintro rfl; cases opens) ⟨fun _ =>
      ⟨rfl,by omega,rfl,by simp [storedEpisode,openEpisode,copyLifecycleToEpisode]⟩,
      fun kept => absurd opens kept,?_,pairwise_singleton _ _⟩
    simp only [mem_singleton,forall_eq]
    exact ⟨rfl,rfl,1,by omega,rfl⟩
  cases found : getEpisodeByFingerprint e.store (e.fingerprintOf P ph.host ph.site) with
  | none =>
    cases action : tr.action with
    | none => exact .nothing rfl
    | createWarning | createCritical => exact create _ _ rfl
    | escalateCritical | enterRecovering | returnToFiring | resolve =>
      exact .missing _ (by simp) (by simp [LifecycleAction.boundary]) found
  | some existing =>
    have active := (getEpisode_active found).2.2
    cases action : tr.action with
    | none => exact .nothing rfl
    | createWarning | createCritical => exact create _ _ rfl
    | escalateCritical =>
      refine .write 2 _ _ _ (by simp) (write_existing found (by simp [LifecycleAction.boundary]) rfl
        (by simpa [copyLifecycleToEpisode,LifecycleAction.boundary] using active) rfl ?_ ?_)
      · simp only [forall_mem_cons,not_mem_nil,false_implies,implies_true,and_true]
        exact ⟨⟨rfl,rfl,0,by omega,rfl⟩,rfl,rfl,1,by omega,rfl⟩
      · simpa using apart
    | enterRecovering | returnToFiring =>
      exact .write 0 _ _ _ (by simp) (write_existing found (by simp [LifecycleAction.boundary]) rfl
        (by simp [copyLifecycleToEpisode,LifecycleAction.boundary]) rfl (by simp) Pairwise.nil)
    | resolve =>
      exact .write 1 _ _ _ (by simp) (write_existing found (by simp [LifecycleAction.boundary]) rfl
        (by simp [copyLifecycleToEpisode,LifecycleAction.boundary]) rfl (mail_one P e _ _ _ _ _)
        (pairwise_singleton _ _))

theorem lifecycleFor_set (e : Engine) (host other : String) (lc : HostLifecycle) :
    (e.setLifecycle host lc).lifecycleFor other = if other = host then lc else e.lifecycleFor other := by
  unfold Engine.lifecycleFor Engine.setLifecycle
  by_cases same : other = host
  · simp [same]
  · simp [same,update_of_ne]

/-- SHA-256 tells the profile's subjects apart. -/
def Apart (P : Platform) (profile : FeatureProfile) (subjects : List (String × String)) : Prop :=
  ∀ a ∈ subjects, ∀ b ∈ subjects, fingerprint P a.1 profile.kind a.2 profile.id profile.version =
    fingerprint P b.1 profile.kind b.2 profile.id profile.version → a = b

theorem hasActive_concat (episodes : List EpisodeRecord) (new : EpisodeRecord) (fp : String) :
    hasActive (episodes ++ [new]) fp = (hasActive episodes fp || activeAt fp new) := by
  simp [hasActive]

theorem unique_concat (unique : activeUnique episodes = true)
    (free : hasActive episodes new.fingerprint = false) : activeUnique (episodes ++ [new]) = true := by
  have none_ : episodes.countP (activeAt new.fingerprint) = 0 := by
    rw [countP_eq_zero]
    exact any_eq_false.mp free
  rw [activeUnique,all_eq_true]
  intro x mem
  simp only [Bool.or_eq_true,beq_iff_eq,decide_eq_true_eq,countP_append,countP_singleton]
  refine or_iff_not_imp_left.mpr fun active => ?_
  by_cases same : new.fingerprint = x.fingerprint
  · rw [← same,none_]
    split <;> omega
  · have away : activeAt x.fingerprint new = false := by simp [activeAt,same]
    rcases mem_append.mp mem with old | added
    · have one := all_eq_true.mp unique x old
      simp only [Bool.or_eq_true,beq_iff_eq,active,false_or,decide_eq_true_eq] at one
      simpa [away] using one
    · exact absurd (congrArg EpisodeRecord.fingerprint (mem_singleton.mp added)).symm same

theorem unique_upsert (unique : activeUnique episodes = true) (signals : (episodes.map signalID).Nodup)
    (mem : old ∈ episodes) (same : old.signalID = new.signalID) (before : old.state ≠ .resolved) :
    activeUnique (upsertEpisode episodes new) = true := by
  rw [upsert_existing mem same,activeUnique,all_eq_true]
  -- a row that is active afterwards was active before, under the same fingerprint
  have back : ∀ fp, ∀ x ∈ episodes, activeAt fp (if ofSignal new.signalID x = true then
      overwriteEpisode new x else x) = true → activeAt fp x = true := by
    intro fp x inList active
    split at active
    · rename_i hit
      have isOld : x = old := unique_row signals inList mem
        ((by simpa [ofSignal] using hit : x.signalID = new.signalID).trans same.symm)
      rw [isOld] at active ⊢
      exact activeAt_iff.mpr ⟨(activeAt_iff.mp active).1,before⟩
    · exact active
  intro y inNew
  obtain ⟨x,inList,rfl⟩ := mem_map.mp inNew
  simp only [Bool.or_eq_true,beq_iff_eq,decide_eq_true_eq]
  refine or_iff_not_imp_left.mpr fun active => ?_
  generalize print : (if ofSignal new.signalID x = true then overwriteEpisode new x else x) = y at active
  have wasActive := back y.fingerprint x inList (by rw [print]; exact activeAt_iff.mpr ⟨rfl,active⟩)
  have one := all_eq_true.mp unique x inList
  obtain ⟨home,open_⟩ := activeAt_iff.mp wasActive
  simp only [Bool.or_eq_true,beq_iff_eq,open_,false_or,decide_eq_true_eq,home] at one
  rw [updateWhere,countP_map]
  exact Nat.le_trans (countP_mono_left fun x inList hit => back _ x inList hit) one

/-- No episode falls back when one of them is rewritten. -/
theorem upsert_grows (mem : old ∈ episodes) (same : old.signalID = new.signalID)
    (signals : (episodes.map signalID).Nodup) (newer : old.revision ≤ new.revision) :
    (∃ y ∈ upsertEpisode episodes new, y.signalID = new.signalID ∧ y.revision = new.revision) ∧
    ∀ x ∈ episodes, ∃ y ∈ upsertEpisode episodes new, y.signalID = x.signalID ∧
      x.revision ≤ y.revision := by
  rw [upsert_existing mem same]
  have here : overwriteEpisode new old ∈
      updateWhere (ofSignal new.signalID) (overwriteEpisode new) episodes :=
    mem_updateWhere.mpr (.inl ⟨old,mem,by simpa [ofSignal] using same,rfl⟩)
  refine ⟨⟨_,here,same,rfl⟩,fun x inList => ?_⟩
  by_cases hit : x.signalID = new.signalID
  · rw [unique_row signals inList mem (hit.trans same.symm)]
    exact ⟨_,here,rfl,newer⟩
  · exact ⟨x,mem_updateWhere_of_not inList (by simpa [ofSignal] using hit),rfl,Nat.le_refl _⟩

section Writes
variable {P : Platform} {e : Engine} {fp : String} {b : Boundary} {new : EpisodeRecord}
  {outbox : List OutboxRecord} {draws : Nat} (ulids : Injective P.ulid)
  (shelved : Shelved P e.store e.drawn) (write : Write P e fp b new outbox draws)

theorem Shelved.mono (shelved : Shelved P store drawn) (more : Nat) : Shelved P store (drawn + more) where
  signals := shelved.signals
  unique := shelved.unique
  undrawn := fun x mem n bound => shelved.undrawn x mem n (by omega)
  mailed := fun row mem => ⟨fun n bound => (shelved.mailed row mem).1 n (by omega),(shelved.mailed row mem).2⟩

include shelved write in
theorem fresh_signal (opens : b = .opens) :
    ∀ episode ∈ e.store.episodes, episode.signalID ≠ new.signalID := by
  intro episode mem
  rw [(write.opens opens).1]
  exact shelved.undrawn episode mem e.drawn (Nat.le_refl _)

include ulids shelved write in
theorem shelved_write (episodes : store.episodes = upsertEpisode e.store.episodes new)
    (unique : activeUnique store.episodes = true)
    (inserted : insertOutboxes P wall e.store.outbox outbox = .ok store.outbox) :
    Shelved P store (e.drawn + draws) := by
  have grows : (∃ y ∈ store.episodes, y.signalID = new.signalID ∧ y.revision = new.revision) ∧
      (∀ x ∈ e.store.episodes, ∃ y ∈ store.episodes, y.signalID = x.signalID ∧ x.revision ≤ y.revision) ∧
      (store.episodes.map signalID).Nodup ∧
      ∀ y ∈ store.episodes, ∀ n, e.drawn + draws ≤ n → y.signalID ≠ P.ulid n := by
    by_cases opens : b = .opens
    · have fresh := fresh_signal shelved write opens
      rw [episodes,upsert_fresh fresh]
      refine ⟨⟨new,by simp,rfl,rfl⟩,fun x mem => ⟨x,mem_append_left _ mem,rfl,Nat.le_refl _⟩,
        nodup_insert shelved.signals fresh,fun y mem n bound => ?_⟩
      rcases mem_append.mp mem with old | added
      · exact shelved.undrawn y old n (by omega)
      · obtain ⟨signal,drew,-⟩ := write.opens opens
        rw [mem_singleton.mp added,signal]
        intro same
        have := ulids same
        omega
    · obtain ⟨existing,mem,-,-,signal,-,revision⟩ := write.keeps opens
      obtain ⟨here,all⟩ := upsert_grows mem signal.symm shelved.signals (by omega)
      have signals := signals_upsert mem signal.symm
      rw [episodes]
      refine ⟨here,all,by rw [signals]; exact shelved.signals,fun y inNew n bound => ?_⟩
      have listed := mem_map_of_mem (f := signalID) inNew
      rw [signals] at listed
      obtain ⟨prior,inOld,sameSignal⟩ := mem_map.mp listed
      rw [← sameSignal]
      exact shelved.undrawn prior inOld n (by omega)
  obtain ⟨⟨y,inNew,signal,revision⟩,all,signals,undrawn⟩ := grows
  refine ⟨signals,unique,undrawn,fun row mem => ?_⟩
  rcases mem_insertOutboxes inserted row mem with old | ⟨o,inOutbox,id,sameSignal,sameRevision⟩
  · obtain ⟨apart,episode,inOld,same,bound⟩ := shelved.mailed row old
    obtain ⟨y,inNew,sameY,newer⟩ := all episode inOld
    exact ⟨fun n later => apart n (by omega),y,inNew,sameY.trans same,Nat.le_trans bound newer⟩
  · obtain ⟨ofSignal,ofRevision,k,small,isID⟩ := write.mail o inOutbox
    refine ⟨fun n later same => ?_,y,inNew,?_,?_⟩
    · rw [id,isID] at same
      have := ulids same
      omega
    · rw [signal,sameSignal,ofSignal]
    · rw [revision,sameRevision,ofRevision]

include shelved write in
theorem write_accepted (isNew : new = storedEpisode P episode)
    (free : b = .opens → hasActive e.store.episodes fp = false) (wall : Int) (history : HistoryRecord) :
    ∃ store, applyTransition P e.store false wall episode history outbox = .ok store := by
  subst isNew
  have fresh : ∀ o ∈ outbox, ∀ row ∈ e.store.outbox, row.id ≠ o.id ∧
      (row.signalID = o.signalID → row.revision = o.revision → row.sequence ≠ o.sequence) := by
    intro o inOutbox row mem
    obtain ⟨ofSignal,ofRevision,k,-,isID⟩ := write.mail o inOutbox
    obtain ⟨apart,episode',inStore,same,bound⟩ := shelved.mailed row mem
    refine ⟨by rw [isID]; exact apart _ (by omega),fun signal revision => ?_⟩
    rw [ofSignal] at signal
    by_cases opens : b = .opens
    · exact absurd (same.trans signal) (fresh_signal shelved write opens episode' inStore)
    · obtain ⟨existing,inOld,-,-,sameSignal,-,next⟩ := write.keeps opens
      rw [unique_row shelved.signals inStore inOld (same.trans (signal.trans sameSignal))] at bound
      omega
  obtain ⟨rows,inserted⟩ := insertOutboxes_fresh (P := P) fresh write.apart
  refine applyTransition_accepts ?_ inserted
  by_cases opens : b = .opens
  · rw [upsert_fresh (fresh_signal shelved write opens)]
    exact unique_concat shelved.unique (by rw [(write.opens opens).2.2.1]; exact free opens)
  · obtain ⟨existing,mem,-,open_,signal,-⟩ := write.keeps opens
    exact unique_upsert shelved.unique shelved.signals mem signal.symm open_

include shelved write in
/-- The write decides about its fingerprint, and leaves every other one. -/
theorem hasActive_write {store : Store} (episodes : store.episodes = upsertEpisode e.store.episodes new)
    (other : String) :
    hasActive store.episodes other =
      if other = fp then decide (new.state ≠ .resolved) else hasActive e.store.episodes other := by
  rw [episodes]
  by_cases opens : b = .opens
  · obtain ⟨-,-,print,active⟩ := write.opens opens
    rw [upsert_fresh (fresh_signal shelved write opens),hasActive_concat]
    by_cases same : other = fp
    · simp [same,activeAt,print,active]
    · simp [same,activeAt,print,Ne.symm same]
  · obtain ⟨existing,mem,print,active,signal,-⟩ := write.keeps opens
    by_cases ends : new.state = .resolved
    · rw [hasActive_closes shelved.signals shelved.unique mem signal.symm active ends,print]
      by_cases same : other = fp
      · simp [same,ends]
      · simp [same,Ne.symm same]
    · rw [hasActive_stays shelved.signals mem signal.symm active ends]
      split
      · rename_i same
        rw [decide_eq_true ends]
        exact any_eq_true.mpr ⟨existing,mem,activeAt_iff.mpr ⟨print.trans same.symm,active⟩⟩
      · rfl

end Writes

/-- A host that is asked for a transition moves, and one that is asked to change
    an episode has one. -/
theorem advance_acts (h : HostLifecycle) (score : Score) (acts : (h.advance score).2.action ≠ .none) :
    (h.advance score).1 ≠ h ∧
      ((h.advance score).2.action.boundary ≠ .opens → h.state.active = true) := by
  have outcome := advance_outcome h score
  have state : (h.observe score).state = h.state := rfl
  have severity : (h.observe score).severity = h.severity := rfl
  generalize h.observe score = g at outcome state severity
  generalize h.advance score = result at outcome acts
  obtain ⟨after,t⟩ := result
  dsimp only at outcome acts ⊢
  cases outcome with
  | create idle fired =>
    refine ⟨?_,fun kept => absurd (checkFiringTrigger_opens fired) kept⟩
    rintro rfl
    rw [state] at idle
    cases idle
  | quiet | stay | wait => exact absurd rfl acts
  | escalate firing warning =>
    refine ⟨?_,fun _ => by rw [← state,firing]; rfl⟩
    rintro rfl
    rw [severity] at warning
    cases warning
  | enter firing | resolve firing | back firing =>
    refine ⟨?_,fun _ => by rw [← state,firing]; rfl⟩
    rintro rfl
    rw [state] at firing
    cases firing

section Host
variable {P : Platform} {subjects : List (String × String)} {sites : String → String} {e : Engine}
  {ph : PendingHost}

theorem agree_after (consistent : Consistent P subjects sites e) (here : sites ph.host = ph.site)
    (after : ∀ s ∈ subjects, hasActive episodes (e.printOf P s) =
      if s = (ph.host,ph.site) then lc.state.active else hasActive e.store.episodes (e.printOf P s)) :
    ∀ s ∈ subjects, hasActive episodes (e.printOf P s) =
      (((e.setLifecycle ph.host lc).lifecycleFor s.1).state.active && decide (sites s.1 = s.2)) := by
  rintro ⟨host,site⟩ mem
  rw [after _ mem,lifecycleFor_set,consistent.agree _ mem]
  by_cases same : host = ph.host
  · by_cases at_ : site = ph.site
    · simp [same,at_,here]
    · simp [same,at_,here,Ne.symm at_]
  · simp [same]

theorem print_iff (apart : Apart P e.profile subjects) (mem : s ∈ subjects)
    (mine : (ph.host,ph.site) ∈ subjects) :
    e.printOf P s = e.fingerprintOf P ph.host ph.site ↔ s = (ph.host,ph.site) := by
  unfold Engine.printOf Engine.fingerprintOf
  refine ⟨fun same => apart s mem (ph.host,ph.site) mine same,?_⟩
  rintro rfl
  rfl

/-- A host's turn keeps the agreement, if the database takes the write of its
    transition. -/
theorem advanceHost_consistent (ulids : Injective P.ulid) (apart : Apart P e.profile subjects)
    (consistent : Consistent P subjects sites e) (here : sites ph.host = ph.site)
    (mine : (ph.host,ph.site) ∈ subjects) (wall evaluationTime : Int)
    (written : ((e.lifecycleFor ph.host).advance ph.lifecycleScore).2.action = .none ∨
      ph.writeFails = false) :
    ∃ e', (advanceHost P e wall evaluationTime ph).1 = (e',none) ∧ e'.profile = e.profile ∧
      Consistent P subjects sites e' := by
  have crosses := advance_crosses (e.lifecycleFor ph.host) ph.lifecycleScore
  have acts := advance_acts (e.lifecycleFor ph.host) ph.lifecycleScore
  have before : hasActive e.store.episodes (e.fingerprintOf P ph.host ph.site) =
      (e.lifecycleFor ph.host).state.active := by
    simpa [here,Engine.printOf] using consistent.agree _ mine
  unfold advanceHost
  generalize (e.lifecycleFor ph.host).advance ph.lifecycleScore = advanced at crosses acts written ⊢
  obtain ⟨lc,tr⟩ := advanced
  dsimp only at crosses acts written ⊢
  have shape := persist_shape P ulids (e.setLifecycle ph.host lc) wall ph tr evaluationTime
  generalize persistTransition P (e.setLifecycle ph.host lc) wall ph tr evaluationTime = result at shape ⊢
  cases shape with
  | nothing idle =>
    refine ⟨_,rfl,rfl,agree_after consistent here fun s mem => ?_,consistent.shelved⟩
    rw [idle] at crosses
    split
    · rename_i same
      rw [same]
      exact before.trans crosses.symm
    · rfl
  | missing err action kept unknown =>
    have active : hasActive e.store.episodes (e.fingerprintOf P ph.host ph.site) = true :=
      before.trans ((acts action).2 kept)
    have none_ := find?_eq_none.mp unknown
    obtain ⟨x,mem,hit⟩ := any_eq_true.mp active
    exact absurd hit (none_ x mem)
  | write draws episode history outbox action write =>
    rw [written.resolve_left action]
    have shelved : Shelved P (e.setLifecycle ph.host lc).store (e.setLifecycle ph.host lc).drawn :=
      consistent.shelved
    obtain ⟨store,ok⟩ := write_accepted shelved write rfl (fun opens => by
      rw [opens] at crosses
      exact before.trans crosses.1) wall history
    obtain ⟨-,episodes,unique,inserted⟩ := applyTransition_ok ok
    rw [ok]
    refine ⟨_,rfl,rfl,agree_after consistent here fun s mem => ?_,
      shelved_write ulids shelved write episodes unique inserted⟩
    have side : decide ((storedEpisode P episode).state ≠ .resolved) = lc.state.active := by
      cases b : tr.action.boundary with
      | opens =>
        rw [b] at crosses
        simp [crosses.2,(write.opens b).2.2.2]
      | closes =>
        obtain ⟨_,_,_,_,_,state,_⟩ := write.keeps (by simp [b])
        rw [b] at crosses
        simp [crosses.2,state.mpr b]
      | stays =>
        have kept : tr.action.boundary ≠ .opens := by simp [b]
        obtain ⟨_,_,_,_,_,state,_⟩ := write.keeps kept
        have active := (acts action).2 kept
        rw [b] at crosses
        rw [show lc.state.active = _ from crosses,active]
        simp [state,b]
    refine (hasActive_write shelved write episodes _).trans ?_
    rw [side]
    exact if_congr (print_iff apart mem mine) rfl rfl

end Host

/-- The database takes the writes of the transitions that the scores ask for. -/
def Written (P : Platform) (wall evaluationTime : Int) : Engine → List PendingHost → Prop
  | _, [] => True
  | e, ph :: rest =>
    (((e.lifecycleFor ph.host).advance ph.lifecycleScore).2.action = .none ∨ ph.writeFails = false) ∧
      Written P wall evaluationTime (advanceHost P e wall evaluationTime ph).1.1 rest

/-- A host whose transition is not persisted is left as it was. -/
def Restores (P : Platform) (wall evaluationTime : Int) : Engine → List PendingHost → Prop
  | _, [] => True
  | e, ph :: rest =>
    match (advanceHost P e wall evaluationTime ph).1 with
    | (e',some _) => e'.lifecycleFor ph.host = e.lifecycleFor ph.host
    | (e',none) => Restores P wall evaluationTime e' rest

/-- The site a host is reported under, in this cycle or the last time. -/
def Cycle.sites (c : Cycle) (sites : String → String) (host : String) : String :=
  ((c.pending.find? (fun ph => ph.host == host)).map PendingHost.site).getD (sites host)

/-- A host is reported under one site, and under another one than before only
    while it is neither firing nor recovering. -/
def Cycle.Placed (c : Cycle) (sites : String → String) (e : Engine) : Prop :=
  ∀ ph ∈ c.pending, c.sites sites ph.host = ph.site ∧
    (ph.site = sites ph.host ∨ (e.lifecycleFor ph.host).state.active = false)

section Cycles
variable {P : Platform} {subjects : List (String × String)} {sites : String → String}

theorem advanceHosts_consistent (ulids : Injective P.ulid) (wall evaluationTime : Int)
    (pending : List PendingHost) (e : Engine) (apart : Apart P e.profile subjects)
    (consistent : Consistent P subjects sites e)
    (placed : ∀ ph ∈ pending, sites ph.host = ph.site ∧ (ph.host,ph.site) ∈ subjects)
    (written : Written P wall evaluationTime e pending) :
    Restores P wall evaluationTime e pending ∧
      ∃ e', advanceHosts P wall evaluationTime e pending = (e',.completed) ∧ e'.profile = e.profile ∧
        Consistent P subjects sites e' := by
  induction pending generalizing e with
  | nil => exact ⟨trivial,e,rfl,rfl,consistent⟩
  | cons ph rest ih =>
    obtain ⟨here,mine⟩ := placed ph mem_cons_self
    obtain ⟨e',step,profile,next⟩ := advanceHost_consistent ulids apart consistent here mine wall
      evaluationTime written.1
    have later := written.2
    rw [step] at later
    obtain ⟨restores,last,done,same,final⟩ := ih e' (by rw [profile]; exact apart) next
      (fun ph mem => placed ph (mem_cons_of_mem _ mem)) later
    refine ⟨by simpa only [Restores,step] using restores,last,?_,same.trans profile,final⟩
    rw [advanceHosts,← done]
    generalize advanceHost P e wall evaluationTime ph = result at step
    obtain ⟨⟨_,_⟩,_⟩ := result
    cases step
    rfl

theorem written_of_restores (restores : Restores P wall evaluationTime e pending)
    (ulids : Injective P.ulid) : Written P wall evaluationTime e pending := by
  induction pending generalizing e with
  | nil => trivial
  | cons ph rest ih =>
    have acts := advance_acts (e.lifecycleFor ph.host) ph.lifecycleScore
    rw [Restores] at restores
    rw [Written]
    unfold advanceHost at restores ⊢
    generalize (e.lifecycleFor ph.host).advance ph.lifecycleScore = advanced at acts restores ⊢
    obtain ⟨lc,tr⟩ := advanced
    dsimp only at acts restores ⊢
    have shape := persist_shape P ulids (e.setLifecycle ph.host lc) wall ph tr evaluationTime
    generalize persistTransition P (e.setLifecycle ph.host lc) wall ph tr evaluationTime = result
      at shape restores ⊢
    -- a transition that was not persisted has changed the lifecycle
    have kept : (e.setLifecycle ph.host lc).lifecycleFor ph.host = lc := by simp [lifecycleFor_set]
    cases shape with
    | nothing idle => exact ⟨.inl idle,ih restores⟩
    | missing err action => exact absurd (kept.symm.trans restores) (acts action).1
    | write draws episode history outbox action write =>
      generalize saved : applyTransition P (e.setLifecycle ph.host lc).store ph.writeFails wall episode
        history outbox = answer at restores ⊢
      cases answer with
      | error err => exact absurd (kept.symm.trans restores) (acts action).1
      | ok store => exact ⟨.inr (applyTransition_ok saved).1,ih restores⟩

theorem lifecycleFor_touch (e : Engine) (host other : String) :
    (e.touch host).lifecycleFor other = e.lifecycleFor other := by
  rw [Engine.touch,lifecycleFor_set]
  split
  · rename_i same
    rw [same]
  · rfl

theorem touches_consistent (hosts : List String) (consistent : Consistent P subjects sites e) :
    Consistent P subjects sites (hosts.foldl Engine.touch e) ∧
      (hosts.foldl Engine.touch e).profile = e.profile := by
  induction hosts generalizing e with
  | nil => exact ⟨consistent,rfl⟩
  | cons host hosts ih =>
    refine ih (e := e.touch host) ⟨fun s mem => ?_,consistent.shelved⟩
    rw [lifecycleFor_touch]
    exact consistent.agree s mem

theorem refreshEpisode_consistent (ulids : Injective P.ulid) (consistent : Consistent P subjects sites e)
    (fails : Bool) (wall now : Int) (mem : existing ∈ e.store.episodes)
    (active : existing.state ≠ .resolved) :
    Consistent P subjects sites (refreshEpisode P e fails wall now existing).1 ∧
    (refreshEpisode P e fails wall now existing).1.profile = e.profile ∧
    ∀ x ∈ e.store.episodes, x.signalID ≠ existing.signalID →
      x ∈ (refreshEpisode P e fails wall now existing).1.store.episodes := by
  have same : (refreshedEpisode e now existing).signalID = existing.signalID ∧
      (refreshedEpisode e now existing).state = existing.state ∧
      (refreshedEpisode e now existing).revision = existing.revision + 1 := by
    unfold refreshedEpisode
    split <;> exact ⟨rfl,rfl,rfl⟩
  obtain ⟨signal,state,revision⟩ := same
  unfold refreshEpisode
  dsimp only
  generalize written : applyTransition P e.store fails wall (refreshedEpisode e now existing) _ _ = result
  cases result with
  | error err => exact ⟨⟨consistent.agree,consistent.shelved.mono _⟩,rfl,fun x inList _ => inList⟩
  | ok store =>
    obtain ⟨-,episodes,unique,inserted⟩ := applyTransition_ok written
    have own : existing.signalID = (storedEpisode P (refreshedEpisode e now existing)).signalID := signal.symm
    have write : ∀ kind payload, Write P e existing.fingerprint .stays
        (storedEpisode P (refreshedEpisode e now existing))
        [⟨P.ulid e.drawn,existing.signalID,existing.revision + 1,1,kind,payload,now⟩] 1 := by
      intro kind payload
      refine ⟨nofun,fun _ => ⟨existing,mem,rfl,active,signal,?_,revision⟩,fun o inOutbox => ?_,
        pairwise_singleton _ _⟩
      · change (refreshedEpisode e now existing).state = _ ↔ _
        simp [state,active]
      · rw [mem_singleton.mp inOutbox]
        exact ⟨signal.symm,revision.symm,0,Nat.one_pos,rfl⟩
    refine ⟨⟨fun s inSubjects => ?_,
      shelved_write ulids consistent.shelved (write _ _) episodes unique inserted⟩,
      rfl,fun x inList other => ?_⟩
    · have stays := hasActive_stays consistent.shelved.signals mem own active
        (fun ends => active (state ▸ ends)) (e.printOf P s)
      exact (congrArg (hasActive · (e.printOf P s)) episodes).trans (stays.trans (consistent.agree s inSubjects))
    · change x ∈ store.episodes
      rw [episodes,upsert_existing mem own]
      refine mem_updateWhere_of_not inList ?_
      change (x.signalID == (refreshedEpisode e now existing).signalID) = false
      rw [signal]
      simpa using other

theorem refreshEpisodes_consistent (ulids : Injective P.ulid) (fails : String → Bool) (wall now : Int)
    (episodes : List EpisodeRecord) (consistent : Consistent P subjects sites e)
    (listed : ∀ existing ∈ episodes, existing ∈ e.store.episodes ∧ existing.state ≠ .resolved)
    (distinct : (episodes.map signalID).Nodup) :
    Consistent P subjects sites (refreshEpisodes P fails wall now e episodes).1 ∧
      (refreshEpisodes P fails wall now e episodes).1.profile = e.profile := by
  induction episodes generalizing e with
  | nil => exact ⟨consistent,rfl⟩
  | cons existing rest ih =>
    obtain ⟨mem,active⟩ := listed existing mem_cons_self
    obtain ⟨fresh,distinct⟩ := nodup_cons.mp distinct
    unfold refreshEpisodes
    split
    · obtain ⟨next,profile,kept⟩ := refreshEpisode_consistent ulids consistent (fails existing.signalID)
        wall now mem active
      split
      · rename_i e' err step
        rw [step] at next profile
        exact ⟨next,profile⟩
      rename_i e' step
      rw [step] at next profile kept
      have others : ∀ x ∈ rest, x ∈ e'.store.episodes ∧ x.state ≠ .resolved := by
        intro x later
        obtain ⟨inStore,open_⟩ := listed x (mem_cons_of_mem _ later)
        refine ⟨kept x inStore fun clash => fresh ?_,open_⟩
        rw [← clash]
        exact mem_map_of_mem later
      obtain ⟨final,same⟩ := ih next others distinct
      exact ⟨final,same.trans profile⟩
    · exact ih consistent (fun x later => listed x (mem_cons_of_mem _ later)) distinct

theorem listActive_listed (s : Store) (signals : (s.episodes.map signalID).Nodup) :
    (∀ existing ∈ listActiveEpisodes s, existing ∈ s.episodes ∧ existing.state ≠ .resolved) ∧
      ((listActiveEpisodes s).map signalID).Nodup := by
  constructor
  · intro existing mem
    obtain ⟨inStore,active⟩ := mem_filter.mp ((mem_insertionSort _).mp mem)
    exact ⟨inStore,by simpa using active⟩
  · refine (((perm_insertionSort _ _).map signalID).nodup_iff).mpr ?_
    exact signals.sublist (filter_sublist.map signalID)

theorem consistent_moves {c : Cycle} (consistent : Consistent P subjects sites e)
    (placed : c.Placed sites e) :
    Consistent P subjects (c.sites sites) e := by
  refine ⟨fun s mem => ?_,consistent.shelved⟩
  rw [consistent.agree s mem]
  have moved : c.sites sites s.1 = sites s.1 ∨ (e.lifecycleFor s.1).state.active = false := by
    unfold Cycle.sites
    cases found : c.pending.find? (fun ph => ph.host == s.1) with
    | none => exact .inl rfl
    | some ph =>
      have isHost : ph.host = s.1 := by simpa using find?_some found
      rw [← isHost]
      exact (placed ph (mem_of_find?_eq_some found)).2
  rcases moved with same | inactive
  · rw [same]
  · rw [inactive,Bool.false_and,Bool.false_and]

theorem runCycle_consistent (ulids : Injective P.ulid) (apart : Apart P e.profile subjects)
    (consistent : Consistent P subjects sites e)
    (reported : ∀ ph ∈ c.pending, (ph.host,ph.site) ∈ subjects) (placed : c.Placed sites e)
    (written : Written P c.wall c.evaluationTime (c.valid.foldl Engine.touch e) c.pending) :
    Restores P c.wall c.evaluationTime (c.valid.foldl Engine.touch e) c.pending ∧
    (runCycle P e c).1.profile = e.profile ∧
      Consistent P subjects (c.sites sites) (runCycle P e c).1 := by
  obtain ⟨touched,profile⟩ := touches_consistent c.valid (consistent_moves consistent placed)
  obtain ⟨restores,e',done,profile',next⟩ := advanceHosts_consistent ulids c.wall c.evaluationTime
    c.pending (c.valid.foldl Engine.touch e) (by rw [profile]; exact apart) touched
    (fun ph mem => ⟨(placed ph mem).1,reported ph mem⟩) written
  obtain ⟨listed,distinct⟩ := listActive_listed e'.store next.shelved.signals
  obtain ⟨refreshed,same⟩ := refreshEpisodes_consistent ulids c.refreshFails c.wall
    (c.evaluationTime * second) (listActiveEpisodes e'.store) next listed distinct
  unfold runCycle
  simp only [done]
  exact ⟨restores,same.trans (profile'.trans profile),refreshed⟩

end Cycles

/-- After every cycle memory and store agree, and in every cycle a host whose
    transition is not persisted is left as it was. -/
def Atomic (P : Platform) (subjects : List (String × String)) :
    (String → String) → Engine → List Cycle → Prop
  | _, _, [] => True
  | sites, e, c :: rest =>
    Agrees P subjects (c.sites sites) (runCycle P e c).1 ∧
      Restores P c.wall c.evaluationTime (c.valid.foldl Engine.touch e) c.pending ∧
      Atomic P subjects (c.sites sites) (runCycle P e c).1 rest

def WrittenThroughout (P : Platform) : Engine → List Cycle → Prop
  | _, [] => True
  | e, c :: rest =>
    Written P c.wall c.evaluationTime (c.valid.foldl Engine.touch e) c.pending ∧
      WrittenThroughout P (runCycle P e c).1 rest

def PlacedThroughout (P : Platform) : (String → String) → Engine → List Cycle → Prop
  | _, _, [] => True
  | sites, e, c :: rest =>
    c.Placed sites e ∧ PlacedThroughout P (c.sites sites) (runCycle P e c).1 rest

theorem written_of_atomic (ulids : Injective P.ulid) (atomic : Atomic P subjects sites e cycles) :
    WrittenThroughout P e cycles := by
  induction cycles generalizing e sites with
  | nil => trivial
  | cons c rest ih =>
    obtain ⟨-,restores,later⟩ := atomic
    exact ⟨written_of_restores restores ulids,ih later⟩

/-- Where no active host changes its site, the transitions are atomic exactly if
    the database takes every write that the scores ask for. -/
theorem detection_atomic {P : Platform} {subjects : List (String × String)} {sites : String → String}
    {e : Engine} (ulids : Injective P.ulid) (apart : Apart P e.profile subjects)
    (consistent : Consistent P subjects sites e) {cycles : List Cycle}
    (reported : ∀ c ∈ cycles, ∀ ph ∈ c.pending, (ph.host,ph.site) ∈ subjects) :
    (WrittenThroughout P e cycles ∧ PlacedThroughout P sites e cycles → Atomic P subjects sites e cycles) ∧
    (Atomic P subjects sites e cycles → WrittenThroughout P e cycles) := by
  refine ⟨?_,written_of_atomic ulids⟩
  induction cycles generalizing e sites with
  | nil => exact fun _ => trivial
  | cons c rest ih =>
    rintro ⟨⟨written,writtenLater⟩,placed,placedLater⟩
    obtain ⟨restores,profile,next⟩ := runCycle_consistent ulids apart consistent
      (reported c mem_cons_self) placed written
    exact ⟨next.agrees,restores,ih (by rw [profile]; exact apart) next
      (fun c mem => reported c (mem_cons_of_mem _ mem)) ⟨writtenLater,placedLater⟩⟩

def sampleProfile : FeatureProfile :=
  ⟨"linux-host",1,"",⟨0,0,0,0⟩,⟨"","","",""⟩,[]⟩

def samplePlatform : Platform where
  rfc3339 := fun t => if t = 60 * second then "1970-01-01T00:01:00Z" else "1970-01-01T00:02:00Z"
  parseRFC3339 := fun text =>
    if text = "1970-01-01T00:01:00Z" then some (60 * second)
    else if text = "1970-01-01T00:02:00Z" then some (120 * second) else none
  sha256Hex := fun text =>
    if text = fingerprintPayload "web-1" "managed_host" "taipei" "linux-host" 1 then
      "097ddab986afe855841eaac0ab8d857967363ec2269949fe775eaab7b9ddabd5"
    else text
  formatFloat := fun _ => "1"
  marshalAlert := fun payload => payload.startsAt
  unmarshalAlert := fun _ => none
  marshalStrings := fun _ => "[]"
  marshalContributors := fun _ => "[]"
  marshalValues := fun _ => "null"
  ulid := fun n => String.ofList (replicate (26 + n) '0')

def sampleEngine : Engine := ⟨sampleProfile,fun _ => none,⟨[],[],[]⟩,0⟩

def sampleHost (site : String) (writeFails : Bool) : PendingHost :=
  ⟨"web-1",site,⟨.value 1,"cpu",[],"local","baseline"⟩,[],.value 1,writeFails⟩

def sampleCycle (minute : Int) (site : String) (writeFails : Bool) : Cycle :=
  ⟨minute * 60,minute * 60 * second,["web-1"],[sampleHost site writeFails],fun _ => false⟩

def sampleSubjects : List (String × String) := [("web-1","taipei"),("web-1","tokyo")]

theorem sample_ulids : Injective samplePlatform.ulid := by
  intro a b same
  have lengths := congrArg (fun text : String => text.toList.length) same
  simpa [samplePlatform] using lengths

theorem sample_apart : Apart samplePlatform sampleProfile sampleSubjects := by
  intro a inA b inB
  revert a b
  decide +kernel

theorem sample_consistent : Consistent samplePlatform sampleSubjects (fun _ => "taipei") sampleEngine :=
  ⟨fun _ _ => rfl,by simp [sampleEngine],rfl,by simp [sampleEngine],by simp [sampleEngine]⟩

/-- Two critical scores with every write committed, and a move before the host
    fires: its episode is in the store, under its new site. -/
theorem sample_agreement :
    Atomic samplePlatform sampleSubjects (fun _ => "taipei") sampleEngine
      [sampleCycle 1 "taipei" false,sampleCycle 2 "tokyo" false] := by
  refine (detection_atomic (e := sampleEngine) sample_ulids sample_apart sample_consistent ?_).1 ⟨?_,?_⟩
  · simp [sampleCycle,sampleHost,sampleSubjects]
  · exact ⟨⟨.inr rfl,trivial⟩,⟨.inr rfl,trivial⟩,trivial⟩
  · refine ⟨?_,?_,trivial⟩
    · intro ph mem
      rw [mem_singleton.mp mem]
      exact ⟨rfl,.inl rfl⟩
    · intro ph mem
      rw [mem_singleton.mp mem]
      exact ⟨rfl,.inr (by decide +kernel)⟩

/-- The same two scores with the second write refused: the host is firing,
    no episode is in the store, and the refused advance was kept. -/
theorem lost_create_disagrees :
    ¬ (∀ cycles : List Cycle, (∀ c ∈ cycles, ∀ ph ∈ c.pending, ph.host = "web-1" ∧ ph.site = "taipei") →
      Atomic samplePlatform sampleSubjects (fun _ => "taipei") sampleEngine cycles) := by
  intro always
  have atomic := always [sampleCycle 1 "taipei" false,sampleCycle 2 "taipei" true] (by
    simp [sampleCycle,sampleHost])
  have firing := (atomic.2.2.1 ("web-1","taipei") mem_cons_self rfl).mp (Or.inl (by decide +kernel))
  revert firing
  decide +kernel

end Pilot.Detection
