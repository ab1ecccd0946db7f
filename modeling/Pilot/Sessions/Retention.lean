import Pilot.Sessions.Integrity

/-!
Retention of the session store: `DeleteSessionPayload`, `SessionsOlderThan` and
the sweep of `cmd/pilot-session-store/retention.go`. The query compares the
texts of instants and leaves out every session that was ever purged. It is
exact, and a sweep leaves nothing behind, exactly if no purged session has
received events since and the texts are ordered like the instants.
-/
namespace Pilot.Sessions
open Pilot.Table Pilot.Transition List

structure RetentionRow where
  (sessionID action detail createdAt : String)
  deriving DecidableEq, Repr

structure Archive where
  db : DB
  retention : List RetentionRow
  deriving DecidableEq, Repr

def Session.purge (s : Session) : Session := { s with bytes := 0, eventCount := 0 }

def retentionDelete : String := "retention_delete"

variable (S : Setup)

def deleteSessionPayload (a : Archive) (sessionID reason : String) (now : Int) :
    Except String Unit × Archive :=
  if a.db.sessions.countP (ofSession sessionID) = 0 then (.error errUnknownSession,a)
  else
    (.ok (),
      { db :=
          { sessions := updateWhere (ofSession sessionID) Session.purge a.db.sessions
            events := a.db.events.filter (fun e => !inSession sessionID e) }
        retention := a.retention ++ [⟨sessionID,retentionDelete,reason,S.clock.format now⟩] })

def purged (a : Archive) (sessionID : String) : Bool :=
  a.retention.any (fun r => r.sessionID == sessionID && r.action == retentionDelete)

def sessionsOlderThan (a : Archive) (cutoff : Int) : List String :=
  (a.db.sessions.filter (fun s =>
    S.clock.format s.start.startedAt < S.clock.format cutoff ∧ ¬ purged a s.id)).map Session.id

inductive Act where
  | write (call : Call)
  | purge (sessionID reason : String) (now : Int)

def Act.apply (act : Act) (failed : Bool) (a : Archive) : Archive :=
  match act with
  | .write call => { a with db := call.apply S failed a.db }
  | .purge sessionID reason now =>
    if failed then a else (deleteSessionPayload S a sessionID reason now).2

def ArchiveStep (a : Archive) (label : Act × Bool) (a' : Archive) : Prop :=
  a' = label.1.apply S label.2 a

def emptyArchive : Archive := ⟨emptyDB,[]⟩

structure Filed (a : Archive) : Prop where
  ids : (a.db.sessions.map Session.id).Nodup
  keys : (a.db.events.map EventRow.key).Nodup
  known : ∀ e ∈ a.db.events, ∃ s ∈ a.db.sessions, s.id = e.sessionID

theorem Steady.trans (first : Steady a b) (second : Steady b c) : Steady a c := by
  constructor
  · intro s mem
    obtain ⟨t,there,same⟩ := first.kept s mem
    obtain ⟨u,last,same'⟩ := second.kept t there
    exact ⟨u,last,same'.trans same⟩
  intro u mem
  rcases second.same u mem with ⟨t,there,same,start⟩ | new
  · rcases first.same t there with ⟨s,old,same',start'⟩ | new
    · exact Or.inl ⟨s,old,same'.trans same,start'.trans start⟩
    · exact Or.inr (same ▸ new)
  · right
    intro s old same
    obtain ⟨t,there,same'⟩ := first.kept s old
    exact new t there (same'.trans same)

theorem filed_empty : Filed emptyArchive :=
  ⟨nodup_nil,nodup_nil,fun _ mem => absurd mem not_mem_nil⟩

structure Moved (a : Archive) (label : Act × Bool) (a' : Archive) : Prop where
  filed : Filed a'
  sessions : Steady a.db.sessions a'.db.sessions
  events : (∀ sessionID batch, label ≠ (.write (.ingest sessionID batch),false)) →
    ∀ e ∈ a'.db.events, e ∈ a.db.events
  emptied : ∀ sessionID reason now, label = (.purge sessionID reason now,false) →
    (∃ s ∈ a.db.sessions, s.id = sessionID) → ∀ e ∈ a'.db.events, e.sessionID ≠ sessionID

variable {S} {a a' b : Archive} {labels : List (Act × Bool)} {cutoff : Int}

theorem moved_write (filed : Filed a) (change : Change S a.db call a'.db)
    (quiet : failed = true → a'.db = a.db) : Moved a (.write call,failed) a' := by
  refine ⟨⟨ids_change S change filed.ids,keys_change S change filed.keys,known_change S change filed.known⟩,
    steady_change S change,?_,?_⟩
  · intro other e mem
    cases failed with
    | true => exact quiet rfl ▸ mem
    | false => exact events_change_of_ne S change (fun id batch same => other id batch (by rw [same])) ▸ mem
  · rintro _ _ _ same
    cases same

theorem moved_purge (filed : Filed a) :
    Moved a (.purge sessionID reason now,false) (deleteSessionPayload S a sessionID reason now).2 := by
  unfold deleteSessionPayload
  split
  · rename_i unknown
    have nobody : ∀ s ∈ a.db.sessions, s.id ≠ sessionID := by
      intro s mem same
      exact countP_eq_zero.mp unknown s mem (ofSession_iff.mpr same)
    refine ⟨filed,Steady.refl _,fun _ e mem => mem,?_⟩
    rintro id _ _ same ⟨s,mem,named⟩
    cases same
    exact absurd named (nobody s mem)
  · have steady := steady_updateWhere (p := ofSession sessionID) (f := Session.purge) (fun _ => rfl)
      a.db.sessions
    have sub : (a.db.events.filter (fun e => !inSession sessionID e)).Sublist a.db.events :=
      filter_sublist
    have ids := ids_updateWhere (p := ofSession sessionID) (f := Session.purge) (fun _ => rfl)
      a.db.sessions
    refine ⟨⟨?_,?_,?_⟩,steady,?_,?_⟩
    · exact ids ▸ filed.ids
    · exact filed.keys.sublist (sub.map _)
    · intro e mem
      exact known_of_steady steady (filed.known e (sub.subset mem))
    · exact fun _ e mem => sub.subset mem
    · rintro id _ _ same _ e mem
      cases same
      simpa [inSession] using (mem_filter.mp mem).2

theorem moved_step (filed : Filed a) (taken : ArchiveStep S a label a') : Moved a label a' := by
  obtain ⟨act,failed⟩ := label
  subst taken
  cases act with
  | write call =>
    have change := change_step S filed.keys (show Step S a.db (call,failed) _ from rfl)
    exact moved_write filed change fun no => by rw [no]; rfl
  | purge sessionID reason now =>
    cases failed with
    | true =>
      refine ⟨filed,Steady.refl _,fun _ e mem => mem,?_⟩
      rintro _ _ _ same
      cases same
    | false => exact moved_purge filed

theorem filed_run (run : Run (ArchiveStep S) emptyArchive labels a) : Filed a := by
  apply run_invariant Filed _ run filed_empty
  intro b label b' filed taken
  exact (moved_step filed taken).filed

/-- What a run without ingests leaves of a filed archive. -/
structure Followed (a : Archive) (labels : List (Act × Bool)) (b : Archive) : Prop where
  filed : Filed b
  sessions : Steady a.db.sessions b.db.sessions
  events : ∀ e ∈ b.db.events, e ∈ a.db.events
  emptied : ∀ sessionID reason now, (.purge sessionID reason now,false) ∈ labels →
    (∃ s ∈ a.db.sessions, s.id = sessionID) → ∀ e ∈ b.db.events, e.sessionID ≠ sessionID

def Quiet (labels : List (Act × Bool)) : Prop :=
  ∀ sessionID batch, (Act.write (.ingest sessionID batch),false) ∉ labels

theorem followed_run (filed : Filed a) (run : Run (ArchiveStep S) a labels b) (quiet : Quiet labels) :
    Followed a labels b := by
  induction run with
  | start => exact ⟨filed,Steady.refl _,fun e mem => mem,fun _ _ _ none => absurd none not_mem_nil⟩
  | @next b b' labels label _ taken ih =>
    have before := ih fun sessionID batch mem => quiet sessionID batch (mem_append_left _ mem)
    have moved := moved_step before.filed taken
    have shrunk := moved.events fun sessionID batch same =>
      quiet sessionID batch (mem_append_right _ (mem_singleton.mpr same.symm))
    refine ⟨moved.filed,before.sessions.trans moved.sessions,fun e mem => before.events e (shrunk e mem),?_⟩
    intro sessionID reason now mem known e among
    rcases mem_append.mp mem with earlier | last
    · exact before.emptied sessionID reason now earlier known e (shrunk e among)
    obtain ⟨s,old,same⟩ := known
    obtain ⟨t,there,same'⟩ := before.sessions.kept s old
    exact moved.emptied sessionID reason now (mem_singleton.mp last).symm
      ⟨t,there,same'.trans same⟩ e among

/-- The sessions a sweep is to purge: started before the cutoff, and with events
    or never purged. -/
def Due (a : Archive) (cutoff : Int) (s : Session) : Prop :=
  s.start.startedAt < cutoff ∧ (eventsOf a.db s.id ≠ [] ∨ purged a s.id = false)

/-- The query returns the due sessions and no others. -/
def Exact (S : Setup) (a : Archive) (cutoff : Int) : Prop :=
  ∀ sessionID, sessionID ∈ sessionsOlderThan S a cutoff ↔ ∃ s ∈ a.db.sessions, s.id = sessionID ∧ Due a cutoff s

structure Sweep (S : Setup) (a : Archive) (cutoff : Int) (labels : List (Act × Bool)) : Prop where
  purges : ∀ sessionID ∈ sessionsOlderThan S a cutoff, ∃ reason now, (.purge sessionID reason now,false) ∈ labels
  quiet : Quiet labels

def Converged (a : Archive) (cutoff : Int) : Prop :=
  ∀ s ∈ a.db.sessions, s.start.startedAt < cutoff → eventsOf a.db s.id = []

/-- The texts of the instants that are compared are ordered like them, and no
    purged session of before the cutoff has events. -/
structure Aligned (S : Setup) (a : Archive) (cutoff : Int) : Prop where
  texts : ∀ s ∈ a.db.sessions, purged a s.id = false →
    (S.clock.format s.start.startedAt < S.clock.format cutoff ↔ s.start.startedAt < cutoff)
  spent : ∀ s ∈ a.db.sessions, purged a s.id = true → s.start.startedAt < cutoff → eventsOf a.db s.id = []

theorem mem_sessionsOlderThan :
    sessionID ∈ sessionsOlderThan S a cutoff ↔ ∃ s ∈ a.db.sessions, s.id = sessionID ∧
      S.clock.format s.start.startedAt < S.clock.format cutoff ∧ purged a s.id = false := by
  simp only [sessionsOlderThan,mem_map,mem_filter,decide_eq_true_eq,Bool.not_eq_true]
  constructor
  · rintro ⟨s,⟨mem,chosen⟩,same⟩
    exact ⟨s,mem,same,chosen⟩
  · rintro ⟨s,mem,same,chosen⟩
    exact ⟨s,⟨mem,chosen⟩,same⟩

theorem session_unique (filed : Filed a) (first : s ∈ a.db.sessions) (second : t ∈ a.db.sessions)
    (same : s.id = t.id) : s = t :=
  inj_on_of_nodup_map filed.ids first second same

theorem exact_iff_aligned (filed : Filed a) : Exact S a cutoff ↔ Aligned S a cutoff := by
  constructor
  · intro exact_
    constructor
    · intro s mem unpurged
      have listed := exact_ s.id
      rw [mem_sessionsOlderThan] at listed
      constructor
      · intro before
        obtain ⟨t,there,same,due⟩ := listed.mp ⟨s,mem,rfl,before,unpurged⟩
        rw [session_unique filed there mem same] at due
        exact due.1
      · intro before
        obtain ⟨t,there,same,text,_⟩ := listed.mpr ⟨s,mem,rfl,before,Or.inr unpurged⟩
        rw [session_unique filed there mem same] at text
        exact text
    · intro s mem done before
      by_contra some_
      obtain ⟨t,_,same,_,unpurged⟩ := mem_sessionsOlderThan.mp
        ((exact_ s.id).mpr ⟨s,mem,rfl,before,Or.inl some_⟩)
      rw [same,done] at unpurged
      cases unpurged
  · intro aligned sessionID
    rw [mem_sessionsOlderThan]
    constructor
    · rintro ⟨s,mem,same,text,unpurged⟩
      exact ⟨s,mem,same,(aligned.texts s mem unpurged).mp text,Or.inr unpurged⟩
    rintro ⟨s,mem,same,before,due⟩
    have unpurged : purged a s.id = false := by
      by_contra done
      rw [Bool.not_eq_false] at done
      rcases due with some_ | unpurged
      · exact some_ (aligned.spent s mem done before)
      · rw [done] at unpurged
        cases unpurged
    exact ⟨s,mem,same,(aligned.texts s mem unpurged).mpr before,unpurged⟩

theorem converged_of_exact (filed : Filed a) (exact_ : Exact S a cutoff)
    (run : Run (ArchiveStep S) a labels b) (sweep : Sweep S a cutoff labels) : Converged b cutoff := by
  have followed := followed_run filed run sweep.quiet
  intro t there before
  rw [eq_nil_iff_forall_not_mem]
  intro e among
  obtain ⟨mem,owner⟩ := mem_eventsOf.mp among
  have stored := followed.events e mem
  rcases followed.sessions.same t there with ⟨s,old,same,start⟩ | new
  · have due : Due a cutoff s := by
      refine ⟨start ▸ before,Or.inl (ne_nil_of_mem (mem_eventsOf.mpr ⟨stored,?_⟩))⟩
      rw [owner,same]
    obtain ⟨reason,now,purge⟩ := sweep.purges s.id ((exact_ s.id).mpr ⟨s,old,rfl,due⟩)
    exact followed.emptied s.id reason now purge ⟨s,old,rfl⟩ e mem (owner.trans same.symm)
  · obtain ⟨s,old,same⟩ := filed.known e stored
    exact new s old (same.trans owner)

/-- The query is exact and a sweep converges exactly if the texts and the
    instants agree and no purged session has received events since. -/
theorem retention_converges_iff (run : Run (ArchiveStep S) emptyArchive labels a) (cutoff : Int) :
    (Exact S a cutoff ∧ ∀ later b, Run (ArchiveStep S) a later b → Sweep S a cutoff later →
      Converged b cutoff) ↔ Aligned S a cutoff := by
  have filed := filed_run run
  rw [← exact_iff_aligned filed]
  constructor
  · exact And.left
  · intro exact_
    exact ⟨exact_,fun later b run sweep => converged_of_exact filed exact_ run sweep⟩

def retentionSetup : Setup :=
  { sampleSetup with
    clock := ⟨fun t =>
        if t = 0 then "1970-01-01T00:00:00Z"
        else if t = 500000000 then "1970-01-01T00:00:00.5Z" else "1970-01-01T00:00:01Z",
      sampleSetup.clock.parse,by
        intro t
        split
        · decide
        · split
          · decide
          · decide⟩ }

def startAt (startedAt : Int) : Act × Bool :=
  (.write (.start ⟨"s","user","d","g","scope","host","full",startedAt,"host","jti"⟩ 0),false)

def ingestAgain : Act × Bool := (.write (.ingest "s" [sampleEvent]),false)

def purgeIt : Act × Bool := (.purge "s" "retention_days cutoff: started_at < 1970-01-01T00:00:01Z" 0,false)

def applyAll (labels : List (Act × Bool)) : Archive :=
  labels.foldl (fun a label => label.1.apply retentionSetup label.2 a) emptyArchive

theorem run_applyAll (labels : List (Act × Bool)) :
    Run (ArchiveStep retentionSetup) emptyArchive labels (applyAll labels) := by
  induction labels using reverseRecOn with
  | nil => exact Run.start _
  | append_singleton labels label ih =>
    have more := Run.next ih (show ArchiveStep retentionSetup (applyAll labels) label _ from rfl)
    simpa [applyAll] using more

/-- An event that arrives after the purge is never purged, and a session that
    started half a second after the cutoff is listed. -/
theorem late_events_are_never_purged :
    Run (ArchiveStep retentionSetup) emptyArchive [startAt 0,ingestAgain,purgeIt,ingestAgain]
      (applyAll [startAt 0,ingestAgain,purgeIt,ingestAgain]) ∧
    (applyAll [startAt 0,ingestAgain,purgeIt,ingestAgain]).db.sessions.map
      (fun s => (s.id,s.start.startedAt,s.eventCount)) = [("s",0,1)] ∧
    sessionsOlderThan retentionSetup (applyAll [startAt 0,ingestAgain,purgeIt,ingestAgain]) 1000000000 = [] ∧
    Sweep retentionSetup (applyAll [startAt 0,ingestAgain,purgeIt,ingestAgain]) 1000000000 [] ∧
    ¬ Converged (applyAll [startAt 0,ingestAgain,purgeIt,ingestAgain]) 1000000000 ∧
    sessionsOlderThan retentionSetup (applyAll [startAt 500000000]) 0 = ["s"] := by
  have none : sessionsOlderThan retentionSetup (applyAll [startAt 0,ingestAgain,purgeIt,ingestAgain])
      1000000000 = [] := by decide +kernel
  refine ⟨run_applyAll _,by decide +kernel,none,⟨?_,?_⟩,?_,by decide +kernel⟩
  · rw [none]
    exact fun _ mem => absurd mem not_mem_nil
  · exact fun _ _ => not_mem_nil
  · unfold Converged
    decide +kernel

/-- A session with one event is due, and the sweep that purges it converges. -/
theorem retention_of_a_recording :
    let a := applyAll [startAt 0,ingestAgain]
    sessionsOlderThan retentionSetup a 1000000000 = ["s"] ∧ Exact retentionSetup a 1000000000 ∧
      Sweep retentionSetup a 1000000000 [purgeIt] ∧
      Converged (applyAll [startAt 0,ingestAgain,purgeIt]) 1000000000 := by
  intro a
  have due : sessionsOlderThan retentionSetup a 1000000000 = ["s"] := by decide +kernel
  have aligned : Aligned retentionSetup a 1000000000 := by
    constructor
    · decide +kernel
    · decide +kernel
  have sweep : Sweep retentionSetup a 1000000000 [purgeIt] := by
    constructor
    · rw [due]
      intro id mem
      obtain rfl := mem_singleton.mp mem
      exact ⟨_,_,mem_singleton_self _⟩
    · simp [Quiet,purgeIt]
  have purged : Run (ArchiveStep retentionSetup) a [purgeIt] (applyAll [startAt 0,ingestAgain,purgeIt]) :=
    Run.next (Run.start a) rfl
  obtain ⟨listed,converges⟩ :=
    (retention_converges_iff (run_applyAll [startAt 0,ingestAgain]) 1000000000).mpr aligned
  exact ⟨due,listed,sweep,converges _ _ purged sweep⟩

end Pilot.Sessions
