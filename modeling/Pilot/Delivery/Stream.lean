import Mathlib.Data.List.Nodup
import Mathlib.Data.List.Range
import Pilot.Delivery.Evidence
import Pilot.Library.Fold
import Pilot.Library.Table

/-!
What holds along every history of the evidence store: the events of a run are
numbered from one, begin with its start and end with its finish, nothing is
added to a finished run, and a row goes only with a prune. A finished run does
not grow, so that an archive, however it was interleaved, has every row of its
runs that is still stored. It has the row as JSON has it, and that is the row
only if its texts are UTF-8.
-/
namespace Pilot.Delivery
open List Store Function Fold Table
variable {Run File Digest Writer Archive Path : Type} [DecidableEq Run] {P : Platform Run File Digest}
  {db db' : Tables Run} {run : Run}

theorem mem_stream : e ∈ db.stream run ↔ e ∈ db.events ∧ e.run = run := by
  simp [Tables.stream]

structure Added (db : Tables Run) (row : EventRow Run) (db' : Tables Run) : Prop where
  events : db'.events = db.events ++ [row]
  evidence : db'.evidence = db.evidence
  unfinished : ¬ db.finished row.run
  fresh : ∀ e ∈ db.stream row.run, e.operationID ≠ row.operationID
  place : (db.stream row.run = [] ∧ row.seq = 1 ∧ row.type = eventRunStarted) ∨
    (db.stream row.run ≠ [] ∧ row.seq = maxSeq (db.stream row.run) + 1)

structure Noted (db : Tables Run) (row : EvidenceRow Run) (db' : Tables Run) : Prop where
  events : db'.events = db.events
  evidence : db'.evidence = db.evidence ++ [row]
  unfinished : ¬ db.finished row.run
  begun : db.stream row.run ≠ []
  fresh : ∀ e ∈ db.evidence, e.run = row.run → e.operationID ≠ row.operationID

section
variable {event : Event} {starting : Bool} (start : starting = true → event.type = eventRunStarted)
include start

theorem insertEvent_ok (ok : insertEvent db run event payload starting = .ok db') :
    db' = db ∨ ∃ row, Added db row db' ∧ row.run = run ∧
      (db.stream run = [] → starting = true) ∧ row.operationID = event.operationID := by
  unfold insertEvent at ok
  split at ok
  · split at ok
    · cases ok
      exact .inl rfl
    · cases ok
  rename_i missing
  split at ok
  · cases ok
  rename_i unfinished
  split at ok
  · cases ok
  rename_i notAgain
  split at ok
  · cases ok
  rename_i begun
  cases ok
  right
  refine ⟨_,⟨rfl,rfl,unfinished,?_,?_⟩,rfl,?_,rfl⟩
  · intro e there same
    exact absurd same (by simpa using find?_eq_none.mp missing e there)
  · cases starting with
    | true =>
      left
      have empty : db.stream run = [] := by simpa using notAgain
      exact ⟨empty,rfl,start rfl⟩
    | false =>
      right
      have some_ : db.stream run ≠ [] := by simpa using begun
      exact ⟨some_,rfl⟩
  · intro empty
    by_contra no
    exact begun ⟨no,empty⟩

theorem appendEvent_ok (ok : appendEvent db w event starting = .ok db') :
    db' = db ∨ ∃ row, Added db row db' ∧ row.run = w.runID ∧
      (db.stream w.runID = [] → starting = true) ∧ row.operationID = event.operationID := by
  unfold appendEvent at ok
  split at ok
  · cases ok
  split at ok
  · cases ok
  · split at ok
    · cases ok
    · exact insertEvent_ok start ok

end

theorem repeated_none (new : db.repeated row = none) :
    ∀ e ∈ db.evidence, e.run = row.run → e.operationID ≠ row.operationID := by
  intro e there same
  unfold Tables.repeated at new
  rw [Option.or_eq_none_iff] at new
  have miss := find?_eq_none.mp new.1 e (mem_filter.mpr ⟨there,by simpa using same⟩)
  simpa using miss

theorem appendEvidence_ok (ok : appendEvidence P db w row = .ok db') :
    db' = db ∨ Noted db (evidenceRow P w.runID row) db' := by
  unfold appendEvidence at ok
  split at ok
  · cases ok
  split at ok
  · cases ok
  split at ok
  · cases ok
  split at ok
  · cases ok
  dsimp only at ok
  split at ok
  · split at ok
    · cases ok
      exact .inl rfl
    · cases ok
  rename_i new
  split at ok
  · cases ok
  rename_i begun
  split at ok
  · cases ok
  · rename_i unfinished
    cases ok
    exact .inr ⟨rfl,rfl,unfinished,begun,repeated_none new⟩

/-- A run id that was pruned is not started again. -/
def NotReused (s : Store Run File Digest Writer Archive Path) (op : Op Run File Writer Archive Path) : Prop :=
  ∀ w start, op = .startRun w start → start.runID ∉ s.pruned

inductive Moved (s : Store Run File Digest Writer Archive Path) (op : Op Run File Writer Archive Path)
    (t : Store Run File Digest Writer Archive Path) : Prop where
  | same (rows : t.db = s.db) (pruned : t.pruned = s.pruned)
  | added (row : EventRow Run) (made : Added s.db row t.db) (pruned : t.pruned = s.pruned)
    (allowed : s.db.stream row.run = [] → row.run ∉ s.pruned)
  | noted (row : EvidenceRow Run) (made : Noted s.db row t.db) (pruned : t.pruned = s.pruned)
  | cut (id : Archive) (archive : EvidenceArchive Run Digest Path) (contents : File) (is : op = .commitPrune id)
    (verified : s.pruning id = some (archive,contents)) (rows : t.db = s.db.without archive.runIDs)
    (pruned : t.pruned = s.pruned ++ archive.runIDs)

variable {s t : Store Run File Digest Writer Archive Path} {op : Op Run File Writer Archive Path}

theorem answer_ok [DecidableEq Writer]
    (moves : ∀ db writer, result = .ok (db,writer) → Moved s op { s with db := db }) :
    Moved s op (s.answer w result) := by
  cases result with
  | error err => exact .same rfl rfl
  | ok pair =>
    obtain ⟨db,writer⟩ := pair
    cases moves db writer rfl with
    | same rows pruned => exact .same rows pruned
    | added row made pruned allowed => exact .added row made pruned allowed
    | noted row made pruned => exact .noted row made pruned
    | cut id archive contents is verified rows pruned => exact .cut id archive contents is verified rows pruned

section
variable [DecidableEq Digest] [DecidableEq Writer] [DecidableEq Archive] [DecidableEq Path]

theorem act_moves (s : Store Run File Digest Writer Archive Path) (op : Op Run File Writer Archive Path)
    (notReused : NotReused s op) : Moved s op (s.act P op) := by
  cases op with
  | startRun w start =>
    apply answer_ok
    intro db writer ok
    obtain ⟨made,appended,same⟩ := map_ok ok
    cases same
    obtain same | ⟨row,is,named,_⟩ := appendEvent_ok (fun _ => rfl) appended
    · exact .same same rfl
    · exact .added row is rfl (fun _ => named ▸ notReused w start rfl)
  | appendEvent w event =>
    dsimp only [act]
    split
    · exact .same rfl rfl
    rename_i writer known
    apply answer_ok
    intro db writer' ok
    obtain ⟨made,appended,same⟩ := map_ok ok
    cases same
    unfold AppendEvent at appended
    split at appended
    · cases appended
    · obtain same | ⟨row,is,named,started,_⟩ := appendEvent_ok (by simp) appended
      · exact .same same rfl
      · exact .added row is rfl (fun empty => absurd (started (named ▸ empty)) (by simp))
  | appendEvidence w row =>
    dsimp only [act]
    split
    · exact .same rfl rfl
    rename_i writer known
    apply answer_ok
    intro db writer' ok
    obtain ⟨made,appended,same⟩ := map_ok ok
    cases same
    obtain same | is := appendEvidence_ok appended
    · exact .same same rfl
    · exact .noted _ is rfl
  | finish w finish =>
    dsimp only [act]
    split
    · exact .same rfl rfl
    rename_i writer known
    apply answer_ok
    intro db writer' ok
    unfold Finish at ok
    split at ok
    · cases ok
    obtain ⟨made,appended,same⟩ := map_ok ok
    cases same
    obtain same | ⟨row,is,named,started,_⟩ := appendEvent_ok (by simp) appended
    · exact .same same rfl
    · exact .added row is rfl (fun empty => absurd (started (named ▸ empty)) (by simp))
  | archive | readEvents | readEvidence | completeArchive =>
    dsimp only [act]
    split <;> exact .same rfl rfl
  | writeArchive id =>
    dsimp only [act]
    split
    · split <;> exact .same rfl rfl
    · exact .same rfl rfl
  | verifyPrune id =>
    dsimp only [act]
    split
    · exact .same rfl rfl
    · split
      · exact .same rfl rfl
      · split <;> exact .same rfl rfl
  | commitPrune id =>
    dsimp only [act]
    split
    · exact .same rfl rfl
    · rename_i archive contents verified
      exact .cut id archive contents rfl verified rfl rfl
  | disturb path contents => exact .same rfl rfl

end

def Sealed (s : Store Run File Digest Writer Archive Path) (run : Run) : Prop :=
  run ∈ s.pruned ∨ s.db.finished run

/-- The stored events of a run are numbered from one, the first is its start, and
    none but the last is its finish. -/
structure Stream (stream : List (EventRow Run)) : Prop where
  numbered : stream.map EventRow.seq = range' 1 stream.length
  started : ∀ e, stream.head? = some e → e.type = eventRunStarted
  last : ∀ e ∈ stream.dropLast, e.type ≠ eventRunFinished

structure Rows (s : Store Run File Digest Writer Archive Path) : Prop where
  stream : ∀ r, r ∉ s.pruned → Stream (s.db.stream r)
  operations : ∀ r, ((s.db.stream r).map EventRow.operationID).Nodup
  evidence : (s.db.evidence.map fun e => (e.run,e.operationID)).Nodup
  gone : ∀ r ∈ s.pruned, s.db.stream r = [] ∧ ∀ e ∈ s.db.evidence, e.run ≠ r

theorem stream_append (events : db'.events = db.events ++ [row]) (run : Run) :
    db'.stream run = db.stream run ++ if row.run = run then [row] else [] := by
  unfold Tables.stream
  rw [events,filter_append,filter_singleton]
  by_cases here : row.run = run
  · simp [here]
  · simp [here]

theorem stream_without (r : Run) : (db.without runs).stream r = if r ∈ runs then [] else db.stream r := by
  unfold Tables.stream Tables.without
  rw [filter_filter]
  by_cases cut : r ∈ runs
  · rw [if_pos cut,filter_eq_nil_iff]
    intro e _ both
    simp only [Bool.and_eq_true,decide_eq_true_eq] at both
    exact both.2 (both.1 ▸ cut)
  · rw [if_neg cut]
    apply filter_congr
    intro e _
    by_cases here : e.run = r
    · simp [here,cut]
    · simp [here]

omit [DecidableEq Run] in
theorem maxSeq_of_numbered
    (numbered : stream.map EventRow.seq = range' 1 stream.length) : maxSeq stream = stream.length := by
  unfold maxSeq
  rw [numbered]
  generalize stream.length = n
  induction n with
  | zero => rfl
  | succ n ih =>
    rw [range'_concat,foldl_append,ih]
    simp only [foldl_cons,foldl_nil]
    omega

omit [DecidableEq Run] in
theorem Stream.snoc (is : Stream stream) (unfinished : ∀ e ∈ stream, e.type ≠ eventRunFinished)
    (place : (stream = [] ∧ row.seq = 1 ∧ row.type = eventRunStarted) ∨
      (stream ≠ [] ∧ row.seq = maxSeq stream + 1)) : Stream (stream ++ [row]) := by
  constructor
  · rw [map_append,is.numbered,length_append,length_singleton,range'_concat,map_singleton]
    obtain ⟨rfl,first,_⟩ | ⟨_,next⟩ := place
    · simp [first]
    · rw [next,maxSeq_of_numbered is.numbered]
      congr 2
      omega
  · intro e head
    obtain ⟨rfl,_,start⟩ | ⟨some_,_⟩ := place
    · cases head
      exact start
    · rw [head?_append_of_ne_nil _ some_] at head
      exact is.started e head
  · rw [dropLast_concat]
    exact unfinished

theorem Rows.moved (rows : Rows s) (moved : Moved s op t) : Rows t := by
  cases moved with
  | same same pruned =>
    obtain ⟨stream,operations,evidence,gone⟩ := rows
    constructor
    · rwa [same,pruned]
    · rwa [same]
    · rwa [same]
    · rwa [same,pruned]
  | added row made pruned allowed =>
    have stays : row.run ∉ s.pruned := by
      intro cut
      exact allowed (rows.gone _ cut).1 cut
    constructor
    · intro r kept
      rw [pruned] at kept
      rw [stream_append made.events]
      by_cases here : row.run = r
      · subst here
        rw [if_pos rfl]
        apply (rows.stream _ kept).snoc _ made.place
        intro e there finish
        exact made.unfinished ⟨e,there,finish⟩
      · rw [if_neg here,append_nil]
        exact rows.stream r kept
    · intro r
      rw [stream_append made.events]
      by_cases here : row.run = r
      · subst here
        rw [if_pos rfl]
        exact nodup_insert (rows.operations row.run) made.fresh
      · rw [if_neg here,append_nil]
        exact rows.operations r
    · rw [made.evidence]
      exact rows.evidence
    · intro r cut
      rw [pruned] at cut
      have other : ¬ row.run = r := fun same => stays (same ▸ cut)
      rw [stream_append made.events,if_neg other,append_nil,made.evidence]
      exact rows.gone r cut
  | noted row made pruned =>
    have same : ∀ r, t.db.stream r = s.db.stream r := by
      intro r
      unfold Tables.stream
      rw [made.events]
    constructor
    · intro r kept
      rw [same]
      exact rows.stream r (pruned ▸ kept)
    · intro r
      rw [same]
      exact rows.operations r
    · rw [made.evidence]
      refine nodup_insert rows.evidence ?_
      intro e there eq
      exact made.fresh e there (congrArg Prod.fst eq) (congrArg Prod.snd eq)
    · intro r cut
      rw [pruned] at cut
      obtain ⟨none_,away⟩ := rows.gone r cut
      rw [same,made.evidence]
      refine ⟨none_,?_⟩
      intro e mem
      obtain old | new := mem_append.mp mem
      · exact away e old
      · rw [mem_singleton.mp new]
        intro here
        exact made.begun (here ▸ none_)
  | cut id archive contents is verified same pruned =>
    constructor
    · intro r kept
      rw [pruned,mem_append,not_or] at kept
      rw [same,stream_without,if_neg kept.2]
      exact rows.stream r kept.1
    · intro r
      rw [same,stream_without]
      split
      · exact nodup_nil
      · exact rows.operations r
    · rw [same]
      exact rows.evidence.sublist (filter_sublist.map _)
    intro r cut
    rw [pruned,mem_append] at cut
    rw [same,stream_without]
    constructor
    · split
      · rfl
      · rename_i notCut
        exact (rows.gone r (cut.resolve_right notCut)).1
    · intro e mem here
      obtain ⟨old,keep⟩ := mem_filter.mp mem
      obtain before | now := cut
      · exact (rows.gone r before).2 e old here
      · rw [← here] at now
        exact absurd now (by simpa using keep)

structure Shrinks (s t : Store Run File Digest Writer Archive Path) : Prop where
  stays : ∀ r, Sealed s r → Sealed t r
  events : ∀ r, Sealed s r → ∀ e ∈ t.db.events, e.run = r → e ∈ s.db.events
  evidence : ∀ r, Sealed s r → ∀ e ∈ t.db.evidence, e.run = r → e ∈ s.db.evidence

theorem Shrinks.refl_of_rows (rows : t.db = s.db) (pruned : t.pruned = s.pruned) : Shrinks s t := by
  constructor
  · intro r is
    unfold Sealed at is ⊢
    rwa [rows,pruned]
  · intro r _ e mem _
    rwa [rows] at mem
  · intro r _ e mem _
    rwa [rows] at mem

theorem Rows.shrinks (rows : Rows s) (moved : Moved s op t) : Shrinks s t := by
  cases moved with
  | same same pruned => exact .refl_of_rows same pruned
  | added row made pruned allowed =>
    have unsealed : ¬ Sealed s row.run := by
      intro is
      obtain cut | finish := is
      · exact allowed (rows.gone _ cut).1 cut
      · exact made.unfinished finish
    constructor
    · intro r is
      obtain cut | ⟨e,there,finish⟩ := is
      · exact .inl (pruned ▸ cut)
      right
      refine ⟨e,?_,finish⟩
      rw [stream_append made.events]
      exact mem_append_left _ there
    · intro r is e mem here
      rw [made.events] at mem
      obtain old | new := mem_append.mp mem
      · exact old
      · rw [mem_singleton.mp new] at here
        exact absurd is (here ▸ unsealed)
    · intro r _ e mem _
      rwa [made.evidence] at mem
  | noted row made pruned =>
    have unsealed : ¬ Sealed s row.run := by
      intro is
      obtain cut | finish := is
      · exact made.begun (rows.gone _ cut).1
      · exact made.unfinished finish
    constructor
    · intro r is
      obtain cut | ⟨e,there,finish⟩ := is
      · exact .inl (pruned ▸ cut)
      right
      refine ⟨e,?_,finish⟩
      rw [mem_stream] at there ⊢
      rwa [made.events]
    · intro r _ e mem _
      rwa [made.events] at mem
    · intro r is e mem here
      rw [made.evidence] at mem
      obtain old | new := mem_append.mp mem
      · exact old
      · rw [mem_singleton.mp new] at here
        exact absurd is (here ▸ unsealed)
  | cut id archive contents isOp verified same pruned =>
    constructor
    · intro r is
      unfold Sealed
      rw [pruned,mem_append]
      by_cases now : r ∈ archive.runIDs
      · exact .inl (.inr now)
      obtain cut | ⟨e,there,finish⟩ := is
      · exact .inl (.inl cut)
      right
      refine ⟨e,?_,finish⟩
      rw [same,stream_without,if_neg now]
      exact there
    · intro r _ e mem _
      rw [same] at mem
      exact (mem_filter.mp mem).1
    · intro r _ e mem _
      rw [same] at mem
      exact (mem_filter.mp mem).1

structure CoversEvents (s : Store Run File Digest Writer Archive Path) (runs : List Run)
    (events : List (EventRow Run)) : Prop where
  done : ∀ r ∈ runs, Sealed s r
  events : ∀ e ∈ s.db.events, e.run ∈ runs → e ∈ events

structure Covers (s : Store Run File Digest Writer Archive Path) (runs : List Run) (doc : ArchiveDocument Run) : Prop
    extends CoversEvents s runs doc.events where
  evidence : ∀ e ∈ s.db.evidence, e.run ∈ runs → ∃ group ∈ doc.evidence, e ∈ group.2

section
variable {runs : List Run}

theorem CoversEvents.mono {events : List (EventRow Run)} (covers : CoversEvents s runs events)
    (shrinks : Shrinks s t) : CoversEvents t runs events := by
  constructor
  · intro r mem
    exact shrinks.stays r (covers.done r mem)
  · intro e there mem
    exact covers.events e (shrinks.events _ (covers.done _ mem) e there rfl) mem

theorem Covers.mono {doc : ArchiveDocument Run} (covers : Covers s runs doc) (shrinks : Shrinks s t) :
    Covers t runs doc := by
  refine ⟨covers.toCoversEvents.mono shrinks,?_⟩
  intro e there mem
  exact covers.evidence e (shrinks.evidence _ (covers.done _ mem) e there rfl) mem

end

def GoodPhase (P : Platform Run File Digest) (s : Store Run File Digest Writer Archive Path)
    (a : Archiving Run File Path) : Prop :=
  match a.phase with
  | .listed => ∀ r ∈ a.runs, Sealed s r
  | .readEvents events => CoversEvents s a.runs events
  | .read doc => Covers s a.runs doc
  | .written contents => ∃ doc, contents = P.marshal doc ∧ Covers s a.runs doc

/-- The archives that are under way, those that are complete, and the prunes that
    have verified one. -/
structure Backed (P : Platform Run File Digest) (s : Store Run File Digest Writer Archive Path) : Prop where
  archiving : ∀ id a, s.archiving id = some a → GoodPhase P s a
  completed : ∀ id a, s.completed id = some a →
    ∃ doc, a.sha256 = P.sha256 (P.marshal doc) ∧ Covers s a.runIDs doc
  pruning : ∀ id a contents, s.pruning id = some (a,contents) → P.sha256 contents = a.sha256 ∧
    ∃ doc, contents = P.marshal doc ∧ Covers s a.runIDs doc

theorem GoodPhase.mono {a : Archiving Run File Path}
    (good : GoodPhase P s a) (shrinks : Shrinks s t) : GoodPhase P t a := by
  obtain ⟨path,runs,phase⟩ := a
  cases phase with
  | listed => exact fun r mem => shrinks.stays r (good r mem)
  | readEvents events => exact CoversEvents.mono good shrinks
  | read doc => exact Covers.mono good shrinks
  | written contents =>
    obtain ⟨doc,same,covers⟩ := good
    exact ⟨doc,same,covers.mono shrinks⟩

theorem finished_of_listed (mem : run ∈ finishedRunsBefore db before) : db.finished run := by
  obtain ⟨start,_,listed⟩ := mem_filterMap.mp mem
  split at listed
  · rename_i f found
    split at listed
    · cases listed
      exact ⟨f,mem_of_find?_eq_some found,by simpa using find?_some found⟩
    · cases listed
  · cases listed

/-- What is under way, complete or verified after a step was so before, or
    rests on what was. -/
structure Entered (P : Platform Run File Digest) (s t : Store Run File Digest Writer Archive Path) : Prop where
  archiving : ∀ id a, t.archiving id = some a → s.archiving id = some a ∨ GoodPhase P s a
  completed : ∀ id a, t.completed id = some a → s.completed id = some a ∨
    ∃ doc, a.sha256 = P.sha256 (P.marshal doc) ∧ Covers s a.runIDs doc
  pruning : ∀ id a contents, t.pruning id = some (a,contents) → s.pruning id = some (a,contents) ∨
    P.sha256 contents = a.sha256 ∧ s.completed id = some a

omit [DecidableEq Run] in
theorem update_entered [DecidableEq α] {f : α → Option β} (is : update f i v j = some b) :
    f j = some b ∨ j = i ∧ v = some b := by
  by_cases here : j = i
  · subst here
    rw [update_self] at is
    exact .inr ⟨rfl,is⟩
  · rw [update_of_ne here] at is
    exact .inl is

theorem Entered.kept (same : t.archiving = s.archiving ∧ t.completed = s.completed ∧
    t.pruning = s.pruning) : Entered P s t :=
  ⟨fun _ _ is => .inl (same.1 ▸ is),fun _ _ is => .inl (same.2.1 ▸ is),
    fun _ _ _ is => .inl (same.2.2 ▸ is)⟩

theorem Entered.advanced [DecidableEq Archive] (archiving : t.archiving = update s.archiving i (some a))
    (completed : t.completed = s.completed) (pruning : t.pruning = s.pruning)
    (good : GoodPhase P s a) : Entered P s t := by
  refine ⟨fun _ _ is => ?_,fun _ _ is => .inl (completed ▸ is),fun _ _ _ is => .inl (pruning ▸ is)⟩
  rw [archiving] at is
  obtain old | ⟨-,same⟩ := update_entered is
  · exact .inl old
  · cases same
    exact .inr good

section
variable [DecidableEq Digest] [DecidableEq Writer] [DecidableEq Archive] [DecidableEq Path]

def Op.ofWriter : Op Run File Writer Archive Path → Bool
  | .startRun .. | .appendEvent .. | .appendEvidence .. | .finish .. => true
  | _ => false

theorem act_ofWriter (is : op.ofWriter = true) : (s.act P op).archiving = s.archiving ∧
    (s.act P op).completed = s.completed ∧ (s.act P op).pruning = s.pruning := by
  have answered : ∀ (w : Writer) (result : Except Err (Tables Run × RunWriter Run)),
      (s.answer w result).archiving = s.archiving ∧ (s.answer w result).completed = s.completed ∧
        (s.answer w result).pruning = s.pruning := by
    intro w result
    cases result <;> exact ⟨rfl,rfl,rfl⟩
  cases op with
  | startRun w start => exact answered w _
  | appendEvent w event | appendEvidence w row | finish w finish =>
    dsimp only [act]
    split
    · exact ⟨rfl,rfl,rfl⟩
    · exact answered w _
  | archive | readEvents | readEvidence | writeArchive | completeArchive | verifyPrune | commitPrune
  | disturb => cases is

theorem act_entered (backed : Backed P s) (op : Op Run File Writer Archive Path) :
    Entered P s (s.act P op) := by
  cases op with
  | startRun | appendEvent | appendEvidence | finish =>
    exact .kept (act_ofWriter rfl)
  | archive id before path =>
    dsimp only [act]
    split
    · exact .kept ⟨rfl,rfl,rfl⟩
    · refine .advanced rfl rfl rfl fun r mem => .inr (finished_of_listed mem)
  | readEvents id =>
    dsimp only [act]
    split
    · rename_i path runs under
      have listed : ∀ r ∈ runs, Sealed s r := backed.archiving _ _ under
      refine .advanced rfl rfl rfl ⟨listed,?_⟩
      intro e there mem
      exact mem_filter.mpr ⟨there,by simpa using mem⟩
    · exact .kept ⟨rfl,rfl,rfl⟩
  | readEvidence id =>
    dsimp only [act]
    split
    · rename_i path runs events under
      have covers : CoversEvents s runs events := backed.archiving _ _ under
      refine .advanced rfl rfl rfl ⟨covers,?_⟩
      intro e there mem
      refine ⟨(e.run,_),mem_map.mpr ⟨e.run,mem,rfl⟩,?_⟩
      rw [mem_filter,Tables.evidenceOf,mem_filter]
      exact ⟨⟨there,by simpa using mem⟩,by simp⟩
    · exact .kept ⟨rfl,rfl,rfl⟩
  | writeArchive id =>
    dsimp only [act]
    split
    · rename_i path runs doc under
      have covers : Covers s runs doc := backed.archiving _ _ under
      split
      · exact .kept ⟨rfl,rfl,rfl⟩
      · have made : GoodPhase P s ⟨path,runs,.written (P.marshal doc)⟩ := ⟨doc,rfl,covers⟩
        exact .advanced rfl rfl rfl made
    · exact .kept ⟨rfl,rfl,rfl⟩
  | completeArchive id =>
    dsimp only [act]
    split
    · rename_i path runs contents under
      obtain ⟨doc,same,covers⟩ : ∃ doc, contents = P.marshal doc ∧ Covers s runs doc :=
        backed.archiving _ _ under
      refine ⟨fun _ _ is => .inl is,fun _ _ is => ?_,fun _ _ _ is => .inl is⟩
      obtain old | ⟨-,is⟩ := update_entered is
      · exact .inl old
      · cases is
        exact .inr ⟨doc,congrArg P.sha256 same,covers⟩
    · exact .kept ⟨rfl,rfl,rfl⟩
  | verifyPrune id =>
    dsimp only [act]
    split
    · exact .kept ⟨rfl,rfl,rfl⟩
    rename_i archive recorded
    split
    · exact .kept ⟨rfl,rfl,rfl⟩
    split
    · exact .kept ⟨rfl,rfl,rfl⟩
    rename_i passed
    rw [not_or,not_not] at passed
    split
    · exact .kept ⟨rfl,rfl,rfl⟩
    refine ⟨fun _ _ is => .inl is,fun _ _ is => .inl is,fun _ _ _ after => ?_⟩
    obtain old | ⟨rfl,is⟩ := update_entered after
    · exact .inl old
    · cases is
      exact .inr ⟨passed.1,recorded⟩
  | commitPrune id =>
    dsimp only [act]
    split
    · exact .kept ⟨rfl,rfl,rfl⟩
    refine ⟨fun _ _ is => .inl is,fun _ _ is => .inl is,fun _ _ _ is => ?_⟩
    obtain old | ⟨-,is⟩ := update_entered is
    · exact .inl old
    · cases is
  | disturb path contents => exact .kept ⟨rfl,rfl,rfl⟩

/-- No other file has the hash of an archive. -/
def CollisionFree (P : Platform Run File Digest) : Prop :=
  ∀ contents doc, P.sha256 contents = P.sha256 (P.marshal doc) → contents = P.marshal doc

theorem Backed.act (collisionFree : CollisionFree P) (backed : Backed P s)
    (shrinks : Shrinks s (s.act P op)) : Backed P (s.act P op) := by
  constructor
  · intro id a is
    obtain old | good := (act_entered backed op).archiving id a is
    · exact (backed.archiving id a old).mono shrinks
    · exact good.mono shrinks
  · intro id a is
    obtain old | ⟨doc,same,covers⟩ := (act_entered backed op).completed id a is
    · obtain ⟨doc,same,covers⟩ := backed.completed id a old
      exact ⟨doc,same,covers.mono shrinks⟩
    · exact ⟨doc,same,covers.mono shrinks⟩
  · intro id a contents is
    obtain old | ⟨hash,recorded⟩ := (act_entered backed op).pruning id a contents is
    · obtain ⟨hash,doc,same,covers⟩ := backed.pruning id a contents old
      exact ⟨hash,doc,same,covers.mono shrinks⟩
    · obtain ⟨doc,same,covers⟩ := backed.completed id a recorded
      exact ⟨hash,doc,collisionFree contents doc (hash.trans same),covers.mono shrinks⟩

/-- A history in which no run id is used again after a prune. -/
def RunsNotReused (P : Platform Run File Digest) (ops : List (Op Run File Writer Archive Path)) : Prop :=
  ∀ front op rest, ops = front ++ op :: rest →
    NotReused (Store.run P (Store.empty : Store Run File Digest Writer Archive Path) front) op

theorem run_snoc : s.run P (ops ++ [op]) = (s.run P ops).act P op := by
  simp [run]

theorem run_keeps (collisionFree : CollisionFree P) {ops front rest : List (Op Run File Writer Archive Path)}
    (notReused : RunsNotReused P ops) (is : ops = front ++ rest) :
    Rows (empty.run P front) ∧ Backed P (empty.run P front) := by
  induction front using reverseRecOn generalizing rest with
  | nil =>
    constructor
    · exact ⟨fun _ _ => ⟨rfl,fun _ head => (by cases head),fun _ mem => (by cases mem)⟩,
        fun _ => nodup_nil,nodup_nil,fun _ mem => absurd mem not_mem_nil⟩
    · exact ⟨fun _ _ is => (by cases is),fun _ _ is => (by cases is),fun _ _ _ is => (by cases is)⟩
  | append_singleton front op ih =>
    have earlier : ops = front ++ op :: rest := by simpa using is
    obtain ⟨rows,backed⟩ := ih earlier
    have moved := act_moves (P := P) _ op (notReused front op rest earlier)
    rw [run_snoc]
    exact ⟨rows.moved moved,backed.act collisionFree (rows.shrinks moved)⟩

end

end Pilot.Delivery
