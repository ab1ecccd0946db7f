import Pilot.Delivery.Stream

/-!
The whole history of the evidence store. A step adds nothing to a finished run,
changes nothing if its operation was stored before, and deletes a row only after
a file was verified that has it. The last holds for the rows that JSON writes as
they are, and for no others.
-/
namespace Pilot.Delivery
open List Store Fold Utf8

section
variable {Run File Digest : Type} {P : Platform Run File Digest}

def HasEvent (P : Platform Run File Digest) (contents : File) (row : EventRow Run) : Prop :=
  ∃ doc, P.unmarshal contents = some doc ∧ row ∈ doc.events

def HasEvidence (P : Platform Run File Digest) (contents : File) (row : EvidenceRow Run) : Prop :=
  ∃ doc, P.unmarshal contents = some doc ∧ ∃ group ∈ doc.evidence, row ∈ group.2

theorem EventRow.coerced_coerced (e : EventRow Run) : e.coerced.coerced = e.coerced := by
  simp [EventRow.coerced,toValid_toValid]

theorem EvidenceRow.coerced_coerced (e : EvidenceRow Run) : e.coerced.coerced = e.coerced := by
  simp [EvidenceRow.coerced,toValid_toValid]

variable {doc : ArchiveDocument Run}

theorem hasEvent_marshal : HasEvent P (P.marshal doc) e ↔ ∃ old ∈ doc.events, old.coerced = e := by
  unfold HasEvent
  rw [P.unmarshal_marshal]
  simp [ArchiveDocument.coerced]

theorem hasEvidence_marshal :
    HasEvidence P (P.marshal doc) e ↔
      ∃ group ∈ doc.evidence, ∃ old ∈ group.2, old.coerced = e := by
  unfold HasEvidence
  rw [P.unmarshal_marshal]
  simp [ArchiveDocument.coerced]

end

variable {Run File Digest Writer Archive Path : Type} [DecidableEq Run] [DecidableEq Digest]
  [DecidableEq Writer] [DecidableEq Archive] [DecidableEq Path] {P : Platform Run File Digest}
  {s : Store Run File Digest Writer Archive Path} {op : Op Run File Writer Archive Path}

def PrunedWith (P : Platform Run File Digest) (s : Store Run File Digest Writer Archive Path)
    (op : Op Run File Writer Archive Path) (has : File → Prop) : Prop :=
  ∃ id archive contents, op = .commitPrune id ∧ s.pruning id = some (archive,contents) ∧
    P.sha256 contents = archive.sha256 ∧ has contents

def Repeats (s : Store Run File Digest Writer Archive Path) : Op Run File Writer Archive Path → Prop
  | .startRun _ start => ∃ e ∈ s.db.stream start.runID,
      e.operationID = orDefault start.operationID (text "run_started")
  | .appendEvent w event => ∃ writer, s.writers w = some writer ∧
      ∃ e ∈ s.db.stream writer.runID, e.operationID = event.operationID
  | .finish w finish => ∃ writer, s.writers w = some writer ∧
      ∃ e ∈ s.db.stream writer.runID, e.operationID = orDefault finish.operationID (text "run_finished")
  | .appendEvidence w row => ∃ writer, s.writers w = some writer ∧
      ∃ e ∈ s.db.evidence, e.run = writer.runID ∧ e.operationID = row.operationID
  | _ => False

structure SoundState (s : Store Run File Digest Writer Archive Path) : Prop where
  stream : ∀ r, r ∉ s.pruned → Stream (s.db.stream r)
  operations : ∀ r, ((s.db.stream r).map EventRow.operationID).Nodup
  evidence : (s.db.evidence.map fun e => (e.run,e.operationID)).Nodup

structure SoundStep (P : Platform Run File Digest) (s : Store Run File Digest Writer Archive Path)
    (op : Op Run File Writer Archive Path) : Prop where
  closed : ∀ r, s.db.finished r → (∀ e ∈ (s.act P op).db.events, e.run = r → e ∈ s.db.events) ∧
    ∀ e ∈ (s.act P op).db.evidence, e.run = r → e ∈ s.db.evidence
  repeated : Repeats s op → (s.act P op).db = s.db
  events : ∀ e ∈ s.db.events, e ∈ (s.act P op).db.events ∨
    PrunedWith P s op (fun contents => HasEvent P contents e)
  evidence : ∀ e ∈ s.db.evidence, e ∈ (s.act P op).db.evidence ∨
    PrunedWith P s op (fun contents => HasEvidence P contents e)

/-- The rows of the runs that a prune is about to delete are valid UTF-8. -/
def Legible (s : Store Run File Digest Writer Archive Path) : Op Run File Writer Archive Path → Prop
  | .commitPrune id => ∀ cut ∈ s.pruning id,
      (∀ e ∈ s.db.events, e.run ∈ cut.1.runIDs → e.coerced = e) ∧
        ∀ e ∈ s.db.evidence, e.run ∈ cut.1.runIDs → e.coerced = e
  | _ => True

omit [DecidableEq Run] [DecidableEq Digest] [DecidableEq Archive] [DecidableEq Path] in
theorem answer_same (same : ∀ db writer, result = .ok (db,writer) → db = s.db) :
    (s.answer w result).db = s.db := by
  cases result with
  | error err => rfl
  | ok pair => exact same pair.1 pair.2 rfl

theorem appendEvent_repeated {db db' : Tables Run} {event : Event} {starting : Bool}
    (start : starting = true → event.type = eventRunStarted)
    (stored : ∃ e ∈ db.stream w.runID, e.operationID = event.operationID)
    (ok : appendEvent db w event starting = .ok db') : db' = db := by
  obtain same | ⟨row,made,named,_,operation⟩ := appendEvent_ok start ok
  · exact same
  · obtain ⟨e,there,same⟩ := stored
    exact absurd (same.trans operation.symm) (made.fresh e (named ▸ there))

theorem act_repeated (repeats : Repeats s op) : (s.act P op).db = s.db := by
  cases op with
  | startRun w start =>
    apply answer_same
    intro db writer ok
    obtain ⟨made,appended,same⟩ := map_ok ok
    cases same
    obtain ⟨e,there,stored⟩ := repeats
    exact appendEvent_repeated (fun _ => rfl) ⟨e,there,stored⟩ appended
  | appendEvent w event =>
    obtain ⟨writer,known,stored⟩ := repeats
    dsimp only [act]
    rw [known]
    apply answer_same
    intro db _ ok
    obtain ⟨made,appended,same⟩ := map_ok ok
    cases same
    unfold AppendEvent at appended
    split at appended
    · cases appended
    · exact appendEvent_repeated (by simp) stored appended
  | appendEvidence w row =>
    obtain ⟨writer,known,e,there,own,same⟩ := repeats
    dsimp only [act]
    rw [known]
    apply answer_same
    intro db _ ok
    obtain ⟨made,appended,eq⟩ := map_ok ok
    cases eq
    obtain kept | noted := appendEvidence_ok appended
    · exact kept
    · exact absurd same (noted.fresh e there own)
  | finish w finish =>
    obtain ⟨writer,known,stored⟩ := repeats
    dsimp only [act]
    rw [known]
    apply answer_same
    intro db _ ok
    unfold Finish at ok
    split at ok
    · cases ok
    · obtain ⟨made,appended,same⟩ := map_ok ok
      cases same
      exact appendEvent_repeated (by simp) stored appended
  | archive | readEvents | readEvidence | writeArchive | completeArchive | verifyPrune | commitPrune
  | disturb => exact absurd repeats id

theorem legible_of_sound (backed : Backed P s) (sound : SoundStep P s op) : Legible s op := by
  cases op with
  | commitPrune id =>
    rintro ⟨archive,contents⟩ verified
    have cut : (s.act P (.commitPrune id)).db = s.db.without archive.runIDs := by
      dsimp only [act]
      rw [Option.mem_def.mp verified]
    constructor
    · intro e there own
      have gone : e ∉ (s.act P (.commitPrune id)).db.events := by
        rw [cut]
        intro mem
        exact absurd own (by simpa using (mem_filter.mp mem).2)
      obtain ⟨id,archive,contents,_,verified,_,has⟩ := (sound.events e there).resolve_left gone
      obtain ⟨_,doc,rfl,_⟩ := backed.pruning id archive contents verified
      obtain ⟨old,_,rfl⟩ := hasEvent_marshal.mp has
      exact EventRow.coerced_coerced old
    · intro e there own
      have gone : e ∉ (s.act P (.commitPrune id)).db.evidence := by
        rw [cut]
        intro mem
        exact absurd own (by simpa using (mem_filter.mp mem).2)
      obtain ⟨id,archive,contents,_,verified,_,has⟩ := (sound.evidence e there).resolve_left gone
      obtain ⟨_,doc,rfl,_⟩ := backed.pruning id archive contents verified
      obtain ⟨_,_,old,_,rfl⟩ := hasEvidence_marshal.mp has
      exact EvidenceRow.coerced_coerced old
  | startRun | appendEvent | appendEvidence | finish | archive | readEvents | readEvidence | writeArchive
  | completeArchive | verifyPrune | disturb => trivial

theorem sound_of_legible (rows : Rows s) (backed : Backed P s) (notReused : NotReused s op)
    (legible : Legible s op) : SoundStep P s op := by
  have moved := act_moves (P := P) s op notReused
  have shrinks := rows.shrinks moved
  have kept : (∀ e ∈ s.db.events, e ∈ (s.act P op).db.events ∨
        PrunedWith P s op (fun contents => HasEvent P contents e)) ∧
      ∀ e ∈ s.db.evidence, e ∈ (s.act P op).db.evidence ∨
        PrunedWith P s op (fun contents => HasEvidence P contents e) := by
    cases moved with
    | same same =>
      rw [same]
      exact ⟨fun _ there => .inl there,fun _ there => .inl there⟩
    | added row made =>
      rw [made.events,made.evidence]
      exact ⟨fun _ there => .inl (mem_append_left _ there),fun _ there => .inl there⟩
    | noted row made =>
      rw [made.events,made.evidence]
      exact ⟨fun _ there => .inl there,fun _ there => .inl (mem_append_left _ there)⟩
    | cut id archive contents is verified cut =>
      obtain ⟨hash,doc,rfl,covers⟩ := backed.pruning id archive contents verified
      subst is
      obtain ⟨legibleEvents,legibleEvidence⟩ := legible _ (Option.mem_def.mpr verified)
      constructor
      · intro e there
        by_cases own : e.run ∈ archive.runIDs
        · right
          exact ⟨id,archive,_,rfl,verified,hash,
            hasEvent_marshal.mpr ⟨e,covers.events e there own,legibleEvents e there own⟩⟩
        · left
          rw [cut]
          exact mem_filter.mpr ⟨there,by simpa using own⟩
      · intro e there
        by_cases own : e.run ∈ archive.runIDs
        · right
          obtain ⟨group,listed,mem⟩ := covers.evidence e there own
          exact ⟨id,archive,_,rfl,verified,hash,
            hasEvidence_marshal.mpr ⟨group,listed,e,mem,legibleEvidence e there own⟩⟩
        · left
          rw [cut]
          exact mem_filter.mpr ⟨there,by simpa using own⟩
  constructor
  · intro r finish
    exact ⟨shrinks.events r (.inr finish),shrinks.evidence r (.inr finish)⟩
  · exact act_repeated
  · exact kept.1
  · exact kept.2

/-- Along a history every state and every step is sound if and only if the rows
    that are deleted are legible. -/
theorem evidence_sound_iff_legible (P : Platform Run File Digest)
    (ops : List (Op Run File Writer Archive Path)) (collisionFree : CollisionFree P)
    (notReused : RunsNotReused P ops) :
    (∀ front rest, ops = front ++ rest → SoundState (empty.run P front) ∧
        ∀ op more, rest = op :: more → SoundStep P (empty.run P front) op) ↔
      ∀ front op rest, ops = front ++ op :: rest → Legible (empty.run P front) op := by
  constructor
  · intro sound front op rest is
    obtain ⟨_,backed⟩ := run_keeps collisionFree notReused is
    exact legible_of_sound backed ((sound front (op :: rest) is).2 op rest rfl)
  intro legible front rest is
  obtain ⟨rows,backed⟩ := run_keeps collisionFree notReused is
  refine ⟨⟨rows.stream,rows.operations,rows.evidence⟩,?_⟩
  intro op more here
  subst here
  exact sound_of_legible rows backed (notReused front op more is) (legible front op more is)

section Sample

def samplePlatform : Platform Nat (ArchiveDocument Nat) (ArchiveDocument Nat) where
  marshal doc := doc.coerced
  unmarshal contents := some contents
  unmarshal_marshal _ := rfl
  marshalOutcome outcome := outcome
  evidenceDigest bytes := bytes
  sha256 contents := contents

theorem samplePlatform_collisionFree : CollisionFree samplePlatform := fun _ _ same => same

def sampleOps (stdout : Text) : List (Op Nat (ArchiveDocument Nat) Unit Unit Unit) :=
  [.startRun () ⟨0,[],some (text "null"),[],text "2026-01-01"⟩,
   .appendEvidence () ⟨text "s",text "r",text "h",1,text "verify",text "cat f",[],stdout,[],0,text "ok",
     text "pass",false,text "2026-01-01",[]⟩,
   .finish () ⟨[],text "success",0,text "2026-01-02"⟩,
   .archive () (text "2026-02-01") (),.readEvents (),.readEvidence (),.writeArchive (),.completeArchive (),
   .verifyPrune (),.commitPrune ()]

theorem runsNotReused_of_one {w : Writer} {start : RunStarted Run}
    {tail : List (Op Run File Writer Archive Path)}
    (none : ∀ op ∈ tail, ∀ w' again, op ≠ .startRun w' again) :
    RunsNotReused P (.startRun w start :: tail) := by
  intro front op rest is w' again same
  cases front with
  | nil =>
    exact not_mem_nil
  | cons first more =>
    rw [cons_append,cons.injEq] at is
    have mem : op ∈ tail := by
      rw [is.2]
      simp
    exact absurd same (none op mem w' again)

theorem sampleOps_notReused (stdout : Text) : RunsNotReused samplePlatform (sampleOps stdout) := by
  apply runsNotReused_of_one
  intro op mem w again same
  subst same
  simp at mem

instance (s : Store Run File Digest Writer Archive Path) : DecidablePred (Legible s)
  | .commitPrune id => inferInstanceAs (Decidable (∀ cut ∈ s.pruning id,
      (∀ e ∈ s.db.events, e.run ∈ cut.1.runIDs → e.coerced = e) ∧
        ∀ e ∈ s.db.evidence, e.run ∈ cut.1.runIDs → e.coerced = e))
  | .startRun .. | .appendEvent .. | .appendEvidence .. | .finish .. | .archive .. | .readEvents _
  | .readEvidence _ | .writeArchive _ | .completeArchive _ | .verifyPrune _ | .disturb .. => .isTrue trivial

/-- The output of a command that is no UTF-8 is deleted, and its archive has
    something else. -/
theorem binary_output_is_not_archived :
    CollisionFree samplePlatform ∧ RunsNotReused samplePlatform (sampleOps [0xff]) ∧
      ¬ ∀ front rest, sampleOps [0xff] = front ++ rest →
        SoundState (empty.run samplePlatform front) ∧
          ∀ op more, rest = op :: more → SoundStep samplePlatform (empty.run samplePlatform front) op := by
  refine ⟨samplePlatform_collisionFree,sampleOps_notReused _,?_⟩
  intro claim
  have is : sampleOps [0xff] = (sampleOps [0xff]).take 9 ++ [.commitPrune ()] := rfl
  have sound := (claim _ _ is).2 _ _ rfl
  have backed := (run_keeps samplePlatform_collisionFree (sampleOps_notReused _) is).2
  have legible := legible_of_sound backed sound
  revert legible
  decide +kernel

theorem split_at {α : Type} {items front rest : List α} {x : α} (is : items = front ++ x :: rest) :
    front = items.take front.length ∧ items[front.length]? = some x ∧ front.length < items.length := by
  subst is
  simp

/-- A run whose output is text is archived as it is. -/
theorem text_output_is_archived :
    RunsNotReused samplePlatform (sampleOps (text "up")) ∧
      ∀ front rest, sampleOps (text "up") = front ++ rest →
        SoundState (empty.run samplePlatform front) ∧
          ∀ op more, rest = op :: more → SoundStep samplePlatform (empty.run samplePlatform front) op := by
  refine ⟨sampleOps_notReused _,(evidence_sound_iff_legible samplePlatform (sampleOps (text "up"))
    samplePlatform_collisionFree (sampleOps_notReused _)).mpr ?_⟩
  intro front op rest is
  obtain ⟨first,there,short⟩ := split_at is
  have all : ∀ k < 10, ∀ op ∈ (sampleOps (text "up"))[k]?,
      Legible (empty.run samplePlatform ((sampleOps (text "up")).take k)) op := by
    decide +kernel
  rw [first]
  exact all front.length short op there

end Sample

end Pilot.Delivery
