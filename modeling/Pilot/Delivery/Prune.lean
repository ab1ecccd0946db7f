import Pilot.Delivery.Retained

/-!
One call of `PruneEvidenceArchive` that may fail at any of its points, over the
steps of the store. The request is recorded under an id that no later call can
record again, before the transaction that deletes.
-/
namespace Pilot.Delivery
open List Store Function

/-- The calls of the prune that can fail, in their order; `record` stands for
    the event after the deletion. -/
inductive PrunePoint where
  | find | read | request
  | begin_ | enable | deleteEvidence | deleteEvents | disable | commit
  | record
  deriving DecidableEq

def PrunePoint.early (p : PrunePoint) : Bool := p ∈ [find,read,request]

variable {Run File Digest Writer Archive Path : Type} [DecidableEq Run] [DecidableEq Digest]
  [DecidableEq Writer] [DecidableEq Archive] [DecidableEq Path] (P : Platform Run File Digest)
  {s t : Store Run File Digest Writer Archive Path} {id : Archive}

/-- The number of runs it returns, if it does. An archive without runs has no
    transaction. -/
def PruneEvidenceArchive (fault : Option PrunePoint) (s : Store Run File Digest Writer Archive Path)
    (id : Archive) : Option Nat × Store Run File Digest Writer Archive Path :=
  match s.completed id with
  | none => (none,s)
  | some archive =>
    if (s.files archive.path).map P.sha256 ≠ some archive.sha256 ∨ s.pruneRequested id = true ∨
        fault.any PrunePoint.early then (none,s)
    else
      let requested := s.act P (.verifyPrune id)
      if archive.runIDs ≠ [] ∧ fault.any (· ≠ .record) then
        (none,{ requested with pruning := update requested.pruning id none })
      else
        let done := requested.act P (.commitPrune id)
        if fault = some .record then (none,done) else (some archive.runIDs.length,done)

/-- What other callers leave alone between two calls for one archive. -/
structure Untouched (id : Archive) (path : Path) (s t : Store Run File Digest Writer Archive Path) : Prop where
  completed : t.completed id = s.completed id
  file : t.files path = s.files path
  requested : t.pruneRequested id = s.pruneRequested id
  pruning : t.pruning id = s.pruning id

variable {P} {archive : EvidenceArchive Run Digest Path}

theorem prune_refused (refused : s.pruneRequested id = true ∨ fault.any PrunePoint.early) :
    PruneEvidenceArchive P fault s id = (none,s) := by
  unfold PruneEvidenceArchive
  split
  · rfl
  · rw [if_pos (.inr refused)]

section
variable (known : s.completed id = some archive)
  (whole : (s.files archive.path).map P.sha256 = some archive.sha256)
  (open_ : s.pruneRequested id = false)
include known whole open_

theorem prune_succeeds (idle : s.pruning id = none) :
    (PruneEvidenceArchive P none s id).1 = some archive.runIDs.length ∧
      (PruneEvidenceArchive P none s id).2.db = s.db.without archive.runIDs := by
  obtain ⟨contents,there,same⟩ := Option.map_eq_some_iff.mp whole
  by_cases empty : archive.runIDs = []
  · simp [PruneEvidenceArchive,act,known,there,same,open_,empty,idle,Tables.without]
  · simp [PruneEvidenceArchive,act,known,there,same,open_,empty]

/-- A call that gets past its request leaves it behind. -/
theorem prune_late (late : p.early = false) :
    (PruneEvidenceArchive P (some p) s id).2.pruneRequested id = true := by
  obtain ⟨contents,there,same⟩ := Option.map_eq_some_iff.mp whole
  have requested : (s.act P (.verifyPrune id)).pruneRequested id = true := by
    simp [act,known,there,same,open_]
  have kept (r : Store Run File Digest Writer Archive Path) :
      (r.act P (.commitPrune id)).pruneRequested = r.pruneRequested := by
    dsimp only [act]
    split <;> rfl
  unfold PruneEvidenceArchive
  simp only [known,whole,open_,late,Option.any_some,ne_eq,not_true,Bool.false_eq_true,or_self,if_false]
  split
  · exact requested
  · split <;> exact (congrFun (kept _) id).trans requested

end

/-- A later call succeeds exactly if the request is not yet there when the
    first one starts, and the first one fails before it records it. -/
theorem prune_retry_iff (s t : Store Run File Digest Writer Archive Path) (id : Archive)
    (archive : EvidenceArchive Run Digest Path) (known : s.completed id = some archive)
    (whole : (s.files archive.path).map P.sha256 = some archive.sha256) (idle : s.pruning id = none)
    (p : PrunePoint) (later : Untouched id archive.path (PruneEvidenceArchive P (some p) s id).2 t) :
    let retry := PruneEvidenceArchive P none t id
    retry.1 = some archive.runIDs.length ∧ retry.2.db = t.db.without archive.runIDs ↔
      s.pruneRequested id = false ∧ p.early = true := by
  intro retry
  have lost (again : t.pruneRequested id = true) : retry.1 ≠ some archive.runIDs.length := by
    simp [retry,prune_refused (.inl again)]
  cases open_ : s.pruneRequested id with
  | true =>
    rw [prune_refused (.inl open_)] at later
    simpa using fun done => absurd done (lost (later.requested.trans open_))
  | false =>
    cases early : p.early with
    | true =>
      rw [prune_refused (.inr (by simpa using early))] at later
      rw [← later.completed] at known
      rw [← later.file] at whole
      simpa using prune_succeeds known whole (later.requested.trans open_) (later.pruning.trans idle)
    | false =>
      have left := prune_late known whole open_ early
      simpa using fun done => absurd done (lost (later.requested.trans left))

/-- Before the prune of the sample history. -/
def archivedStore : Store Nat (ArchiveDocument Nat) (ArchiveDocument Nat) Unit Unit Unit :=
  Store.empty.run samplePlatform ((sampleOps (text "up")).take 8)

theorem busy_prune_is_not_retryable :
    (PruneEvidenceArchive samplePlatform (some .begin_) archivedStore ()).1 = none ∧
      (PruneEvidenceArchive samplePlatform none
        (PruneEvidenceArchive samplePlatform (some .begin_) archivedStore ()).2 ()).1 = none := by
  decide +kernel

theorem unread_prune_is_retryable :
    (PruneEvidenceArchive samplePlatform none archivedStore ()).1 = some 1 ∧
      (PruneEvidenceArchive samplePlatform none archivedStore ()).2.db = archivedStore.db.without [0] :=
  (prune_retry_iff archivedStore archivedStore () ⟨(),_,[0]⟩ rfl rfl rfl .read
    (by rw [prune_refused (.inr rfl)]; exact ⟨rfl,rfl,rfl,rfl⟩)).mpr (by decide +kernel)

end Pilot.Delivery
