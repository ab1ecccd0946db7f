import Mathlib.Algebra.Group.Nat.Defs
import Mathlib.Data.List.Lex
import Mathlib.Data.List.Sort
import Mathlib.Logic.Equiv.List
import Pilot.Library.Fold
import Pilot.Library.Go

/-!
The file list of a snapshot and its digest, after `internal/mcpwire/manifest.go`.
A record tells where it ends, so the records of the sorted files stand for the
map from paths to sizes and digests.
-/
namespace Pilot.Mcp
open List

export Go (Bytes)

/-- SHA-256 in hexadecimal, `hex.DecodeString`, and a path as `%q` prints it. -/
structure Library where
  sha256 : Bytes → String
  decodeHex : String → Option Bytes
  quote : Bytes → String

structure FileEntry where
  path : Bytes
  size : Int64
  sha256 : String

/-- The last `k` bytes of a number, the highest first. -/
def bigEndian : Nat → Nat → Bytes
  | 0,_ => []
  | k+1,n => bigEndian k (n/256) ++ [.ofNat n]

def record (f : FileEntry) (sum : Bytes) : Bytes :=
  bigEndian 4 f.path.length ++ (f.path ++ (bigEndian 8 f.size.toUInt64.toNat ++ sum))

def checkedRecord (L : Library) (previous : Option Bytes) (f : FileEntry) : Except String Bytes :=
  if previous = some f.path then .error s!"duplicate path {L.quote f.path}"
  else match (L.decodeHex f.sha256).filter (·.length = 32) with
    | none => .error s!"file {L.quote f.path} has an invalid sha256"
    | some sum =>
      if f.size < 0 then .error s!"file {L.quote f.path} has a negative size" else .ok (record f sum)

def records (L : Library) : Option Bytes → List FileEntry → Except String Bytes
  | _,[] => .ok []
  | previous,f :: rest => do
    let first ← checkedRecord L previous f
    let later ← records L (some f.path) rest
    .ok (first ++ later)

/-- Paths are compared byte by byte. -/
abbrev pathLE (p q : Bytes) : Prop := p.map UInt8.toNat ≤ q.map UInt8.toNat

def sortedFiles (files : List FileEntry) : List FileEntry :=
  files.insertionSort fun f g => pathLE f.path g.path

def contentDigest (L : Library) (files : List FileEntry) : Except String String := do
  let written ← records L none (sortedFiles files)
  .ok (L.sha256 written)

/-- What the list says of each path. -/
def graph (L : Library) (files : List FileEntry) : List (Bytes × Int64 × Option Bytes) :=
  files.map fun f => (f.path,f.size,L.decodeHex f.sha256)

theorem length_bigEndian (k n : Nat) : (bigEndian k n).length = k := by
  induction k generalizing n with
  | zero => rfl
  | succ k ih => rw [bigEndian,length_append,ih,length_singleton]

theorem bigEndian_injective (small : n < 256^k) (small' : m < 256^k)
    (same : bigEndian k n = bigEndian k m) : n = m := by
  induction k generalizing n m with
  | zero => omega
  | succ k ih =>
    obtain ⟨high,low⟩ := append_inj' same rfl
    have last := congrArg UInt8.toNat (head_eq_of_cons_eq low)
    rw [UInt8.toNat_ofNat',UInt8.toNat_ofNat'] at last
    have upper := ih (by omega) (by omega) high
    omega

theorem record_injective (short : f.path.length < 2^32) (short' : g.path.length < 2^32)
    (full : s.length = t.length) (same : record f s ++ x = record g t ++ y) :
    f.path = g.path ∧ f.size = g.size ∧ s = t ∧ x = y := by
  simp only [record,append_assoc] at same
  obtain ⟨count,same⟩ := append_inj same (by rw [length_bigEndian,length_bigEndian])
  obtain ⟨path,same⟩ := append_inj same (bigEndian_injective short short' count)
  obtain ⟨bits,same⟩ := append_inj same (by rw [length_bigEndian,length_bigEndian])
  obtain ⟨sum,rest⟩ := append_inj same full
  have size := bigEndian_injective (k := 8) (UInt64.toNat_lt _) (UInt64.toNat_lt _) bits
  exact ⟨path,congrArg UInt64.toInt64 (UInt64.toNat_inj.mp size),sum,rest⟩

variable {L : Library} {a b : List FileEntry}

theorem records_cons (ok : records L previous (f :: a) = .ok x) :
    ∃ sum rest, L.decodeHex f.sha256 = some sum ∧ sum.length = 32 ∧
      records L (some f.path) a = .ok rest ∧ x = record f sum ++ rest := by
  obtain ⟨first,checked,ok⟩ := Fold.bind_ok ok
  obtain ⟨rest,later,ok⟩ := Fold.bind_ok ok
  cases ok
  unfold checkedRecord at checked
  repeat' split at checked
  all_goals cases checked
  rename_i sum known _ _
  obtain ⟨decoded,full⟩ := Option.filter_eq_some_iff.mp known
  exact ⟨sum,rest,decoded,of_decide_eq_true full,later,rfl⟩

theorem records_eq_iff (okA : records L p a = .ok x) (okB : records L q b = .ok y)
    (shortA : ∀ f ∈ a, f.path.length < 2^32) (shortB : ∀ f ∈ b, f.path.length < 2^32) :
    x = y ↔ graph L a = graph L b := by
  have long (f s) : record f s ≠ [] := by
    intro none_
    have short := congrArg length none_
    rw [record,length_append,length_bigEndian,length_nil] at short
    omega
  induction a generalizing b x y p q with
  | nil =>
    cases okA
    cases b with
    | nil =>
      cases okB
      exact ⟨fun _ => rfl,fun _ => rfl⟩
    | cons g b =>
      obtain ⟨t,rest,-,-,-,rfl⟩ := records_cons okB
      simp [graph,long]
  | cons f a ih =>
    obtain ⟨s,rest,sum,full,later,rfl⟩ := records_cons okA
    cases b with
    | nil =>
      cases okB
      simp [graph,long]
    | cons g b =>
      obtain ⟨t,rest',sum',full',later',rfl⟩ := records_cons okB
      rw [forall_mem_cons] at shortA shortB
      have tail := ih later later' shortA.2 shortB.2
      simp only [graph,map_cons,cons.injEq,Prod.mk.injEq,sum,sum',Option.some.injEq] at tail ⊢
      constructor
      · intro same
        obtain ⟨path,size,sums,rests⟩ := record_injective shortA.1 shortB.1 (full.trans full'.symm) same
        exact ⟨⟨path,size,sums⟩,tail.mp rests⟩
      · intro ⟨⟨path,size,sums⟩,graphs⟩
        rw [tail.mpr graphs,sums,record,record,path,size]

/-- Sorted by distinct paths, two lists with one graph have it in one order. -/
theorem graph_sorted_iff (distinctA : ((graph L a).map Prod.fst).Nodup)
    (distinctB : ((graph L b).map Prod.fst).Nodup) :
    graph L (sortedFiles a) = graph L (sortedFiles b) ↔ ∀ e, e ∈ graph L a ↔ e ∈ graph L b := by
  let le (f g : FileEntry) := pathLE f.path g.path
  have : Std.Total le := ⟨fun _ _ => le_total _ _⟩
  have : IsTrans FileEntry le := ⟨fun _ _ _ => le_trans⟩
  have sorted (files) : (graph L (sortedFiles files)).Pairwise fun e e' => pathLE e.1 e'.1 :=
    pairwise_map.mpr (pairwise_insertionSort le files)
  have perm (files) : (graph L (sortedFiles files)).Perm (graph L files) := (perm_insertionSort le files).map _
  constructor
  · intro same e
    rw [← (perm a).mem_iff,same,(perm b).mem_iff]
  · intro same
    have both := (perm_ext_iff_of_nodup distinctA.of_map distinctB.of_map).mpr same
    refine Perm.eq_of_pairwise ?_ (sorted a) (sorted b) ((perm a).trans (both.trans (perm b).symm))
    intro e e' mem mem' first second
    have path : e.1 = e'.1 := map_injective_iff.mpr (fun _ _ => UInt8.toNat_inj.mp) (first.antisymm second)
    exact inj_on_of_nodup_map distinctA ((perm a).mem_iff.mp mem)
      ((same e').mpr ((perm b).mem_iff.mp mem')) path

/-- Two digests are equal exactly if the lists say the same of each path. -/
theorem contentDigest_eq_iff (collisionFree : Function.Injective L.sha256)
    (distinctA : (a.map FileEntry.path).Nodup) (distinctB : (b.map FileEntry.path).Nodup)
    (shortA : ∀ f ∈ a, f.path.length < 2^32) (shortB : ∀ f ∈ b, f.path.length < 2^32)
    (okA : contentDigest L a = .ok x) (okB : contentDigest L b = .ok y) :
    x = y ↔ ∀ e, e ∈ graph L a ↔ e ∈ graph L b := by
  obtain ⟨written,listedA,made⟩ := Fold.bind_ok okA
  obtain ⟨written',listedB,made'⟩ := Fold.bind_ok okB
  cases made
  cases made'
  have inside (files : List FileEntry) : ∀ f ∈ sortedFiles files, f ∈ files :=
    fun f => (mem_insertionSort _).mp
  have paths (files) : (graph L files).map Prod.fst = files.map FileEntry.path := map_map
  rw [collisionFree.eq_iff,records_eq_iff listedA listedB (fun f mem => shortA f (inside a f mem))
    (fun f mem => shortB f (inside b f mem))]
  exact graph_sorted_iff (paths a ▸ distinctA) (paths b ▸ distinctB)

def zeroFile (name : UInt8) : FileEntry := ⟨[name],0,.ofList (replicate 64 '0')⟩

def sampleDigest : String := "9ae9474fa4a1e148b5b2ed4f122a3dda5738b99ba60807030d9f568c88f62e5e"

def sampleLibrary : Library where
  sha256 bytes :=
    if bytes = record (zeroFile 97) (replicate 32 0) ++ record (zeroFile 98) (replicate 32 0) then sampleDigest
    else .ofList (replicate (Encodable.encode (bytes.map UInt8.toNat)) '-')
  decodeHex _ := some (replicate 32 0)
  quote _ := ""

theorem sampleLibrary_collisionFree : Function.Injective sampleLibrary.sha256 := by
  have other (n) : sampleDigest.toList ≠ replicate n '-' :=
    fun same => absurd (eq_of_mem_replicate (same ▸ (by decide : '9' ∈ sampleDigest.toList))) (by decide)
  intro x y same
  have texts := congrArg String.toList same
  unfold sampleLibrary at texts
  dsimp only at texts
  split_ifs at texts with first second second
  · exact first.trans second.symm
  · exact absurd (texts.trans String.toList_ofList) (other _)
  · exact absurd (texts.symm.trans String.toList_ofList) (other _)
  · rw [String.toList_ofList,String.toList_ofList,replicate_left_inj,Encodable.encode_inj] at texts
    exact map_injective_iff.mpr (fun _ _ => UInt8.toNat_inj.mp) texts

theorem swapped_files_have_one_digest :
    ∃ x y, contentDigest sampleLibrary [zeroFile 97,zeroFile 98] = .ok x ∧
      contentDigest sampleLibrary [zeroFile 98,zeroFile 97] = .ok y ∧ x = y := by
  have ok : contentDigest sampleLibrary [zeroFile 97,zeroFile 98] = .ok sampleDigest := by decide +kernel
  have ok' : contentDigest sampleLibrary [zeroFile 98,zeroFile 97] = .ok sampleDigest := by decide +kernel
  exact ⟨_,_,ok,ok',(contentDigest_eq_iff sampleLibrary_collisionFree (by decide) (by decide) (by decide)
    (by decide) ok ok').mpr (by simp [graph,or_comm])⟩

end Pilot.Mcp
