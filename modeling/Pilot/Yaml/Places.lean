import Pilot.Yaml.Path

/-!
What stands at the places a path reaches, in a decoded value and in a node. A
node is reached through own keys only; what a merge key supplies is reached as
a value. An edit at a path acts on the nodes there, and leaves what stands at
the places of a path that parts from it.
-/
namespace Pilot.Yaml
open Roster List

def Step.Searchable : Step → Prop
  | child key => Yaml.Searchable key
  | items => True

instance : DecidablePred Step.Searchable
  | .child key => inferInstanceAs (Decidable (Searchable key))
  | .items => .isTrue trivial

/-- A value of the kind stands at a place of the path. -/
def HasAt (P : Value → Prop) : List Step → Value → Prop
  | [], v => P v
  | .child key :: path, v => ∃ w, field (asMap (some v)) key = some w ∧ HasAt P path w
  | .items :: path, v => ∃ w ∈ asList (some v), HasAt P path w

section
variable (Y : Library)

/-- The entries of a mapping's merge key. -/
def mergedOf : List Node → Fields
  | key :: value :: rest =>
    if isMerge key then (decodeMerge Y value).toOption.getD [] else mergedOf rest
  | _ => []

/-- The key has a child of the one kind, or only a merged value of the other. -/
def Under (key : String) (N : Node → Prop) (P : Value → Prop) (content : List Node) : Prop :=
  match findChild key content with
  | some c => N c
  | none => ∃ v, field (mergedOf Y content) key = some v ∧ P v

/-- A node of the kind stands at a place of the path, or a merged value. -/
def NodeHasAt (N : Node → Prop) (P : Value → Prop) : List Step → Node → Prop
  | [], n => N n
  | .child key :: path, .mapping content =>
    isStringMap content = true ∧ Under Y key (NodeHasAt N P path) (HasAt P path) content
  | .items :: path, .sequence items => ∃ item ∈ items, NodeHasAt N P path item
  | _, _ => False

/-- The same of a document, whose keys need not be strings. -/
def RootHasAt (N : Node → Prop) (P : Value → Prop) : List Step → Node → Prop
  | .child key :: path, .mapping content => Under Y key (NodeHasAt Y N P path) (HasAt P path) content
  | _, _ => False

end

section
variable {Y : Library} {N N' : Node → Prop} {P : Value → Prop} {content : List Node}
  {pairs : Fields × Fields} {key other : String} {f : Node → Node} {path elsewhere : List Step} {n : Node}

theorem mergedOf_of_pairs (read : decodePairs Y content = .ok pairs) : mergedOf Y content = pairs.2 := by
  induction content using keysOf.induct generalizing pairs with
  | case1 k node rest ih =>
    obtain ⟨later,rest,⟨merge,merged,ok,rfl⟩ | ⟨own,text,v,named,decodes,rfl⟩⟩ := decodePairs_cons read
    · rw [mergedOf,if_pos merge,ok]
      rfl
    · rw [mergedOf,if_neg (by simp [own]),ih rest]
  | case2 content short =>
    obtain rfl := nil_of_short short read
    cases read
    rfl

theorem mergedOf_editChild (own : key ≠ "<<") : mergedOf Y (editChild key f content) = mergedOf Y content := by
  induction content using findChild.induct key with
  | case1 k node rest here =>
    have plain : isMerge k = false := not_isMerge (here ▸ own)
    rw [editChild,if_pos here,mergedOf,mergedOf,plain]
    rfl
  | case2 k node rest elsewhere ih => rw [editChild,if_neg elsewhere,mergedOf,mergedOf,ih]
  | case3 content short => rw [editChild.eq_2 _ _ _ short]

theorem under_congr (same : ∀ c, N c ↔ N' c) : Under Y key N P content ↔ Under Y key N' P content := by
  unfold Under
  cases findChild key content with
  | none => exact Iff.rfl
  | some c => exact same c

theorem under_edit (own : key ≠ "<<") :
    Under Y key N P (editChild key f content) ↔ Under Y key (fun c => N (f c)) P content := by
  unfold Under
  rw [findChild_edit,mergedOf_editChild own]
  cases findChild key content <;> exact Iff.rfl

theorem under_edit_of_ne (own : key ≠ "<<") (differ : key ≠ other) :
    Under Y other N P (editChild key f content) ↔ Under Y other N P content := by
  unfold Under
  rw [findChild_edit_of_ne differ,mergedOf_editChild own]

theorem under_of_pairs (search : Searchable key) (leaf : ∀ c v, Decodes Y c v → (P v ↔ N c))
    (entries : Pairs Y content pairs) :
    (∃ w, field (withMerged pairs) key = some w ∧ P w) ↔ Under Y key N P content := by
  have child := find_of_pairs search entries.read
  rw [field_withMerged]
  unfold Under
  rw [mergedOf_of_pairs entries.read]
  generalize findChild key content = c, field pairs.1 key = slot at child ⊢
  cases child with
  | none => exact Iff.rfl
  | @some c v decodes =>
    rw [Option.some_or]
    simpa using leaf c v decodes

section Edits
variable (search : ∀ step ∈ path, step.Searchable)
include search

theorem nodeHasAt_edit :
    NodeHasAt Y N P path (editAt f path n) ↔ NodeHasAt Y (fun n => N (f n)) P path n := by
  induction path generalizing n with
  | nil => exact Iff.rfl
  | cons step path ih =>
    have later := fun step mem => search step (mem_cons_of_mem _ mem)
    cases step with
    | child key =>
      have plain : key ≠ "<<" := Searchable.not_merge (search _ mem_cons_self)
      cases n with
      | scalar tag text | sequence items => exact Iff.rfl
      | mapping content =>
        change isStringMap (editChild _ _ content) = true ∧ Under .. ↔ _
        rw [isStringMap_editChild,under_edit plain]
        exact and_congr_right fun _ => under_congr fun c => ih later
    | items =>
      cases n with
      | scalar tag text | mapping content => exact Iff.rfl
      | sequence items =>
        change (∃ item ∈ items.map _, _) ↔ ∃ item ∈ items, _
        simp only [mem_map,exists_exists_and_eq_and,ih later]

theorem nodeHasAt_edit_apart (parts : apart path elsewhere = true) :
    NodeHasAt Y N P elsewhere (editAt f path n) ↔ NodeHasAt Y N P elsewhere n := by
  induction path, elsewhere using apart.induct generalizing n with
  | case1 a p b q ih =>
    have plain : a ≠ "<<" := Searchable.not_merge (search _ mem_cons_self)
    cases n with
    | scalar tag text | sequence items => exact Iff.rfl
    | mapping content =>
      change isStringMap (editChild _ _ content) = true ∧ Under .. ↔ _
      rw [isStringMap_editChild]
      refine and_congr_right fun _ => ?_
      by_cases same : a = b
      · subst same
        rw [under_edit plain]
        refine under_congr fun c => ih (fun step mem => search step (mem_cons_of_mem _ mem)) ?_
        simpa [apart] using parts
      · exact under_edit_of_ne plain same
  | case2 p q ih =>
    cases n with
    | scalar tag text | mapping content => exact Iff.rfl
    | sequence items =>
      have later := fun {n} => ih (n := n) (fun step mem => search step (mem_cons_of_mem _ mem)) parts
      change (∃ item ∈ items.map _, _) ↔ ∃ item ∈ items, _
      simp only [mem_map,exists_exists_and_eq_and,later]
  | case3 p q _ _ => simp_all [apart]

theorem rootHasAt_edit :
    RootHasAt Y N P path (editAt f path n) ↔ RootHasAt Y (fun n => N (f n)) P path n := by
  match path, n with
  | .child key :: path, .mapping content =>
    have plain : key ≠ "<<" := Searchable.not_merge (search _ mem_cons_self)
    change Under Y key _ _ (editChild key _ content) ↔ _
    rw [under_edit plain]
    exact under_congr fun c => nodeHasAt_edit fun step mem => search step (mem_cons_of_mem _ mem)
  | .child key :: path, .scalar tag text | .child key :: path, .sequence items => exact Iff.rfl
  | [], n | .items :: path, n => exact Iff.rfl

theorem rootHasAt_edit_apart (parts : apart path elsewhere = true) :
    RootHasAt Y N P elsewhere (editAt f path n) ↔ RootHasAt Y N P elsewhere n := by
  match path, elsewhere, n with
  | .child a :: p, .child b :: q, .mapping content =>
    have plain : a ≠ "<<" := Searchable.not_merge (search _ mem_cons_self)
    change Under Y b _ _ (editChild a _ content) ↔ _
    by_cases same : a = b
    · subst same
      rw [under_edit plain]
      refine under_congr fun c => nodeHasAt_edit_apart (fun step mem => search step (mem_cons_of_mem _ mem)) ?_
      simpa [apart] using parts
    · exact under_edit_of_ne plain same
  | .child a :: p, .child b :: q, .scalar tag text | .child a :: p, .child b :: q, .sequence items =>
    exact Iff.rfl
  | [], _, _ | .items :: _, [], _ | .items :: _, .child _ :: _, _ | .child _ :: _, [], _
  | .child _ :: _, .items :: _, _ => cases parts
  | .items :: p, .items :: q, n => exact Iff.rfl

end Edits

section Decoding
variable (leaf : ∀ n v, Decodes Y n v → (P v ↔ N n))
include leaf

theorem hasAt_of_decodes (search : ∀ step ∈ path, step.Searchable) (decodes : Decodes Y n v) :
    HasAt P path v ↔ NodeHasAt Y N P path n := by
  induction path generalizing n v with
  | nil => exact leaf n v decodes
  | cons step path ih =>
    have later := fun step mem => search step (mem_cons_of_mem _ mem)
    cases step with
    | child key =>
      cases n with
      | scalar tag text =>
        have empty := Y.resolve_leaf (decodes_scalar.mp decodes)
        refine iff_of_false ?_ id
        rintro ⟨w,found,-⟩
        cases v <;> first | cases empty; done | cases found
      | sequence items =>
        obtain ⟨values,rfl,-⟩ := decodes_sequence.mp decodes
        refine iff_of_false ?_ id
        rintro ⟨w,found,-⟩
        cases found
      | mapping content =>
        obtain ⟨pairs,entries,rfl⟩ := decodes_mapping.mp decodes
        change (∃ w, field (asMap (some (mappingValue content pairs))) key = some w ∧ HasAt P path w) ↔
          isStringMap content = true ∧ Under ..
        unfold mappingValue
        split
        · rename_i strings
          rw [asMap,under_of_pairs (search _ mem_cons_self) (fun c v => ih later) entries]
          simp [strings]
        · rename_i mixed
          refine iff_of_false ?_ (fun both => mixed both.1)
          rintro ⟨w,found,-⟩
          cases found
    | items =>
      cases n with
      | scalar tag text =>
        have empty := Y.resolve_leaf (decodes_scalar.mp decodes)
        refine iff_of_false ?_ id
        rintro ⟨w,found,-⟩
        cases v <;> first | cases empty; done | cases found
      | mapping content =>
        obtain ⟨pairs,-,rfl⟩ := decodes_mapping.mp decodes
        refine iff_of_false ?_ id
        rintro ⟨w,found,-⟩
        unfold mappingValue at found
        split at found <;> cases found
      | sequence items =>
        obtain ⟨values,rfl,each⟩ := decodes_sequence.mp decodes
        clear decodes
        change (∃ w ∈ values, _) ↔ ∃ item ∈ items, _
        induction each with
        | nil => simp
        | cons first _ rest => simp only [mem_cons,exists_eq_or_imp,ih later first,rest]

theorem hasAt_of_decodeMap (search : ∀ step ∈ .child key :: path, step.Searchable)
    (decoded : decodeMap Y n = .ok root) :
    HasAt P (.child key :: path) (.map root) ↔ RootHasAt Y N P (.child key :: path) n := by
  cases n with
  | scalar tag text =>
    rw [decodeMap] at decoded
    split at decoded <;> cases decoded
    refine iff_of_false ?_ id
    rintro ⟨w,found,-⟩
    cases found
  | sequence items => cases decoded
  | mapping content =>
    obtain ⟨pairs,entries,rfl⟩ := decodeMap_mapping.mp decoded
    exact under_of_pairs (search _ mem_cons_self)
      (fun c v => hasAt_of_decodes leaf (fun step mem => search step (mem_cons_of_mem _ mem))) entries

end Decoding

end

end Pilot.Yaml
