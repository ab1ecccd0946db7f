import Pilot.Yaml.Path

/-!
Edits of nodes against relations of decoded values. An edit follows a relation
if an edited node decodes to a value related to that of the node. Relations
are read through the lenient accessors, so that they hold below a key or for
the items of a list whatever stands there.
-/
namespace Pilot.Yaml
open Roster List

def editKey (key : String) (f : Node → Node) (n : Node) : Node :=
  n.withContent (editChild key f n.content)

def editItems (f : Node → Node) : Node → Node
  | .sequence items => .sequence (items.map f)
  | n => n

def editSequenceChildren (key : String) (f : Node → Node) : Node → Node
  | .mapping content => editKey key (editItems f) (.mapping content)
  | n => n

def ensureKey (key : String) (fresh : Node) (content : List Node) : List Node :=
  if (findChild key content).isSome then content else content ++ [strNode key,fresh]

def mappingChild (n : Node) (key : String) (fresh : Node) : Node :=
  n.withContent (ensureKey key fresh n.content)

def ensure (m : Fields) (key : String) (v : Value) : Fields :=
  if (field m key).isSome then m else m ++ [(key, v)]

abbrev Relation := Option Value → Option Value → Prop

structure AgreeBut (key : String) (R : Relation) (v w : Option Value) : Prop where
  elsewhere : ∀ other, other ≠ key → field (asMap w) other = field (asMap v) other
  here : R (field (asMap v) key) (field (asMap w) key)

def ItemsRelated (R : Relation) (v w : Option Value) : Prop :=
  Forall₂ (fun a b => R (some a) (some b)) (asList v) (asList w)

def Follows (Y : Library) (f : Node → Node) (R : Relation) : Prop :=
  ∀ n v, Decodes Y n v → ∃ w, Decodes Y (f n) w ∧ R (some v) (some w)

section
variable {m : Fields} {key other : String} {v : Value}

theorem field_ensure_of_ne (differ : key ≠ other) : field (ensure m key v) other = field m other := by
  unfold ensure
  split
  · rfl
  · rw [field_append,field_cons,if_neg differ]
    exact Option.or_none

theorem field_ensure_of_missing (missing : field m key = none) : field (ensure m key v) key = some v := by
  rw [ensure,missing,if_neg (by simp),field_append,missing,field_cons,if_pos rfl]
  rfl

theorem isSome_field_ensure (m : Fields) (key : String) (v : Value) :
    (field (ensure m key v) key).isSome = true := by
  unfold ensure
  split
  · assumption
  · simp [field_append,field_cons]

theorem mem_keys_iff : key ∈ m.map Prod.fst ↔ (field m key).isSome = true := by
  simp [field]

theorem mem_keys_ensure : other ∈ (ensure m key v).map Prod.fst ↔ other ∈ m.map Prod.fst ∨ other = key := by
  unfold ensure
  split
  · rename_i there
    rw [← mem_keys_iff] at there
    exact ⟨.inl,fun either => either.elim id (fun same => same ▸ there)⟩
  · simp

theorem mem_keys_withMerged : key ∈ (withMerged pairs).map Prod.fst ↔
    key ∈ pairs.1.map Prod.fst ∨ key ∈ pairs.2.map Prod.fst := by
  simp [mem_keys_iff,field_withMerged]

end

section
variable {Y : Library} {content : List Node} {pairs : Fields × Fields} {key other : String} {fresh : Node}

theorem keysOf_append (read : decodePairs Y content = .ok pairs) :
    keysOf (content ++ [strNode key,fresh]) = keysOf content ++ [strNode key] := by
  induction content using keysOf.induct generalizing pairs with
  | case1 k node rest ih =>
    obtain ⟨later,read,-⟩ := decodePairs_cons read
    rw [cons_append,cons_append,keysOf,keysOf,ih read,cons_append]
  | case2 content short =>
    obtain rfl := nil_of_short short read
    rfl

theorem findChild_append (read : decodePairs Y content = .ok pairs) :
    findChild key (content ++ more) = (findChild key content).or (findChild key more) := by
  induction content using keysOf.induct generalizing pairs with
  | case1 k node rest ih =>
    obtain ⟨later,read,-⟩ := decodePairs_cons read
    rw [cons_append,cons_append,findChild,findChild,ih read]
    split <;> rfl
  | case2 content short =>
    obtain rfl := nil_of_short short read
    rfl

theorem value_ne_of_missing (missing : findChild key content = none)
    (read : decodePairs Y content = .ok pairs) : ∀ k ∈ keysOf content, k.value ≠ key := by
  induction content using findChild.induct key generalizing pairs with
  | case1 k node rest here =>
    rw [findChild,if_pos here] at missing
    cases missing
  | case2 k node rest elsewhere ih =>
    obtain ⟨later,read,-⟩ := decodePairs_cons read
    rw [findChild,if_neg elsewhere] at missing
    exact forall_mem_cons.mpr ⟨elsewhere,ih missing read⟩
  | case3 content short =>
    obtain rfl := nil_of_short short read
    simp [keysOf]

theorem decodePairs_str (decodes : Decodes Y node v) (rest : decodePairs Y content = .ok later) :
    decodePairs Y (strNode key :: node :: content) = .ok ((key, v) :: later.1, later.2) := by
  have named : keyText Y (strNode key) = .ok (some key) := by
    rw [strNode,keyText,Y.resolve_string]
    rfl
  exact decodePairs_own (by simp [isMerge,strNode]) named decodes rest

theorem decodePairs_append (new : Decodes Y fresh v) (read : decodePairs Y content = .ok pairs) :
    decodePairs Y (content ++ [strNode key,fresh]) = .ok (pairs.1 ++ [(key, v)], pairs.2) := by
  induction content using keysOf.induct generalizing pairs with
  | case1 k node rest ih =>
    obtain ⟨later,rest,⟨merge,merged,ok,rfl⟩ | ⟨own,text,w,named,decodes,rfl⟩⟩ := decodePairs_cons read
    · exact decodePairs_merge merge ok (ih rest)
    · rw [cons_append,cons_append,decodePairs_own own named decodes (ih rest)]
      cases text <;> rfl
  | case2 content short =>
    obtain rfl := nil_of_short short read
    cases read
    have none : decodePairs Y [] = .ok ([], []) := by rw [decodePairs]
    exact decodePairs_str new none

theorem isStringMap_ensureKey (read : decodePairs Y content = .ok pairs) :
    isStringMap (ensureKey key fresh content) = isStringMap content := by
  unfold ensureKey
  split
  · rfl
  · rw [isStringMap,keysOf_append read]
    simp [isStringMap,strNode]

theorem findChild_ensureKey (differ : key ≠ other) (read : decodePairs Y content = .ok pairs) :
    findChild other (ensureKey key fresh content) = findChild other content := by
  unfold ensureKey
  split
  · rfl
  have skip : findChild other [strNode key,fresh] = none := by
    rw [findChild,if_neg (show (strNode key).value ≠ other from differ)]
    rfl
  rw [findChild_append read,skip,Option.or_none]

theorem pairs_ensureKey (search : Searchable key) (new : Decodes Y fresh v)
    (entries : Pairs Y content pairs) :
    Pairs Y (ensureKey key fresh content) (ensure pairs.1 key v, pairs.2) := by
  have same : (findChild key content).isSome = (field pairs.1 key).isSome := by
    have related := find_of_pairs search entries.read
    generalize findChild key content = c, field pairs.1 key = w at related ⊢
    cases related <;> rfl
  unfold ensureKey ensure
  rw [same]
  split
  · exact entries
  rename_i missing
  have missing : findChild key content = none := by
    rw [← same] at missing
    simpa using missing
  refine ⟨?_,decodePairs_append new entries.read⟩
  have unique := entries.unique
  rw [uniqueKeys,decide_eq_true_eq] at unique ⊢
  rw [keysOf_append entries.read,pairwise_append]
  refine ⟨unique,pairwise_singleton _ _,?_⟩
  rintro k mem _ single ⟨-,equal⟩
  rw [mem_singleton.mp single] at equal
  exact value_ne_of_missing missing entries.read k mem equal

end

section
variable {Y : Library} {R : Relation} {f : Node → Node} {key : String}

theorem AgreeBut.refl (refl : ∀ v, R v v) (v : Option Value) : AgreeBut key R v v :=
  ⟨fun _ _ => rfl,refl _⟩

theorem ItemsRelated.refl (refl : ∀ v, R v v) (v : Option Value) : ItemsRelated R v v :=
  forall₂_same.mpr fun _ _ => refl _

theorem pairs_editKey (search : Searchable key) (follows : Follows Y f R) (refl : ∀ v, R v v)
    (entries : Pairs Y content pairs) :
    ∃ own, Pairs Y (editChild key f content) (own, pairs.2) ∧ own.map Prod.fst = pairs.1.map Prod.fst ∧
      AgreeBut key R (some (.map (withMerged pairs))) (some (.map (withMerged (own, pairs.2)))) := by
  -- The one child of the key, if there is one, decodes to a related value.
  obtain ⟨g,edited,related⟩ : ∃ g : Value → Value,
      (∀ c v, findChild key content = some c → Decodes Y c v → Decodes Y (f c) (g v)) ∧
      ∀ v, field pairs.1 key = some v → R (some v) (some (g v)) := by
    have child := find_of_pairs search entries.read
    generalize findChild key content = c, field pairs.1 key = w at child ⊢
    cases child with
    | none => exact ⟨id,by simp,by simp⟩
    | @some c v decodes =>
      obtain ⟨w,edited,related⟩ := follows c v decodes
      refine ⟨fun _ => w,?_,?_⟩
      · rintro _ _ ⟨⟩ -
        exact edited
      · rintro _ ⟨⟩
        exact related
  refine ⟨_,pairs_edit search edited entries,alter_keys,?_,?_⟩
  · intro other differ
    rw [asMap,asMap,field_withMerged,field_withMerged,field_alter_of_ne differ.symm]
  · rw [asMap,asMap,field_withMerged,field_withMerged,field_alter]
    cases found : field pairs.1 key with
    | none => exact refl _
    | some v => exact related v found

theorem items_editChild (key : String) (follows : Follows Y f R) (each : Forall₂ (Decodes Y) items values) :
    ∃ values', Forall₂ (Decodes Y) (editChild key f items) values' := by
  induction items using findChild.induct key generalizing values with
  | case1 k node rest here =>
    obtain _ | ⟨first,_ | ⟨second,later⟩⟩ := each
    obtain ⟨w,decodes,-⟩ := follows node _ second
    rw [editChild,if_pos here]
    exact ⟨_,.cons first (.cons decodes later)⟩
  | case2 k node rest elsewhere ih =>
    obtain _ | ⟨first,_ | ⟨second,later⟩⟩ := each
    obtain ⟨values',decodes⟩ := ih later
    rw [editChild,if_neg elsewhere]
    exact ⟨_,.cons first (.cons second decodes)⟩
  | case3 rest short =>
    rw [editChild.eq_2 _ _ _ short]
    exact ⟨values,each⟩

theorem AgreeBut.of_no_map {w : Option Value} {v : Option Value} (empty : R none none)
    (left : asMap v = []) (right : asMap w = []) : AgreeBut key R v w := by
  refine ⟨fun _ _ => by rw [left,right],?_⟩
  rw [left,right]
  exact empty

theorem follows_editKey (search : Searchable key) (follows : Follows Y f R) (refl : ∀ v, R v v) :
    Follows Y (editKey key f) (AgreeBut key R) := by
  intro n v decodes
  cases n with
  | scalar tag text => exact ⟨v,decodes,.refl refl _⟩
  | sequence items =>
    obtain ⟨values,rfl,each⟩ := decodes_sequence.mp decodes
    obtain ⟨values',each'⟩ := items_editChild key follows each
    exact ⟨.list values',decodes_sequence.mpr ⟨values',rfl,each'⟩,.of_no_map (refl none) rfl rfl⟩
  | mapping content =>
    obtain ⟨pairs,entries,rfl⟩ := decodes_mapping.mp decodes
    obtain ⟨own,edited,-,agree⟩ := pairs_editKey search follows refl entries
    refine ⟨_,decodes_mapping.mpr ⟨_,edited,rfl⟩,?_⟩
    simp only [mappingValue,Node.content,isStringMap_editChild]
    split
    · exact agree
    · exact .refl refl _

theorem follows_editItems (follows : Follows Y f R) (refl : ∀ v, R v v) :
    Follows Y (editItems f) (ItemsRelated R) := by
  intro n v decodes
  cases n with
  | scalar tag text | mapping content => exact ⟨v,decodes,.refl refl _⟩
  | sequence items =>
    obtain ⟨values,rfl,each⟩ := decodes_sequence.mp decodes
    suffices later : ∃ values', Forall₂ (Decodes Y) (items.map f) values' ∧
        Forall₂ (fun a b => R (some a) (some b)) values values' by
      obtain ⟨values',each',related⟩ := later
      exact ⟨.list values',decodes_sequence.mpr ⟨values',rfl,each'⟩,related⟩
    clear decodes
    induction each with
    | nil => exact ⟨[],.nil,.nil⟩
    | cons first _ ih =>
      obtain ⟨w,decodes,related⟩ := follows _ _ first
      obtain ⟨values',rest,relatedRest⟩ := ih
      exact ⟨w :: values',.cons decodes rest,.cons related relatedRest⟩

theorem follows_editSequenceChildren (search : Searchable key) (follows : Follows Y f R)
    (refl : ∀ v, R v v) : Follows Y (editSequenceChildren key f) (AgreeBut key (ItemsRelated R)) := by
  intro n v decodes
  cases n with
  | scalar tag text | sequence items => exact ⟨v,decodes,.refl (ItemsRelated.refl refl) _⟩
  | mapping content =>
    exact follows_editKey search (follows_editItems follows refl) (ItemsRelated.refl refl) _ v decodes

theorem ItemsRelated.maps {S : Fields → Fields → Prop} {v w : Option Value}
    (related : ItemsRelated R v w) (reads : ∀ a b, R a b → S (asMap a) (asMap b)) :
    Forall₂ S (maps (asList v)) (maps (asList w)) := by
  rw [Roster.maps,Roster.maps,forall₂_map_left_iff,forall₂_map_right_iff]
  exact Forall₂.imp (fun a b item => reads _ _ item) related

end

end Pilot.Yaml
