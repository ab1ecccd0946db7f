import Pilot.Yaml.Node

/-!
Edits of the nodes at every place a path reaches. A step goes to the value of
a key or to each item of a list, and stops where there is none. An edit of
the value of a key alters the mapping's own entry.
-/
namespace Pilot.Yaml
open Roster

inductive Step where
  | child (key : String)
  | items
  deriving DecidableEq

def alter (key : String) (f : Value → Value) : Fields → Fields
  | [] => []
  | (k, v) :: rest => if k = key then (k, f v) :: rest else (k, v) :: alter key f rest

def editChild (key : String) (f : Node → Node) : List Node → List Node
  | k :: v :: rest => if k.value = key then k :: f v :: rest else k :: v :: editChild key f rest
  | rest => rest

def editAt (f : Node → Node) : List Step → Node → Node
  | [], n => f n
  | .child key :: path, n => n.withContent (editChild key (editAt f path) n.content)
  | .items :: path, .sequence items => .sequence (items.map (editAt f path))
  | .items :: _, n => n

def apart : List Step → List Step → Bool
  | .child a :: p, .child b :: q => a != b || apart p q
  | .items :: p, .items :: q => apart p q
  | _, _ => false

section
variable {Y : Library} {key other : String} {f : Value → Value}

@[simp]
theorem alter_keys : (alter key f m).map Prod.fst = m.map Prod.fst := by
  induction m with
  | nil => rfl
  | cons entry rest ih =>
    rw [alter]
    split
    · rfl
    · rw [List.map_cons,ih,List.map_cons]

theorem field_alter : field (alter key f m) key = (field m key).map f := by
  induction m with
  | nil => rfl
  | cons entry rest ih =>
    rw [alter]
    split
    · rename_i here
      rw [field_cons,field_cons,if_pos here,if_pos here,Option.map_some]
    · rename_i elsewhere
      rw [field_cons,field_cons,if_neg elsewhere,if_neg elsewhere,ih]

theorem field_alter_of_ne (differ : key ≠ other) : field (alter key f m) other = field m other := by
  induction m with
  | nil => rfl
  | cons entry rest ih =>
    rw [alter]
    split
    · rename_i here
      rw [field_cons,field_cons,if_neg (here.trans_ne differ),if_neg (here.trans_ne differ)]
    · rw [field_cons,field_cons,ih]

end

section
variable {content : List Node} {key other : String} {f : Node → Node} {n : Node}

theorem findChild_edit : findChild key (editChild key f content) = (findChild key content).map f := by
  induction content using findChild.induct key with
  | case1 k v rest here => simp [editChild,findChild,here]
  | case2 k v rest elsewhere ih => simp [editChild,findChild,elsewhere,ih]
  | case3 rest short =>
    rw [editChild.eq_2 _ _ _ short,findChild.eq_2 _ _ short]
    rfl

theorem findChild_edit_of_ne (differ : key ≠ other) :
    findChild other (editChild key f content) = findChild other content := by
  induction content using findChild.induct key with
  | case1 k v rest here =>
    have skip : k.value ≠ other := here.trans_ne differ
    rw [editChild,if_pos here,findChild,findChild,if_neg skip,if_neg skip]
  | case2 k v rest elsewhere ih => simp [editChild,findChild,elsewhere,ih]
  | case3 rest short => rw [editChild.eq_2 _ _ _ short]

@[simp]
theorem kind_withContent : (n.withContent items).kind = n.kind := by
  cases n <;> rfl

theorem findMappingChild_edit :
    findMappingChild (n.withContent (editChild key f n.content)) key = (findMappingChild n key).map f := by
  cases n with
  | scalar tag text => rfl
  | sequence items | mapping content => exact findChild_edit

theorem findMappingChild_edit_of_ne (differ : key ≠ other) :
    findMappingChild (n.withContent (editChild key f n.content)) other = findMappingChild n other := by
  cases n with
  | scalar tag text => rfl
  | sequence items | mapping content => exact findChild_edit_of_ne differ

end

section
variable {Y : Library} {content : List Node} {pairs : Fields × Fields} {key : String} {f : Node → Node}

@[simp]
theorem keysOf_editChild : keysOf (editChild key f content) = keysOf content := by
  induction content using findChild.induct key with
  | case1 k v rest here => rw [editChild,if_pos here,keysOf,keysOf]
  | case2 k v rest elsewhere ih => rw [editChild,if_neg elsewhere,keysOf,keysOf,ih]
  | case3 rest short => rw [editChild.eq_2 _ _ _ short]

@[simp]
theorem isStringMap_editChild : isStringMap (editChild key f content) = isStringMap content := by
  rw [isStringMap,isStringMap,keysOf_editChild]

theorem isNone_field_alter (other : String) :
    (field (alter key g m) other).isNone = (field m other).isNone := by
  by_cases same : key = other
  · subst same
    rw [field_alter,Option.isNone_map]
  · rw [field_alter_of_ne same]

/-- An edit of the value of a key edits the mapping's own entry. -/
theorem pairs_edit (search : Searchable key)
    (follows : ∀ c v, findChild key content = some c → Decodes Y c v → Decodes Y (f c) (g v))
    (entries : Pairs Y content pairs) :
    Pairs Y (editChild key f content) (alter key g pairs.1, pairs.2) := by
  obtain ⟨unique,read⟩ := entries
  refine ⟨by rw [uniqueKeys,keysOf_editChild]; exact unique,?_⟩
  clear unique
  induction content using findChild.induct key generalizing pairs with
  | case1 k node rest here =>
    obtain ⟨later,rest,⟨merge,-⟩ | ⟨own,text,v,named,decodes,rfl⟩⟩ := decodePairs_cons read
    · rw [not_isMerge (here ▸ search.not_merge)] at merge
      cases merge
    · have edited := decodePairs_own own named
        (follows node v (by rw [findChild,if_pos here]) decodes) rest
      rw [editChild,if_pos here,edited,keyText_searchable (here ▸ search) named]
      simp [alter,here]
  | case2 k node rest elsewhere ih =>
    rw [findChild,if_neg elsewhere] at follows
    obtain ⟨later,rest,⟨merge,merged,ok,rfl⟩ | ⟨own,text,v,named,decodes,rfl⟩⟩ := decodePairs_cons read
    · rw [editChild,if_neg elsewhere,decodePairs_merge merge ok (ih follows rest)]
    · rw [editChild,if_neg elsewhere,decodePairs_own own named decodes (ih follows rest)]
      cases text with
      | none => rfl
      | some text => simp [alter,(keyText_value named ▸ elsewhere : ¬ text = key)]
  | case3 content short =>
    rw [editChild.eq_2 _ _ _ short]
    obtain rfl := nil_of_short short read
    cases read
    rfl

theorem withMerged_alter (own : (field pairs.1 key).isSome) :
    withMerged (alter key g pairs.1, pairs.2) = alter key g (withMerged pairs) := by
  have passes : ∀ more : Fields, alter key g
      (more.filter (fun e => (field pairs.1 e.1).isNone) ++ pairs.1) =
        more.filter (fun e => (field pairs.1 e.1).isNone) ++ alter key g pairs.1 := by
    intro more
    induction more with
    | nil => rfl
    | cons entry rest ih =>
      rw [List.filter_cons]
      split
      · rename_i foreign
        have elsewhere : entry.1 ≠ key := by
          rintro rfl
          rw [Option.isNone_iff_eq_none.mp foreign] at own
          cases own
        rw [List.cons_append,alter,if_neg elsewhere,ih,List.cons_append]
      · exact ih
  rw [withMerged,withMerged,passes]
  simp only [isNone_field_alter]

end

end Pilot.Yaml
