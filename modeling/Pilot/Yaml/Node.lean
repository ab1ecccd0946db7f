import Pilot.Library.Fold
import Pilot.Library.Table
import Pilot.Roster.Value

/-!
YAML documents without aliases as `go.yaml.in/yaml/v3` parses them, and what
decoding a node gives. A mapping keeps its keys and values alternately in one
list, as a `yaml.Node` does, and a key is found by its text whatever the kind
of the node is. Resolving a scalar, parsing, rendering and the messages are
the library's. A search by text finds the entry that the key decodes to,
unless the entry comes from a merge key.
-/
namespace Pilot.Yaml
open Roster List

inductive Kind where
  | scalar | sequence | mapping
  deriving DecidableEq

inductive Node where
  | scalar (tag text : String)
  | sequence (items : List Node)
  | mapping (content : List Node)

namespace Node

def kind : Node → Kind
  | .scalar .. => .scalar
  | .sequence _ => .sequence
  | .mapping _ => .mapping

def value : Node → String
  | .scalar _ text => text
  | _ => ""

def content : Node → List Node
  | .scalar .. => []
  | .sequence items => items
  | .mapping content => content

def withContent : Node → List Node → Node
  | .scalar tag text, _ => .scalar tag text
  | .sequence _, items => .sequence items
  | .mapping _, content => .mapping content

end Node

def IsLeaf : Value → Prop
  | .list _ => False
  | .map _ => False
  | _ => True

/-- The texts of a null. -/
def nullTexts : List String := ["","~","null","Null","NULL"]

/-- The library's functions. A document without content parses to none. -/
structure Library where
  resolve : String → String → Except String Value
  parse : String → Except String (Option Node)
  (render complain : Node → String)
  resolve_leaf : ∀ {tag text v}, resolve tag text = .ok v → IsLeaf v
  resolve_string : ∀ text, resolve "!!str" text = .ok (.string text)
  resolve_null : ∀ {tag text}, resolve tag text = .ok .null → text ∈ nullTexts

def findChild (name : String) : List Node → Option Node
  | key :: value :: rest => if key.value = name then some value else findChild name rest
  | _ => none

def findMappingChild (n : Node) (key : String) : Option Node := findChild key n.content

def keysOf : List Node → List Node
  | key :: _ :: rest => key :: keysOf rest
  | rest => rest

def uniqueKeys (content : List Node) : Bool :=
  decide ((keysOf content).Pairwise (fun a b => ¬ (a.kind = b.kind ∧ a.value = b.value)))

def isMerge : Node → Bool
  | .scalar tag text => text == "<<" && ["","!","!!merge"].contains tag
  | _ => false

def isStringMap (content : List Node) : Bool :=
  (keysOf content).all fun
    | .scalar tag _ => tag == "!!str" || tag == "!!merge"
    | _ => false

/-- The entries of a mapping: its own, and those of its merge key under other
    keys. -/
def withMerged (pairs : Fields × Fields) : Fields :=
  pairs.2.filter (fun e => (field pairs.1 e.1).isNone) ++ pairs.1

section
variable (Y : Library)

/-- A key that decodes to null is left out. -/
def keyText : Node → Except String (Option String)
  | .scalar tag text => do
    match ← Y.resolve tag text with
    | .null => return none
    | _ => return some text
  | key => .error (Y.complain key)

mutual

def decode : Node → Except String Value
  | .scalar tag text => Y.resolve tag text
  | .sequence items => do
    let values ← decodeItems items
    return .list values
  | .mapping content =>
    if uniqueKeys content then do
      let pairs ← decodePairs content
      return if isStringMap content then .map (withMerged pairs)
        else .other "map[interface {}]interface {}"
    else .error (Y.complain (.mapping content))

def decodeItems : List Node → Except String (List Value)
  | [] => .ok []
  | item :: items => do
    let value ← decode item
    let values ← decodeItems items
    return value :: values

/-- The own entries of a mapping, and those of its merge key. A key without a
    value makes the library panic. -/
def decodePairs : List Node → Except String (Fields × Fields)
  | [] => .ok ([], [])
  | [_] => .error "index out of range"
  | key :: value :: rest => do
    let later ← decodePairs rest
    if isMerge key then do
      let merged ← decodeMerge value
      return (later.1, merged)
    else
      let text ← keyText Y key
      let v ← decode value
      return (text.elim later.1 (fun k => (k, v) :: later.1), later.2)

def decodeMerge : Node → Except String Fields
  | .mapping content =>
    if uniqueKeys content then do
      let pairs ← decodePairs content
      return withMerged pairs
    else .error (Y.complain (.mapping content))
  | .sequence items => decodeMergeItems items
  | .scalar _ _ => .error "map merge requires map or sequence of maps as the value"

def decodeMergeItems : List Node → Except String Fields
  | [] => .ok []
  | .mapping content :: items =>
    if uniqueKeys content then do
      let pairs ← decodePairs content
      let later ← decodeMergeItems items
      return withMerged (withMerged pairs, later)
    else .error (Y.complain (.mapping content))
  | _ :: _ => .error "map merge requires map or sequence of maps as the value"

end

/-- Decoding into a map with string keys. A null gives no entries. -/
def decodeMap : Node → Except String Fields
  | .scalar tag text =>
    match Y.resolve tag text with
    | .ok .null => .ok []
    | .ok _ => .error (Y.complain (.scalar tag text))
    | .error err => .error err
  | .sequence items => .error (Y.complain (.sequence items))
  | .mapping content =>
    if uniqueKeys content then do
      let pairs ← decodePairs Y content
      return withMerged pairs
    else .error (Y.complain (.mapping content))

def Decodes (n : Node) (v : Value) : Prop := decode Y n = .ok v

/-- A mapping's own entries, and those of its merge key. -/
structure Pairs (content : List Node) (pairs : Fields × Fields) : Prop where
  unique : uniqueKeys content = true
  read : decodePairs Y content = .ok pairs

def mappingValue (content : List Node) (pairs : Fields × Fields) : Value :=
  if isStringMap content then .map (withMerged pairs) else .other "map[interface {}]interface {}"

end

/-- The key can be searched for by its text. -/
def Searchable (key : String) : Prop := key ∉ "<<" :: nullTexts

instance (key : String) : Decidable (Searchable key) :=
  inferInstanceAs (Decidable (key ∉ "<<" :: nullTexts))

section
variable {Y : Library} {n : Node} {v : Value} {m : Fields} {content : List Node}
  {pairs : Fields × Fields} {key : String}

theorem decodes_scalar : Decodes Y (.scalar tag text) v ↔ Y.resolve tag text = .ok v := by
  rw [Decodes,decode]

theorem decodeItems_iff : decodeItems Y items = .ok values ↔ Forall₂ (Decodes Y) items values := by
  induction items generalizing values with
  | nil => cases values <;> simp [decodeItems]
  | cons item items ih =>
    rw [decodeItems]
    constructor
    · intro ok
      obtain ⟨v,first,ok⟩ := Fold.bind_ok ok
      obtain ⟨rest,later,ok⟩ := Fold.bind_ok ok
      cases ok
      exact .cons first (ih.mp later)
    · rintro (_ | ⟨first,later⟩)
      rw [first,ih.mpr later]
      rfl

theorem decodes_sequence :
    Decodes Y (.sequence items) v ↔ ∃ values, v = .list values ∧ Forall₂ (Decodes Y) items values := by
  simp only [← decodeItems_iff]
  rw [Decodes,decode]
  cases decodeItems Y items with
  | error err => simp [bind,Except.bind]
  | ok values => simp [bind,Except.bind,pure,Except.pure,eq_comm]

theorem decodes_mapping :
    Decodes Y (.mapping content) v ↔ ∃ pairs, Pairs Y content pairs ∧ v = mappingValue content pairs := by
  rw [Decodes,decode]
  constructor
  · intro ok
    split at ok
    · rename_i unique
      obtain ⟨pairs,read,ok⟩ := Fold.bind_ok ok
      cases ok
      exact ⟨pairs,⟨unique,read⟩,rfl⟩
    · cases ok
  · rintro ⟨pairs,⟨unique,read⟩,rfl⟩
    rw [if_pos unique,read]
    rfl

theorem decodeMap_mapping :
    decodeMap Y (.mapping content) = .ok m ↔ ∃ pairs, Pairs Y content pairs ∧ m = withMerged pairs := by
  rw [decodeMap]
  constructor
  · intro ok
    split at ok
    · rename_i unique
      obtain ⟨pairs,read,ok⟩ := Fold.bind_ok ok
      cases ok
      exact ⟨pairs,⟨unique,read⟩,rfl⟩
    · cases ok
  · rintro ⟨pairs,⟨unique,read⟩,rfl⟩
    rw [if_pos unique,read]
    rfl

theorem mapping_of_decodeMap (ok : decodeMap Y n = .ok m) (filled : m ≠ []) :
    ∃ content pairs, n = .mapping content ∧ Pairs Y content pairs ∧ m = withMerged pairs := by
  cases n with
  | scalar tag text =>
    rw [decodeMap] at ok
    split at ok <;> cases ok
    exact absurd rfl filled
  | sequence items => cases ok
  | mapping content =>
    obtain ⟨pairs,read,same⟩ := decodeMap_mapping.mp ok
    exact ⟨content,pairs,rfl,read,same⟩

theorem mapping_of_decodes (decodes : Decodes Y n (.map m)) :
    ∃ content pairs, n = .mapping content ∧ isStringMap content = true ∧ Pairs Y content pairs ∧
      m = withMerged pairs := by
  cases n with
  | scalar tag text => exact absurd (Y.resolve_leaf (decodes_scalar.mp decodes)) id
  | sequence items =>
    obtain ⟨values,same,-⟩ := decodes_sequence.mp decodes
    cases same
  | mapping content =>
    obtain ⟨pairs,read,same⟩ := decodes_mapping.mp decodes
    unfold mappingValue at same
    split at same
    · rename_i strings
      cases same
      exact ⟨content,pairs,rfl,strings,read,rfl⟩
    · cases same

theorem decodeMap_of_decodes (decodes : Decodes Y n (.map m)) : decodeMap Y n = .ok m := by
  obtain ⟨content,pairs,rfl,-,read,same⟩ := mapping_of_decodes decodes
  exact decodeMap_mapping.mpr ⟨pairs,read,same⟩

theorem keyText_value (read : keyText Y k = .ok (some text)) : k.value = text := by
  cases k with
  | scalar tag value =>
    obtain ⟨v,-,read⟩ := Fold.bind_ok read
    split at read <;> cases read
    rfl
  | sequence items | mapping content => cases read

theorem keyText_searchable (search : Searchable k.value) (read : keyText Y k = .ok text) :
    text = some k.value := by
  cases text with
  | some text => rw [keyText_value read]
  | none =>
    cases k with
    | scalar tag value =>
      obtain ⟨v,resolved,read⟩ := Fold.bind_ok read
      split at read
      · exact absurd (mem_cons_of_mem _ (Y.resolve_null resolved)) search
      · cases read
    | sequence items | mapping content => cases read

theorem not_isMerge (other : k.value ≠ "<<") : isMerge k = false := by
  cases k with
  | scalar tag text =>
    have other : text ≠ "<<" := other
    simp [isMerge,other]
  | sequence items | mapping content => rfl

theorem Searchable.not_merge (search : Searchable key) : key ≠ "<<" :=
  fun same => search (same ▸ mem_cons_self)

theorem decodePairs_cons (read : decodePairs Y (k :: node :: rest) = .ok pairs) :
    ∃ later, decodePairs Y rest = .ok later ∧
      ((isMerge k = true ∧ ∃ merged, decodeMerge Y node = .ok merged ∧ pairs = (later.1, merged)) ∨
        isMerge k = false ∧ ∃ text v, keyText Y k = .ok text ∧ Decodes Y node v ∧
          pairs = (text.elim later.1 (fun k => (k, v) :: later.1), later.2)) := by
  rw [decodePairs] at read
  obtain ⟨later,rest,read⟩ := Fold.bind_ok read
  refine ⟨later,rest,?_⟩
  split at read
  · rename_i merge
    obtain ⟨merged,ok,read⟩ := Fold.bind_ok read
    cases read
    exact .inl ⟨merge,merged,ok,rfl⟩
  · rename_i own
    obtain ⟨text,named,read⟩ := Fold.bind_ok read
    obtain ⟨v,ok,read⟩ := Fold.bind_ok read
    cases read
    exact .inr ⟨by simpa using own,text,v,named,ok,rfl⟩

/-- A key without a value does not decode. -/
theorem nil_of_short (short : ∀ k node rest, content = k :: node :: rest → False)
    (read : decodePairs Y content = .ok pairs) : content = [] := by
  rcases content with _ | ⟨k,_ | ⟨node,rest⟩⟩
  · rfl
  · cases read
  · exact absurd rfl (short k node rest)

theorem decodePairs_own (own : isMerge k = false) (named : keyText Y k = .ok text)
    (decodes : Decodes Y node v) (rest : decodePairs Y content = .ok later) :
    decodePairs Y (k :: node :: content) =
      .ok (text.elim later.1 (fun k => (k, v) :: later.1), later.2) := by
  rw [decodePairs,rest,own,named,decodes]
  rfl

theorem decodePairs_merge (merge : isMerge k = true) (merged : decodeMerge Y node = .ok more)
    (rest : decodePairs Y content = .ok later) :
    decodePairs Y (k :: node :: content) = .ok (later.1, more) := by
  rw [decodePairs,rest,merge,merged]
  rfl

theorem field_cons : field ((k, v) :: m) key = if k = key then some v else field m key := by
  rw [field,find?_cons]
  split <;> simp_all [field]

theorem field_append : field (m ++ m') key = (field m key).or (field m' key) := by
  simp [field,find?_append,Option.map_or]

theorem field_withMerged : field (withMerged pairs) key = (field pairs.1 key).or (field pairs.2 key) := by
  obtain ⟨own,merged⟩ := pairs
  have kept : field (merged.filter (fun e => (field own e.1).isNone)) key =
      if (field own key).isNone then field merged key else none := by
    induction merged with
    | nil => exact (ite_self none).symm
    | cons entry rest ih =>
      obtain ⟨k,v⟩ := entry
      rw [filter_cons,field_cons]
      by_cases here : k = key
      · subst here
        cases own_k : field own k with
        | none => simp [field_cons]
        | some w => simpa [own_k] using ih
      · rw [if_neg here,← ih]
        split
        · rw [field_cons,if_neg here]
        · rfl
  rw [withMerged,field_append,kept]
  cases field own key with
  | none => simp
  | some v => rfl

/-- The search by text finds the mapping's own entry. -/
theorem find_of_pairs (search : Searchable key) (read : decodePairs Y content = .ok pairs) :
    Option.Rel (Decodes Y) (findChild key content) (field pairs.1 key) := by
  induction content using findChild.induct key generalizing pairs with
  | case1 k node rest here =>
    obtain ⟨later,-,⟨merge,-⟩ | ⟨-,text,v,named,decodes,rfl⟩⟩ := decodePairs_cons read
    · rw [not_isMerge (here ▸ search.not_merge)] at merge
      cases merge
    · rw [findChild,if_pos here,keyText_searchable (here ▸ search) named]
      simp only [Option.elim_some,field_cons,if_pos here]
      exact .some decodes
  | case2 k node rest elsewhere ih =>
    obtain ⟨later,rest,⟨-,-,-,rfl⟩ | ⟨-,text,v,named,-,rfl⟩⟩ := decodePairs_cons read
    · have later := ih rest
      rw [findChild,if_neg elsewhere]
      exact later
    · rw [findChild,if_neg elsewhere]
      cases text with
      | none => exact ih rest
      | some text =>
        simp only [Option.elim_some,field_cons]
        rw [if_neg (keyText_value named ▸ elsewhere)]
        exact ih rest
  | case3 content short =>
    obtain rfl := nil_of_short short read
    cases read
    exact .none

theorem list_of_pairs (search : Searchable key) (entries : Pairs Y content pairs)
    (found : findChild key content = some (.sequence items)) :
    ∃ values, field pairs.1 key = some (.list values) ∧ Forall₂ (Decodes Y) items values := by
  have child := find_of_pairs search entries.read
  rw [found] at child
  generalize field pairs.1 key = slot at child ⊢
  cases child with
  | some decodes =>
    obtain ⟨values,rfl,each⟩ := decodes_sequence.mp decodes
    exact ⟨values,rfl,each⟩

theorem missing_of_pairs (search : Searchable key) (entries : Pairs Y content pairs) :
    findChild key content = none ↔ field pairs.1 key = none := by
  have child := find_of_pairs search entries.read
  generalize findChild key content = c, field pairs.1 key = slot at child ⊢
  cases child <;> simp

theorem item_of_mem (each : Forall₂ (Decodes Y) items values) (mem : v ∈ values) :
    ∃ item ∈ items, Decodes Y item v :=
  Table.related_of_mem each.flip mem

end

def strNode (text : String) : Node := .scalar "!!str" text

def mapNode (pairs : List (String × Node)) : Node :=
  .mapping (pairs.flatMap (fun p => [strNode p.1,p.2]))

theorem decodes_str (text : String) : Decodes Y (strNode text) (.string text) :=
  decodes_scalar.mpr (Y.resolve_string text)

mutual

def sameNode : Node → Node → Bool
  | .scalar tag text, .scalar tag' text' => tag == tag' && text == text'
  | .sequence items, .sequence items' => sameNodes items items'
  | .mapping content, .mapping content' => sameNodes content content'
  | _, _ => false

def sameNodes : List Node → List Node → Bool
  | [], [] => true
  | n :: ns, m :: ms => sameNode n m && sameNodes ns ms
  | _, _ => false

end

def resolveCore (tag text : String) : Except String Value :=
  if tag = "!!str" then .ok (.string text)
  else if tag = "!!int" ∧ text.toList.all Char.isDigit then
    .ok (.int (text.toList.foldl (fun n c => 10 * n + (c.toNat - 48 : Nat)) 0))
  else if tag = "!!null" ∧ text ∈ nullTexts then .ok .null
  else .error "cannot decode"

/-- The library on some files and their documents. -/
def fileLibrary (files : List (String × Node)) : Library where
  resolve := resolveCore
  parse text :=
    match files.lookup text with
    | some n => .ok (some n)
    | none => .error "did not find expected node content"
  render n := ((files.find? (fun file => sameNode file.2 n)).map Prod.fst).getD ""
  complain _ := "cannot unmarshal into map[string]interface \x7b\x7d"
  resolve_leaf := by
    intro tag text v resolved
    unfold resolveCore at resolved
    split at resolved
    · cases resolved
      trivial
    split at resolved
    · cases resolved
      trivial
    split at resolved
    · cases resolved
      trivial
    · cases resolved
  resolve_string _ := rfl
  resolve_null := by
    intro tag text resolved
    unfold resolveCore at resolved
    split at resolved
    · cases resolved
    split at resolved
    · cases resolved
    split at resolved
    · rename_i null
      exact null.2
    · cases resolved

theorem parse_of_lookup (here : Y = fileLibrary files) (stored : files.lookup text = some n) :
    Y.parse text = .ok (some n) := by
  subst here
  simp [fileLibrary,stored]

end Pilot.Yaml
