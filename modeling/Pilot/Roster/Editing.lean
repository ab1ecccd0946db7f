import Pilot.Roster.AuthPolicy
import Pilot.Roster.Removal
import Pilot.Yaml.Rewrite

/-!
Adding and replacing users and groups by several processes, after
`internal/inventory/roster.go`: a process simulates its edit on the file as it
is, and writes if nothing is violated. The write is atomic, but it edits the
file it finds and checks nothing itself, so what was simulated need not be what
is written. A write also sees only the lists that stand in the document itself:
one that comes from a merge key is replaced where the simulation adds to it. A
file is its parsed document.
-/
namespace Pilot.Roster
open Yaml List

/-- A library that reads the booleans it writes. -/
structure Encoder extends Library where
  resolve_true : resolve "!!bool" "true" = .ok (.bool true)

/-- An entry: the fields of a caller, and the node `Encode` makes of them. -/
structure EncodedEntry (Y : Library) where
  fields : Fields
  node : Node
  decodes : Decodes Y node (.map fields)

theorem decodes_stub (decodes : Decodes Y node v) (differ : key ∉ ["name","state"]) :
    Decodes Y (mapNode [("name",strNode name),("state",strNode "present"),(key,node)])
      (.map [("name",.string name),("state",.string "present"),(key,v)]) := by
  have none : decodePairs Y [] = .ok ([], []) := by rw [decodePairs]
  refine decodes_mapping.mpr ⟨_,⟨?_,decodePairs_str (decodes_str name)
    (decodePairs_str (decodes_str "present") (decodePairs_str decodes none))⟩,rfl⟩
  simp only [mem_cons,not_mem_nil,or_false,not_or] at differ
  simp [uniqueKeys,keysOf,strNode,Node.kind,Node.value,Ne.symm differ.1,Ne.symm differ.2]

section
variable (E : Encoder)

def rosterUserStub (name : String) : EncodedEntry E.toLibrary where
  fields := [("name",.string name),("state",.string "present"),("enabled",.bool true)]
  node := mapNode [("name",strNode name),("state",strNode "present"),("enabled",.scalar "!!bool" "true")]
  decodes := decodes_stub (decodes_scalar.mpr E.resolve_true) (by decide)

def rosterGroupStub (name category : String) : EncodedEntry E.toLibrary where
  fields := [("name",.string name),("state",.string "present"),("category",.string category)]
  node := mapNode [("name",strNode name),("state",strNode "present"),("category",strNode category)]
  decodes := decodes_stub (decodes_str category) (by decide)

end

def assign (m : Fields) (key : String) (v : Value) : Fields :=
  if (field m key).isSome then alter key (fun _ => v) m else m ++ [(key,v)]

section
variable (F : Formats)

def simulateAdd (kind : EntryKind) (root stub : Fields) : List RosterViolation :=
  validateRoster F (assign root kind.listKey (.list (listField root kind.listKey ++ [.map stub])))

def simulateSet (kind : EntryKind) (path : String) (root : Fields) (name : String) (updated : Fields) :
    Except String (Option (List RosterViolation)) :=
  let entries := listField root kind.listKey
  if (findNamedEntry entries name).2 then
    .error (s!"roster {path}: name {F.quote name} is ambiguous (more than one {kind.noun} already has it); fix " ++
      "the duplicate by hand first")
  else
    match (findNamedEntry entries name).1 with
    | none => .ok none
    | some idx => .ok (some (validateRoster F (assign root kind.listKey (.list (entries.set idx (.map updated))))))

variable {E : Encoder}

def simulateAddRosterUser (E : Encoder) (root : Fields) (name : String) : List RosterViolation :=
  simulateAdd F .user root (rosterUserStub E name).fields

def simulateAddRosterGroup (E : Encoder) (root : Fields) (name category : String) : List RosterViolation :=
  simulateAdd F .group root (rosterGroupStub E name category).fields

def simulateSetRosterUser (path : String) (root : Fields) (name : String) (updated : Fields) :
    Except String (Option (List RosterViolation)) :=
  simulateSet F .user path root name updated

def simulateSetRosterGroup (path : String) (root : Fields) (name : String) (updated : Fields) :
    Except String (Option (List RosterViolation)) :=
  simulateSet F .group path root name updated

end

/-- Appends to the content of a list. The content of a scalar is not rendered,
    and neither is a last key of a mapping that has no value. -/
def appendItem (entry : Node) : Node → Node
  | .sequence items => .sequence (items ++ [entry])
  | n => n

section
variable (Y : Library) (F : Formats)

def appendTopLevelRosterEntry (path listKey : String) (stub : Node) : Node → Except String Node
  | .mapping content =>
    .ok (editKey listKey (appendItem stub) (mappingChild (.mapping content) listKey (.sequence [])))
  | _ => .error s!"roster {path}: expected a top-level YAML mapping"

def indexStep (path listKey name : String) (found : Option Nat) (item : Node × Nat) :
    Except String (Option Nat) := do
  let m ← wrapError s!"decode roster {path} {listKey} entry {item.2}: " (decodeMap Y item.1)
  if stringField m "name" ≠ name then return found
  else if found.isSome then
    .error (s!"roster {path}: name {F.quote name} is ambiguous (more than one {listKey} entry already has it); " ++
      "fix the duplicate by hand first")
  else return some item.2

def replaceTopLevelRosterEntry (path listKey name : String) (updated : Node) : Node → Except String Node
  | .mapping content =>
    match findMappingChild (.mapping content) listKey with
    | some (.sequence items) => do
      match ← items.zipIdx.foldlM (indexStep Y F path listKey name) none with
      | none => .error s!"roster {path}: no {listKey} entry named {F.quote name}"
      | some idx => return editKey listKey (fun _ => .sequence (items.set idx updated)) (.mapping content)
    | _ => .error s!"roster {path}: no {listKey} entry named {F.quote name} (no {listKey}: list)"
  | _ => .error s!"roster {path}: expected a top-level YAML mapping"

end

inductive RosterEdit (E : Encoder) where
  | addUser (name : String)
  | addGroup (name category : String)
  | setUser (name : String) (updated : EncodedEntry E.toLibrary)
  | setGroup (name : String) (updated : EncodedEntry E.toLibrary)

def RosterEdit.kind : RosterEdit E → EntryKind
  | addUser _ | setUser .. => .user
  | addGroup .. | setGroup .. => .group

section
variable (F : Formats) {E : Encoder}

def RosterEdit.reportsNone (path : String) (root : Fields) : RosterEdit E → Bool
  | addUser name => (simulateAddRosterUser F E root name).isEmpty
  | addGroup name category => (simulateAddRosterGroup F E root name category).isEmpty
  | setUser name updated =>
    match simulateSetRosterUser F path root name updated.fields with
    | .ok (some violations) => violations.isEmpty
    | _ => false
  | setGroup name updated =>
    match simulateSetRosterGroup F path root name updated.fields with
    | .ok (some violations) => violations.isEmpty
    | _ => false

def RosterEdit.passes (path : String) (edit : RosterEdit E) (top : Node) : Bool :=
  match decodeMap E.toLibrary top with
  | .ok root => edit.reportsNone F path root
  | .error _ => false

def RosterEdit.write (path : String) (top : Node) : RosterEdit E → Except String Node
  | addUser name => appendTopLevelRosterEntry path "users" (rosterUserStub E name).node top
  | addGroup name category =>
    appendTopLevelRosterEntry path "groups" (rosterGroupStub E name category).node top
  | setUser name updated => replaceTopLevelRosterEntry E.toLibrary F path "users" name updated.node top
  | setGroup name updated => replaceTopLevelRosterEntry E.toLibrary F path "groups" name updated.node top

end

/-- The file, and the edits that were checked and are not written yet. -/
structure Editing (Proc : Type) (E : Encoder) where
  file : Node
  checked : Proc → Option (RosterEdit E)

inductive EditAct (Proc : Type) (E : Encoder) where
  | check (process : Proc) (edit : RosterEdit E)
  | write (process : Proc)
  /-- The lock is held by another process, or the write fails. -/
  | giveUp (process : Proc)

section
variable (F : Formats) (path : String) {Proc : Type} [DecidableEq Proc] {E : Encoder}

def Editing.act (s : Editing Proc E) : EditAct Proc E → Editing Proc E
  | .check p edit =>
    { s with checked := Function.update s.checked p (if edit.passes F path s.file then some edit else none) }
  | .write p =>
    match s.checked p with
    | none => s
    | some edit =>
      { file := (edit.write F path s.file).toOption.getD s.file,
        checked := Function.update s.checked p none }
  | .giveUp p => { s with checked := Function.update s.checked p none }

def Editing.run (s : Editing Proc E) (acts : List (EditAct Proc E)) : Editing Proc E :=
  acts.foldl (Editing.act F path) s

def ValidFile (E : Encoder) (top : Node) : Prop :=
  ∃ root, decodeMap E.toLibrary top = .ok root ∧ validateRoster F root = []

/-- The roster as a write sees it: without a list that comes from a merge key. -/
def EntryKind.seen (kind : EntryKind) (top : Node) (root : Fields) : Fields :=
  if (findMappingChild top kind.listKey).isSome then root
  else root.filter (fun e => e.1 ≠ kind.listKey)

/-- A process that is about to write would pass its check again on the roster
    its write sees, if the write changes the file at all. -/
def Rechecked (s : Editing Proc E) (p : Proc) : Prop :=
  ∀ edit top root, s.checked p = some edit → edit.write F path s.file = .ok top →
    decodeMap E.toLibrary s.file = .ok root →
    top = s.file ∨ edit.reportsNone F path (edit.kind.seen s.file root) = true

end

section
variable {Y : Library} {m root : Fields} {key : String} {v : Value} {top n : Node} {content : List Node}
  {pairs : Fields × Fields}

theorem editChild_same (same : ∀ c, findChild key content = some c → f c = c) :
    editChild key f content = content := by
  induction content using findChild.induct key with
  | case1 k c rest here =>
    rw [editChild,if_pos here,same c (by rw [findChild,if_pos here])]
  | case2 k c rest elsewhere ih =>
    rw [editChild,if_neg elsewhere,ih (fun d found => same d (by rw [findChild,if_neg elsewhere,found]))]
  | case3 rest short => rw [editChild.eq_2 _ _ _ short]

theorem alter_append_of_missing (missing : field m key = none) :
    alter key f (m ++ [(key,v)]) = m ++ [(key,f v)] := by
  induction m with
  | nil => simp [alter]
  | cons entry rest ih =>
    obtain ⟨k,w⟩ := entry
    rw [field_cons] at missing
    split at missing
    · cases missing
    · rename_i elsewhere
      rw [cons_append,alter,if_neg elsewhere,ih missing,cons_append]

theorem field_filter_ne : field (m.filter (fun e => e.1 ≠ key)) key = none := by
  rw [field,Option.map_eq_none_iff,find?_eq_none]
  intro e mem
  simpa using (mem_filter.mp mem).2

/-- An appended entry takes the place of a merged one. -/
theorem withMerged_append (missing : field pairs.1 key = none) :
    withMerged (pairs.1 ++ [(key,v)],pairs.2) =
      (withMerged pairs).filter (fun e => e.1 ≠ key) ++ [(key,v)] := by
  have own : pairs.1.filter (fun e => e.1 ≠ key) = pairs.1 := by
    rw [filter_eq_self]
    intro e mem
    have listed : (field pairs.1 e.1).isSome = true := mem_keys_iff.mp (mem_map_of_mem mem)
    refine decide_eq_true fun same => ?_
    rw [same,missing] at listed
    cases listed
  rw [withMerged,withMerged,filter_append,own,filter_filter,append_assoc]
  congr 1
  refine filter_congr fun e _ => ?_
  by_cases same : e.1 = key
  · simp [field_append,field_cons,same]
  · simp [same,Ne.symm same,field]

variable {entry : EncodedEntry Y}

theorem append_cases (path : String) (kind : EntryKind) (entries : Pairs Y content pairs)
    (ok : appendTopLevelRosterEntry path kind.listKey entry.node (.mapping content) = .ok written) :
    written = .mapping content ∨
      decodeMap Y written = .ok (assign (kind.seen (.mapping content) (withMerged pairs)) kind.listKey
        (.list (listField (kind.seen (.mapping content) (withMerged pairs)) kind.listKey ++
          [.map entry.fields]))) := by
  cases ok
  have search : Searchable kind.listKey := by cases kind <;> decide
  have fresh : Decodes Y (.sequence [entry.node]) (.list [.map entry.fields]) :=
    decodes_sequence.mpr ⟨_,rfl,.cons entry.decodes .nil⟩
  unfold EntryKind.seen
  cases found : findChild kind.listKey content with
  | none =>
    right
    have missing := (missing_of_pairs search entries).mp found
    have appended := pairs_ensureKey search (decodes_sequence.mpr ⟨[],rfl,.nil⟩) entries
    have edited := pairs_edit (f := appendItem entry.node) (g := fun _ => .list [.map entry.fields])
      search (by
        intro c v there _
        rw [ensureKey,found,if_neg (by simp),findChild_append entries.read,found] at there
        cases show some (Node.sequence []) = some c by simpa [findChild,strNode,Node.value] using there
        exact fresh) appended
    rw [if_neg (by simp [findMappingChild,Node.content,found])]
    refine decodeMap_mapping.mpr ⟨_,edited,?_⟩
    rw [assign,field_filter_ne,if_neg (by simp),listField,field_filter_ne,ensure,missing,
      if_neg (by simp),alter_append_of_missing missing,withMerged_append missing]
    rfl
  | some c =>
    have there : (findMappingChild (.mapping content) kind.listKey).isSome = true :=
      Option.isSome_iff_exists.mpr ⟨c,found⟩
    have same : ensureKey kind.listKey (.sequence []) content = content := by
      rw [ensureKey,found]
      rfl
    rw [if_pos there]
    change Node.mapping (editChild _ _ (ensureKey _ _ content)) = _ ∨ decodeMap Y (.mapping
      (editChild _ _ (ensureKey _ _ content))) = _
    rw [same]
    cases c with
    | scalar tag text | mapping items =>
      left
      rw [editChild_same]
      intro d here
      cases found.symm.trans here
      rfl
    | sequence items =>
      right
      obtain ⟨values,stored,each⟩ := list_of_pairs search entries found
      have root : field (withMerged pairs) kind.listKey = some (.list values) := by
        rw [field_withMerged,stored]
        rfl
      have edited := pairs_edit (f := appendItem entry.node)
        (g := fun _ => .list (values ++ [.map entry.fields])) search (by
          intro c v here _
          cases found.symm.trans here
          exact decodes_sequence.mpr ⟨_,rfl,rel_append each (.cons entry.decodes .nil)⟩) entries
      refine decodeMap_mapping.mpr ⟨_,edited,?_⟩
      rw [withMerged_alter (by rw [stored]; rfl),assign,root,if_pos (by rfl),listField,root]
      rfl

section
variable {items : List Node} {values : List Value} (each : Forall₂ (Decodes Y) items values)
include each

theorem index_of_items (maps : ∀ v ∈ values, ∃ m, v = .map m)
    (ok : (items.zipIdx first).foldlM (indexStep Y F path key name) acc = .ok found) :
    (acc = none → found = (values.findIdx? (isNamed name)).map (· + first) ∧
      values.countP (isNamed name) ≤ 1) ∧
    (∀ i, acc = some i → found = some i ∧ values.countP (isNamed name) = 0) := by
  induction each generalizing first acc with
  | nil =>
    cases ok
    refine ⟨?_,?_⟩
    · intro empty
      exact ⟨empty,by simp⟩
    · intro i have_
      exact ⟨have_,by simp⟩
  | @cons item v items values decodes later ih =>
    rw [zipIdx_cons,foldlM_cons] at ok
    obtain ⟨next,stepped,rest⟩ := Fold.bind_ok ok
    obtain ⟨m,read,step⟩ := Fold.bind_ok stepped
    obtain ⟨fields,rfl⟩ := maps v mem_cons_self
    have others : ∀ w ∈ values, ∃ m, w = .map m := fun w mem => maps w (mem_cons_of_mem _ mem)
    cases (decodeMap_of_decodes decodes).symm.trans (wrapError_ok.mp read)
    have named : isNamed name (.map m) = (stringField m "name" == name) := rfl
    split at step
    · rename_i other
      cases step
      have miss : isNamed name (.map m) = false := by
        rw [named]
        simpa using other
      obtain ⟨fresh,kept⟩ := ih others rest
      constructor
      · intro empty
        obtain ⟨is,few⟩ := fresh empty
        rw [findIdx?_cons,miss,countP_cons_of_neg (by simp [miss])]
        refine ⟨?_,few⟩
        rw [is]
        simp only [Bool.false_eq_true,if_false,Option.map_map]
        congr 1
        funext i
        simp only [Function.comp]
        omega
      · intro i have_
        rw [countP_cons_of_neg (by simp [miss])]
        exact kept i have_
    · rename_i same
      have hit : isNamed name (.map m) = true := by
        rw [named]
        simpa using same
      split at step
      · cases step
      rename_i empty
      cases step
      obtain ⟨is,none_⟩ := (ih others rest).2 first rfl
      constructor
      · intro _
        rw [findIdx?_cons,hit,countP_cons_of_pos hit,none_]
        exact ⟨by simpa using is,le_rfl⟩
      · intro i have_
        rw [have_] at empty
        simp at empty

theorem forall₂_set (idx : Nat) (decodes : Decodes Y item v) :
    Forall₂ (Decodes Y) (items.set idx item) (values.set idx v) := by
  induction each generalizing idx with
  | nil => exact .nil
  | cons first later ih =>
    cases idx with
    | zero => exact .cons decodes later
    | succ idx => exact .cons first (ih idx)

end

theorem replace_cases (kind : EntryKind) (entries : Pairs Y content pairs)
    (maps : ∀ v ∈ listField (withMerged pairs) kind.listKey, ∃ m, v = .map m)
    (ok : replaceTopLevelRosterEntry Y F path kind.listKey name entry.node (.mapping content) = .ok written) :
    kind.seen (.mapping content) (withMerged pairs) = withMerged pairs ∧
    ∃ idx, findNamedEntry (listField (withMerged pairs) kind.listKey) name = (some idx,false) ∧
      decodeMap Y written = .ok (assign (withMerged pairs) kind.listKey
        (.list ((listField (withMerged pairs) kind.listKey).set idx (.map entry.fields)))) := by
  have search : Searchable kind.listKey := by cases kind <;> decide
  dsimp only [replaceTopLevelRosterEntry] at ok
  split at ok
  · rename_i items listed
    have listed : findChild kind.listKey content = some (.sequence items) := listed
    obtain ⟨values,stored,each⟩ := list_of_pairs search entries listed
    have root : listField (withMerged pairs) kind.listKey = values := by
      rw [listField,field_withMerged,stored]
      rfl
    obtain ⟨found,searched,rest⟩ := Fold.bind_ok ok
    obtain ⟨is,few⟩ := (index_of_items each (root ▸ maps) searched).1 rfl
    cases found with
    | none => cases rest
    | some idx =>
      cases rest
      have index : values.findIdx? (isNamed name) = some idx := by simpa using is.symm
      refine ⟨if_pos (Option.isSome_iff_exists.mpr ⟨_,listed⟩),idx,?_,?_⟩
      · rw [findNamedEntry,root,index,decide_eq_false (by omega)]
      have edited := pairs_edit (g := fun _ => .list (values.set idx (.map entry.fields))) search
        (fun _ _ _ _ => decodes_sequence.mpr ⟨_,rfl,forall₂_set each idx entry.decodes⟩) entries
      refine decodeMap_mapping.mpr ⟨_,edited,?_⟩
      rw [withMerged_alter (by rw [stored]; rfl),assign,field_withMerged,stored,root]
      rfl
  · cases ok

end

section
variable {F : Formats} {path : String} {E : Encoder} {top written : Node} {root : Fields}
  {edit : RosterEdit E}

theorem set_reports (found : findNamedEntry (listField root kind.listKey) name = (some idx,false)) :
    simulateSet F kind path root name updated = .ok (some (validateRoster F
      (assign root kind.listKey (.list ((listField root kind.listKey).set idx (.map updated)))))) := by
  unfold simulateSet
  dsimp only
  rw [found]
  rfl

theorem mapping_of_valid (decoded : decodeMap Y top = .ok root) (valid : validateRoster F root = []) :
    ∃ content pairs, top = .mapping content ∧ Pairs Y content pairs ∧ root = withMerged pairs := by
  refine mapping_of_decodeMap decoded ?_
  rintro rfl
  cases valid

/-- What a write makes of a valid roster is valid if the simulation says so of
    the roster the write sees. -/
theorem write_cases (decoded : decodeMap E.toLibrary top = .ok root) (valid : validateRoster F root = [])
    (ok : edit.write F path top = .ok written) :
    written = top ∨ ∃ root', decodeMap E.toLibrary written = .ok root' ∧
      (edit.reportsNone F path (edit.kind.seen top root) = true ↔ validateRoster F root' = []) := by
  obtain ⟨content,pairs,rfl,entries,rfl⟩ := mapping_of_valid decoded valid
  cases edit with
  | addUser name =>
    exact (append_cases path .user entries ok).imp id (fun made => ⟨_,made,isEmpty_iff⟩)
  | addGroup name category =>
    exact (append_cases path .group entries ok).imp id (fun made => ⟨_,made,isEmpty_iff⟩)
  | setUser name updated =>
    right
    obtain ⟨seen,idx,found,made⟩ := replace_cases .user entries (maps_of_valid F .user valid) ok
    refine ⟨_,made,?_⟩
    rw [RosterEdit.kind,seen,RosterEdit.reportsNone,simulateSetRosterUser,set_reports found]
    exact isEmpty_iff
  | setGroup name updated =>
    right
    obtain ⟨seen,idx,found,made⟩ := replace_cases .group entries (maps_of_valid F .group valid) ok
    refine ⟨_,made,?_⟩
    rw [RosterEdit.kind,seen,RosterEdit.reportsNone,simulateSetRosterGroup,set_reports found]
    exact isEmpty_iff

theorem validFile_of_decoded (decoded : decodeMap E.toLibrary top = .ok root) :
    ValidFile F E top ↔ validateRoster F root = [] := by
  rw [ValidFile,decoded]
  constructor
  · intro ⟨_,same,valid⟩
    cases same
    exact valid
  · intro valid
    exact ⟨root,rfl,valid⟩

end

section
variable {F : Formats} {path : String} {Proc : Type} [DecidableEq Proc] {E : Encoder}
  {s : Editing Proc E}

theorem act_file (F : Formats) (path : String) (s : Editing Proc E) (a : EditAct Proc E) :
    (s.act F path a).file = s.file ∨
    ∃ p edit written, a = .write p ∧ s.checked p = some edit ∧
      edit.write F path s.file = .ok written ∧ (s.act F path a).file = written := by
  cases a with
  | check p edit | giveUp p => exact .inl rfl
  | write p =>
    cases pending : s.checked p with
    | none =>
      left
      simp only [Editing.act,pending]
    | some edit =>
      cases ok : edit.write F path s.file with
      | error err =>
        left
        simp [Editing.act,pending,ok,Except.toOption]
      | ok written =>
        right
        exact ⟨p,edit,written,rfl,pending,ok,by simp [Editing.act,pending,ok,Except.toOption]⟩

theorem run_snoc (acts : List (EditAct Proc E)) (a : EditAct Proc E) :
    s.run F path (acts ++ [a]) = (s.run F path acts).act F path a := by
  simp [Editing.run]

theorem act_valid_iff (valid : ValidFile F E s.file) (a : EditAct Proc E) :
    ValidFile F E (s.act F path a).file ↔ ∀ p, a = .write p → Rechecked F path s p := by
  obtain ⟨root,decoded,clean⟩ := valid
  constructor
  · intro after p isWrite edit written now pending ok read
    cases decoded.symm.trans read
    have file : (s.act F path a).file = written := by
      subst isWrite
      simp [Editing.act,pending,ok,Except.toOption]
    apply (write_cases decoded clean ok).imp id
    intro ⟨root',made,agree⟩
    rw [file] at after
    exact agree.mpr ((validFile_of_decoded made).mp after)
  · intro rechecked
    obtain same | ⟨p,edit,written,isWrite,pending,ok,is⟩ := act_file F path s a
    · rw [same]
      exact ⟨root,decoded,clean⟩
    rw [is]
    obtain same | ⟨root',made,agree⟩ := write_cases decoded clean ok
    · rw [same]
      exact ⟨root,decoded,clean⟩
    obtain same | passes := rechecked p isWrite edit written root pending ok decoded
    · rw [same]
      exact ⟨root,decoded,clean⟩
    · exact (validFile_of_decoded made).mpr (agree.mp passes)

/-- A check holds until the next write, if the list it adds to is not a merged
    one. -/
theorem rechecked_of_check (p : Proc) (edit : RosterEdit E)
    (whole : ∀ root, decodeMap E.toLibrary s.file = .ok root → edit.kind.seen s.file root = root) :
    Rechecked F path (s.act F path (.check p edit)) p := by
  intro other written root pending _ decoded
  right
  change (Function.update s.checked p _) p = some other at pending
  rw [Function.update_self] at pending
  split at pending
  · rename_i passes
    cases pending
    change edit.reportsNone F path (edit.kind.seen s.file root) = true
    have decoded : decodeMap E.toLibrary s.file = .ok root := decoded
    rw [RosterEdit.passes,decoded] at passes
    rw [whole root decoded]
    exact passes
  · cases pending

end

section Sample

def editLibrary : Library :=
  { fileLibrary [] with
    resolve tag text := if tag = "!!bool" ∧ text = "true" then .ok (.bool true) else resolveCore tag text
    resolve_leaf := by
      intro tag text v resolved
      split at resolved
      · cases resolved
        trivial
      · exact (fileLibrary []).resolve_leaf resolved
    resolve_string := fun _ => rfl
    resolve_null := by
      intro tag text resolved
      split at resolved
      · cases resolved
      · exact (fileLibrary []).resolve_null resolved }

def editEncoder : Encoder := { editLibrary with resolve_true := rfl }

def emptyRosterFile : Node := mapNode [("schema_version",.scalar "!!int" "1")]

instance (F : Formats) (E : Encoder) (top : Node) : Decidable (ValidFile F E top) :=
  match read : decodeMap E.toLibrary top with
  | .ok root => decidable_of_iff (validateRoster F root = []) (by simp [ValidFile,read])
  | .error _ => isFalse (by simp [ValidFile,read])

theorem emptyRosterFile_valid : ValidFile plainFormats editEncoder emptyRosterFile := by
  decide +kernel

end Sample

end Pilot.Roster
