import Pilot.Roster.AuthPolicy
import Pilot.Roster.Referring
import Pilot.Roster.Removal
import Pilot.Yaml.Places

/-!
The fields that still name a user or a group after its removal with a
cascade. The written roster is valid and has no entry of the name, so a field
that has to name an entry does not name it. Of the other fields the cascade
edits some, and misses a name there that a merge key supplies or that is
written in another form than its text; the rest stay as they are.
-/
namespace Pilot.Roster
open Yaml List EntryKind

def HasName (name : String) (v : Value) : Prop := name ∈ (asList (some v)).filterMap stringOf

def SomeItem (P : Node → Prop) : Node → Prop
  | .sequence items => ∃ item ∈ items, P item
  | _ => False

def rulePath (part block key : String) : List Step :=
  [.child part,.child "rules",.items,.child block,.child key]

def grantPath (block key : String) : List Step := [.child "grants",.items,.child block,.child key]

section
variable (Y : Library)

/-- The item decodes to the name and has another text, as a `!!binary` one. -/
def Hidden (name : String) (item : Node) : Prop := Decodes Y item (.string name) ∧ item.value ≠ name

/-- A list at the path has the name where the cascade does not see it: in a
    hidden item, or through a merge key. -/
def Missed (name : String) (path : List Step) (top : Node) : Prop :=
  RootHasAt Y (SomeItem (Hidden Y name)) (HasName name) path top

end

/-- The fields a removal neither edits nor checks. A grant may name `admin`
    without an entry. -/
def EntryKind.unguardedFields (name : String) : EntryKind → Fields → List String
  | user, root => runAsFields root "users" ++ requestersOf (entriesOf root "grants") ++
    if name = "admin" then
      namesUnder (entriesOf root "grants") "subjects" "users" ++ reviewersOf (entriesOf root "grants")
    else []
  | group, root => namesUnder (entriesOf root "grants") "run_as" "groups"

/-- The lists a removal edits and does not check. -/
def EntryKind.uncheckedLists (name : String) : EntryKind → List (List Step)
  | user => if name = "admin" then [rulePath "hbac" "subjects" "users",rulePath "sudo" "subjects" "users"]
    else []
  | group => [rulePath "sudo" "run_as" "groups"]

section
variable {root e : Fields} {name list block key : String} {entries : List Fields} {P : Value → Prop} {v : Value}

theorem hasAt_block :
    HasAt P [.child block,.child key] v ↔ ∃ w, field (mapField (asMap (some v)) block) key = some w ∧ P w := by
  rw [HasAt,mapField]
  cases field (asMap (some v)) block with
  | none => simp [asMap,field]
  | some w => simp [HasAt]

theorem hasAt_entries : (∃ w, field root list = some w ∧ HasAt P [.items,.child block,.child key] w) ↔
    ∃ e ∈ maps (listField root list), ∃ w, field (mapField e block) key = some w ∧ P w := by
  rw [listField,maps]
  cases field root list with
  | none => simp [asList]
  | some w =>
    simp only [Option.some.injEq,exists_eq_left',mem_map,exists_exists_and_eq_and]
    rw [HasAt]
    simp only [hasAt_block]

theorem hasAt_grants : HasAt P (grantPath block key) (.map root) ↔
    ∃ e ∈ entriesOf root "grants", ∃ w, field (mapField e block) key = some w ∧ P w :=
  hasAt_entries

theorem hasAt_rules : HasAt P (rulePath part block key) (.map root) ↔
    ∃ e ∈ entriesIn root part "rules", ∃ w, field (mapField e block) key = some w ∧ P w := by
  rw [entriesIn,← hasAt_entries,mapField]
  change (∃ w, field root part = some w ∧ ∃ u, field (asMap (some w)) "rules" = some u ∧ _) ↔ _
  cases field root part with
  | none => simp [asMap,field]
  | some w => simp

theorem listed_iff : (∃ e ∈ entries, ∃ w, field (mapField e block) key = some w ∧ HasName name w) ↔
    name ∈ namesUnder entries block key := by
  rw [mem_namesUnder]
  refine exists_congr fun e => and_congr_right fun _ => ?_
  rw [stringListField,listField]
  cases field (mapField e block) key with
  | none => simp [asList]
  | some w => simp [HasName]

theorem stringField_iff (named : name ≠ "") :
    (∃ w, field e key = some w ∧ w = .string name) ↔ stringField e key = name := by
  rw [stringField]
  cases field e key with
  | none => simpa [asString] using named.symm
  | some w => cases w <;> simp [asString,named.symm]

theorem text_iff (named : name ≠ "") :
    (∃ e ∈ entries, ∃ w, field (mapField e block) key = some w ∧ w = .string name) ↔
      name ∈ textsIn entries block key := by
  rw [textsIn,mem_map]
  exact exists_congr fun e => and_congr_right fun _ => stringField_iff named

end

section
variable {Y : Library} {name : String} {n : Node} {v : Value}

theorem lists_of_decodes (decodes : Decodes Y n v) :
    HasName name v ↔ SomeItem (fun item => Decodes Y item (.string name)) n := by
  cases n with
  | scalar tag text =>
    have leaf := Y.resolve_leaf (decodes_scalar.mp decodes)
    refine iff_of_false ?_ id
    cases v <;> first | cases leaf; done | simp [HasName,asList]
  | mapping content =>
    obtain ⟨pairs,-,rfl⟩ := decodes_mapping.mp decodes
    refine iff_of_false ?_ id
    unfold mappingValue
    split <;> simp [HasName,asList]
  | sequence items =>
    obtain ⟨values,rfl,each⟩ := decodes_sequence.mp decodes
    clear decodes
    change name ∈ values.filterMap stringOf ↔ ∃ item ∈ items, Decodes Y item (.string name)
    induction each with
    | nil => simp
    | @cons item w items values first _ ih =>
      rw [exists_mem_cons_iff,← ih,Decodes,first]
      cases w <;> simp [stringOf,filterMap_cons,eq_comm]

theorem text_of_decodes (decodes : Decodes Y n v) : v = .string name ↔ Decodes Y n (.string name) := by
  rw [Decodes,decodes]
  simp

theorem scalar_of_decodes (decodes : Decodes Y n (.string name)) : n.kind = .scalar := by
  cases n with
  | scalar tag text => rfl
  | sequence items =>
    obtain ⟨values,same,-⟩ := decodes_sequence.mp decodes
    cases same
  | mapping content =>
    obtain ⟨pairs,-,same⟩ := decodes_mapping.mp decodes
    unfold mappingValue at same
    split at same <;> cases same

theorem someItem_removeScalar :
    SomeItem (fun item => Decodes Y item (.string name)) (removeScalarFromNodeSequence name n) ↔
      SomeItem (Hidden Y name) n := by
  cases n with
  | scalar tag text | mapping content => exact Iff.rfl
  | sequence items =>
    change (∃ item ∈ items.filter _, _) ↔ ∃ item ∈ items, _
    refine exists_congr fun item => ?_
    rw [mem_filter,and_assoc,Hidden,and_comm (a := (!_) = true)]
    refine and_congr_right fun _ => and_congr_right fun decodes => ?_
    simp [scalar_of_decodes decodes]

end

/-! The places of a path after the removal. -/

section
variable {Y : Library} {kind : EntryKind} {name : String} {top : Node} {root written : Fields}
  {path : List Step} {N : Node → Prop} {P : Value → Prop} {edits : List (List Step × Prune)}

theorem edits_searchable (kind : EntryKind) : ∀ e ∈ kind.edits, ∀ step ∈ e.1, step.Searchable := by
  cases kind <;> decide

theorem edits_nodup (kind : EntryKind) : (kind.edits.map Prod.fst).Nodup := by
  cases kind <;> decide

theorem listKey_searchable (kind : EntryKind) : Searchable kind.listKey := by
  cases kind <;> decide

theorem rootHasAt_editNodes_apart (search : ∀ e ∈ edits, ∀ step ∈ e.1, step.Searchable)
    (parts : ∀ e ∈ edits, apart e.1 path = true) :
    RootHasAt Y N P path (editNodes Y edits name top) ↔ RootHasAt Y N P path top := by
  refine Fold.foldl_invariant (I := fun n => RootHasAt Y N P path n ↔ RootHasAt Y N P path top) Iff.rfl ?_
  intro n e mem before
  rw [rootHasAt_edit_apart (search e mem) (parts e mem),before]

theorem rootHasAt_editNodes (search : ∀ e ∈ edits, ∀ step ∈ e.1, step.Searchable)
    (distinct : (edits.map Prod.fst).Nodup) (mem : (path, .names) ∈ edits)
    (parts : ∀ e ∈ edits, e.1 ≠ path → apart e.1 path = true) :
    RootHasAt Y (SomeItem (fun item => Decodes Y item (.string name))) (HasName name) path
      (editNodes Y edits name top) ↔ Missed Y name path top := by
  obtain ⟨before,after,rfl⟩ := append_of_mem mem
  rw [map_append,map_cons,nodup_append,nodup_cons] at distinct
  obtain ⟨-,⟨later,-⟩,earlier⟩ := distinct
  have apartAfter : ∀ e ∈ after, apart e.1 path = true := by
    intro e inside
    refine parts e (by simp [inside]) ?_
    intro same
    exact later (mem_map.mpr ⟨e,inside,same⟩)
  have apartBefore : ∀ e ∈ before, apart e.1 path = true := by
    intro e inside
    refine parts e (by simp [inside]) ?_
    intro same
    exact earlier _ (mem_map_of_mem inside) _ mem_cons_self same
  have split : editNodes Y (before ++ (path, .names) :: after) name top =
      editNodes Y after name (editAt (removeScalarFromNodeSequence name) path
        (editNodes Y before name top)) := by
    rw [editNodes,foldl_append]
    rfl
  rw [split,rootHasAt_editNodes_apart (fun e inside => search e (by simp [inside])) apartAfter,
    rootHasAt_edit (search _ mem)]
  simp only [someItem_removeScalar]
  exact rootHasAt_editNodes_apart (fun e inside => search e (by simp [inside])) apartBefore

theorem withoutEntry_eq : withoutEntry Y kind name true top =
    deleteSequenceEntryByName Y kind.listKey name (editNodes Y kind.edits name top) := by
  cases kind <;> rfl

theorem rootHasAt_withoutEntry (list : apart [.child kind.listKey] path = true) :
    RootHasAt Y N P path (withoutEntry Y kind name true top) ↔
      RootHasAt Y N P path (editNodes Y kind.edits name top) := by
  rw [withoutEntry_eq]
  refine rootHasAt_edit_apart ?_ list
  cases kind <;> decide

variable (decoded : decodeMap Y top = .ok root)
  (rewritten : decodeMap Y (withoutEntry Y kind name true top) = .ok written)
include rewritten

theorem lists_edited (mem : (.child key :: path, .names) ∈ kind.edits)
    (list : apart [.child kind.listKey] (.child key :: path) = true)
    (parts : ∀ e ∈ kind.edits, e.1 ≠ .child key :: path → apart e.1 (.child key :: path) = true) :
    HasAt (HasName name) (.child key :: path) (.map written) ↔ Missed Y name (.child key :: path) top := by
  rw [hasAt_of_decodeMap (fun n v => lists_of_decodes) (edits_searchable kind _ mem) rewritten,
    rootHasAt_withoutEntry list]
  exact rootHasAt_editNodes (edits_searchable kind) (edits_nodup kind) mem parts

include decoded

theorem hasAt_kept (leaf : ∀ n v, Decodes Y n v → (P v ↔ N n))
    (search : ∀ step ∈ .child key :: path, step.Searchable)
    (list : apart [.child kind.listKey] (.child key :: path) = true)
    (parts : ∀ e ∈ kind.edits, apart e.1 (.child key :: path) = true) :
    HasAt P (.child key :: path) (.map written) ↔ HasAt P (.child key :: path) (.map root) := by
  rw [hasAt_of_decodeMap leaf search rewritten,rootHasAt_withoutEntry list,
    rootHasAt_editNodes_apart (edits_searchable kind) parts,hasAt_of_decodeMap leaf search decoded]

end

/-! The entry of the name is gone: the list had one, and no edit of the
cascade names another item. -/

section
variable {Y : Library} {F : Formats} {kind : EntryKind} {name key : String} {top item : Node}
  {items : List Node} {written : Fields} {edits : List (List Step × Prune)}

def Carries (Y : Library) (name : String) (item : Node) : Prop :=
  RootHasAt Y (fun n => Decodes Y n (.string name)) (· = .string name) [.child "name"] item

theorem carries_iff (named : name ≠ "") (decoded : decodeMap Y item = .ok m) :
    Carries Y name item ↔ stringField m "name" = name := by
  rw [Carries,← hasAt_of_decodeMap (fun n v => text_of_decodes) (by decide) decoded]
  exact stringField_iff named

theorem carries_of_decodedName (named : name ≠ "") (read : decodedName Y item = some name) :
    Carries Y name item := by
  unfold decodedName at read
  split at read
  · rename_i m decoded
    exact (carries_iff named decoded).mpr (Option.some.inj read)
  · cases read

theorem single_of_foldlM (named : name ≠ "") {acc found : Option Fields}
    (ok : items.foldlM (entryStep Y F key name) acc = .ok found) :
    (acc.isSome → ∀ item ∈ items, ¬ Carries Y name item) ∧
      items.Pairwise (fun a b => ¬ (Carries Y name a ∧ Carries Y name b)) := by
  induction items generalizing acc with
  | nil => simp
  | cons item items ih =>
    rw [foldlM_cons] at ok
    obtain ⟨mid,step,rest⟩ := Fold.bind_ok ok
    obtain ⟨m,decoded,step⟩ := Fold.bind_ok step
    have same := carries_iff named (wrapError_ok.mp decoded)
    obtain ⟨later,pairs⟩ := ih rest
    rw [pairwise_cons]
    split at step
    · rename_i differ
      cases step
      have other := mt same.mp differ
      exact ⟨fun taken => forall_mem_cons.mpr ⟨other,later taken⟩,fun _ _ both => other both.1,pairs⟩
    split at step
    · cases step
    · rename_i free
      cases step
      exact ⟨fun taken => absurd taken free,fun b mem both => later rfl b mem both.2,pairs⟩

theorem list_of_editAt (Y : Library) (name : String) (search : ∀ step ∈ path, step.Searchable)
    (parts : apart path [.child key,.items,.child "name"] = true)
    (found : findMappingChild top key = some (.sequence items)) :
    ∃ g, findMappingChild (editAt f path top) key = some (.sequence (items.map g)) ∧
      ∀ item, Carries Y name (g item) ↔ Carries Y name item := by
  match path with
  | .child k :: .items :: rest =>
    by_cases here : k = key
    · subst here
      refine ⟨editAt f rest,?_,?_⟩
      · rw [editAt,findMappingChild_edit,found]
        rfl
      · intro item
        have later : apart rest [.child "name"] = true := by simpa [apart] using parts
        exact rootHasAt_edit_apart (fun step mem => search step (by simp [mem])) later
    · refine ⟨id,?_,fun _ => Iff.rfl⟩
      rw [editAt,findMappingChild_edit_of_ne here,found,map_id]
  | [.child k] | .child k :: .child _ :: rest =>
    have differ : k ≠ key := by simpa [apart] using parts
    refine ⟨id,?_,fun _ => Iff.rfl⟩
    rw [editAt,findMappingChild_edit_of_ne differ,found,map_id]
  | [] | .items :: rest => cases parts

theorem single_of_editNodes (search : ∀ e ∈ edits, ∀ step ∈ e.1, step.Searchable)
    (parts : ∀ e ∈ edits, apart e.1 [.child key,.items,.child "name"] = true)
    (found : findMappingChild top key = some (.sequence items))
    (single : items.Pairwise (fun a b => ¬ (Carries Y name a ∧ Carries Y name b))) :
    ∃ kept, findMappingChild (editNodes Y edits name top) key = some (.sequence kept) ∧
      kept.Pairwise (fun a b => ¬ (Carries Y name a ∧ Carries Y name b)) := by
  refine Fold.foldl_invariant (I := fun n => ∃ kept, findMappingChild n key = some (.sequence kept) ∧
    kept.Pairwise (fun a b => ¬ (Carries Y name a ∧ Carries Y name b))) ⟨items,found,single⟩ ?_
  rintro n e mem ⟨kept,found,single⟩
  obtain ⟨g,edited,same⟩ := list_of_editAt Y name (search e mem) (parts e mem) found
  refine ⟨kept.map g,edited,?_⟩
  rw [pairwise_map]
  simpa only [same] using single

theorem not_of_mem_eraseP {p : α → Bool} {xs : List α} (single : xs.Pairwise (fun a b => ¬ (p a ∧ p b)))
    (mem : x ∈ xs.eraseP p) : p x = false := by
  by_contra here
  rw [Bool.not_eq_false] at here
  obtain ⟨first,before,after,earlier,taken,rfl,erased⟩ := exists_of_eraseP (mem_of_mem_eraseP mem) here
  rw [erased,mem_append] at mem
  rcases mem with mem | mem
  · exact earlier x mem here
  · rw [pairwise_append,pairwise_cons] at single
    exact single.2.1.1 x mem ⟨taken,here⟩

theorem entry_gone (named : name ≠ "") (listed : findSequenceEntryFields Y F top kind.listKey name = .ok fields)
    (rewritten : decodeMap Y (withoutEntry Y kind name true top) = .ok written) :
    name ∉ "" :: namesOf (listField written kind.listKey) := by
  rw [mem_cons,not_or]
  refine ⟨named,?_⟩
  intro mem
  obtain ⟨m,inside,same⟩ := mem_map.mp mem
  obtain ⟨v,memV,rfl⟩ := mem_map.mp inside
  unfold findSequenceEntryFields at listed
  split at listed
  · rename_i items child
    obtain ⟨found,search,-⟩ := Fold.bind_ok listed
    obtain ⟨kept,edited,single⟩ := single_of_editNodes (edits_searchable kind)
      (by cases kind <;> decide) child (single_of_foldlM named search).2
    have left : findMappingChild (withoutEntry Y kind name true top) kind.listKey =
        some (.sequence (kept.eraseP (fun item => decodedName Y item == some name))) := by
      rw [withoutEntry_eq,deleteSequenceEntryByName,editAt,findMappingChild_edit,edited]
      rfl
    have filled : written ≠ [] := by
      rintro rfl
      cases memV
    obtain ⟨content,pairs,whole,entries,rfl⟩ := mapping_of_decodeMap rewritten filled
    rw [whole] at left
    obtain ⟨values,list,each⟩ := list_of_pairs (listKey_searchable kind) entries left
    rw [listField,field_withMerged,list,Option.some_or,asList] at memV
    obtain ⟨item,memItem,decodes⟩ := item_of_mem each memV
    have other := not_of_mem_eraseP (single.imp fun pair both =>
      pair ⟨carries_of_decodedName named (by simpa using both.1),
        carries_of_decodedName named (by simpa using both.2)⟩) memItem
    cases v with
    | map m =>
      rw [decodedName,decodeMap_of_decodes decodes] at other
      exact absurd same (by simpa [asMap] using other)
    | null | bool | int | uint64 | float64 | string | list | other => exact named same.symm
  · cases listed

end

section
variable {Y : Library} {F : Formats} {kind : EntryKind} {name : String} {top : Node} {root written : Fields}
  (decoded : decodeMap Y top = .ok root) (removed : Removed Y F kind name true top written)

theorem grants_apart (kind : EntryKind) (block key : String) :
    ∀ e ∈ kind.edits, apart e.1 (grantPath block key) = true := by
  cases kind <;>
    simp [edits,userSections,groupSections,hbacUsers,sudoUsers,sudoGroups,Section.edits,Section.path,
      aclParts,nfsPath,grantPath,apart]

section Grants
variable (search : ∀ step ∈ grantPath block key, step.Searchable)
include decoded removed search

theorem grantNames_kept : name ∈ namesUnder (entriesOf written "grants") block key ↔
    name ∈ namesUnder (entriesOf root "grants") block key := by
  rw [← listed_iff,← listed_iff,← hasAt_grants,← hasAt_grants]
  exact hasAt_kept decoded removed.decoded (fun n v => lists_of_decodes) search (by cases kind <;> rfl)
    (grants_apart kind block key)

theorem grantTexts_kept (named : name ≠ "") : name ∈ textsIn (entriesOf written "grants") block key ↔
    name ∈ textsIn (entriesOf root "grants") block key := by
  rw [← text_iff named,← text_iff named,← hasAt_grants,← hasAt_grants]
  exact hasAt_kept decoded removed.decoded (fun n v => text_of_decodes) search (by cases kind <;> rfl)
    (grants_apart kind block key)

end Grants

include removed

theorem ruleNames_edited (part block key : String) (mem : (rulePath part block key, .names) ∈ kind.edits)
    (list : apart [.child kind.listKey] (rulePath part block key) = true)
    (parts : ∀ e ∈ kind.edits, e.1 ≠ rulePath part block key → apart e.1 (rulePath part block key) = true) :
    name ∈ namesUnder (entriesIn written part "rules") block key ↔
      Missed Y name (rulePath part block key) top := by
  rw [← listed_iff,← hasAt_rules]
  exact lists_edited removed.decoded mem list parts

theorem gone_of_removed (named : name ≠ "") : name ∉ "" :: namesOf (listField written kind.listKey) := by
  obtain ⟨fields,listed⟩ := removed.listed
  exact entry_gone named listed removed.decoded

end

section
variable {Y : Library} {F : Formats} {name : String} {top : Node} {root written : Fields}

theorem runAs_iff (decoded : decodeMap Y top = .ok root) (removed : Removed Y F .user name true top written) :
    name ∈ runAsFields written "users" ↔ name ∈ runAsFields root "users" := by
  have rules : name ∈ namesUnder (entriesIn written "sudo" "rules") "run_as" "users" ↔
      name ∈ namesUnder (entriesIn root "sudo" "rules") "run_as" "users" := by
    rw [← listed_iff,← listed_iff,← hasAt_rules,← hasAt_rules]
    exact hasAt_kept decoded removed.decoded (fun n v => lists_of_decodes) (by decide) (by decide)
      (by decide)
  rw [runAsFields,runAsFields,mem_append,mem_append,rules,grantNames_kept decoded removed (by decide)]

theorem subjects_iff (named : name ≠ "") (decoded : decodeMap Y top = .ok root)
    (removed : Removed Y F .user name true top written) :
    name ∈ subjectFields written ↔
      name ∈ namesUnder (entriesOf root "grants") "subjects" "users" ++ reviewersOf (entriesOf root "grants") ∨
        ∃ path ∈ [rulePath "hbac" "subjects" "users",rulePath "sudo" "subjects" "users"],
          Missed Y name path top := by
  have hbac := ruleNames_edited removed "hbac" "subjects" "users" (by decide) (by decide) (by decide)
  have sudoRules := ruleNames_edited removed "sudo" "subjects" "users" (by decide) (by decide) (by decide)
  have grants := grantNames_kept decoded removed
    (show ∀ step ∈ grantPath "subjects" "users", _ by decide)
  have reviewers := grantTexts_kept decoded removed
    (show ∀ step ∈ grantPath "review" "reviewed_by", _ by decide) named
  simp only [subjectFields,reviewersOf,mem_append,hbac,sudoRules,grants,reviewers,exists_mem_cons_iff,
    not_mem_nil,false_and,exists_false,or_false]
  rw [or_assoc,or_comm]

theorem user_dangles_iff (named : name ≠ "") (decoded : decodeMap Y top = .ok root)
    (removed : Removed Y F .user name true top written) :
    name ∈ user.referringFields written ↔
      name ∈ user.unguardedFields name root ∨ ∃ path ∈ user.uncheckedLists name, Missed Y name path top := by
  have valid := validated_of_valid removed.valid
  have gone := gone_of_removed removed named
  have strict : name ∉ userFields written := fun mem => gone (valid.userFields_known mem)
  have requesters := grantTexts_kept decoded removed
    (show ∀ step ∈ grantPath "justification" "requested_by", _ by decide) named
  rw [referringFields,unguardedFields,uncheckedLists,mem_append,mem_append,mem_append,mem_append,
    mem_append,runAs_iff decoded removed,requestersOf,requestersOf,requesters,or_assoc,or_assoc]
  by_cases admin : name = "admin"
  · rw [if_pos admin,if_pos admin,subjects_iff named decoded removed]
    simp only [strict,false_or]
    rw [or_comm]
    simp only [or_assoc]
  -- A subject that is not the removed entry would have to be `admin`.
  have others : name ∉ subjectFields written := by
    intro mem
    rcases mem_cons.mp (valid.subjectFields_known mem) with empty | allowed
    · exact named empty
    · rcases allowed_cases allowed with known | same
      · exact gone (mem_cons_of_mem _ known)
      · exact admin same
  simp only [strict,others,if_neg admin,false_or,not_mem_nil,or_false,false_and,exists_false]

theorem group_dangles_iff (named : name ≠ "") (decoded : decodeMap Y top = .ok root)
    (removed : Removed Y F .group name true top written) :
    name ∈ group.referringFields written ↔
      name ∈ group.unguardedFields name root ∨ ∃ path ∈ group.uncheckedLists name, Missed Y name path top := by
  have valid := validated_of_valid removed.valid
  have strict : name ∉ groupFields written :=
    fun mem => gone_of_removed removed named (valid.groupFields_known mem)
  have sudoRules := ruleNames_edited removed "sudo" "run_as" "groups" (by decide) (by decide) (by decide)
  rw [referringFields,unguardedFields,uncheckedLists,mem_append,runAsFields,mem_append,sudoRules,
    grantNames_kept decoded removed (by decide)]
  simp only [strict,false_or,mem_singleton,exists_eq_left]
  exact or_comm

end

theorem removal_of_files {before after : String} {top gone : Node}
    (files : Y = fileLibrary [(before, top),(after, gone)]) (differ : after ≠ before)
    (unencrypted : isVaultEncrypted before = false ∧ isVaultEncrypted after = false)
    (decoded : decodeMap Y top = .ok root) (named : name ≠ "")
    (removed : withoutEntry Y kind name true top = gone) (rendered : Y.render gone = after) :
    RemovalInput Y kind before name top root where
  unencrypted := unencrypted.1
  parsed := parse_of_lookup files (by simp)
  decoded := decoded
  named := named
  rereads := removed ▸ rereads_of_lookup after files unencrypted.2
    (by simp [lookup_cons,beq_eq_false_iff_ne.mpr differ]) rendered

def runAsText (users members runAs : String) : String :=
  "schema_version: 1\nusers:" ++ users ++
    "\ngroups:\n- name: team-a\n  category: team\n  membership:\n    users: [" ++ members ++
    "]\nsudo:\n  rules:\n  - name: r\n    subjects:\n      users: [admin]\n    targets:\n      hostcat: all" ++
    "\n    run_as:\n      users: [" ++ runAs ++ "]\n"

def runAsDocument (users members : List Node) (runAs : String) : Node :=
  mapNode [("schema_version", .scalar "!!int" "1"),("users", .sequence users),
    ("groups", .sequence [mapNode [("name", strNode "team-a"),("category", strNode "team"),
      ("membership", mapNode [("users", .sequence members)])]]),
    ("sudo", mapNode [("rules", .sequence [mapNode [("name", strNode "r"),
      ("subjects", mapNode [("users", .sequence [strNode "admin"])]),
      ("targets", mapNode [("hostcat", strNode "all")]),
      ("run_as", mapNode [("users", .sequence [strNode runAs])])]])])]

def runAsRoster (users members : List Value) (runAs : String) : Fields :=
  [("schema_version", .int 1),("users", .list users),
    ("groups", .list [.map [("name", .string "team-a"),("category", .string "team"),
      ("membership", .map [("users", .list members)])]]),
    ("sudo", .map [("rules", .list [.map [("name", .string "r"),
      ("subjects", .map [("users", .list [.string "admin"])]),
      ("targets", .map [("hostcat", .string "all")]),
      ("run_as", .map [("users", .list [.string runAs])])]])])]

/-- The user `al` with its membership, and a sudo rule that runs commands as
    another user or as `al`. -/
def alDocument (runAs : String) : Node := runAsDocument [mapNode [("name", strNode "al")]] [strNode "al"] runAs

def alText (runAs : String) : String := runAsText "\n- name: al" "al" runAs

def alRoster (runAs : String) : Fields := runAsRoster [.map [("name", .string "al")]] [.string "al"] runAs

def alLibrary (runAs : String) : Library :=
  fileLibrary [(alText runAs, alDocument runAs),(runAsText " []" "" runAs, runAsDocument [] [] runAs)]

end Pilot.Roster
