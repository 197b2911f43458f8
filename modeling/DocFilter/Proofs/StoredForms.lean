/-
# What stored forms are made of

The stored form of a value is made of the stored forms of its parts: there is one case for each way
in which a value is put together, and everything about stored forms follows from these cases by one
induction. A test that all parts of a value pass becomes a test that all parts of its stored form
pass, and a stored form in which nothing is absent is its own copy.

The document converter binds stored forms and nothing else.
-/

import DocFilter.Proofs.Slices

namespace DocFilter

/-! ## The names that are left -/

namespace Entries

theorem mem_of_mem_put {name : String} {value : Value} {named : List (String × Value)}
    {entry : String × Value} (member : entry ∈ put name value named) :
    entry = (name, value) ∨ entry ∈ named := by
  induction named with
  | nil => exact .inl (List.mem_singleton.mp member)
  | cons first named ih =>
    rw [put] at member
    split at member
    · rcases List.mem_cons.mp member with same | later
      · exact .inl same
      · exact .inr (List.mem_cons_of_mem _ later)
    · rcases List.mem_cons.mp member with same | later
      · exact .inr (same ▸ List.mem_cons_self)
      · exact (ih later).imp_right (List.mem_cons_of_mem _)

theorem map_fst_put (name : String) (value : Value) (named : List (String × Value)) :
    (put name value named).map (·.1) =
      if name ∈ named.map (·.1) then named.map (·.1) else named.map (·.1) ++ [name] := by
  induction named with
  | nil => rfl
  | cons first named ih =>
    by_cases same : first.1 = name
    · simp [put, same]
    · have differs : name ≠ first.1 := Ne.symm same
      by_cases later : name ∈ named.map (·.1)
      · simp only [later, if_true] at ih
        simp [put, same, ih, later]
      · simp only [later, if_false] at ih
        simp [put, same, ih, later, differs]

/-- What is left under a name was given under that name. -/
theorem mem_of_mem_distinct {named : List (String × Value)} {entry : String × Value}
    (member : entry ∈ distinct named) : entry ∈ named := by
  have fromAny : ∀ (named done : List (String × Value)),
      entry ∈ named.foldl (fun done entry => put entry.1 entry.2 done) done →
        entry ∈ done ∨ entry ∈ named := by
    intro named
    induction named with
    | nil => exact fun _ => .inl
    | cons first named ih =>
      intro done member
      rcases ih _ member with early | late
      · rcases mem_of_mem_put early with same | before
        · exact .inr (same ▸ List.mem_cons_self)
        · exact .inl before
      · exact .inr (List.mem_cons_of_mem _ late)
  rcases fromAny named [] member with none | given
  · cases none
  · exact given

/-- Each name is left once. -/
theorem nodup_distinct (named : List (String × Value)) :
    ((distinct named).map (·.1)).Nodup := by
  have fromAny : ∀ (named done : List (String × Value)), (done.map (·.1)).Nodup →
      ((named.foldl (fun done entry => put entry.1 entry.2 done) done).map (·.1)).Nodup := by
    intro named
    induction named with
    | nil => exact fun _ unique => unique
    | cons first named ih =>
      intro done unique
      apply ih
      rw [map_fst_put]
      split
      · exact unique
      · next fresh =>
        refine List.nodup_append.mpr ⟨unique, List.pairwise_singleton _ _, ?_⟩
        rintro name inside _ single rfl
        exact fresh (List.mem_singleton.mp single ▸ inside)
  exact fromAny named [] .nil

end Entries

/-! ## Stored forms by cases -/

namespace Value

/-- Whether the stored form of a value is not made of the stored forms of others. -/
def isLeaf : Value → Bool
  | .record _ | .member .. | .mapping _ | .list _ | .tuple _ | .set .. => false
  | _ => true

/-- The items of a list, a tuple or a set. -/
def items? : Value → Option (List Value)
  | .list items | .tuple items | .set _ items => some items
  | _ => none

/-- The cases of a proof about all values and their stored forms: values that are not made of
others, and each way in which values are put together. -/
structure StoredCases (motive : Value → Value → Prop) : Prop where
  leaf : ∀ value written, value.isLeaf → value.stored = .ok written → motive value written
  member : ∀ enumeration name value declaration written, motive value written →
    motive (.member enumeration name value declaration) written
  collection : ∀ value items written, value.items? = some items →
    List.Forall₂ motive items written → motive value (.list written)
  mapping : ∀ entries named,
    List.Forall₂ (fun entry field => field.1 = entry.1.plainText ∧ motive entry.2 field.2)
      entries named → motive (.mapping entries) (.mapping (Entries.ofNamed named))
  record : ∀ fields named,
    List.Forall₂ (fun own field => field.1 = own.1 ∧ motive own.2 field.2) fields named →
      motive (.record fields) (.mapping (Entries.ofNamed named))

namespace StoredCases

variable {motive : Value → Value → Prop}

mutual

/-- What holds in all cases holds of every value that has a stored form, and that form. -/
theorem of_stored (each : StoredCases motive) (value : Value) {written : Value}
    (given : value.stored = .ok written) : motive value written := by
  cases value with
  | list items =>
    obtain ⟨others, parts, done⟩ := bind_eq_ok_iff.mp given
    cases done
    exact each.collection _ items _ rfl (each.of_storedAll items parts)
  | tuple items =>
    obtain ⟨others, parts, done⟩ := bind_eq_ok_iff.mp given
    cases done
    exact each.collection _ items _ rfl (each.of_storedAll items parts)
  | set frozen items =>
    obtain ⟨others, parts, done⟩ := bind_eq_ok_iff.mp given
    cases done
    exact each.collection _ items _ rfl (each.of_storedAll items parts)
  | mapping entries =>
    obtain ⟨named, parts, done⟩ := bind_eq_ok_iff.mp given
    cases done
    exact each.mapping entries _ (each.of_storedEntries entries parts)
  | record fields =>
    obtain ⟨named, parts, done⟩ := bind_eq_ok_iff.mp given
    cases done
    exact each.record fields _ (each.of_storedFields fields parts)
  | member enumeration name value declaration =>
    exact each.member _ _ value _ _ (each.of_stored value given)
  | _ => exact each.leaf _ _ rfl given
termination_by structural value

theorem of_storedAll (each : StoredCases motive) (items : List Value) {others : List Value}
    (given : storedAll items = .ok others) : List.Forall₂ motive items others := by
  cases items with
  | nil =>
    cases given
    exact .nil
  | cons item items =>
    obtain ⟨first, own, later⟩ := bind_eq_ok_iff.mp given
    obtain ⟨rest, parts, done⟩ := bind_eq_ok_iff.mp later
    cases done
    exact .cons (each.of_stored item own) (each.of_storedAll items parts)
termination_by structural items

theorem of_storedEntries (each : StoredCases motive) (entries : List (Value × Value))
    {named : List (String × Value)}
    (given : storedEntries entries = .ok named) :
    List.Forall₂ (fun entry field => field.1 = entry.1.plainText ∧ motive entry.2 field.2)
      entries named := by
  cases entries with
  | nil =>
    cases given
    exact .nil
  | cons entry entries =>
    obtain ⟨key, value⟩ := entry
    obtain ⟨first, own, later⟩ := bind_eq_ok_iff.mp given
    obtain ⟨rest, parts, done⟩ := bind_eq_ok_iff.mp later
    cases done
    exact .cons ⟨rfl, each.of_stored value own⟩ (each.of_storedEntries entries parts)
termination_by structural entries

theorem of_storedFields (each : StoredCases motive) (fields : List (String × Value))
    {named : List (String × Value)}
    (given : storedFields fields = .ok named) :
    List.Forall₂ (fun own field => field.1 = own.1 ∧ motive own.2 field.2) fields named := by
  cases fields with
  | nil =>
    cases given
    exact .nil
  | cons field fields =>
    obtain ⟨name, value⟩ := field
    obtain ⟨first, own, later⟩ := bind_eq_ok_iff.mp given
    obtain ⟨rest, parts, done⟩ := bind_eq_ok_iff.mp later
    cases done
    exact .cons ⟨rfl, each.of_stored value own⟩ (each.of_storedFields fields parts)
termination_by structural fields

end

end StoredCases

/-! ## Tests on all parts -/

mutual

/-- Whether a value and all its parts pass a test. Parts are the items of collections, the values
of entries and fields, and what members of enumerations stand for. Keys and the attributes of
objects are no parts. -/
def everyPart (test : Value → Bool) : Value → Bool
  | .list items => test (.list items) && everyItem test items
  | .tuple items => test (.tuple items) && everyItem test items
  | .set frozen items => test (.set frozen items) && everyItem test items
  | .mapping entries => test (.mapping entries) && everyEntry test entries
  | .record fields => test (.record fields) && everyField test fields
  | .member enumeration name value declaration =>
    test (.member enumeration name value declaration) && everyPart test value
  | value => test value

/-- Whether all parts of all items pass a test. -/
def everyItem (test : Value → Bool) : List Value → Bool
  | [] => true
  | item :: items => everyPart test item && everyItem test items

/-- Whether all parts of the values of all entries pass a test. -/
def everyEntry (test : Value → Bool) : List (Value × Value) → Bool
  | [] => true
  | (_, value) :: entries => everyPart test value && everyEntry test entries

/-- Whether all parts of all fields pass a test. -/
def everyField (test : Value → Bool) : List (String × Value) → Bool
  | [] => true
  | (_, value) :: fields => everyPart test value && everyField test fields

end

section EveryPart

variable {test : Value → Bool}

theorem everyItem_iff {items : List Value} :
    everyItem test items ↔ ∀ item ∈ items, item.everyPart test := by
  induction items with
  | nil => simp [everyItem]
  | cons item items ih => simp [everyItem, ih]

theorem everyEntry_iff {entries : List (Value × Value)} :
    everyEntry test entries ↔ ∀ entry ∈ entries, entry.2.everyPart test := by
  induction entries with
  | nil => simp [everyEntry]
  | cons entry entries ih =>
    obtain ⟨key, value⟩ := entry
    simp [everyEntry, ih]

theorem everyField_iff {fields : List (String × Value)} :
    everyField test fields ↔ ∀ field ∈ fields, field.2.everyPart test := by
  induction fields with
  | nil => simp [everyField]
  | cons field fields ih =>
    obtain ⟨name, value⟩ := field
    simp [everyField, ih]

theorem everyPart_of_isLeaf {value : Value} (leaf : value.isLeaf) :
    value.everyPart test = test value := by
  cases value <;> first | rfl | cases leaf

theorem everyPart_of_items?_eq {value : Value} {items : List Value}
    (collection : value.items? = some items) (all : value.everyPart test) :
    ∀ item ∈ items, item.everyPart test := by
  apply everyItem_iff.mp
  cases value with
  | list own | tuple own | set frozen own =>
    cases collection
    exact (Bool.and_eq_true_iff.mp all).2
  | _ => cases collection

/-- What holds beside each item whose parts pass a test holds beside all items, if all pass. -/
theorem forall_of_forall₂_everyPart {α β : Type} {part : α → Value} {property : β → Prop}
    {items : List α} {others : List β}
    (related : List.Forall₂ (fun item other => (part item).everyPart test → property other)
      items others)
    (all : ∀ item ∈ items, (part item).everyPart test) :
    ∀ other ∈ others, property other := by
  induction related with
  | nil => simp
  | cons first _ ih =>
    obtain ⟨own, rest⟩ := List.forall_mem_cons.mp all
    exact List.forall_mem_cons.mpr ⟨first own, ih rest⟩

/-- A property of the stored forms of all values whose parts pass a test: it has to hold of the
stored forms of values that are not made of others, of lists of values that have it, and of mappings
of different names to values that have it. -/
theorem stored_induction {property : Value → Prop}
    (leaf : ∀ value written, value.isLeaf → value.stored = .ok written → test value →
      property written)
    (list : ∀ items, (∀ item ∈ items, property item) → property (.list items))
    (mapping : ∀ named, (named.map (·.1)).Nodup → (∀ field ∈ named, property field.2) →
      property (.mapping (fieldEntries named)))
    {value written : Value} (given : value.stored = .ok written) (all : value.everyPart test) :
    property written := by
  have entries : ∀ named, (∀ field ∈ named, property field.2) →
      property (.mapping (Entries.ofNamed named)) := fun named parts =>
    mapping _ (Entries.nodup_distinct named) fun field left =>
      parts field (Entries.mem_of_mem_distinct left)
  have each : StoredCases fun value written => value.everyPart test → property written :=
    { leaf := fun value written isLeaf given all =>
        leaf value written isLeaf given ((everyPart_of_isLeaf isLeaf).symm.trans all)
      member := fun _ _ _ _ _ own all => own (Bool.and_eq_true_iff.mp all).2
      collection := fun _ _ written collection parts all =>
        list written (forall_of_forall₂_everyPart parts (everyPart_of_items?_eq collection all))
      mapping := fun _ named parts all =>
        entries named (forall_of_forall₂_everyPart (parts.imp fun _ _ => And.right)
          (everyEntry_iff.mp (Bool.and_eq_true_iff.mp all).2))
      record := fun _ named parts all =>
        entries named (forall_of_forall₂_everyPart (parts.imp fun _ _ => And.right)
          (everyField_iff.mp (Bool.and_eq_true_iff.mp all).2)) }
  exact each.of_stored value given all

/-- The stored form of a decimal is the decimal it is packed to. -/
theorem stored_decimal_eq_ok_iff {number : Decimal} {written : Value} :
    (Value.decimal number).stored = .ok written ↔
      ∃ packed, Packed.pack number = .ok packed ∧ written = .packed packed := by
  rw [stored]
  cases Packed.pack number with
  | ok packed =>
    constructor
    · intro given
      cases given
      exact ⟨packed, rfl, rfl⟩
    · rintro ⟨_, same, rfl⟩
      cases same
      rfl
  | error refusal =>
    constructor
    · intro given
      cases given
    · rintro ⟨_, same, -⟩
      cases same

/-- A stored form that holds neither the marker for what is absent nor an object is its own
copy. -/
theorem copied_of_stored (noMarker : test .absent = false)
    (noObject : ∀ attributes, test (.object attributes) = false) {value written : Value}
    (given : value.stored = .ok written) (all : value.everyPart test) :
    written.copied = written := by
  apply stored_induction _ _ _ given all
  · intro value written isLeaf given passes
    cases value with
    | absent => exact absurd passes (Bool.eq_false_iff.mp noMarker)
    | object attributes => exact absurd passes (Bool.eq_false_iff.mp (noObject attributes))
    | decimal number =>
      obtain ⟨packed, -, rfl⟩ := stored_decimal_eq_ok_iff.mp given
      rfl
    | record | member | mapping | list | tuple | set => cases isLeaf
    | _ =>
      cases given
      rfl
  · intro items own
    rw [copied, copiedAll_eq_map, List.map_congr_left own, List.map_id']
  · intro named _ own
    have kept : copiedFields named = named := by
      rw [copiedFields_eq_map]
      conv_rhs => rw [← List.map_id' named]
      exact List.map_congr_left fun field left => congrArg (Prod.mk field.1) (own field left)
    rw [copied, copiedEntries_fieldEntries, kept]

end EveryPart

end Value

/-! ## What the document converter binds -/

namespace Converter

/-- The document converter binds the stored form of a value. -/
theorem map_read_document (calls : List Value) (value : Value) :
    (document calls value).map read = value.stored := by
  rw [document, stateless]
  cases value.stored with
  | error fault | ok written => rfl

/-- The document converter binds the stored forms of values in turn. -/
theorem bindAll_document_eq_ok_iff {calls values bound : List Value} :
    document.bindAll calls values = .ok bound ↔
      List.Forall₂ (fun value written => value.stored = .ok written) values bound := by
  induction values generalizing calls bound with
  | nil =>
    rw [bindAll, List.forall₂_nil_left_iff]
    exact ⟨fun given => by cases given; rfl, fun none => none ▸ rfl⟩
  | cons value values ih =>
    rw [bindAll_cons_eq_ok_iff, List.forall₂_cons_left_iff]
    simp only [map_read_document, ih]

end Converter

/-- A clause alone is compiled with the document converter just if its keyword takes as many values
as there are and all have stored forms. -/
theorem Slice.compilesTo_document_iff {options : Options} {slice : Slice} {term : Term} :
    slice.CompilesTo .document options term ↔
      ∃ keyword bound, slice.clause.comparison = .known keyword ∧
        slice.values.length = keyword.arity ∧
        List.Forall₂ (fun value written => value.stored = .ok written) slice.values bound ∧
        term = ⟨slice.clause.field, keyword.conditionsOn options bound⟩ := by
  simp only [compilesTo_iff, Converter.bindAll_document_eq_ok_iff]

/-! ## Slices keep the values -/

theorem Clause.forall_slicesFrom_values {property : Value → Prop} {values : List Value}
    (all : ∀ value ∈ values, property value) (start : Nat) (clauses : List Clause) :
    ∀ slice ∈ slicesFrom values start clauses, ∀ value ∈ slice.values, property value := by
  induction clauses generalizing start with
  | nil => simp [slicesFrom]
  | cons clause clauses ih =>
    refine List.forall_mem_cons.mpr ⟨fun value taken => ?_, ih _⟩
    exact all value (List.mem_of_mem_drop (List.mem_of_mem_take taken))

/-- What holds of all values holds of the values of all slices. -/
theorem Criteria.forall_slices_values {property : Value → Prop} {values : List Value}
    (all : ∀ value ∈ values, property value) (criteria : Criteria) :
    ∀ group ∈ criteria.slices values, ∀ slice ∈ group, ∀ value ∈ slice.values, property value := by
  have fromAny : ∀ (groups : List ClauseGroup) (start : Nat),
      ∀ group ∈ ClauseGroup.slicesFrom values start groups, ∀ slice ∈ group,
        ∀ value ∈ slice.values, property value := by
    intro groups
    induction groups with
    | nil => simp [ClauseGroup.slicesFrom]
    | cons group groups ih =>
      intro start
      exact List.forall_mem_cons.mpr
        ⟨Clause.forall_slicesFrom_values all start group.clauses, ih _⟩
  exact fromAny criteria.groups 0

end DocFilter
