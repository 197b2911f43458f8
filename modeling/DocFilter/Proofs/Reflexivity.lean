/-
# Values that equal themselves

Equality is not reflexive on all values: a not-a-number equals nothing, and of an object it is not
known what it equals. Where neither occurs, a stored form equals itself at every depth and whichever
side leads, because each name of a stored mapping occurs once and so finds its own entry. Nor does
such a value come before itself. A packed decimal is told from numbers inside other values but
counts as a number alone, so both readings are followed through the induction.
-/

import DocFilter.Proofs.Packing
import DocFilter.Proofs.StoredForms

namespace DocFilter.Value

/-! ## Equality part by part -/

/-- Items that equal themselves are equal lists. -/
theorem allPass_itemTests_self {leads : Bool} {items : List Value}
    (own : ∀ item ∈ items, item.equalWith leads item = .ok true) :
    allPass (itemTests leads items) items = .ok true := by
  induction items with
  | nil => rfl
  | cons item items ih =>
    obtain ⟨first, later⟩ := List.forall_mem_cons.mp own
    rw [itemTests, allPass, first]
    exact ih later

/-- Under a name that occurs once stands what was given with it. -/
theorem lookup_eq_some_of_mem {α : Type} {named : List (String × α)}
    (different : (named.map (·.1)).Nodup) {field : String × α} (member : field ∈ named) :
    named.lookup field.1 = some field.2 := by
  induction named with
  | nil => cases member
  | cons first named ih =>
    rw [List.map_cons, List.nodup_cons] at different
    rcases List.mem_cons.mp member with rfl | later
    · exact List.lookup_cons_self
    · have other : field.1 ≠ first.1 := fun same =>
        different.1 (same ▸ List.mem_map_of_mem later)
      rw [List.lookup_cons, beq_false_of_ne other]
      exact ih different.2 later

/-- A search by name among what is made of named values is a lookup. -/
theorem find?_map_eq_lookup {α : Type} (named : List (String × Value)) {name : String}
    (make : String × Value → α) {found : α → Bool}
    (byName : ∀ field, found (make field) = (name == field.1)) :
    (named.map make).find? found = (named.lookup name).map fun value => make (name, value) := by
  induction named with
  | nil => rfl
  | cons field named ih =>
    rw [List.map_cons, List.find?_cons, byName, List.lookup_cons]
    by_cases same : name = field.1
    · rw [beq_iff_eq.mpr same, same]
      rfl
    · rw [beq_false_of_ne same]
      exact ih

/-- A search by name among items that are made of entries with different names finds what is made of
the entry with that name. -/
theorem find?_map_of_nodup {α : Type} {named : List (String × Value)}
    (different : (named.map (·.1)).Nodup) {field : String × Value} (member : field ∈ named)
    (make : String × Value → α) {found : α → Bool}
    (byName : ∀ other, found (make other) = (field.1 == other.1)) :
    (named.map make).find? found = some (make field) := by
  rw [find?_map_eq_lookup named make byName, lookup_eq_some_of_mem different member]
  rfl

theorem passes_plainEqual_text (name other : String) :
    Test.passes (plainEqual (.text name)) (.text other) = (name == other) :=
  rfl

/-- The tests that named entries set. -/
theorem entryTests_fieldEntries (leads : Bool) (named : List (String × Value)) :
    entryTests leads (fieldEntries named) =
      named.map fun field => ⟨plainEqual (.text field.1), equalWith (!leads) field.2⟩ := by
  induction named with
  | nil => rfl
  | cons field named ih =>
    obtain ⟨name, value⟩ := field
    rw [fieldEntries, List.map_cons, entryTests]
    exact congrArg (List.cons _) ih

/-- What no item changes comes out of a fold. -/
theorem foldr_of_fixed {α β : Type} {step : α → β → β} {items : List α} {last : β}
    (fixed : ∀ item ∈ items, step item last = last) : items.foldr step last = last := by
  induction items with
  | nil => rfl
  | cons item items ih =>
    obtain ⟨first, later⟩ := List.forall_mem_cons.mp fixed
    rw [List.foldr_cons, ih later, first]

/-- Values under different names that equal themselves make equal mappings: every name finds its own
entry, on whichever side it is looked for. -/
theorem entriesPass_self {leads : Bool} {named : List (String × Value)}
    (different : (named.map (·.1)).Nodup)
    (own : ∀ field ∈ named, field.2.equalWith (!leads) field.2 = .ok true) :
    entriesPass leads (entryTests leads (fieldEntries named)) (fieldEntries named) = .ok true := by
  have sizes : (entryTests leads (fieldEntries named)).length = (fieldEntries named).length := by
    rw [entryTests_fieldEntries, fieldEntries, List.length_map, List.length_map]
  rw [entriesPass, if_neg (not_not.mpr sizes), entryTests_fieldEntries]
  split
  · apply foldr_of_fixed
    intro test member
    obtain ⟨field, inside, rfl⟩ := List.mem_map.mp member
    have entry : (fieldEntries named).find? (fun entry =>
        Test.passes (plainEqual (.text field.1)) entry.1) = some (.text field.1, field.2) :=
      find?_map_of_nodup different inside _ fun other => passes_plainEqual_text field.1 other.1
    simp only [entry, own field inside]
    rfl
  · apply foldr_of_fixed
    intro entry member
    obtain ⟨field, inside, rfl⟩ := List.mem_map.mp member
    have test : (named.map fun field => (⟨plainEqual (.text field.1),
        equalWith (!leads) field.2⟩ : EntryTest)).find? (fun test =>
          test.key.passes (.text field.1)) =
        some ⟨plainEqual (.text field.1), equalWith (!leads) field.2⟩ :=
      find?_map_of_nodup different inside _ fun other =>
        (passes_plainEqual_text other.1 field.1).trans (Bool.beq_comm ..)
    simp only [test, own field inside]
    rfl

/-! ## Values without parts -/

/-- Whether a value is a not-a-number of any kind. -/
def isNotANumber : Value → Bool
  | .float .notANumber | .decimal (.notANumber ..) | .packed ⟨.notANumber .., _⟩ => true
  | _ => false

/-- Whether a value is neither a not-a-number nor an object of which it is not known what equals
it. -/
def isComparable : Value → Bool
  | .object _ | .absent | .stranger => false
  | value => !value.isNotANumber

/-- A value is level with itself: it equals itself and does not come before itself, as it is and as
what it counts as. -/
structure IsLevel (value : Value) : Prop where
  equalWith : ∀ leads, value.equalWith leads value = .ok true
  equal : value.normalized.equal value.normalized = .ok true
  less : isOrderedBracket value.bracket → value.normalized.less value.normalized = .ok false

/-- A value of a bracket without an order is level with itself as soon as it equals itself. -/
theorem isLevel_of_equalWith {value : Value} (normalized : value.normalized = value)
    (unordered : isOrderedBracket value.bracket = false)
    (equals : ∀ leads, value.equalWith leads value = .ok true) : value.IsLevel := by
  refine ⟨equals, ?_, fun ordered => ?_⟩
  · rw [normalized]
    exact equals true
  · rw [unordered] at ordered
    cases ordered

section Numbers

variable {value : Value} {number : Number}

theorem equalWith_self_of_number? (counts : value.number? = some number)
    (somewhere : number.extended? ≠ none) (leads : Bool) :
    value.equalWith leads value = .ok true := by
  have asNumbers : value.equalWith leads value = numbersEqual number number := by
    cases value with
    | bool | int | float | decimal | intMember =>
      cases counts
      rfl
    | _ => cases counts
  have calm : number.isSignalling = false := by
    cases number with
    | decimal number => cases number <;> first | rfl | exact absurd rfl somewhere
    | _ => rfl
  rw [asNumbers, numbersEqual, Number.equal?_eq_order?, Number.order?_self somewhere, calm]
  rfl

theorem less_self_of_number? (counts : value.number? = some number)
    (somewhere : number.extended? ≠ none) : value.less value = .ok false := by
  unfold less
  rw [counts]
  simp only [Number.less?_eq_order?, Number.order?_self somewhere]
  rfl

/-- A number that lies somewhere is level with itself. -/
theorem isLevel_of_number? (counts : value.number? = some number)
    (somewhere : number.extended? ≠ none) : value.IsLevel := by
  have normalized : value.normalized = value := by
    cases value <;> first | rfl | cases counts
  refine ⟨equalWith_self_of_number? counts somewhere, ?_, fun _ => ?_⟩
  · rw [normalized]
    exact equalWith_self_of_number? counts somewhere true
  · rw [normalized]
    exact less_self_of_number? counts somewhere

/-- A packed decimal that lies somewhere is level with itself. -/
theorem isLevel_packed {packed : Packed}
    (somewhere : (Number.decimal packed.number).extended? ≠ none) :
    (Value.packed packed).IsLevel := by
  have counts : (Value.decimal packed.number).number? = some (.decimal packed.number) := rfl
  exact ⟨fun _ => congrArg Except.ok (beq_self_eq_true packed),
    equalWith_self_of_number? counts somewhere true,
    fun _ => less_self_of_number? counts somewhere⟩

end Numbers

theorem isLevel_text (text : String) : (Value.text text).IsLevel := by
  have equals : ∀ leads, (Value.text text).equalWith leads (.text text) = .ok true :=
    fun _ => congrArg Except.ok (beq_self_eq_true text)
  exact ⟨equals, equals true, fun _ => congrArg Except.ok (decide_eq_false (String.lt_irrefl text))⟩

theorem isLevel_moment (moment : Moment) : (Value.moment moment).IsLevel := by
  have same : moment.compare? moment = some .eq := by
    rw [Moment.compare?]
    cases moment.offset <;> simp
  have equals : ∀ leads, (Value.moment moment).equalWith leads (.moment moment) = .ok true := by
    intro leads
    show (return moment.compare? moment == some .eq : Except Fault Bool) = _
    rw [same]
    rfl
  refine ⟨equals, equals true, fun _ => ?_⟩
  unfold less
  simp only [normalized, number?, text?, same]
  rfl

/-- A comparable value without parts is level with itself, once it is stored. -/
theorem isLevel_of_isLeaf {value written : Value} (isLeaf : value.isLeaf)
    (given : value.stored = .ok written) (comparable : value.isComparable) : written.IsLevel := by
  cases value with
  | record | member | mapping | list | tuple | set => cases isLeaf
  | object | absent | stranger => cases comparable
  | decimal number =>
    obtain ⟨packed, stored, rfl⟩ := stored_decimal_eq_ok_iff.mp given
    apply isLevel_packed
    -- What is packed lies where the decimal lies.
    have place := (Packed.isLike_of_pack_eq_ok stored).position?
    rw [Number.position?, Number.position?] at place
    rw [Ne, ← Option.map_eq_none_iff, place, Option.map_eq_none_iff]
    cases number with
    | notANumber => cases comparable
    | finite | infinite => exact Option.some_ne_none _
  | packed packed =>
    cases given
    apply isLevel_packed
    obtain ⟨number, packable⟩ := packed
    cases number with
    | notANumber => cases comparable
    | finite | infinite => exact Option.some_ne_none _
  | float number =>
    cases given
    cases number with
    | notANumber => cases comparable
    | _ => exact isLevel_of_number? rfl (Option.some_ne_none _)
  | bool | int | intMember =>
    cases given
    exact isLevel_of_number? rfl (Option.some_ne_none _)
  | text | uuid | textMember =>
    cases given
    exact isLevel_text _
  | moment | date =>
    cases given
    exact isLevel_moment _
  | null =>
    cases given
    exact isLevel_of_equalWith rfl rfl fun _ => rfl
  | bytes data =>
    cases given
    exact isLevel_of_equalWith rfl rfl fun _ => congrArg Except.ok (beq_self_eq_true data)
  | pattern compiled =>
    cases given
    exact isLevel_of_equalWith rfl rfl fun _ => congrArg Except.ok (beq_self_eq_true compiled)

/-! ## Values with parts -/

/-- The stored form of a value with comparable parts is level with itself. -/
theorem isLevel_of_stored {value written : Value} (given : value.stored = .ok written)
    (comparable : value.everyPart isComparable) : written.IsLevel := by
  apply stored_induction _ _ _ given comparable
  · exact fun _ _ => isLevel_of_isLeaf
  · intro items own
    apply isLevel_of_equalWith rfl rfl
    intro leads
    rw [Value.equalWith, if_pos rfl]
    exact allPass_itemTests_self fun item member => (own item member).equalWith leads
  · intro named different own
    apply isLevel_of_equalWith rfl rfl
    intro leads
    rw [Value.equalWith]
    exact entriesPass_self different fun field member => (own field member).equalWith !leads

end DocFilter.Value
