/-
# What data means

Equality of plain data is decided by what the data means: a number by its exact value, a moment by
its point on the time line or by local time, a list by what its items mean, and a mapping by what
stands under each name, so the order of its entries is nothing that it means. There are two
meanings. Alone, a truth value is no number, and a packed decimal is the number that it holds.
Inside other data, a truth value is the number one or zero, and a packed decimal is nothing but
itself.

Equality of values is equality of inner meanings, whichever side leads, and a field equals an
operand just if they mean the same alone. Both always have an answer.
-/

import DocFilter.Proofs.NativeData
import DocFilter.Proofs.ScalarOrder
import Mathlib.Data.List.Perm.Subperm

namespace DocFilter

/-! ## Tests that tell -/

/-- A test has an answer, and the answer tells whether something is the case. -/
def Tells (result : Except Fault Bool) (fact : Prop) : Prop :=
  ∃ answer, result = .ok answer ∧ (answer = true ↔ fact)

namespace Tells

variable {result other : Except Fault Bool} {fact otherFact : Prop}

theorem no (fails : ¬ fact) : Tells (.ok false) fact :=
  ⟨false, rfl, iff_of_false Bool.false_ne_true fails⟩

theorem congr (tells : Tells result fact) (same : fact ↔ otherFact) : Tells result otherFact := by
  obtain ⟨answer, answered, own⟩ := tells
  exact ⟨answer, answered, own.trans same⟩

/-- The answer is yes just if it is the case. -/
theorem eq_true_iff (tells : Tells result fact) : result = .ok true ↔ fact := by
  obtain ⟨answer, rfl, own⟩ := tells
  rw [Except.ok.injEq, own]

/-- Tests that tell the same have the same answer. -/
theorem eq_of_iff (tells : Tells result fact) (tellsToo : Tells other otherFact)
    (same : fact ↔ otherFact) : result = other := by
  obtain ⟨answer, rfl, own⟩ := tells
  obtain ⟨otherAnswer, rfl, others⟩ := tellsToo
  rw [Bool.eq_iff_iff.mpr (own.trans (same.trans others.symm))]

/-- If each test tells something of its item, the test on all tells it of all. -/
theorem allM {α : Type} {items : List α} {test : α → Except Fault Bool} {property : α → Prop}
    (each : ∀ item ∈ items, Tells (test item) (property item)) :
    Tells (items.allM test) (∀ item ∈ items, property item) := by
  obtain ⟨answer, answered⟩ :=
    ShortCircuit.exists_allM_eq_ok fun item member => (each item member).imp fun _ => And.left
  refine ⟨answer, answered, ?_⟩
  rw [← Except.ok.injEq answer true, ← answered, ShortCircuit.allM_eq_ok_true_iff]
  exact forall₂_congr fun item member => (each item member).eq_true_iff

end Tells

/-! ## Values under names -/

section Lookup

variable {α β : Type} {named others : List (String × α)}

theorem mem_of_lookup_eq_some {name : String} {value : α}
    (found : named.lookup name = some value) : (name, value) ∈ named := by
  obtain ⟨before, after, rfl, -⟩ := List.lookup_eq_some_iff.mp found
  exact List.mem_append_right _ List.mem_cons_self

theorem lookup_eq_none_iff_notMem {name : String} :
    named.lookup name = none ↔ name ∉ named.map (·.1) := by
  rw [List.lookup_eq_none_iff]
  constructor
  · intro none inside
    obtain ⟨field, member, rfl⟩ := List.mem_map.mp inside
    exact bne_iff_ne.mp (none field member) rfl
  · intro absent field member
    exact bne_iff_ne.mpr fun same => absent (same ▸ List.mem_map_of_mem member)

/-- If the same stands under each name, there are equally many names. -/
theorem length_eq_of_lookup_eq {make : α → β} (different : (named.map (·.1)).Nodup)
    (differentToo : (others.map (·.1)).Nodup)
    (same : ∀ name, (named.lookup name).map make = (others.lookup name).map make) :
    named.length = others.length := by
  have names : (named.map (·.1)).Perm (others.map (·.1)) := by
    refine (List.perm_ext_iff_of_nodup different differentToo).mpr fun name => ?_
    rw [← not_iff_not, ← lookup_eq_none_iff_notMem, ← lookup_eq_none_iff_notMem,
      ← Option.map_eq_none_iff, same, Option.map_eq_none_iff]
  simpa using names.length_eq

/-- If there are equally many names, the same stands under each name as soon as it does under each
one of one side. -/
theorem lookup_eq_iff {make : α → β} (different : (named.map (·.1)).Nodup)
    (sizes : named.length = others.length) :
    (∀ name, (named.lookup name).map make = (others.lookup name).map make) ↔
      ∀ field ∈ named, (others.lookup field.1).map make = some (make field.2) := by
  constructor
  · intro same field member
    rw [← same, Value.lookup_eq_some_of_mem different member, Option.map_some]
  · intro each
    have known : named.map (·.1) ⊆ others.map (·.1) := by
      refine List.forall_mem_map.mpr fun field member => not_not.mp ?_
      rw [← lookup_eq_none_iff_notMem]
      intro none
      have found := each field member
      rw [none] at found
      cases found
    have names : (named.map (·.1)).Perm (others.map (·.1)) :=
      (List.subperm_of_subset different known).perm_of_length_le (by simp [sizes])
    intro name
    cases own : named.lookup name with
    | some value => exact (each _ (mem_of_lookup_eq_some own)).symm
    | none =>
      have absent := lookup_eq_none_iff_notMem.mp own
      rw [names.mem_iff, ← lookup_eq_none_iff_notMem] at absent
      rw [absent]

end Lookup

/-! ## Plain data -/

/-- The meaning of plain data. -/
inductive Meaning
  | nothing
  | truth (value : Bool)
  /-- A number means its position among the numbers. -/
  | number (position? : Option (WithBot (WithTop ℚ)))
  | packed (value : Packed)
  | text (value : String)
  | bytes (value : List UInt8)
  | uuid (value : Uuid)
  /-- A moment means a point in local time or on the time line. -/
  | moment (isAware : Bool) (time : Int)
  | list (items : List Meaning)
  | tuple (items : List Meaning)
  /-- A mapping means what stands under each name. -/
  | mapping (under : String → Option Meaning)

/-- The bracket of what has a meaning. -/
def Meaning.bracket : Meaning → String
  | .nothing => "null"
  | .truth _ => "bool"
  | .number _ | .packed _ => "number"
  | .text _ => "string"
  | .bytes _ => "bytes"
  | .uuid _ => "UUID"
  | .moment .. => "date"
  | .list _ | .tuple _ => "array"
  | .mapping _ => "object"

namespace Value

mutual

/-- What data means inside other data. -/
def innerMeaning : Value → Meaning
  | .bool value => .number (Number.whole (if value then 1 else 0)).position?
  | .int value => .number (Number.whole value).position?
  | .float value => .number (Number.binary value).position?
  | .decimal value => .number (Number.decimal value).position?
  | .packed value => .packed value
  | .text value => .text value
  | .bytes value => .bytes value
  | .uuid value => .uuid value
  | .moment value => .moment value.offset.isSome (value.localTime - value.offset.getD 0)
  | .list items => .list (innerMeanings items)
  | .tuple items => .tuple (innerMeanings items)
  | .mapping entries => .mapping (innerMeaningUnder entries)
  | _ => .nothing

/-- What items mean. -/
def innerMeanings : List Value → List Meaning
  | [] => []
  | item :: items => item.innerMeaning :: innerMeanings items

/-- What stands under a name in entries. -/
def innerMeaningUnder : List (Value × Value) → String → Option Meaning
  | [], _ => none
  | (key, value) :: entries, name =>
    if key.text? = some name then some value.innerMeaning else innerMeaningUnder entries name

end

/-- What data means alone. -/
def meaning : Value → Meaning
  | .bool value => .truth value
  | .packed value => .number (Number.decimal value.number).position?
  | value => value.innerMeaning

theorem innerMeanings_eq_map (items : List Value) :
    innerMeanings items = items.map innerMeaning := by
  induction items with
  | nil => rfl
  | cons item items ih => rw [innerMeanings, ih, List.map_cons]

theorem innerMeaningUnder_fieldEntries (named : List (String × Value)) (name : String) :
    innerMeaningUnder (fieldEntries named) name = (named.lookup name).map innerMeaning := by
  induction named with
  | nil => rfl
  | cons field named ih =>
    obtain ⟨first, value⟩ := field
    rw [fieldEntries, List.map_cons, innerMeaningUnder, List.lookup_cons]
    by_cases same : name = first
    · subst same
      rw [beq_self_eq_true]
      exact if_pos rfl
    · rw [beq_false_of_ne same]
      exact (if_neg fun isFirst => same (Option.some.inj isFirst).symm).trans ih

/-- Whether a value is of a kind of plain data: nothing, a truth value, a number that is some
number, a text, bytes, an identifier, a moment, a list, a tuple, or a mapping with different texts
for its keys. -/
def isDatum : Value → Bool
  | .null | .bool _ | .int _ | .text _ | .bytes _ | .uuid _ | .moment _ | .list _ | .tuple _ => true
  | .float value => !(Value.float value).isNotANumber
  | .decimal value => !(Value.decimal value).isNotANumber
  | .packed value => !(Value.packed value).isNotANumber
  | .mapping entries =>
    entries.all (fun entry => entry.1.isText) && decide (entries.map (·.1.text?)).Nodup
  | _ => false

/-- The entries of a mapping of plain data are named, and the names are different. -/
theorem exists_named_of_isDatum {entries : List (Value × Value)}
    (isDatum : (mapping entries).isDatum) :
    ∃ named, entries = fieldEntries named ∧ (named.map (·.1)).Nodup := by
  obtain ⟨texts, different⟩ := Bool.and_eq_true_iff.mp isDatum
  have isNamed : ∀ entries : List (Value × Value), entries.all (fun entry => entry.1.isText) →
      ∃ named, entries = fieldEntries named := by
    intro entries
    induction entries with
    | nil => exact fun _ => ⟨[], rfl⟩
    | cons entry entries ih =>
      intro texts
      rw [List.all_cons, Bool.and_eq_true] at texts
      obtain ⟨named, rfl⟩ := ih texts.2
      obtain ⟨key, value⟩ := entry
      cases key with
      | text name => exact ⟨(name, value) :: named, rfl⟩
      | _ => cases texts.1
  obtain ⟨named, rfl⟩ := isNamed entries texts
  refine ⟨named, rfl, ?_⟩
  have asTexts : (fieldEntries named).map (·.1.text?) = (named.map (·.1)).map some := by
    rw [fieldEntries, List.map_map, List.map_map]
    rfl
  rw [asTexts] at different
  exact (of_decide_eq_true different).of_map

/-- The cases of a proof about all plain data. -/
structure DataCases (motive : Value → Prop) : Prop where
  leaf : ∀ value, value.isLeaf → value.isDatum → motive value
  list : ∀ items, (∀ item ∈ items, motive item) → motive (.list items)
  tuple : ∀ items, (∀ item ∈ items, motive item) → motive (.tuple items)
  mapping : ∀ named, (named.map (·.1)).Nodup → (∀ field ∈ named, motive field.2) →
    motive (.mapping (fieldEntries named))

namespace DataCases

variable {motive : Value → Prop}

mutual

/-- What holds in all cases holds of all plain data. -/
theorem of_data (each : DataCases motive) (value : Value) (isData : value.everyPart isDatum) :
    motive value := by
  cases value with
  | list items =>
    exact each.list items (each.of_items items (Bool.and_eq_true_iff.mp isData).2)
  | tuple items =>
    exact each.tuple items (each.of_items items (Bool.and_eq_true_iff.mp isData).2)
  | mapping entries =>
    obtain ⟨own, values⟩ := Bool.and_eq_true_iff.mp isData
    have parts := each.of_entries entries values
    obtain ⟨named, rfl, different⟩ := exists_named_of_isDatum own
    exact each.mapping named different
      ((List.forall_mem_map (P := fun entry : Value × Value => motive entry.2)).mp parts)
  | set | record | member => cases isData
  | _ => exact each.leaf _ rfl isData
termination_by structural value

theorem of_items (each : DataCases motive) (items : List Value)
    (isData : everyItem isDatum items) : ∀ item ∈ items, motive item := by
  cases items with
  | nil => exact nofun
  | cons item items =>
    obtain ⟨first, rest⟩ := Bool.and_eq_true_iff.mp isData
    exact List.forall_mem_cons.mpr ⟨each.of_data item first, each.of_items items rest⟩
termination_by structural items

theorem of_entries (each : DataCases motive) (entries : List (Value × Value))
    (isData : everyEntry isDatum entries) : ∀ entry ∈ entries, motive entry.2 := by
  cases entries with
  | nil => exact nofun
  | cons entry entries =>
    obtain ⟨key, value⟩ := entry
    obtain ⟨first, rest⟩ := Bool.and_eq_true_iff.mp isData
    exact List.forall_mem_cons.mpr ⟨each.of_data value first, each.of_entries entries rest⟩
termination_by structural entries

end

end DataCases

/-! ## Data without parts -/

/-- A number that is some number lies somewhere. -/
theorem exists_position?_of_isDatum {value : Value} {number : Number} (isDatum : value.isDatum)
    (counts : value.number? = some number) : ∃ position, number.position? = some position := by
  cases value with
  | bool | int =>
    cases counts
    exact ⟨_, rfl⟩
  | float binary =>
    cases counts
    cases binary with
    | notANumber => cases isDatum
    | _ => exact ⟨_, rfl⟩
  | decimal decimal =>
    cases counts
    cases decimal with
    | notANumber => cases isDatum
    | _ => exact ⟨_, rfl⟩
  | intMember => cases isDatum
  | _ => cases counts

/-- Numbers that lie somewhere are equal just if they lie at the same position. -/
theorem numbersEqual_tells {left right : Number} {position other : WithBot (WithTop ℚ)}
    (place : left.position? = some position) (placeToo : right.position? = some other) :
    Tells (numbersEqual left right) (left.position? = right.position?) := by
  rw [numbersEqual, Number.equal?_eq_order?, isSignalling_of_position? place,
    isSignalling_of_position? placeToo, order?_of_position? place placeToo, place, placeToo]
  refine ⟨_, rfl, ?_⟩
  rw [Option.some.injEq]
  show (compare position other == .eq) = true ↔ _
  rw [compare_beq_eq, decide_eq_true_iff]

/-- Moments are equal just if they are the same point, in local time or on the time line. -/
theorem moments_tell (left right : Moment) :
    Tells (.ok (left.compare? right == some .eq))
      ((moment left).innerMeaning = (moment right).innerMeaning) := by
  refine ⟨_, rfl, ?_⟩
  rw [innerMeaning, innerMeaning, Meaning.moment.injEq]
  by_cases awareness : left.offset.isSome = right.offset.isSome
  · rw [compare?_eq awareness]
    show (compare _ _ == .eq) = true ↔ _
    rw [compare_beq_eq, decide_eq_true_iff, and_iff_right awareness]
  · refine iff_of_false ?_ fun same => awareness same.1
    rw [Moment.compare?]
    cases own : left.offset <;> cases others : right.offset <;> simp_all

/-- Data without parts is equal to data just if both have the same inner meaning. -/
theorem plainEqual_tells {left right : Value} (isLeaf : left.isLeaf) (isDatum : left.isDatum)
    (isData : right.everyPart Value.isDatum) :
    Tells (plainEqual left right) (left.innerMeaning = right.innerMeaning) := by
  have numbers : ∀ number other, left.number? = some number → right.number? = some other →
      Tells (numbersEqual number other) (number.position? = other.position?) := by
    intro number other counts countsToo
    have isDatumToo : right.isDatum := by
      cases right <;> first | exact isData | cases countsToo
    obtain ⟨_, place⟩ := exists_position?_of_isDatum isDatum counts
    obtain ⟨_, placeToo⟩ := exists_position?_of_isDatum isDatumToo countsToo
    exact numbersEqual_tells place placeToo
  cases left with
  | bool | int | float | decimal =>
    cases right with
    | bool | int | float | decimal =>
      refine (numbers _ _ rfl rfl).congr ?_
      rw [innerMeaning, innerMeaning, Meaning.number.injEq]
    | null | packed | text | bytes | uuid | moment | list | tuple | mapping => exact .no nofun
    | _ => cases isData
  | null | packed | text | bytes | uuid =>
    cases right with
    | null | packed | text | bytes | uuid =>
      -- Values of one kind are compared as they are, and values of two kinds are told apart.
      first | exact .no nofun | exact ⟨_, rfl, by simp [innerMeaning]⟩
    | bool | int | float | decimal | moment | list | tuple | mapping => exact .no nofun
    | _ => cases isData
  | moment value =>
    cases right with
    | moment other => exact moments_tell value other
    | null | bool | int | float | decimal | packed | text | bytes | uuid | list | tuple
    | mapping => exact .no nofun
    | _ => cases isData
  | list | tuple | mapping | set | record | member => cases isLeaf
  | _ => cases isDatum

/-! ## Data with parts -/

/-- Equality with a value is decided by inner meanings, for all data and whichever side leads. -/
def EqualByMeaning (value : Value) : Prop :=
  ∀ other : Value, other.everyPart isDatum → ∀ leads,
    Tells (value.equalWith leads other) (value.innerMeaning = other.innerMeaning)

/-- Items are compared up to the first that differs, or up to the end of one side. -/
theorem exists_allPass_eq {items others : List Value} (own : ∀ item ∈ items, item.EqualByMeaning)
    (isData : ∀ other ∈ others, other.everyPart isDatum) (leads : Bool) :
    ∃ answer, allPass (itemTests leads items) others = .ok answer ∧
      (answer = true ∧ items.length = others.length ↔
        innerMeanings items = innerMeanings others) := by
  induction items generalizing others with
  | nil =>
    refine ⟨true, rfl, ?_⟩
    cases others <;> simp [innerMeanings]
  | cons item items ih =>
    cases others with
    | nil => exact ⟨true, rfl, by simp [innerMeanings]⟩
    | cons other others =>
      obtain ⟨first, rest⟩ := List.forall_mem_cons.mp own
      obtain ⟨firstData, restData⟩ := List.forall_mem_cons.mp isData
      obtain ⟨equal, answered, tells⟩ := first other firstData leads
      rw [itemTests, allPass, answered, innerMeanings, innerMeanings, List.cons.injEq, ← tells]
      cases equal with
      | false => exact ⟨false, rfl, by simp⟩
      | true =>
        obtain ⟨answer, later, tellsLater⟩ := ih rest restData
        exact ⟨answer, later, by simp [← tellsLater]⟩

theorem equalByMeaning_list {items : List Value} (own : ∀ item ∈ items, item.EqualByMeaning) :
    (list items).EqualByMeaning := by
  intro other isData leads
  cases other with
  | list others =>
    obtain ⟨answer, answered, tells⟩ :=
      exists_allPass_eq own (everyPart_of_items?_eq rfl isData) leads
    rw [equalWith, innerMeaning, innerMeaning, Meaning.list.injEq, ← tells]
    split
    · next sizes => exact ⟨answer, answered, by simp [sizes]⟩
    · next sizes => exact .no fun same => sizes same.2
  | null | bool | int | float | decimal | packed | text | bytes | uuid | moment | tuple
  | mapping => exact .no (by simp [innerMeaning])
  | _ => cases isData

theorem equalByMeaning_tuple {items : List Value} (own : ∀ item ∈ items, item.EqualByMeaning) :
    (tuple items).EqualByMeaning := by
  intro other isData leads
  cases other with
  | tuple others =>
    obtain ⟨answer, answered, tells⟩ :=
      exists_allPass_eq own (everyPart_of_items?_eq rfl isData) leads
    rw [equalWith, answered, innerMeaning, innerMeaning, Meaning.tuple.injEq, ← tells]
    cases answer with
    | false => exact .no fun same => Bool.false_ne_true same.1
    | true => exact ⟨_, rfl, by simp⟩
  | null | bool | int | float | decimal | packed | text | bytes | uuid | moment | list
  | mapping => exact .no (by simp [innerMeaning])
  | _ => cases isData

/-- What tests one item after the other up to the first that fails is a test on all. -/
theorem foldr_eq_allM {α : Type} {items : List α}
    {step : α → Except Fault Bool → Except Fault Bool} {test : α → Except Fault Bool}
    (each : ∀ item rest, step item rest = do if ← test item then rest else return false) :
    items.foldr step (return true) = items.allM test := by
  induction items with
  | nil => rfl
  | cons item items ih =>
    rw [List.foldr_cons, ih, each, List.allM_cons]

/-- The test of a value on what stands under a name, which is failed if nothing does. -/
def testUnder (named : List (String × Value)) (name : String) (test : Test) : Except Fault Bool :=
  (named.lookup name).elim (.ok false) test

theorem length_entryTests_eq_iff (leads : Bool) {named others : List (String × Value)} :
    (entryTests leads (fieldEntries named)).length = (fieldEntries others).length ↔
      named.length = others.length := by
  rw [entryTests_fieldEntries, fieldEntries, List.length_map, List.length_map]

/-- The leading side looks up each of its names on the other. -/
theorem entriesPass_true {named others : List (String × Value)}
    (sizes : named.length = others.length) :
    entriesPass true (entryTests true (fieldEntries named)) (fieldEntries others) =
      named.allM fun field => testUnder others field.1 (field.2.equalWith false) := by
  rw [entriesPass, if_neg (not_not.mpr ((length_entryTests_eq_iff true).mpr sizes)), if_pos rfl,
    entryTests_fieldEntries, List.foldr_map]
  refine foldr_eq_allM fun field rest => ?_
  have entry : (fieldEntries others).find? (fun entry =>
      Test.passes (plainEqual (.text field.1)) entry.1) =
        (others.lookup field.1).map fun value => (.text field.1, value) :=
    find?_map_eq_lookup others _ fun other => passes_plainEqual_text field.1 other.1
  simp only [entry, testUnder]
  cases others.lookup field.1 <;> rfl

/-- If the other side leads, it looks up each of its names on this one. -/
theorem entriesPass_false {named others : List (String × Value)}
    (sizes : named.length = others.length) :
    entriesPass false (entryTests false (fieldEntries named)) (fieldEntries others) =
      others.allM fun field => testUnder named field.1 fun value =>
        value.equalWith true field.2 := by
  rw [entriesPass, if_neg (not_not.mpr ((length_entryTests_eq_iff false).mpr sizes)),
    if_neg Bool.false_ne_true, entryTests_fieldEntries, fieldEntries, List.foldr_map]
  refine foldr_eq_allM fun field rest => ?_
  have test : (named.map fun field => (⟨plainEqual (.text field.1),
      equalWith true field.2⟩ : EntryTest)).find? (fun test => test.key.passes (.text field.1)) =
        (named.lookup field.1).map fun value =>
          ⟨plainEqual (.text field.1), equalWith true value⟩ :=
    find?_map_eq_lookup named _ fun other =>
      (passes_plainEqual_text other.1 field.1).trans (Bool.beq_comm ..)
  simp only [Bool.not_false, test, testUnder]
  cases named.lookup field.1 <;> rfl

/-- A test under a name tells whether there is something under it of which it tells something. -/
theorem testUnder_tells {named : List (String × Value)} {name : String} {test : Test}
    {result : Meaning}
    (each : ∀ value, named.lookup name = some value →
      Tells (test value) (value.innerMeaning = result)) :
    Tells (testUnder named name test) ((named.lookup name).map innerMeaning = some result) := by
  rw [testUnder]
  cases found : named.lookup name with
  | none => exact .no nofun
  | some value =>
    rw [Option.map_some, Option.some.injEq]
    exact each value found

/-- What the values of a mapping pass, each one does. -/
theorem everyPart_of_mem_fieldEntries {test : Value → Bool} {named : List (String × Value)}
    (all : (mapping (fieldEntries named)).everyPart test) :
    ∀ field ∈ named, field.2.everyPart test :=
  (List.forall_mem_map (P := fun entry : Value × Value => entry.2.everyPart test)).mp
    (everyEntry_iff.mp (Bool.and_eq_true_iff.mp all).2)

theorem equalByMeaning_mapping {named : List (String × Value)}
    (different : (named.map (·.1)).Nodup) (own : ∀ field ∈ named, field.2.EqualByMeaning) :
    (mapping (fieldEntries named)).EqualByMeaning := by
  intro other isData leads
  cases other with
  | mapping entries =>
    obtain ⟨others, rfl, differentToo⟩ :=
      exists_named_of_isDatum (Bool.and_eq_true_iff.mp isData).1
    have same : (mapping (fieldEntries named)).innerMeaning =
        (mapping (fieldEntries others)).innerMeaning ↔
          ∀ name, (named.lookup name).map innerMeaning = (others.lookup name).map innerMeaning := by
      simp only [innerMeaning, Meaning.mapping.injEq, funext_iff, innerMeaningUnder_fieldEntries]
    rw [equalWith, same]
    by_cases sizes : named.length = others.length
    · cases leads with
      | true =>
        rw [entriesPass_true sizes, lookup_eq_iff different sizes]
        refine .allM fun field member => testUnder_tells fun value found => ?_
        have isData := everyPart_of_mem_fieldEntries isData _ (mem_of_lookup_eq_some found)
        exact (own field member value isData false).congr eq_comm
      | false =>
        rw [entriesPass_false sizes, forall_congr' fun name => eq_comm,
          lookup_eq_iff differentToo sizes.symm]
        refine .allM fun field member => testUnder_tells fun value found => ?_
        have isData := everyPart_of_mem_fieldEntries isData field member
        exact own _ (mem_of_lookup_eq_some found) field.2 isData true
    · rw [entriesPass, if_pos ((length_entryTests_eq_iff leads).not.mpr sizes)]
      exact .no fun pointwise => sizes (length_eq_of_lookup_eq different differentToo pointwise)
  | null | bool | int | float | decimal | packed | text | bytes | uuid | moment | list
  | tuple => exact .no (by simp [innerMeaning])
  | _ => cases isData

/-- Equality of data is equality of inner meanings, whichever side leads. -/
theorem equalByMeaning_of_data {value : Value} (isData : value.everyPart isDatum) :
    value.EqualByMeaning := by
  have each : DataCases EqualByMeaning :=
    { leaf := fun value isLeaf isDatum other isData leads => by
        have plain : value.equalWith leads other = plainEqual value other := by
          cases value with
          | list | tuple | mapping | set | record | member => cases isLeaf
          | object => cases isDatum
          | _ => rfl
        rw [plain]
        exact plainEqual_tells isLeaf isDatum isData
      list := fun _ => equalByMeaning_list
      tuple := fun _ => equalByMeaning_tuple
      mapping := fun _ => equalByMeaning_mapping }
  exact each.of_data value isData

/-! ## Fields and operands -/

theorem bracket_meaning {value : Value} (isData : value.everyPart isDatum) :
    value.meaning.bracket = value.bracket := by
  cases value with
  | date | pattern | set | member | textMember | intMember | record | object | absent
  | stranger => cases isData
  | _ => rfl

/-- What data counts as is data. -/
theorem everyPart_isDatum_normalized {value : Value} (isData : value.everyPart isDatum) :
    value.normalized.everyPart isDatum := by
  cases value with
  | packed packed =>
    obtain ⟨number, packable⟩ := packed
    cases number with
    | notANumber => cases isData
    | _ => rfl
  | _ => exact isData

/-- What data that is no truth value counts as means inside other data what the data means alone. -/
theorem innerMeaning_normalized {value : Value} (noTruth : value.bracket ≠ "bool") :
    value.normalized.innerMeaning = value.meaning := by
  cases value with
  | bool => exact absurd rfl noTruth
  | _ => rfl

theorem exists_eq_bool {value : Value} (isData : value.everyPart isDatum)
    (truth : value.bracket = "bool") : ∃ answer, value = .bool answer := by
  cases value with
  | bool answer => exact ⟨answer, rfl⟩
  | date | pattern | set | member | textMember | intMember | record | object | absent
  | stranger => cases isData
  | _ => simp [bracket] at truth

/-- Data in one bracket means the same alone if what it counts as means the same inside. -/
theorem innerMeaning_normalized_eq_iff {field operand : Value}
    (isData : field.everyPart isDatum) (isDataToo : operand.everyPart isDatum)
    (same : field.bracket = operand.bracket) :
    field.normalized.innerMeaning = operand.normalized.innerMeaning ↔
      field.meaning = operand.meaning := by
  by_cases truth : field.bracket = "bool"
  · obtain ⟨left, rfl⟩ := exists_eq_bool isData truth
    obtain ⟨right, rfl⟩ := exists_eq_bool isDataToo (same ▸ truth)
    show Meaning.number (Number.whole _).position? = .number (Number.whole _).position? ↔
      Meaning.truth left = .truth right
    rw [Number.position?_whole, Number.position?_whole]
    cases left <;> cases right <;> simp [finitePoint]
  · rw [innerMeaning_normalized truth, innerMeaning_normalized (same ▸ truth)]

/-- A field equals an operand just if both mean the same alone. -/
theorem meets_tells {field operand : Value} (isData : field.everyPart isDatum)
    (isDataToo : operand.everyPart isDatum) :
    Tells (field.meets operand) (field.meaning = operand.meaning) := by
  by_cases something : operand = .null
  · subst something
    refine ⟨field.isNothing, rfl, ?_⟩
    cases field with
    | date | pattern | set | member | textMember | intMember | record | object | absent
    | stranger => cases isData
    | _ => simp [isNothing, meaning, innerMeaning]
  · rw [meets_eq_ite something]
    split
    · next same =>
      have equal := equalByMeaning_of_data (everyPart_isDatum_normalized isData)
        operand.normalized (everyPart_isDatum_normalized isDataToo) true
      exact equal.congr (innerMeaning_normalized_eq_iff isData isDataToo same)
    · next apart =>
      refine .no fun same => apart ?_
      rw [← bracket_meaning isData, ← bracket_meaning isDataToo, same]

end Value

end DocFilter
