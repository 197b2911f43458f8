/-
# Filters are plain document data

A store takes nothing but the plain data of documents. Whatever values are bound, in whatever
collections, records and members of enumerations they come, what the document converter leaves of
them in a filter is plain data at every depth, under keys that are texts. The keys of the filter
itself, its logical keys, fields and operators, are texts as well, so the filter as a whole is such
data.
-/

import DocFilter.Proofs.StoredForms

namespace DocFilter

open Binder (outcome)

namespace Value

/-- Whether a value is just a text. -/
def isText : Value → Bool
  | .text _ => true
  | _ => false

/-- Whether a value is of a kind that a store takes: plain data, lists, and mappings with texts for
their keys. -/
def isNativeKind : Value → Bool
  | .null | .bool _ | .int _ | .float _ | .packed _ | .text _ | .bytes _ | .moment _ => true
  | .list _ => true
  | .mapping entries => entries.all fun entry => entry.1.isText
  | _ => false

/-- Whether a value is of a kind that the document converter knows. Mappings may have any keys. -/
def isConvertibleKind : Value → Bool
  | .pattern _ | .object _ | .absent | .stranger => false
  | _ => true

theorem isNativeKind_fieldEntries (named : List (String × Value)) :
    (mapping (fieldEntries named)).isNativeKind := by
  simp [isNativeKind, fieldEntries, isText]

/-- The stored form of convertible data is native data. -/
theorem everyPart_isNativeKind_of_stored {value written : Value}
    (given : value.stored = .ok written) (all : value.everyPart isConvertibleKind) :
    written.everyPart isNativeKind := by
  apply stored_induction _ _ _ given all
  · intro value written isLeaf given kind
    cases value with
    | decimal number =>
      obtain ⟨packed, -, rfl⟩ := stored_decimal_eq_ok_iff.mp given
      rfl
    | pattern | object | absent | stranger => cases kind
    | record | member | mapping | list | tuple | set => cases isLeaf
    | _ =>
      cases given
      rfl
  · intro items own
    exact everyItem_iff.mpr own
  · intro named _ own
    refine Bool.and_eq_true_iff.mpr ⟨isNativeKind_fieldEntries named, everyEntry_iff.mpr ?_⟩
    exact List.forall_mem_map.mpr own

end Value

open Value

/-! ## What is written around the operands -/

/-- What holds of null, of texts and of what is bound holds of all operands. -/
theorem Keyword.forall_conditionsOn (property : Value → Prop) {bound : List Value}
    (null : property .null) (text : ∀ written, property (.text written))
    (all : ∀ value ∈ bound, property value) (options : Options) (keyword : Keyword) :
    ∀ condition ∈ keyword.conditionsOn options bound, property condition.2 := by
  rw [conditionsOn.eq_def]
  split <;> simp_all

/-- A test that a value passes with all its parts if it is put together of parts that do: a list, or
a mapping of names. -/
structure Value.PassesTogether (test : Value → Bool) : Prop where
  list : ∀ items, test (.list items)
  mapping : ∀ named, test (.mapping (fieldEntries named))

namespace Value.PassesTogether

variable {test : Value → Bool} (together : PassesTogether test)

include together

theorem everyPart_list {items : List Value} (all : ∀ item ∈ items, item.everyPart test) :
    (Value.list items).everyPart test :=
  Bool.and_eq_true_iff.mpr ⟨together.list items, everyItem_iff.mpr all⟩

theorem everyPart_mapping (named : List (String × Value))
    (all : ∀ field ∈ named, field.2.everyPart test) :
    (Value.mapping (fieldEntries named)).everyPart test :=
  Bool.and_eq_true_iff.mpr
    ⟨together.mapping named, everyEntry_iff.mpr (List.forall_mem_map.mpr all)⟩

theorem everyPart_entry {name : String} {value : Value} (passes : value.everyPart test) :
    (Value.mapping [(.text name, value)]).everyPart test :=
  together.everyPart_mapping [(name, value)] (List.forall_mem_singleton.mpr passes)

/-- The condition of a term passes if copies of its operands do. -/
theorem everyPart_condition {term : Term} {keyword : Keyword}
    (operators : term.conditions.map (·.1) = keyword.operators)
    (all : ∀ condition ∈ term.conditions, condition.2.copied.everyPart test) :
    term.condition.everyPart test := by
  rw [Term.condition_eq_fieldEntries (operators ▸ keyword.nodup_operators), copiedFields_eq_map]
  exact together.everyPart_mapping _ (List.forall_mem_map.mpr all)

/-- A group passes if the conditions of its terms do. -/
theorem everyPart_conjunctionOf {terms : List Term}
    (all : ∀ term ∈ terms, term.condition.everyPart test) :
    (Draft.conjunctionOf terms).everyPart test := by
  rw [Draft.conjunctionOf]
  split
  · have names : terms.map Term.entry =
        fieldEntries (terms.map fun term => (term.field, term.condition)) := by
      rw [fieldEntries, List.map_map]
      rfl
    rw [names]
    exact together.everyPart_mapping _ (List.forall_mem_map.mpr all)
  · refine together.everyPart_entry (together.everyPart_list (List.forall_mem_map.mpr ?_))
    exact fun term member => together.everyPart_entry (all term member)

/-- Groups pass, in whatever shape they are written, if the conditions of all their terms do. -/
theorem everyPart_disjunctionOf {groups : List (List Term)}
    (all : ∀ terms ∈ groups, ∀ term ∈ terms, term.condition.everyPart test) :
    (Draft.disjunctionOf groups).everyPart test := by
  match groups with
  | [] => exact together.everyPart_mapping [] nofun
  | [terms] => exact together.everyPart_conjunctionOf (all terms List.mem_cons_self)
  | first :: second :: others =>
    rw [Draft.disjunctionOf_cons_cons]
    refine together.everyPart_entry (together.everyPart_list (List.forall_mem_map.mpr ?_))
    exact fun terms member => together.everyPart_conjunctionOf (all terms member)

end Value.PassesTogether

/-! ## Native filters -/

/-- A clause on convertible values is compiled to a condition of native data. -/
theorem Slice.CompilesTo.everyPart_condition {options : Options} {slice : Slice} {term : Term}
    (compiled : slice.CompilesTo .document options term)
    (given : ∀ value ∈ slice.values, value.everyPart isConvertibleKind) :
    term.condition.everyPart isNativeKind := by
  have together : PassesTogether isNativeKind := ⟨fun _ => rfl, isNativeKind_fieldEntries⟩
  obtain ⟨keyword, operators⟩ := compiled.exists_operators
  apply together.everyPart_condition operators
  obtain ⟨keyword, bound, -, -, stored, rfl⟩ := compilesTo_document_iff.mp compiled
  apply Keyword.forall_conditionsOn (fun value => value.copied.everyPart isNativeKind) rfl
    (fun _ => rfl)
  refine forall_of_forall₂ ((List.forall₂_and_left _ _).mpr ⟨given, stored⟩) ?_
  rintro value written ⟨all, own⟩
  rw [copied_of_stored rfl (fun _ => rfl) own all]
  exact everyPart_isNativeKind_of_stored own all

/-- A filter that is compiled with the document converter consists of native data, whatever
convertible values were bound: there is plain data, lists, and mappings with texts for their keys,
and nothing else at any depth. -/
theorem Criteria.everyPart_isNativeKind_compile (options : Options) (criteria : Criteria)
    (values : List Value) (filter : Filter) (binding : Binding)
    (given : ∀ value ∈ values, value.everyPart isConvertibleKind)
    (compiled : outcome (criteria.compile .document options) (.ofValues values) =
      (.ok filter, binding)) :
    filter.toValue.everyPart isNativeKind := by
  have together : PassesTogether isNativeKind := ⟨fun _ => rfl, isNativeKind_fieldEntries⟩
  obtain ⟨groups, all, rfl, -⟩ := outcome_compile_iff.mp compiled
  rw [Draft.toValue_ofValue_disjunctionOf]
  apply together.everyPart_disjunctionOf
  -- Each term stands beside a slice of the values, all of which are convertible.
  have paired := forall₂_and_of_forall (criteria.forall_slices_values given) all
  refine forall_of_forall₂ paired fun group terms own => ?_
  refine forall_of_forall₂ own fun slice term both => ?_
  exact both.2.everyPart_condition both.1

/-- A record with parts of kinds that a store refuses, some of them inside others. -/
def Value.refusedParts : Value :=
  .record [("sizes", .set true [.tuple [.decimal (.finite false 150 (-2)), .date ⟨2024, 5, 1⟩]]),
    ("owners", .mapping [(.int 1, .uuid ⟨255⟩), (.null, .member "Level" "HIGH"
      (.tuple [.intMember "Rank" "TOP" 3, .textMember "Tone" "LOUD" "loud"]) "Level.HIGH")])]

/-- None of the kinds that a store refuses is left, neither in a record nor in a member of an
enumeration nor under a key that was no text. -/
theorem Criteria.everyPart_isNativeKind_compile_refusedParts :
    ∃ filter binding,
      (∀ value ∈ [refusedParts, .text "J*n"], value.everyPart isConvertibleKind) ∧
      outcome ((⟨[⟨.onName .notEquals, [.onName .like]⟩]⟩ : Criteria).compile .document {})
        (.ofValues [refusedParts, .text "J*n"]) = (.ok filter, binding) ∧
      refusedParts.everyPart isNativeKind = false ∧
      filter.toValue.everyPart isNativeKind := by
  have given : ∀ value ∈ [refusedParts, .text "J*n"], value.everyPart isConvertibleKind := by
    decide
  exact ⟨_, _, given, rfl, rfl,
    everyPart_isNativeKind_compile {} ⟨[⟨.onName .notEquals, [.onName .like]⟩]⟩
      [refusedParts, .text "J*n"] _ _ given rfl⟩

end DocFilter
