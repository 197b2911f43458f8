/-
# Compiled filters are queries

A query asks for fields by operators of a registry and joins queries under the logical keys. On such
a query nothing is at fault but a single test: two values that cannot be compared, or a pattern that
cannot be searched for. A compiled filter is such a query if no field of its criteria is called like
a logical key. A clause may be on a field of that name, and then its condition stands where a list
of queries is expected.
-/

import DocFilter.Proofs.Skeleton
import DocFilter.Proofs.Slices

namespace DocFilter

open Binder (outcome)

/-! ## Faults of single tests -/

/-- Whether a fault is one that testing a field against an operand can come to. No unknown operator
is, nor a missing key, nor anything that stands in place of a query, of a path or of a list. -/
def Fault.isOfTest : Fault → Bool
  | .undefinedComparison | .unordered | .malformedPattern _ | .binaryPattern | .crossedGroup => true
  | _ => false

/-- Something is given, or it fails as tests do. -/
def FailsAsTest {α : Type} (result : Except Fault α) : Prop :=
  ∀ fault, result = .error fault → fault.isOfTest

namespace FailsAsTest

variable {α β : Type}

theorem ok (value : α) : FailsAsTest (.ok value) :=
  nofun

theorem error {fault : Fault} (ofTest : fault.isOfTest) :
    FailsAsTest (.error fault : Except Fault α) := by
  intro other same
  cases same
  exact ofTest

theorem bind {first : Except Fault α} {next : α → Except Fault β} (given : FailsAsTest first)
    (later : ∀ value, FailsAsTest (next value)) : FailsAsTest (first >>= next) := by
  intro fault failed
  rcases bind_eq_error_iff.mp failed with own | ⟨value, -, after⟩
  · exact given fault own
  · exact later value fault after

/-- What is asked after a test may depend on its answer. -/
theorem bind_ite {test yes no : Except Fault Bool} (given : FailsAsTest test)
    (passed : FailsAsTest yes) (failed : FailsAsTest no) :
    FailsAsTest (do if ← test then yes else no) := by
  refine bind given fun answer => ?_
  cases answer with
  | true => exact passed
  | false => exact failed

/-- Tests on the items of a list fail as the single tests do. -/
theorem allM {test : α → Except Fault Bool} {items : List α}
    (each : ∀ item ∈ items, FailsAsTest (test item)) : FailsAsTest (items.allM test) := by
  induction items with
  | nil => exact ok true
  | cons item items ih =>
    obtain ⟨first, later⟩ := List.forall_mem_cons.mp each
    rw [List.allM_cons]
    exact bind_ite first (ih later) (ok false)

theorem anyM {test : α → Except Fault Bool} {items : List α}
    (each : ∀ item ∈ items, FailsAsTest (test item)) : FailsAsTest (items.anyM test) := by
  induction items with
  | nil => exact ok false
  | cons item items ih =>
    obtain ⟨first, later⟩ := List.forall_mem_cons.mp each
    rw [List.anyM_cons]
    exact bind_ite first (ok true) (ih later)

end FailsAsTest

namespace Value

theorem failsAsTest_numbersEqual (left right : Number) : FailsAsTest (numbersEqual left right) := by
  rw [numbersEqual]
  split
  · exact .ok _
  · exact .error rfl

theorem failsAsTest_plainEqual (left right : Value) : FailsAsTest (plainEqual left right) := by
  rw [plainEqual.eq_def]
  split
  · exact failsAsTest_numbersEqual _ _
  · split <;> first | exact .ok _ | skip
    split <;> exact .ok _

theorem failsAsTest_allPass {tests : List Test}
    (each : ∀ test ∈ tests, ∀ value, FailsAsTest (test value)) (values : List Value) :
    FailsAsTest (allPass tests values) := by
  induction tests generalizing values with
  | nil => exact .ok true
  | cons test tests ih =>
    obtain ⟨first, later⟩ := List.forall_mem_cons.mp each
    cases values with
    | nil => exact .ok true
    | cons value values => exact .bind_ite (first value) (ih later values) (.ok false)

/-- Looking for a key never fails, so entries fail as the tests of their values do. -/
theorem failsAsTest_entriesPass {tests : List EntryTest}
    (each : ∀ test ∈ tests, ∀ value, FailsAsTest (test.value value)) (leads : Bool)
    (entries : List (Value × Value)) : FailsAsTest (entriesPass leads tests entries) := by
  rw [entriesPass]
  split
  · exact .ok false
  split
  · refine List.foldrRecOn (motive := FailsAsTest) _ _ (.ok true) fun rest given test member => ?_
    split
    · exact .ok false
    · exact .bind_ite (each test member _) given (.ok false)
  · refine List.foldrRecOn (motive := FailsAsTest) _ _ (.ok true) fun rest given entry _ => ?_
    split
    · exact .ok false
    · next found =>
      exact .bind_ite (each _ (List.mem_of_find?_eq_some found) _) given (.ok false)

mutual

/-- Comparing values fails as comparing numbers does. -/
theorem failsAsTest_equalWith (leads : Bool) (value other : Value) :
    FailsAsTest (value.equalWith leads other) := by
  cases value with
  | list items =>
    cases other with
    | list others =>
      rw [equalWith]
      split
      · exact failsAsTest_allPass (failsAsTest_itemTests leads items) others
      · exact .ok false
    | _ => simp only [equalWith, failsAsTest_plainEqual]
  | tuple items =>
    cases other with
    | tuple others =>
      rw [equalWith]
      exact .bind_ite (failsAsTest_allPass (failsAsTest_itemTests leads items) others) (.ok _)
        (.ok false)
    | _ => simp only [equalWith, failsAsTest_plainEqual]
  | set frozen items =>
    cases other with
    | set otherFrozen others =>
      rw [equalWith]
      exact .ok _
    | _ => simp only [equalWith, failsAsTest_plainEqual]
  | mapping entries =>
    cases other with
    | mapping others =>
      rw [equalWith]
      exact failsAsTest_entriesPass (failsAsTest_entryTests leads entries) leads others
    | _ => simp only [equalWith, failsAsTest_plainEqual]
  | record fields =>
    cases other with
    | record others =>
      rw [equalWith]
      split
      · exact failsAsTest_entriesPass (failsAsTest_fieldTests leads fields) leads _
      · exact .ok false
    | _ => simp only [equalWith, failsAsTest_plainEqual]
  | object attributes =>
    cases other with
    | object others =>
      rw [equalWith]
      exact failsAsTest_entriesPass (failsAsTest_fieldTests leads attributes) leads _
    | _ => simp only [equalWith, failsAsTest_plainEqual]
  | _ => simp only [equalWith, failsAsTest_plainEqual]
termination_by structural value

theorem failsAsTest_itemTests (leads : Bool) (items : List Value) :
    ∀ test ∈ itemTests leads items, ∀ value, FailsAsTest (test value) := by
  cases items with
  | nil => simp [itemTests]
  | cons item items =>
    exact List.forall_mem_cons.mpr
      ⟨failsAsTest_equalWith leads item, failsAsTest_itemTests leads items⟩
termination_by structural items

theorem failsAsTest_entryTests (leads : Bool) (entries : List (Value × Value)) :
    ∀ test ∈ entryTests leads entries, ∀ value, FailsAsTest (test.value value) := by
  cases entries with
  | nil => simp [entryTests]
  | cons entry entries =>
    obtain ⟨key, value⟩ := entry
    exact List.forall_mem_cons.mpr
      ⟨failsAsTest_equalWith (!leads) value, failsAsTest_entryTests leads entries⟩
termination_by structural entries

theorem failsAsTest_fieldTests (leads : Bool) (fields : List (String × Value)) :
    ∀ test ∈ fieldTests leads fields, ∀ value, FailsAsTest (test.value value) := by
  cases fields with
  | nil => simp [fieldTests]
  | cons field fields =>
    obtain ⟨name, value⟩ := field
    exact List.forall_mem_cons.mpr
      ⟨failsAsTest_equalWith (!leads) value, failsAsTest_fieldTests leads fields⟩
termination_by structural fields

end

theorem failsAsTest_meets (field operand : Value) : FailsAsTest (field.meets operand) := by
  rw [meets.eq_def]
  split
  · exact .ok _
  · split
    · exact failsAsTest_equalWith true _ _
    · exact .ok false

theorem failsAsTest_less (left right : Value) : FailsAsTest (left.less right) := by
  unfold less
  split
  · split
    · exact .ok _
    · exact .error rfl
  split
  · exact .ok _
  split
  · split
    · exact .ok _
    · exact .error rfl
  · exact .ok _
  · exact .error rfl

end Value

namespace CompiledPattern

theorem failsAsTest_compile (source : PatternSource) (modes : Pattern.Modes) :
    FailsAsTest (compile source modes) := by
  cases source with
  | text written | bytes written =>
    unfold compile
    dsimp only
    split
    · exact .ok _
    · exact .error rfl

theorem failsAsTest_occursIn (pattern : CompiledPattern) (text : String) :
    FailsAsTest (pattern.occursIn text) := by
  have read : FailsAsTest pattern.forTexts := by
    rw [forTexts]
    split
    · exact .ok _
    · exact .error rfl
  refine .bind read fun meaning => ?_
  split
  · exact .ok false
  split
  · exact .error rfl
  · exact .ok true

end CompiledPattern

namespace Operator

theorem failsAsTest_isEqual (field operand : Value) : FailsAsTest (isEqual field operand) :=
  .anyM fun candidate _ => candidate.failsAsTest_meets operand

theorem failsAsTest_isOrdered {order : Value → Value → Except Fault Bool}
    (each : ∀ left right, FailsAsTest (order left right)) (field operand : Value) :
    FailsAsTest (isOrdered order field operand) := by
  refine .anyM fun candidate _ => ?_
  split
  · exact each _ _
  · exact .ok false

theorem failsAsTest_hasMatch (field operand : Value) : FailsAsTest (hasMatch field operand) := by
  have read : FailsAsTest (patternOf operand) := by
    rw [patternOf.eq_def]
    split
    · exact .ok _
    · exact CompiledPattern.failsAsTest_compile _ _
  refine .bind read fun pattern => .anyM fun candidate _ => ?_
  split
  · exact pattern.failsAsTest_occursIn _
  · exact .ok false

/-- The standard operators fail as tests do. -/
theorem failsAsTest_evaluate {operator : Operator}
    (standard : operator ∈ Registry.standard.operators) (field operand : Value) :
    FailsAsTest (operator.evaluate field operand) := by
  have listed : operator ∈ [equal, notEqual, greater, less, regex] := standard
  simp only [List.mem_cons, List.not_mem_nil, or_false] at listed
  rcases listed with rfl | rfl | rfl | rfl | rfl
  · exact failsAsTest_isEqual field operand
  · exact .bind (failsAsTest_isEqual field operand) fun _ => .ok _
  · exact failsAsTest_isOrdered (fun left right => right.failsAsTest_less left) field operand
  · exact failsAsTest_isOrdered Value.failsAsTest_less field operand
  · exact failsAsTest_hasMatch field operand

end Operator

/-! ## Queries -/

namespace Matching

/-- A query for a registry: under names of fields it has operators that the registry knows, at least
one, and under the logical keys it has lists of queries. -/
inductive IsQuery (registry : Registry) : Value → Prop
  | nil : IsQuery registry (.mapping [])
  | field {name : String} {operators : List (String × Value)} {entries : List (Value × Value)}
      (isField : IsField name) (nonempty : operators ≠ [])
      (marked : ∀ condition ∈ operators, isOperatorKey (.text condition.1))
      (known : ∀ condition ∈ operators, condition.1 ∈ registry.operators.map Operator.name)
      (others : IsQuery registry (.mapping entries)) :
      IsQuery registry
        (.mapping ((.text name, .mapping (Value.fieldEntries operators)) :: entries))
  | logical {name : String} {queries : List Value} {entries : List (Value × Value)}
      (isLogical : name = allKey ∨ name = anyKey) (each : ∀ query ∈ queries, IsQuery registry query)
      (others : IsQuery registry (.mapping entries)) :
      IsQuery registry (.mapping ((.text name, .list queries) :: entries))

variable {registry : Registry}

/-- Under a logical key a query has nothing but a list. -/
theorem not_isQuery_of_condition {condition : Value} {entries : List (Value × Value)}
    (noList : ∀ queries, condition ≠ .list queries) :
    ¬ IsQuery registry (.mapping ((.text allKey, condition) :: entries)) := by
  intro isQuery
  generalize written : Value.mapping ((.text allKey, condition) :: entries) = query at isQuery
  cases isQuery with
  | nil => cases written
  | field isField =>
    simp only [Value.mapping.injEq, List.cons.injEq, Prod.mk.injEq, Value.text.injEq] at written
    exact isField.1 written.1.1.symm
  | logical =>
    simp only [Value.mapping.injEq, List.cons.injEq, Prod.mk.injEq] at written
    exact noList _ written.1.2

/-- A known operator fails as the operators of its registry do. -/
theorem failsAsTest_evaluate {name : String}
    (known : name ∈ registry.operators.map Operator.name)
    (each : ∀ operator ∈ registry.operators, ∀ field operand,
      FailsAsTest (operator.evaluate field operand)) (field operand : Value) :
    FailsAsTest (registry.evaluate (.text name) field operand) := by
  obtain ⟨operator, member, found⟩ := Registry.exists_find?_eq_some known
  rw [registry.evaluate_text, found]
  exact each operator member field operand

/-- Queries in a list fail as tests do if each of them does. -/
theorem failsAsTest_matchesEach {document : Value} {queries : List Value}
    (each : ∀ query ∈ queries, FailsAsTest (matchesQuery registry document query)) :
    FailsAsTest (matchesEach registry document queries) := by
  induction queries with
  | nil =>
    rw [matchesEach]
    exact .ok true
  | cons query queries ih =>
    obtain ⟨first, later⟩ := List.forall_mem_cons.mp each
    rw [matchesEach]
    exact .bind_ite first (ih later) (.ok false)

theorem failsAsTest_matchesSome {document : Value} {queries : List Value}
    (each : ∀ query ∈ queries, FailsAsTest (matchesQuery registry document query)) :
    FailsAsTest (matchesSome registry document queries) := by
  induction queries with
  | nil =>
    rw [matchesSome]
    exact .ok false
  | cons query queries ih =>
    obtain ⟨first, later⟩ := List.forall_mem_cons.mp each
    rw [matchesSome]
    exact .bind_ite first (.ok true) (ih later)

/-- The operators of a condition are read as what they are. -/
theorem operatorsOf?_fieldEntries {operators : List (String × Value)} (nonempty : operators ≠ [])
    (marked : ∀ condition ∈ operators, isOperatorKey (.text condition.1)) :
    operatorsOf? (.mapping (Value.fieldEntries operators)) =
      some (Value.fieldEntries operators) := by
  have all : ((Value.fieldEntries operators).all fun entry => isOperatorKey entry.1) = true := by
    rw [Value.fieldEntries, List.all_map, List.all_eq_true]
    exact marked
  have some : (Value.fieldEntries operators).isEmpty = false := by
    rwa [Value.fieldEntries, List.isEmpty_map, List.isEmpty_eq_false_iff]
  rw [operatorsOf?, all, some]
  rfl

/-- On a query nothing fails but tests, whatever the document is. -/
theorem IsQuery.failsAsTest {query : Value} (isQuery : IsQuery registry query)
    (each : ∀ operator ∈ registry.operators, ∀ field operand,
      FailsAsTest (operator.evaluate field operand)) (document : Value) :
    FailsAsTest (matchesQuery registry document query) := by
  induction isQuery with
  | nil =>
    rw [matchesQuery, matchesEntries]
    exact .ok true
  | @field name operators entries isField nonempty marked known _ ih =>
    rw [matchesQuery, matchesEntries_field_cons isField]
    rw [matchesQuery] at ih
    refine .bind_ite ?_ ih (.ok false)
    rw [satisfies, operatorsOf?_fieldEntries nonempty marked]
    apply FailsAsTest.allM
    rintro _ member
    obtain ⟨condition, inside, rfl⟩ := List.mem_map.mp member
    exact failsAsTest_evaluate (known condition inside) each _ _
  | @logical name queries entries isLogical _ _ queriesFail ih =>
    rw [matchesQuery] at ih ⊢
    rcases isLogical with rfl | rfl
    · rw [matchesEntries_allKey_cons]
      exact .bind_ite (failsAsTest_matchesEach queriesFail) ih (.ok false)
    · rw [matchesEntries_anyKey_cons]
      exact .bind_ite (failsAsTest_matchesSome queriesFail) ih (.ok false)

end Matching

/-! ## Compiled queries -/

theorem Keyword.mem_names_of_mem_operators (keyword : Keyword) :
    ∀ name ∈ keyword.operators, name ∈ Registry.standard.operators.map Operator.name := by
  have names : Registry.standard.operators.map Operator.name =
      ["$eq", "$ne", "$gt", "$lt", "$regex"] := rfl
  rw [names]
  cases keyword <;> decide

/-- A term asks a field for something by the operators of a keyword. -/
def Term.AsksField (term : Term) : Prop :=
  Matching.IsField term.field ∧ ∃ keyword : Keyword, term.conditions.map (·.1) = keyword.operators

/-- The entry of a term is one of a query. -/
theorem Term.AsksField.isQuery_cons {term : Term} (asks : term.AsksField)
    {entries : List (Value × Value)} (others : Matching.IsQuery .standard (.mapping entries)) :
    Matching.IsQuery .standard (.mapping (term.entry :: entries)) := by
  obtain ⟨isField, keyword, operators⟩ := asks
  have names : (Value.copiedFields term.conditions).map (·.1) = keyword.operators := by
    rw [Value.copiedFields_eq_map, List.map_map]
    exact operators
  have nonempty : Value.copiedFields term.conditions ≠ [] := by
    intro none
    rw [none] at names
    exact keyword.operators_ne_nil names.symm
  have own : ∀ condition ∈ Value.copiedFields term.conditions,
      condition.1 ∈ keyword.operators := fun condition member =>
    names ▸ List.mem_map_of_mem member
  rw [entry_eq, condition_eq_fieldEntries (operators ▸ keyword.nodup_operators)]
  exact .field isField nonempty
    (fun condition member => keyword.isOperatorKey_of_mem_operators _ (own condition member))
    (fun condition member => keyword.mem_names_of_mem_operators _ (own condition member)) others

namespace Draft

/-- However a group of terms is written, it is a query. -/
theorem isQuery_conjunctionOf {terms : List Term} (all : ∀ term ∈ terms, term.AsksField) :
    Matching.IsQuery .standard (conjunctionOf terms) := by
  have merged : Matching.IsQuery .standard (.mapping (terms.map Term.entry)) := by
    induction terms with
    | nil => exact .nil
    | cons term terms ih =>
      obtain ⟨first, later⟩ := List.forall_mem_cons.mp all
      exact first.isQuery_cons (ih later)
  rw [conjunctionOf]
  split
  · exact merged
  · exact .logical (.inl rfl)
      (List.forall_mem_map.mpr fun term member => (all term member).isQuery_cons .nil) .nil

/-- However groups of terms are written, they are a query. -/
theorem isQuery_disjunctionOf {groups : List (List Term)}
    (all : ∀ terms ∈ groups, ∀ term ∈ terms, term.AsksField) :
    Matching.IsQuery .standard (disjunctionOf groups) := by
  match groups with
  | [] => exact .nil
  | [terms] => exact isQuery_conjunctionOf (all terms List.mem_cons_self)
  | first :: second :: others =>
    rw [disjunctionOf_cons_cons]
    exact .logical (.inr rfl)
      (List.forall_mem_map.mpr fun terms member => isQuery_conjunctionOf (all terms member)) .nil

end Draft

/-- A compiled filter is a query for the standard operators, whatever the values and the converter
were, if no field of its criteria is called like a logical key. Its keys are the fields of the
criteria and the logical keys that join them, as the skeleton of the criteria has them. So whatever
document it is asked about, nothing is at fault but a single test. -/
theorem Criteria.compiled_filter_is_query (converter : Converter) (options : Options)
    (criteria : Criteria) (filter : Filter) (binding final : Binding)
    (fields : ∀ clause ∈ criteria.clauses, Matching.IsField clause.field)
    (compiled : outcome (criteria.compile converter options) binding = (.ok filter, final)) :
    filter.toValue.skeleton = criteria.skeleton ∧
      Matching.IsQuery .standard filter.toValue ∧
      ∀ document fault, filter.matchesDocument document = .error fault → fault.isOfTest := by
  refine ⟨skeleton_compile compiled, ?_⟩
  rw [compile_eq_map_compileTerms, map_eq_pure_bind, Binder.outcome_bind_eq_ok_iff] at compiled
  obtain ⟨groups, middle, terms, done⟩ := compiled
  cases done
  have fieldsOf : ∀ list ∈ criteria.groups.map ClauseGroup.clauses, ∀ clause ∈ list,
      Matching.IsField clause.field :=
    List.forall_mem_map.mpr fun group inside clause member =>
      fields clause (List.mem_flatMap.mpr ⟨group, inside, member⟩)
  -- Each term has the form of a clause, and its field is no logical key.
  have paired :=
    forall₂_and_of_forall fieldsOf (List.forall₂_map_left_iff.mpr (forall₂_forms terms))
  have all : ∀ terms ∈ groups, ∀ term ∈ terms, term.AsksField := by
    refine forall_of_forall₂ paired fun group terms own => ?_
    refine forall_of_forall₂ own ?_
    rintro clause term ⟨isField, keyword, -, field, operators⟩
    exact ⟨field ▸ isField, keyword, operators⟩
  have isQuery :
      Matching.IsQuery .standard (Filter.ofValue (Draft.disjunctionOf groups)).toValue := by
    rw [Draft.toValue_ofValue_disjunctionOf]
    exact Draft.isQuery_disjunctionOf all
  exact ⟨isQuery, isQuery.failsAsTest fun _ standard => Operator.failsAsTest_evaluate standard⟩

/-- A filter on an age and a name is a query, and an age that has no order is at fault as a test. -/
theorem Criteria.compiled_filter_is_query_ageOrName :
    ∃ filter final fault,
      (∀ clause ∈ ageOrName.clauses, Matching.IsField clause.field) ∧
      outcome (ageOrName.compile .document {})
        (.ofValues [.int 18, .int 65, .int 40, .text "Jan"]) = (.ok filter, final) ∧
      filter.toValue.skeleton = ageOrName.skeleton ∧
      Matching.IsQuery .standard filter.toValue ∧
      filter.matchesDocument (.mapping [(.text "age", .decimal (.notANumber false true 0))]) =
        .error fault ∧
      fault.isOfTest := by
  have fields : ∀ clause ∈ ageOrName.clauses, Matching.IsField clause.field := by decide
  obtain ⟨skeleton, isQuery, faults⟩ := compiled_filter_is_query .document {} ageOrName _
    (.ofValues [.int 18, .int 65, .int 40, .text "Jan"]) _ fields rfl
  exact ⟨_, _, .undefinedComparison, fields, rfl, skeleton, isQuery, rfl,
    faults (.mapping [(.text "age", .decimal (.notANumber false true 0))]) _ rfl⟩

/-- A field that is called like a logical key is accepted by a clause, and then the condition on it
is taken for a list of queries, of which its operator is the first. -/
theorem Criteria.not_isQuery_allKey :
    ∃ clause filter final,
      (ClauseForm.ofDotted "$and" (.text "equals")).build = .ok clause ∧
      outcome ((⟨[⟨clause, []⟩]⟩ : Criteria).compile .document {}) (.ofValues [.int 5]) =
        (.ok filter, final) ∧
      ¬ Matching.IsQuery .standard filter.toValue ∧
      filter.matchesDocument (.mapping [(.text "$and", .int 5)]) = .error .notMapping ∧
      Fault.notMapping.isOfTest = false := by
  have isPath : IsPath ["$and"] := by decide
  exact ⟨⟨["$and"], .known .equals, isPath⟩, _, _, rfl, rfl,
    Matching.not_isQuery_of_condition nofun, rfl, rfl⟩

end DocFilter
