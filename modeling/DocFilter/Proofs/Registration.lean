/-
# What matching sees of a registry

A registry is asked for an operator only where a condition stands: by the keys of the condition if
these are names of operators, and by the name of equality if they are not. So two registries that
have the same operators for the keys that a query asks by are the same for that query, whatever
else was registered in them and in whatever order. The opposite of equality tests equality itself
and does not ask for it.

A compiled filter asks by the names of standard operators only, and so operators of new names do not
change what it matches.
-/

import DocFilter.Proofs.Queries

namespace DocFilter

open Binder (outcome)

/-! ## Looking up what was registered -/

namespace Registry

/-- A registered operator takes its name, and every other name keeps its operator. -/
theorem find?_register (registry : Registry) (operator : Operator) (name : String) :
    (registry.register operator).find? name =
      if operator.name = name then some operator else registry.find? name := by
  rw [find?, register, List.find?_append, List.find?_filter]
  by_cases same : operator.name = name
  · have gone : registry.operators.find? (fun other =>
        other.name != operator.name ∧ other.name == name) = none :=
      List.find?_eq_none.mpr fun other _ => by simp [same]
    rw [if_pos same, gone, List.find?_singleton, beq_iff_eq.mpr same]
    rfl
  · have kept : (fun other : Operator => decide (other.name != operator.name ∧
        other.name == name)) = fun other => other.name == name := by
      funext other
      by_cases named : other.name = name
      · simp [named, Ne.symm same]
      · simp [named]
    rw [if_neg same, kept, List.find?_singleton, beq_false_of_ne same]
    exact Option.or_none

/-- Of the operators of one name the last one is found, and without any the one from before. -/
theorem find?_registerAll (registry : Registry) (operators : List Operator) (name : String) :
    (registry.registerAll operators).find? name =
      (operators.reverse.find? (·.name == name)).or (registry.find? name) := by
  induction operators generalizing registry with
  | nil => rfl
  | cons operator operators ih =>
    have first : registry.registerAll (operator :: operators) =
        (registry.register operator).registerAll operators := rfl
    rw [first, ih, find?_register, List.reverse_cons, List.find?_append, Option.or_assoc,
      List.find?_singleton]
    by_cases same : operator.name = name
    · rw [if_pos same, beq_iff_eq.mpr same]
      rfl
    · rw [if_neg same, beq_false_of_ne same]
      rfl

/-- Where nothing is registered every operator is unknown, and there is none to name instead. -/
theorem evaluate_nil (name : String) (field operand : Value) :
    evaluate {} (.text name) field operand =
      .error (.query (.unsupportedOperator name [])) := by
  have none : names {} = [] := List.mergeSort_nil
  rw [evaluate_text, none]
  rfl

/-- Two registries have the same operator for a key. -/
def Agree (first second : Registry) (key : Value) : Prop :=
  ∃ operator, first.named? key = .ok (some operator) ∧ second.named? key = .ok (some operator)

variable {first second : Registry} {key : Value}

theorem Agree.evaluate_eq (agree : first.Agree second key) (field operand : Value) :
    first.evaluate key field operand = second.evaluate key field operand := by
  obtain ⟨operator, found, foundToo⟩ := agree
  rw [evaluate, evaluate, found, foundToo]
  rfl

/-- A registry agrees with itself, with operators of other names added, on what it knows. -/
theorem agree_registerAll {registry : Registry} {added : List Operator} {name : String}
    (known : name ∈ registry.operators.map Operator.name)
    (others : ∀ operator ∈ added, operator.name ≠ name) :
    (registry.registerAll added).Agree registry (.text name) := by
  obtain ⟨operator, -, found⟩ := exists_find?_eq_some known
  have unseen : added.reverse.find? (·.name == name) = none := by
    simpa using others
  have foundToo : (registry.registerAll added).find? name = some operator := by
    rw [find?_registerAll, unseen, Option.none_or, found]
  exact ⟨operator, congrArg Except.ok foundToo, congrArg Except.ok found⟩

end Registry

/-! ## What a query asks a registry for -/

namespace Matching

/-- The keys by which a condition asks for operators. -/
def conditionKeys (condition : Value) : List Value :=
  match operatorsOf? condition with
  | some operators => operators.map (·.1)
  | none => [.text "$eq"]

mutual

/-- The keys by which a query asks for operators. -/
def askedKeys : Value → List Value
  | .mapping entries => entryKeys entries
  | _ => []

/-- The keys by which the entries of a query ask for operators. -/
def entryKeys : List (Value × Value) → List Value
  | [] => []
  | (key, condition) :: entries =>
    (if key.text? = some allKey ∨ key.text? = some anyKey then collectionKeys condition
    else conditionKeys condition) ++ entryKeys entries

/-- The keys by which what stands in the place of queries asks for operators. -/
def collectionKeys : Value → List Value
  | .list queries | .tuple queries | .set _ queries => eachKeys queries
  | _ => []

/-- The keys by which queries ask for operators. -/
def eachKeys : List Value → List Value
  | [] => []
  | query :: queries => askedKeys query ++ eachKeys queries

end

/-- Queries ask by the keys that each of them asks by. -/
theorem forall_mem_eachKeys {property : Value → Prop} {queries : List Value} :
    (∀ key ∈ eachKeys queries, property key) ↔
      ∀ query ∈ queries, ∀ key ∈ askedKeys query, property key := by
  induction queries with
  | nil => simp [eachKeys]
  | cons query queries ih => rw [eachKeys, List.forall_mem_append, ih, List.forall_mem_cons]

/-- Under a logical key alone stand the queries that ask. -/
theorem askedKeys_logical {name : String} (isLogical : name = allKey ∨ name = anyKey)
    (queries : List Value) :
    askedKeys (.mapping [(.text name, .list queries)]) = eachKeys queries := by
  have logical : (Value.text name).text? = some allKey ∨ (Value.text name).text? = some anyKey := by
    simpa [Value.text?] using isLogical
  rw [askedKeys, entryKeys, if_pos logical, collectionKeys, entryKeys, List.append_nil]

variable {first second : Registry}

theorem satisfies_congr {condition : Value}
    (agree : ∀ key ∈ conditionKeys condition, first.Agree second key) (field : Value) :
    satisfies first field condition = satisfies second field condition := by
  rw [satisfies, satisfies]
  rw [conditionKeys] at agree
  split
  · next operators isOperators =>
    rw [isOperators] at agree
    apply ShortCircuit.allM_eq_of_forall₂
    refine List.forall₂_same.mpr fun entry member => ?_
    exact (agree entry.1 (List.mem_map_of_mem member)).evaluate_eq field entry.2
  · next plain =>
    rw [plain] at agree
    exact (agree _ List.mem_cons_self).evaluate_eq field condition

mutual

/-- Registries that agree on what a query asks for match it alike. -/
theorem matchesQuery_agree (document query : Value)
    (agree : ∀ key ∈ askedKeys query, first.Agree second key) :
    matchesQuery first document query = matchesQuery second document query := by
  cases query with
  | mapping entries => exact matchesEntries_agree document entries agree
  | _ => rfl
termination_by structural query

theorem matchesEntries_agree (document : Value) (entries : List (Value × Value))
    (agree : ∀ key ∈ entryKeys entries, first.Agree second key) :
    matchesEntries first document entries = matchesEntries second document entries := by
  cases entries with
  | nil => rfl
  | cons entry entries =>
    obtain ⟨key, condition⟩ := entry
    rw [entryKeys, List.forall_mem_append] at agree
    obtain ⟨own, later⟩ := agree
    have rest := matchesEntries_agree document entries later
    rw [matchesEntries, matchesEntries, rest]
    split
    · next isAll =>
      rw [if_pos (.inl isAll)] at own
      rw [matchesAll_agree document condition own]
    split
    · next isAny =>
      rw [if_pos (.inr isAny)] at own
      rw [matchesAny_agree document condition own]
    · next notAll notAny =>
      rw [if_neg (not_or.mpr ⟨notAll, notAny⟩)] at own
      simp only [holdsAt, satisfies_congr own]
termination_by structural entries

theorem matchesAll_agree (document condition : Value)
    (agree : ∀ key ∈ collectionKeys condition, first.Agree second key) :
    matchesAll first document condition = matchesAll second document condition := by
  cases condition with
  | list queries | tuple queries => exact matchesEach_agree document queries agree
  | set frozen queries => exact matchesEach_agree document queries agree
  | _ => rfl
termination_by structural condition

theorem matchesAny_agree (document condition : Value)
    (agree : ∀ key ∈ collectionKeys condition, first.Agree second key) :
    matchesAny first document condition = matchesAny second document condition := by
  cases condition with
  | list queries | tuple queries => exact matchesSome_agree document queries agree
  | set frozen queries => exact matchesSome_agree document queries agree
  | _ => rfl
termination_by structural condition

theorem matchesEach_agree (document : Value) (queries : List Value)
    (agree : ∀ key ∈ eachKeys queries, first.Agree second key) :
    matchesEach first document queries = matchesEach second document queries := by
  cases queries with
  | nil => rfl
  | cons query queries =>
    rw [eachKeys, List.forall_mem_append] at agree
    rw [matchesEach, matchesEach, matchesQuery_agree document query agree.1,
      matchesEach_agree document queries agree.2]
termination_by structural queries

theorem matchesSome_agree (document : Value) (queries : List Value)
    (agree : ∀ key ∈ eachKeys queries, first.Agree second key) :
    matchesSome first document queries = matchesSome second document queries := by
  cases queries with
  | nil => rfl
  | cons query queries =>
    rw [eachKeys, List.forall_mem_append] at agree
    rw [matchesSome, matchesSome, matchesQuery_agree document query agree.1,
      matchesSome_agree document queries agree.2]
termination_by structural queries

end

/-! ## What a compiled filter asks for -/

/-- Whether a key is the name of an operator that the standard registry knows. -/
def IsStandardKey (key : Value) : Prop :=
  ∃ name ∈ Registry.standard.operators.map Operator.name, key = .text name

theorem IsStandardKey.agree {key : Value} (standard : IsStandardKey key) {added : List Operator}
    (others : ∀ operator ∈ added,
      operator.name ∉ Registry.standard.operators.map Operator.name) :
    (Registry.standard.registerAll added).Agree .standard key := by
  obtain ⟨name, known, rfl⟩ := standard
  refine Registry.agree_registerAll known fun operator member same => ?_
  exact others operator member (same ▸ known)

end Matching

open Matching

namespace Term

/-- The conditions of a term are those of a keyword. -/
def IsOfKeyword (term : Term) : Prop :=
  ∃ keyword : Keyword, term.conditions.map (·.1) = keyword.operators

/-- Whatever the field of a term is, its entry asks by standard names: a logical key before a
mapping of operators asks for nothing. -/
theorem IsOfKeyword.entryKeys_cons {term : Term} (ofKeyword : term.IsOfKeyword)
    {entries : List (Value × Value)} (later : ∀ key ∈ entryKeys entries, IsStandardKey key) :
    ∀ key ∈ entryKeys (term.entry :: entries), IsStandardKey key := by
  obtain ⟨keyword, operators⟩ := ofKeyword
  rw [entry_eq, entryKeys, List.forall_mem_append]
  refine ⟨?_, later⟩
  split
  · exact fun key member => absurd member List.not_mem_nil
  · rw [conditionKeys, operatorsOf?_condition operators]
    simp only [List.map_map, List.forall_mem_map, Function.comp_apply]
    intro condition member
    refine ⟨condition.1, keyword.mem_names_of_mem_operators _ ?_, rfl⟩
    rw [← operators]
    exact List.mem_map_of_mem member

end Term

namespace Draft

/-- However a group of terms is written, it asks by standard names. -/
theorem askedKeys_conjunctionOf {terms : List Term} (all : ∀ term ∈ terms, term.IsOfKeyword) :
    ∀ key ∈ askedKeys (conjunctionOf terms), IsStandardKey key := by
  have merged : ∀ key ∈ entryKeys (terms.map Term.entry), IsStandardKey key := by
    induction terms with
    | nil => exact fun key member => absurd member List.not_mem_nil
    | cons term terms ih =>
      obtain ⟨first, later⟩ := List.forall_mem_cons.mp all
      exact first.entryKeys_cons (ih later)
  rw [conjunctionOf]
  split
  · exact merged
  · rw [askedKeys_logical (.inl rfl), forall_mem_eachKeys, List.forall_mem_map]
    exact fun term member =>
      (all term member).entryKeys_cons fun key none => absurd none List.not_mem_nil

/-- However groups of terms are written, they ask by standard names. -/
theorem askedKeys_disjunctionOf {groups : List (List Term)}
    (all : ∀ terms ∈ groups, ∀ term ∈ terms, term.IsOfKeyword) :
    ∀ key ∈ askedKeys (disjunctionOf groups), IsStandardKey key := by
  match groups with
  | [] => exact fun key member => absurd member List.not_mem_nil
  | [terms] => exact askedKeys_conjunctionOf (all terms List.mem_cons_self)
  | first :: second :: others =>
    rw [disjunctionOf_cons_cons, askedKeys_logical (.inr rfl), forall_mem_eachKeys,
      List.forall_mem_map]
    exact fun terms member => askedKeys_conjunctionOf (all terms member)

/-- With no operators groups cannot be matched: the first condition asks for one. -/
theorem matchesQuery_disjunctionOf_nil {first : Term} {others : List Term}
    {groups : List (List Term)} (ofKeyword : first.IsOfKeyword)
    (fields : ∀ terms ∈ (first :: others) :: groups, ∀ term ∈ terms, IsField term.field)
    (document : Value) :
    ∃ name ∈ Registry.standard.operators.map Operator.name,
      matchesQuery {} document (disjunctionOf ((first :: others) :: groups)) =
        .error (.query (.unsupportedOperator name [])) := by
  obtain ⟨keyword, operators⟩ := ofKeyword
  rw [matchesQuery_disjunctionOf {} document (List.cons_ne_nil _ _) fields, List.anyM_cons,
    List.allM_cons, Term.holds_eq_allM operators]
  cases conditions : first.conditions with
  | nil =>
    rw [conditions] at operators
    exact absurd operators.symm keyword.operators_ne_nil
  | cons condition conditions' =>
    refine ⟨condition.1, keyword.mem_names_of_mem_operators _ ?_, ?_⟩
    · rw [← operators, conditions]
      exact List.mem_cons_self
    · rw [List.allM_cons, Registry.evaluate_nil]
      rfl

end Draft

/-- A term that has the form of a clause is one of the clause's keyword. -/
theorem Clause.Forms.isOfKeyword {clause : Clause} {term : Term} (formed : clause.Forms term) :
    term.IsOfKeyword := by
  obtain ⟨keyword, -, -, operators⟩ := formed
  exact ⟨keyword, operators⟩

/-- A compiled filter asks by standard names. -/
theorem Criteria.askedKeys_compile {converter : Converter} {options : Options}
    {criteria : Criteria} {filter : Filter} {binding final : Binding}
    (compiled : outcome (criteria.compile converter options) binding = (.ok filter, final)) :
    ∀ key ∈ askedKeys filter.toValue, IsStandardKey key := by
  obtain ⟨groups, written, formed⟩ := exists_forms_of_compile compiled
  rw [written]
  exact Draft.askedKeys_disjunctionOf <| forall_of_forall₂ formed fun group terms own =>
    forall_of_forall₂ own fun clause term one => one.isOfKeyword

/-- Without operators no compiled filter can be matched. -/
theorem Criteria.exists_evaluate_nil {converter : Converter} {options : Options}
    {criteria : Criteria} {filter : Filter} {binding final : Binding}
    (nonempty : criteria.groups ≠ [])
    (fields : ∀ clause ∈ criteria.clauses, IsField clause.field)
    (compiled : outcome (criteria.compile converter options) binding = (.ok filter, final))
    (document : Value) :
    ∃ name ∈ Registry.standard.operators.map Operator.name,
      evaluate (some {}) filter.toValue document =
        .error (.query (.unsupportedOperator name [])) := by
  obtain ⟨groups, written, formed⟩ := exists_forms_of_compile compiled
  have fieldsOf : ∀ list ∈ criteria.groups.map ClauseGroup.clauses, ∀ clause ∈ list,
      IsField clause.field :=
    List.forall_mem_map.mpr fun group inside clause member =>
      fields clause (List.mem_flatMap.mpr ⟨group, inside, member⟩)
  have termFields : ∀ terms ∈ groups, ∀ term ∈ terms, IsField term.field := by
    have paired := forall₂_and_of_forall fieldsOf (List.forall₂_map_left_iff.mpr formed)
    refine forall_of_forall₂ paired fun group terms own => forall_of_forall₂ own ?_
    rintro clause term ⟨isField, keyword, -, field, -⟩
    exact field ▸ isField
  obtain ⟨clauseGroups⟩ := criteria
  rw [evaluate, written]
  cases formed with
  | nil => exact absurd rfl nonempty
  | cons first _ =>
    cases first with
    | cons one _ => exact Draft.matchesQuery_disjunctionOf_nil one.isOfKeyword termFields document

/-- Registering operators changes nothing for queries that do not ask for them. Any two registries,
whatever was registered in them and in whatever order, match every query on every document with the
same answer or the same fault, if they have the same operator for each key that the query asks by:
the operators of its conditions, and equality for plain values. So operators under new names do not
change what compiled filters match. And where nothing is registered nothing is fallen back to: a
compiled filter is at fault with its first operator, whatever the document is. -/
theorem Matching.registering_is_conservative :
    (∀ (first second : Registry) (query document : Value),
      (∀ key ∈ askedKeys query, first.Agree second key) →
      evaluate (some first) query document = evaluate (some second) query document) ∧
    (∀ (added : List Operator) (converter : Converter) (options : Options) (criteria : Criteria)
        (filter : Filter) (binding final : Binding),
      (∀ operator ∈ added,
        operator.name ∉ Registry.standard.operators.map Operator.name) →
      outcome (criteria.compile converter options) binding = (.ok filter, final) →
      ∀ document, evaluate (some (Registry.standard.registerAll added)) filter.toValue document =
        filter.matchesDocument document) ∧
    ∀ (converter : Converter) (options : Options) (criteria : Criteria) (filter : Filter)
        (binding final : Binding),
      criteria.groups ≠ [] →
      (∀ clause ∈ criteria.clauses, IsField clause.field) →
      outcome (criteria.compile converter options) binding = (.ok filter, final) →
      ∀ document, ∃ name ∈ Registry.standard.operators.map Operator.name,
        evaluate (some {}) filter.toValue document =
          .error (.query (.unsupportedOperator name [])) := by
  refine ⟨?_, ?_, ?_⟩
  · intro first second query document agree
    exact matchesQuery_agree document query agree
  · intro added converter options criteria filter binding final others compiled document
    exact matchesQuery_agree document filter.toValue fun key member =>
      (Criteria.askedKeys_compile compiled key member).agree others
  · intro converter options criteria filter binding final nonempty fields compiled document
    exact Criteria.exists_evaluate_nil nonempty fields compiled document

/-- An operator that nothing satisfies. -/
def Operator.never : Operator :=
  ⟨"$never", fun _ _ => return false⟩

/-- A query for an age below a bound, or for a name. -/
def Value.youngOrNamed : Value :=
  .mapping [(.text "$or", .list [.mapping [(.text "age", .mapping [(.text "$lt", .int 5)])],
    .mapping [(.text "name", .text "Jan")]])]

/-- Two operators are enough for a query that asks for an order and, by a plain value, for equality.
A filter on an age and a name does not see another operator, and needs its own. -/
theorem Matching.registering_is_conservative_youngOrNamed :
    ∃ filter final,
      (∀ key ∈ askedKeys .youngOrNamed, (Registry.registerAll {} [.less, .never, .equal]).Agree
        (Registry.standard.register .never) key) ∧
      evaluate (some (Registry.registerAll {} [.less, .never, .equal])) .youngOrNamed
        (.mapping [(.text "age", .int 7), (.text "name", .text "Jan")]) = .ok true ∧
      evaluate (some (Registry.standard.register .never)) .youngOrNamed
        (.mapping [(.text "age", .int 7), (.text "name", .text "Jan")]) = .ok true ∧
      outcome (Criteria.ageOrName.compile .document {})
        (.ofValues [.int 18, .int 65, .int 40, .text "Jan"]) = (.ok filter, final) ∧
      evaluate (some (Registry.standard.registerAll [.never])) filter.toValue
          (.mapping [(.text "age", .int 40)]) =
        filter.matchesDocument (.mapping [(.text "age", .int 40)]) ∧
      ∃ name, evaluate (some {}) filter.toValue (.mapping [(.text "age", .int 40)]) =
        .error (.query (.unsupportedOperator name [])) := by
  obtain ⟨alike, unseen, unknown⟩ := registering_is_conservative
  have agree : ∀ key ∈ askedKeys .youngOrNamed,
      (Registry.registerAll {} [.less, .never, .equal]).Agree
        (Registry.standard.register .never) key := by
    have keys : askedKeys .youngOrNamed = [.text "$lt", .text "$eq"] := rfl
    rw [keys, List.forall_mem_cons, List.forall_mem_singleton]
    exact ⟨⟨.less, rfl, rfl⟩, ⟨.equal, rfl, rfl⟩⟩
  have fields : ∀ clause ∈ Criteria.ageOrName.clauses, IsField clause.field := by decide
  have answer := alike _ _ .youngOrNamed
    (.mapping [(.text "age", .int 7), (.text "name", .text "Jan")]) agree
  obtain ⟨name, -, missing⟩ := unknown .document {} .ageOrName _
    (.ofValues [.int 18, .int 65, .int 40, .text "Jan"]) _ (List.cons_ne_nil _ _) fields rfl
    (.mapping [(.text "age", .int 40)])
  exact ⟨_, _, agree, answer.trans rfl, rfl, rfl,
    unseen [.never] .document {} .ageOrName _
      (.ofValues [.int 18, .int 65, .int 40, .text "Jan"]) _ (by decide) rfl _, name, missing⟩

end DocFilter
