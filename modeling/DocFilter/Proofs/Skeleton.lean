/-
# What values cannot change

The skeleton of a query is what is left of it without its operands: the nesting of its logical
keys, the fields, and the operators, all in their order. A compiled filter has the skeleton of its
criteria. Whatever is bound, by whatever converter, ends up as an operand, also a mapping or a list
that would be a query if it stood in another place.

An operand of equality is compared and not read. The filter holds a copy of it, which is the
operand itself unless the marker for what is absent occurs in it.
-/

import DocFilter.Proofs.Rendering

namespace DocFilter

open Binder (outcome)

/-! ## Skeletons -/

/-- The operators of a condition without their operands. -/
def Matching.withoutOperands (operators : List (Value × Value)) : List (Value × Value) :=
  operators.map fun (key, operand) => if isOperatorKey key then (key, .null) else (key, operand)

namespace Value

mutual

/-- A query without its operands. -/
def skeleton : Value → Value
  | .mapping entries => .mapping (skeletonEntries entries)
  | value => value

/-- The entries of a query without their operands: lists hold queries, and mappings hold
operators. -/
def skeletonEntries : List (Value × Value) → List (Value × Value)
  | [] => []
  | (key, .list queries) :: entries => (key, .list (skeletonAll queries)) :: skeletonEntries entries
  | (key, .mapping operators) :: entries =>
    (key, .mapping (Matching.withoutOperands operators)) :: skeletonEntries entries
  | entry :: entries => entry :: skeletonEntries entries

/-- Queries without their operands. -/
def skeletonAll : List Value → List Value
  | [] => []
  | query :: queries => query.skeleton :: skeletonAll queries

end

end Value

/-- A term has the form of a clause: it is about the same field and has the operators of the
clause's keyword. -/
def Clause.Forms (clause : Clause) (term : Term) : Prop :=
  ∃ keyword, clause.comparison = .known keyword ∧ term.field = clause.field ∧
    term.conditions.map (·.1) = keyword.operators

namespace Term

/-- The term with nothing for its operands. -/
def outline (term : Term) : Term :=
  ⟨term.field, term.conditions.map fun condition => (condition.1, .null)⟩

variable {clause : Clause} {term : Term}

/-- Without operands, what is written for a term is what is written for its outline. -/
theorem skeletonEntries_entry (formed : clause.Forms term) (entries : List (Value × Value)) :
    Value.skeletonEntries (term.entry :: entries) =
      term.outline.entry :: Value.skeletonEntries entries := by
  obtain ⟨keyword, -, -, operators⟩ := formed
  have different : (term.conditions.map (·.1)).Nodup := operators ▸ keyword.nodup_operators
  have sameNames : term.outline.conditions.map (·.1) = term.conditions.map (·.1) := by
    rw [outline, List.map_map]
    rfl
  rw [entry_eq, entry_eq, condition_eq different, condition_eq (sameNames ▸ different),
    Value.skeletonEntries, Matching.withoutOperands, outline, List.map_map, List.map_map]
  congr 3
  apply List.map_congr_left
  intro condition member
  have known : Matching.isOperatorKey (.text condition.1) := by
    apply keyword.isOperatorKey_of_mem_operators
    rw [← operators]
    exact List.mem_map_of_mem member
  simp [known, Value.copied]

theorem skeleton_document (formed : clause.Forms term) :
    term.document.skeleton = term.outline.document := by
  rw [document, Value.skeleton, skeletonEntries_entry formed, Value.skeletonEntries, document]

end Term

namespace Clause

/-- What a clause is compiled to, with nothing for its operands. -/
def outline (clause : Clause) : Term :=
  ⟨clause.field,
    match clause.comparison with
    | .known keyword => keyword.operators.map fun name => (name, .null)
    | .unknown _ => []⟩

/-- All terms of the form of a clause have its outline. -/
theorem Forms.outline_eq {clause : Clause} {term : Term} (formed : clause.Forms term) :
    term.outline = clause.outline := by
  obtain ⟨keyword, known, field, operators⟩ := formed
  rw [Term.outline, outline, known, field]
  show _ = Term.mk _ (keyword.operators.map fun name => (name, .null))
  rw [← operators, List.map_map]
  rfl

theorem map_outline_eq {clauses : List Clause} {terms : List Term}
    (formed : List.Forall₂ Forms clauses terms) :
    terms.map Term.outline = clauses.map outline := by
  induction formed with
  | nil => rfl
  | cons first _ ih => rw [List.map_cons, List.map_cons, first.outline_eq, ih]

end Clause

theorem ClauseGroup.map_outline_eq {clauseGroups : List ClauseGroup} {groups : List (List Term)}
    (formed : List.Forall₂ (fun group terms => List.Forall₂ Clause.Forms group.clauses terms)
      clauseGroups groups) :
    groups.map (List.map Term.outline) =
      clauseGroups.map fun group => group.clauses.map Clause.outline := by
  induction formed with
  | nil => rfl
  | cons first _ ih => rw [List.map_cons, List.map_cons, Clause.map_outline_eq first, ih]

namespace Draft

/-- Without operands, the entries of terms are the entries of their outlines. -/
theorem skeletonEntries_map_entry {clauses : List Clause} {terms : List Term}
    (formed : List.Forall₂ Clause.Forms clauses terms) :
    Value.skeletonEntries (terms.map Term.entry) = (terms.map Term.outline).map Term.entry := by
  induction formed with
  | nil => rfl
  | cons first _ ih =>
    rw [List.map_cons, Term.skeletonEntries_entry first, ih]
    rfl

/-- Without operands, the documents of terms are the documents of their outlines. -/
theorem skeletonAll_map_document {clauses : List Clause} {terms : List Term}
    (formed : List.Forall₂ Clause.Forms clauses terms) :
    Value.skeletonAll (terms.map Term.document) = (terms.map Term.outline).map Term.document := by
  induction formed with
  | nil => rfl
  | cons first _ ih =>
    rw [List.map_cons, Value.skeletonAll, Term.skeleton_document first, ih]
    rfl

/-- Without operands, a group is written as its outlines are. -/
theorem skeleton_conjunctionOf {clauses : List Clause} {terms : List Term}
    (formed : List.Forall₂ Clause.Forms clauses terms) :
    (conjunctionOf terms).skeleton = conjunctionOf (terms.map Term.outline) := by
  have sameFields : (terms.map Term.outline).map Term.field = terms.map Term.field := by
    rw [List.map_map]
    rfl
  rw [conjunctionOf, conjunctionOf, sameFields]
  split
  · rw [Value.skeleton, skeletonEntries_map_entry formed]
  · rw [Value.skeleton, Value.skeletonEntries, skeletonAll_map_document formed,
      Value.skeletonEntries]

/-- Without operands, several groups are written as their outlines are. -/
theorem skeletonAll_map_conjunctionOf {lists : List (List Clause)} {groups : List (List Term)}
    (formed : List.Forall₂ (List.Forall₂ Clause.Forms) lists groups) :
    Value.skeletonAll (groups.map conjunctionOf) =
      (groups.map (List.map Term.outline)).map conjunctionOf := by
  induction formed with
  | nil => rfl
  | cons first _ ih =>
    rw [List.map_cons, Value.skeletonAll, skeleton_conjunctionOf first, ih]
    rfl

/-- Without operands, groups are written as their outlines are, in the same one of the shapes. -/
theorem skeleton_disjunctionOf {lists : List (List Clause)} {groups : List (List Term)}
    (formed : List.Forall₂ (List.Forall₂ Clause.Forms) lists groups) :
    (disjunctionOf groups).skeleton = disjunctionOf (groups.map (List.map Term.outline)) := by
  match groups, formed with
  | [], _ => rfl
  | [terms], .cons own .nil => exact skeleton_conjunctionOf own
  | first :: second :: others, formed =>
    rw [disjunctionOf_cons_cons, Value.skeleton, Value.skeletonEntries,
      skeletonAll_map_conjunctionOf formed, Value.skeletonEntries]
    rfl

end Draft

section Compiled

variable {converter : Converter} {options : Options}

/-- A clause is compiled to a term of its form. -/
theorem Clause.forms_of_outcome_compile {clause : Clause} {term : Term} {binding final : Binding}
    (compiled : outcome (clause.compile converter options) binding = (.ok term, final)) :
    clause.Forms term := by
  obtain ⟨⟨consumed, rest⟩, calls⟩ := binding
  obtain ⟨keyword, taken, rest, bound, known, -, size, written, rfl, -⟩ :=
    outcome_compile_eq_ok_iff.mp compiled
  refine ⟨keyword, known, rfl, Keyword.map_fst_conditionsOn options ?_⟩
  rw [Converter.length_of_bindAll_eq_ok written, size]

/-- Groups are compiled to terms of the forms of their clauses. -/
theorem Criteria.forall₂_forms {criteria : Criteria} {groups : List (List Term)}
    {binding final : Binding}
    (compiled : outcome (criteria.compileTerms converter options) binding = (.ok groups, final)) :
    List.Forall₂ (fun group terms => List.Forall₂ Clause.Forms group.clauses terms)
      criteria.groups groups := by
  apply Binder.forall₂_of_outcome_mapM _ compiled
  intro group middle terms last own
  apply Binder.forall₂_of_outcome_mapM _ own
  intro clause first term second one
  exact Clause.forms_of_outcome_compile one

/-- A compiled filter is what groups of terms are written as that have the forms of the clauses. -/
theorem Criteria.exists_forms_of_compile {criteria : Criteria} {filter : Filter}
    {binding final : Binding}
    (compiled : outcome (criteria.compile converter options) binding = (.ok filter, final)) :
    ∃ groups, filter.toValue = Draft.disjunctionOf groups ∧
      List.Forall₂ (fun group terms => List.Forall₂ Clause.Forms group.clauses terms)
        criteria.groups groups := by
  rw [compile_eq_map_compileTerms, map_eq_pure_bind, Binder.outcome_bind_eq_ok_iff] at compiled
  obtain ⟨groups, middle, terms, done⟩ := compiled
  cases done
  exact ⟨groups, Draft.toValue_ofValue_disjunctionOf groups, forall₂_forms terms⟩

/-- The skeleton of criteria, in which no value has a part. -/
def Criteria.skeleton (criteria : Criteria) : Value :=
  Draft.disjunctionOf (criteria.groups.map fun group => group.clauses.map Clause.outline)

/-- A compiled filter has the skeleton of its criteria. -/
theorem Criteria.skeleton_compile {criteria : Criteria} {filter : Filter} {binding final : Binding}
    (compiled : outcome (criteria.compile converter options) binding = (.ok filter, final)) :
    filter.toValue.skeleton = criteria.skeleton := by
  obtain ⟨groups, written, formed⟩ := exists_forms_of_compile compiled
  rw [written, Draft.skeleton_disjunctionOf (List.forall₂_map_left_iff.mpr formed),
    ClauseGroup.map_outline_eq formed, skeleton]

end Compiled

/-! ## Literals -/

namespace Value

/-- A candidate is the value or, of a list, one of its items. -/
theorem exists_mem_candidates_iff {property : Value → Prop} {value : Value} :
    (∃ candidate ∈ value.candidates, property candidate) ↔
      property value ∨ ∃ items, value = .list items ∧ ∃ item ∈ items, property item := by
  cases value <;> simp [candidates]

end Value

/-- The term that a field equals a literal. -/
def Term.equals (field : String) (literal : Value) : Term :=
  ⟨field, [("$eq", literal)]⟩

/-- A term for equality holds when the literal is met, by the field or by an item of it. -/
theorem Term.holds_equals (document : Value) (field : String) (literal : Value) :
    (Term.equals field literal).holds .standard document =
      (Path.resolve document field).candidates.anyM fun candidate =>
        candidate.meets literal.copied := by
  have operators : (Term.equals field literal).conditions.map (·.1) =
      Keyword.equals.operators := rfl
  rw [holds_eq_allM operators, equals, ShortCircuit.allM_singleton]
  rfl

/-- A clause for equality binds its literal as the operand. -/
theorem Clause.outcome_compile_equals {clause : Clause} {converter : Converter}
    {parameter written : Value} (equals : clause.comparison = .known .equals)
    (accepted : converter [] parameter = .ok written) (options : Options) (rest : List Value) :
    outcome (clause.compile converter options) (.ofValues (parameter :: rest)) =
      (.ok (.equals clause.field (Converter.read written)), .after (parameter :: rest) 1) := by
  refine outcome_compile_eq_ok_iff.mpr ⟨.equals, [parameter], rest, [Converter.read written],
    equals, rfl, rfl, ?_, rfl, rfl⟩
  rw [Converter.bindAll, accepted]
  rfl

/-- A filter does nothing but compare a field with a literal: it is satisfied just if the literal is
met by the field or, if that is a list, by one of its items, and it answers when all tests that
could be made for it do. -/
structure Filter.Compares (filter : Filter) (field : String) (literal : Value) : Prop where
  eq_true_iff : ∀ document answer, filter.matchesDocument document = .ok answer →
    (answer = true ↔
      (Path.resolve document field).meets literal = .ok true ∨
        ∃ items, Path.resolve document field = .list items ∧
          ∃ item ∈ items, item.meets literal = .ok true)
  answers : ∀ document,
    (∀ candidate ∈ (Path.resolve document field).candidates,
      ∃ answer, candidate.meets literal = .ok answer) →
    ∃ answer, filter.matchesDocument document = .ok answer

/-- The filter of a term for equality compares the field with the copy of the literal. -/
theorem Term.compares_equals {field : String} (isField : Matching.IsField field)
    (literal : Value) :
    (Filter.ofValue (Draft.disjunctionOf [[equals field literal]])).Compares field
      literal.copied := by
  have asked : ∀ document,
      (Filter.ofValue (Draft.disjunctionOf [[equals field literal]])).matchesDocument document =
        (Path.resolve document field).candidates.anyM fun candidate =>
          candidate.meets literal.copied := by
    intro document
    rw [← holds_equals]
    exact matchesDocument_alone isField document
  constructor
  · intro document answer answered
    rw [asked] at answered
    rw [ShortCircuit.eq_true_iff_of_anyM_eq_ok answered, Value.exists_mem_candidates_iff]
  · intro document answers
    rw [asked]
    exact ShortCircuit.exists_anyM_eq_ok answers

/-- Bound values are operands and nothing else. Two filters that are compiled from the same
criteria have the same skeleton, whatever the values and the converters were. And the filter of a
clause for equality only compares the field with the literal, whatever the literal looks like. The
filter holds a copy of the literal, which is the literal itself unless the marker for what is
absent occurs in it. -/
theorem Criteria.bound_values_are_operands :
    (∀ (criteria : Criteria) (converter other : Converter) (options otherOptions : Options)
        (values others : List Value) (filter otherFilter : Filter)
        (binding otherBinding : Binding),
      outcome (criteria.compile converter options) (.ofValues values) = (.ok filter, binding) →
      outcome (criteria.compile other otherOptions) (.ofValues others) =
        (.ok otherFilter, otherBinding) →
      filter.toValue.skeleton = otherFilter.toValue.skeleton) ∧
    ∀ (clause : Clause) (converter : Converter) (options : Options) (parameter written : Value)
        (rest : List Value),
      clause.comparison = .known .equals → Matching.IsField clause.field →
      converter [] parameter = .ok written →
      ∃ filter binding,
        outcome ((⟨[⟨clause, []⟩]⟩ : Criteria).compile converter options)
          (.ofValues (parameter :: rest)) = (.ok filter, binding) ∧
        filter.Compares clause.field (Converter.read written).copied ∧
        ((Converter.read written).holdsMarker = false →
          (Converter.read written).copied = Converter.read written) := by
  constructor
  · intro criteria converter other options otherOptions values others filter otherFilter binding
      otherBinding compiled otherCompiled
    rw [skeleton_compile compiled, skeleton_compile otherCompiled]
  · intro clause converter options parameter written rest equals isField accepted
    refine ⟨_, .after (parameter :: rest) 1, ?_,
      Term.compares_equals isField (Converter.read written), (Value.copied_eq_self_iff _).mpr⟩
    rw [outcome_compile_singleton,
      Clause.outcome_compile_equals equals accepted options rest]
    rfl

/-- A clause for the equality of a title. -/
def Clause.titleEquals : Clause :=
  ⟨["title"], .known .equals, by decide⟩

/-- A literal that looks like a condition is compared with the field and not read: it gives the
filter no other skeleton than a number does, and it is met by a mapping that looks the same. -/
theorem Criteria.bound_values_are_operands_titleEquals :
    ∃ filter otherFilter binding otherBinding,
      outcome ((⟨[⟨.titleEquals, []⟩]⟩ : Criteria).compile .document {})
        (.ofValues [.mapping [(.text "$gt", .int 0)]]) = (.ok filter, binding) ∧
      outcome ((⟨[⟨.titleEquals, []⟩]⟩ : Criteria).compile .document {})
        (.ofValues [.int 0, .int 1]) = (.ok otherFilter, otherBinding) ∧
      filter.toValue.skeleton = otherFilter.toValue.skeleton ∧
      filter.matchesDocument (.mapping [(.text "title", .int 5)]) = .ok false ∧
      filter.matchesDocument (.mapping [(.text "title", .mapping [(.text "$gt", .int 0)])]) =
        .ok true := by
  obtain ⟨sameSkeleton, literal⟩ := bound_values_are_operands
  obtain ⟨filter, binding, compiled, compares, -⟩ := literal .titleEquals .document {}
    (.mapping [(.text "$gt", .int 0)]) _ [] rfl (by decide) rfl
  refine ⟨filter, _, binding, _, compiled, rfl,
    sameSkeleton _ _ .document _ {} _ [.int 0, .int 1] _ _ _ _ compiled rfl, ?_, ?_⟩
  · obtain ⟨answer, answered⟩ := compares.answers (.mapping [(.text "title", .int 5)])
      (List.forall_mem_singleton.mpr ⟨false, rfl⟩)
    cases answer with
    | false => exact answered
    | true =>
      rcases (compares.eq_true_iff _ true answered).mp rfl with met | ⟨items, isList, -⟩
      · have denied : (.ok false : Except Fault Bool) = .ok true := met
        cases denied
      · have number : Value.int 5 = .list items := isList
        cases number
  · obtain ⟨answer, answered⟩ :=
      compares.answers (.mapping [(.text "title", .mapping [(.text "$gt", .int 0)])])
        (List.forall_mem_singleton.mpr ⟨true, rfl⟩)
    rw [answered, (compares.eq_true_iff _ answer answered).mpr (.inl rfl)]

/-- The marker for what is absent is a literal that its copy in the filter does not equal: although
a document without a title has the marker there, and the marker meets itself, the document does not
match. -/
theorem Criteria.matchesDocument_titleEquals_absent :
    ∃ filter binding,
      outcome ((⟨[⟨.titleEquals, []⟩]⟩ : Criteria).compile .document {}) (.ofValues [.absent]) =
        (.ok filter, binding) ∧
      (Converter.document [] .absent).map Converter.read = .ok .absent ∧
      (Path.resolve (.mapping []) Clause.titleEquals.field).meets .absent = .ok true ∧
      filter.matchesDocument (.mapping []) = .ok false :=
  ⟨_, _, rfl, rfl, rfl, rfl⟩

end DocFilter
