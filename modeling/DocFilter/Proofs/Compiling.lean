/-
# Compilation in one pass

Compiling criteria builds drafts on the way, but the drafts never meet a value again: all values
are bound while the clauses are compiled to terms, from left to right, and the filter is made of
the terms alone. So a compilation is the compilation of every clause in turn, followed by a
function of the groups of terms. This is the form in which everything else about compiled filters
is stated.
-/

import DocFilter.Proofs.Taking

namespace DocFilter

open Binder (outcome)

namespace Keyword

/-- The operators of a keyword's conditions in order. -/
def operators : Keyword → List String
  | .equals | .isNull => ["$eq"]
  | .notEquals | .isNotNull => ["$ne"]
  | .greaterThan => ["$gt"]
  | .lessThan => ["$lt"]
  | .between => ["$gt", "$lt"]
  | .like => ["$regex"]

/-- The conditions of a keyword on what was bound for it; there are as many values as it takes. -/
def conditionsOn (options : Options) : Keyword → List Value → List (String × Value)
  | .equals, [value] => [("$eq", value)]
  | .notEquals, [value] => [("$ne", value)]
  | .greaterThan, [value] => [("$gt", value)]
  | .lessThan, [value] => [("$lt", value)]
  | .between, [lower, upper] => [("$gt", lower), ("$lt", upper)]
  | .like, [value] =>
    [("$regex", .text (Wildcard.pattern options.literalWildcards value.plainText))]
  | .isNull, [] => [("$eq", .null)]
  | .isNotNull, [] => [("$ne", .null)]
  | _, _ => []

/-- Every keyword takes its values first and makes its conditions of what was bound. -/
theorem conditions_eq_map_take (converter : Converter) (options : Options) (field : String)
    (keyword : Keyword) :
    keyword.conditions converter options field =
      keyword.conditionsOn options <$> Binder.take converter field keyword.arity := by
  cases keyword <;>
    simp [conditions, conditionsOn, arity, Binder.take]

/-- The operators do not depend on what was bound. -/
theorem map_fst_conditionsOn (options : Options) {keyword : Keyword} {bound : List Value}
    (size : bound.length = keyword.arity) :
    (keyword.conditionsOn options bound).map (·.1) = keyword.operators := by
  cases keyword with
  | isNull | isNotNull =>
    rw [List.eq_nil_of_length_eq_zero size]
    rfl
  | between =>
    obtain ⟨lower, upper, rfl⟩ := List.length_eq_two.mp size
    rfl
  | equals | notEquals | greaterThan | lessThan | like =>
    obtain ⟨value, rfl⟩ := List.length_eq_one_iff.mp size
    rfl

end Keyword

namespace Clause

variable (converter : Converter) (options : Options)

/-- A clause with a keyword takes the values of the keyword. -/
theorem compile_of_known {clause : Clause} {keyword : Keyword}
    (known : clause.comparison = .known keyword) :
    clause.compile converter options =
      (fun bound => ⟨clause.field, keyword.conditionsOn options bound⟩) <$>
        Binder.take converter clause.field keyword.arity := by
  rw [compile, known]
  simp [Keyword.conditions_eq_map_take]

/-- A clause without a keyword is refused. -/
theorem compile_of_unknown {clause : Clause} {tag : Value}
    (unknown : clause.comparison = .unknown tag) :
    clause.compile converter options =
      throw (.query (.unsupportedOperator tag.plainText (Keyword.all.map Keyword.word))) := by
  rw [compile, unknown]

variable {converter options}

/-- A clause is compiled with success just if it has a keyword and the values of the keyword are
there and are written. -/
theorem outcome_compile_eq_ok_iff {clause : Clause} {consumed : Nat} {values calls : List Value}
    {term : Term} {binding : Binding} :
    outcome (clause.compile converter options) ⟨⟨consumed, values⟩, calls⟩ = (.ok term, binding) ↔
      ∃ keyword taken rest bound, clause.comparison = .known keyword ∧
        values = taken ++ rest ∧ taken.length = keyword.arity ∧
        converter.bindAll calls taken = .ok bound ∧
        term = ⟨clause.field, keyword.conditionsOn options bound⟩ ∧
        binding = ⟨⟨consumed + keyword.arity, rest⟩, calls ++ taken⟩ := by
  cases shape : clause.comparison with
  | unknown tag =>
    rw [compile_of_unknown converter options shape, Binder.outcome_throw]
    constructor
    · intro compiled
      cases compiled
    · rintro ⟨keyword, taken, rest, bound, known, -⟩
      cases known
  | known keyword =>
    rw [compile_of_known converter options shape, map_eq_pure_bind,
      Binder.outcome_bind_eq_ok_iff]
    constructor
    · rintro ⟨bound, middle, took, done⟩
      obtain ⟨taken, rest, split, size, written, rfl⟩ := Binder.outcome_take_eq_ok_iff.mp took
      cases done
      exact ⟨keyword, taken, rest, bound, rfl, split, size, written, rfl, rfl⟩
    · rintro ⟨other, taken, rest, bound, known, split, size, written, rfl, rfl⟩
      cases known
      exact ⟨bound, _, Binder.outcome_take_eq_ok_iff.mpr
        ⟨taken, rest, split, size, written, rfl⟩, rfl⟩

/-- The values that several clauses take; an unknown clause takes none. -/
def totalArity (clauses : List Clause) : Nat :=
  clauses.foldr (fun clause total => clause.arity?.getD 0 + total) 0

@[simp]
theorem totalArity_nil : totalArity [] = 0 := rfl

@[simp]
theorem totalArity_cons (clause : Clause) (clauses : List Clause) :
    totalArity (clause :: clauses) = clause.arity?.getD 0 + totalArity clauses := rfl

@[simp]
theorem totalArity_append (first second : List Clause) :
    totalArity (first ++ second) = totalArity first + totalArity second := by
  induction first with
  | nil => simp
  | cons clause clauses ih => simp [ih, Nat.add_assoc]

end Clause

namespace Draft

/-- The document of groups of terms of which one has to hold. A single group stands for itself,
and no group at all asks for nothing. -/
def disjunctionOf : List (List Term) → Value
  | [] => .mapping []
  | [terms] => conjunctionOf terms
  | groups => .mapping [(.text Matching.anyKey, .list (groups.map conjunctionOf))]

/-- A draft whose alternatives are groups is written as one of several groups. -/
theorem filter_eq_disjunctionOf (first : Term) (others : List Term) (groups : List (List Term)) :
    filter { first := first, others := others, alternatives := groups.map conjunctionOf } =
      disjunctionOf ((first :: others) :: groups) := by
  cases groups <;> rfl

variable (converter : Converter) (options : Options)

/-- Further clauses add their terms to the group of a draft. -/
theorem foldlM_andClause (draft : Draft) (clauses : List Clause) :
    clauses.foldlM (andClause converter options) draft =
      (fun terms => { draft with others := draft.others ++ terms }) <$>
        clauses.mapM (Clause.compile converter options) := by
  induction clauses generalizing draft with
  | nil => simp
  | cons clause clauses ih =>
    simp [ih, andClause, Draft.and]

end Draft

namespace ClauseGroup

variable (converter : Converter) (options : Options)

/-- The terms of a group. -/
def compileTerms (group : ClauseGroup) : Binder (List Term) :=
  group.clauses.mapM (Clause.compile converter options)

/-- What is made of a draft that is just compiled is made of its terms. -/
theorem compile_bind {α : Type} (group : ClauseGroup) (finish : Draft → Binder α) :
    (group.compile converter options >>= finish) = (do
      let first ← group.first.compile converter options
      let others ← group.others.mapM (Clause.compile converter options)
      finish { first := first, others := others }) := by
  simp [compile, Draft.start, Draft.foldlM_andClause]

/-- What is made of the terms of a group is made of the first one and the others. -/
theorem compileTerms_bind {α : Type} (group : ClauseGroup) (finish : List Term → Binder α) :
    (group.compileTerms converter options >>= finish) = (do
      let first ← group.first.compile converter options
      let others ← group.others.mapM (Clause.compile converter options)
      finish (first :: others)) := by
  simp [compileTerms, clauses]

end ClauseGroup

namespace Criteria

variable (converter : Converter) (options : Options)

/-- The terms of all groups. -/
def compileTerms (criteria : Criteria) : Binder (List (List Term)) :=
  criteria.groups.mapM (ClauseGroup.compileTerms converter options)

/-- Further groups become alternatives of the base. -/
theorem compileGroups_some (base : Draft) (groups : List ClauseGroup) :
    compileGroups converter options (some base) groups =
      (fun terms => some { base with
        alternatives := base.alternatives ++ terms.map Draft.conjunctionOf }) <$>
        groups.mapM (ClauseGroup.compileTerms converter options) := by
  induction groups generalizing base with
  | nil => simp [compileGroups]
  | cons group groups ih =>
    rw [compileGroups, ClauseGroup.compile_bind, List.mapM_cons, map_eq_pure_bind, bind_assoc,
      ClauseGroup.compileTerms_bind]
    simp [ih, Draft.or, Draft.conjunction, Draft.terms]

/-- The filter of criteria is made of the groups of their terms. -/
theorem compile_eq_map_compileTerms (criteria : Criteria) :
    criteria.compile converter options =
      (fun groups => Filter.ofValue (Draft.disjunctionOf groups)) <$>
        criteria.compileTerms converter options := by
  obtain ⟨groups⟩ := criteria
  cases groups with
  | nil => rfl
  | cons group groups =>
    rw [compile, compileGroups, bind_assoc, ClauseGroup.compile_bind, compileTerms,
      List.mapM_cons, map_eq_pure_bind, bind_assoc, ClauseGroup.compileTerms_bind]
    simp [compileGroups_some, Filter.ofDraft, Draft.filter_eq_disjunctionOf]

/-- Criteria of a single clause are compiled just as the clause is. -/
theorem outcome_compile_singleton (clause : Clause) (binding : Binding) :
    outcome ((⟨[⟨clause, []⟩]⟩ : Criteria).compile converter options) binding =
      ((outcome (clause.compile converter options) binding).1.map
          fun term => Filter.ofValue (Draft.disjunctionOf [[term]]),
        (outcome (clause.compile converter options) binding).2) := by
  have alone : (⟨[⟨clause, []⟩]⟩ : Criteria).compile converter options =
      (fun term => Filter.ofValue (Draft.disjunctionOf [[term]])) <$>
        clause.compile converter options := by
    simp [compile_eq_map_compileTerms, compileTerms, ClauseGroup.compileTerms,
      ClauseGroup.clauses]
  rw [alone, Binder.outcome_map]

end Criteria

end DocFilter
