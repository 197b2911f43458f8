/-
# Clauses with their own values

All clauses of criteria take their values from one list, so where the values of a clause begin
depends on everything that stands before it. A converter that answers by the value alone does not
notice: each clause can be cut out with the slice of the values that it takes, and compiled on its
own. A compilation of criteria succeeds just if every slice is compiled on its own, to the same
terms.

Together with the meaning of groups of terms on a document this makes matching a homomorphism: a
compiled filter asks of a document what the filters of the single clauses ask, some group of which
has to hold as a whole.
-/

import DocFilter.Proofs.Rendering

namespace DocFilter

open Binder (outcome)

/-- A clause with the values that it takes. -/
structure Slice where
  clause : Clause
  values : List Value

namespace Slice

variable (converter : Converter) (options : Options)

/-- The criteria that consist of the clause alone. -/
def criteria (slice : Slice) : Criteria :=
  ⟨[⟨slice.clause, []⟩]⟩

/-- The filter of the clause alone on its own values. -/
def filter (slice : Slice) : Except Fault Filter :=
  (outcome (slice.criteria.compile converter options) (.ofValues slice.values)).1

/-- Whether a document matches the filter of the clause alone. -/
def matchesDocument (document : Value) (slice : Slice) : Except Fault Bool := do
  (← slice.filter converter options).matchesDocument document

/-- The clause alone is compiled to a term and takes all its values. -/
def CompilesTo (slice : Slice) (term : Term) : Prop :=
  outcome (slice.clause.compile converter options) (.ofValues slice.values) =
    (.ok term, .after slice.values slice.values.length)

variable {converter options}

theorem after_length (values : List Value) :
    Binding.after values values.length = ⟨⟨values.length, []⟩, values⟩ := by
  rw [Binding.after, List.drop_length, List.take_length]

/-- A clause alone takes all its values just if its keyword takes as many and all are written. -/
theorem compilesTo_iff {slice : Slice} {term : Term} :
    slice.CompilesTo converter options term ↔
      ∃ keyword bound, slice.clause.comparison = .known keyword ∧
        slice.values.length = keyword.arity ∧ converter.bindAll [] slice.values = .ok bound ∧
        term = ⟨slice.clause.field, keyword.conditionsOn options bound⟩ := by
  rw [CompilesTo, Binding.ofValues, after_length, Clause.outcome_compile_eq_ok_iff]
  constructor
  · rintro ⟨keyword, taken, rest, bound, known, split, size, written, rfl, left⟩
    have nothing : rest = [] := by
      injection left with arguments
      injection arguments with _ rest
      exact rest.symm
    rw [nothing, List.append_nil] at split
    rw [split]
    exact ⟨keyword, bound, known, size, written, rfl⟩
  · rintro ⟨keyword, bound, known, size, written, rfl⟩
    refine ⟨keyword, slice.values, [], bound, known, (List.append_nil _).symm, size, written,
      rfl, ?_⟩
    rw [size, Nat.zero_add, List.nil_append]

/-- The field of the term is the field of the clause. -/
theorem CompilesTo.field_eq {slice : Slice} {term : Term}
    (compiled : slice.CompilesTo converter options term) : term.field = slice.clause.field := by
  obtain ⟨keyword, bound, -, -, -, rfl⟩ := compilesTo_iff.mp compiled
  rfl

/-- The operators of the term are those of a keyword. -/
theorem CompilesTo.exists_operators {slice : Slice} {term : Term}
    (compiled : slice.CompilesTo converter options term) :
    ∃ keyword : Keyword, term.conditions.map (·.1) = keyword.operators := by
  obtain ⟨keyword, bound, -, size, written, rfl⟩ := compilesTo_iff.mp compiled
  refine ⟨keyword, Keyword.map_fst_conditionsOn options ?_⟩
  rw [Converter.length_of_bindAll_eq_ok written, size]

/-- The filter of a clause alone is made of its term. -/
theorem CompilesTo.filter_eq {slice : Slice} {term : Term}
    (compiled : slice.CompilesTo converter options term) :
    slice.filter converter options = .ok (.ofValue (Draft.disjunctionOf [[term]])) := by
  rw [filter, criteria, Criteria.outcome_compile_singleton, compiled]
  rfl

/-- A document matches the filter of a clause alone just if the term holds. -/
theorem CompilesTo.matchesDocument_eq {slice : Slice} {term : Term}
    (compiled : slice.CompilesTo converter options term)
    (isField : Matching.IsField slice.clause.field) (document : Value) :
    slice.matchesDocument converter options document = term.holds .standard document := by
  rw [← compiled.field_eq] at isField
  rw [matchesDocument, compiled.filter_eq]
  exact term.matchesDocument_alone isField document

/-- A clause alone answers on a document if none of its conditions fails there. -/
theorem CompilesTo.exists_matchesDocument_eq_ok {slice : Slice} {term : Term}
    (compiled : slice.CompilesTo converter options term)
    (isField : Matching.IsField slice.clause.field) {document : Value}
    (answers : ∀ condition ∈ term.conditions, ∃ answer,
      Registry.standard.evaluate (.text condition.1) (Path.resolve document term.field)
        condition.2.copied = .ok answer) :
    ∃ answer, slice.matchesDocument converter options document = .ok answer := by
  obtain ⟨keyword, operators⟩ := compiled.exists_operators
  rw [compiled.matchesDocument_eq isField, Term.holds_eq_allM operators]
  exact ShortCircuit.exists_allM_eq_ok answers

end Slice

/-! ## Cutting a list of values -/

/-- Clauses with the values they take from an index on, each one after those of the clauses before
it. -/
def Clause.slicesFrom (values : List Value) : Nat → List Clause → List Slice
  | _, [] => []
  | start, clause :: clauses =>
    ⟨clause, (values.drop start).take (clause.arity?.getD 0)⟩ ::
      slicesFrom values (start + clause.arity?.getD 0) clauses

/-- Groups of clauses with the values they take from an index on. -/
def ClauseGroup.slicesFrom (values : List Value) : Nat → List ClauseGroup → List (List Slice)
  | _, [] => []
  | start, group :: groups =>
    Clause.slicesFrom values start group.clauses ::
      slicesFrom values (start + Clause.totalArity group.clauses) groups

/-- The clauses of criteria with the values they take: a slice begins where the arities of all
clauses before it add up to. -/
def Criteria.slices (criteria : Criteria) (values : List Value) : List (List Slice) :=
  ClauseGroup.slicesFrom values 0 criteria.groups

section Stateless

variable {convert : Value → Except Fault Value} {options : Options}

/-- A clause in a row is compiled just as it is on its own slice. -/
theorem Clause.outcome_compile_after_iff {values : List Value} {start : Nat} {clause : Clause}
    {term : Term} {binding : Binding} :
    outcome (clause.compile (.stateless convert) options) (.after values start) =
        (.ok term, binding) ↔
      (⟨clause, (values.drop start).take (clause.arity?.getD 0)⟩ : Slice).CompilesTo
          (.stateless convert) options term ∧
        binding = .after values (start + clause.arity?.getD 0) := by
  rw [Binding.after, outcome_compile_eq_ok_iff, Slice.compilesTo_iff]
  constructor
  · rintro ⟨keyword, taken, rest, bound, known, split, size, written, rfl, rfl⟩
    have arity : clause.arity?.getD 0 = taken.length := by
      rw [size, arity?, known]
      rfl
    have front : (values.drop start).take taken.length = taken := by
      rw [split, List.take_left]
    have back : values.drop (start + taken.length) = rest := by
      rw [← List.drop_drop, split, List.drop_left]
    rw [Converter.bindAll_stateless] at written
    rw [arity, front, ← size]
    refine ⟨⟨keyword, bound, known, size, written, rfl⟩, ?_⟩
    rw [Binding.after, back, List.take_add, front]
  · rintro ⟨⟨keyword, bound, known, size, written, rfl⟩, rfl⟩
    have arity : clause.arity?.getD 0 = keyword.arity := by
      rw [arity?, known]
      rfl
    rw [arity] at size written ⊢
    refine ⟨keyword, (values.drop start).take keyword.arity, values.drop (start + keyword.arity),
      bound, known, ?_, size, ?_, rfl, ?_⟩
    · rw [← List.drop_drop, List.take_append_drop]
    · rw [Converter.bindAll_stateless, written]
    · rw [Binding.after, List.take_add]

/-- Clauses in a row are compiled just as they are on their own slices. -/
theorem Clause.outcome_mapM_after_iff {values : List Value} {start : Nat} {clauses : List Clause}
    {terms : List Term} {binding : Binding} :
    outcome (clauses.mapM (Clause.compile (.stateless convert) options)) (.after values start) =
        (.ok terms, binding) ↔
      List.Forall₂ (Slice.CompilesTo (.stateless convert) options)
          (Clause.slicesFrom values start clauses) terms ∧
        binding = .after values (start + totalArity clauses) := by
  induction clauses generalizing start terms binding with
  | nil =>
    rw [List.mapM_nil, Binder.outcome_pure, slicesFrom, List.forall₂_nil_left_iff, Prod.mk.injEq,
      Except.ok.injEq, totalArity_nil, Nat.add_zero, @eq_comm _ [], @eq_comm _ binding]
  | cons clause clauses ih =>
    rw [Binder.outcome_mapM_cons_eq_ok_iff, slicesFrom, List.forall₂_cons_left_iff,
      totalArity_cons, ← Nat.add_assoc]
    constructor
    · rintro ⟨term, middle, others, first, later, rfl⟩
      obtain ⟨compiled, rfl⟩ := outcome_compile_after_iff.mp first
      obtain ⟨all, rfl⟩ := ih.mp later
      exact ⟨⟨term, others, compiled, all, rfl⟩, rfl⟩
    · rintro ⟨⟨term, others, compiled, all, rfl⟩, rfl⟩
      exact ⟨term, _, others, outcome_compile_after_iff.mpr ⟨compiled, rfl⟩,
        ih.mpr ⟨all, rfl⟩, rfl⟩

/-- Groups in a row are compiled just as their clauses are on their own slices. -/
theorem ClauseGroup.outcome_mapM_after_iff {values : List Value} {start : Nat}
    {groups : List ClauseGroup} {terms : List (List Term)} {binding : Binding} :
    outcome (groups.mapM (ClauseGroup.compileTerms (.stateless convert) options))
        (.after values start) = (.ok terms, binding) ↔
      List.Forall₂ (List.Forall₂ (Slice.CompilesTo (.stateless convert) options))
          (ClauseGroup.slicesFrom values start groups) terms ∧
        binding = .after values (start + Clause.totalArity (groups.flatMap clauses)) := by
  induction groups generalizing start terms binding with
  | nil =>
    rw [List.mapM_nil, Binder.outcome_pure, slicesFrom, List.forall₂_nil_left_iff, Prod.mk.injEq,
      Except.ok.injEq, List.flatMap_nil, Clause.totalArity_nil, Nat.add_zero, @eq_comm _ [],
      @eq_comm _ binding]
  | cons group groups ih =>
    rw [Binder.outcome_mapM_cons_eq_ok_iff, slicesFrom, List.forall₂_cons_left_iff,
      List.flatMap_cons, Clause.totalArity_append, ← Nat.add_assoc]
    constructor
    · rintro ⟨own, middle, others, first, later, rfl⟩
      obtain ⟨compiled, rfl⟩ := Clause.outcome_mapM_after_iff.mp first
      obtain ⟨all, rfl⟩ := ih.mp later
      exact ⟨⟨own, others, compiled, all, rfl⟩, rfl⟩
    · rintro ⟨⟨own, others, compiled, all, rfl⟩, rfl⟩
      exact ⟨own, _, others, Clause.outcome_mapM_after_iff.mpr ⟨compiled, rfl⟩,
        ih.mpr ⟨all, rfl⟩, rfl⟩

/-- Criteria are compiled just as all slices are on their own. -/
theorem Criteria.outcome_compile_iff {criteria : Criteria} {values : List Value} {filter : Filter}
    {binding : Binding} :
    outcome (criteria.compile (.stateless convert) options) (.ofValues values) =
        (.ok filter, binding) ↔
      ∃ groups, List.Forall₂ (List.Forall₂ (Slice.CompilesTo (.stateless convert) options))
          (criteria.slices values) groups ∧
        filter = .ofValue (Draft.disjunctionOf groups) ∧
        binding = .after values criteria.totalArity := by
  have total : criteria.totalArity = 0 + Clause.totalArity (criteria.groups.flatMap
      ClauseGroup.clauses) := (Nat.zero_add _).symm
  rw [compile_eq_map_compileTerms, map_eq_pure_bind, Binder.outcome_bind_eq_ok_iff, total]
  constructor
  · rintro ⟨groups, middle, compiled, done⟩
    obtain ⟨all, rfl⟩ := ClauseGroup.outcome_mapM_after_iff.mp compiled
    cases done
    exact ⟨groups, all, rfl, rfl⟩
  · rintro ⟨groups, all, rfl, rfl⟩
    exact ⟨groups, _, ClauseGroup.outcome_mapM_after_iff.mpr ⟨all, rfl⟩, rfl⟩

end Stateless

/-! ## Slices keep the clauses -/

theorem Clause.map_clause_slicesFrom (values : List Value) (start : Nat) (clauses : List Clause) :
    (Clause.slicesFrom values start clauses).map Slice.clause = clauses := by
  induction clauses generalizing start with
  | nil => rfl
  | cons clause clauses ih => rw [slicesFrom, List.map_cons, ih]

theorem ClauseGroup.flatMap_slicesFrom (values : List Value) (start : Nat)
    (groups : List ClauseGroup) :
    (ClauseGroup.slicesFrom values start groups).flatMap (List.map Slice.clause) =
      groups.flatMap clauses := by
  induction groups generalizing start with
  | nil => rfl
  | cons group groups ih =>
    rw [slicesFrom, List.flatMap_cons, List.flatMap_cons, Clause.map_clause_slicesFrom, ih]

/-- What holds of all clauses holds of the clauses of all slices. -/
theorem Criteria.forall_slices {property : Clause → Prop} {criteria : Criteria}
    (all : ∀ clause ∈ criteria.clauses, property clause) (values : List Value) :
    ∀ group ∈ criteria.slices values, ∀ slice ∈ group, property slice.clause := by
  intro group inside slice member
  apply all
  rw [clauses, ← ClauseGroup.flatMap_slicesFrom values 0, List.mem_flatMap]
  exact ⟨group, inside, List.mem_map_of_mem member⟩

theorem Criteria.slices_ne_nil {criteria : Criteria} (nonempty : criteria.groups ≠ [])
    (values : List Value) : criteria.slices values ≠ [] := by
  obtain ⟨groups⟩ := criteria
  cases groups with
  | nil => exact absurd rfl nonempty
  | cons group groups => exact List.cons_ne_nil _ _

/-! ## Matching is a homomorphism -/

section Matching

variable {converter : Converter} {options : Options}

/-- A property of right sides that follows from a relation holds of all of them. -/
theorem forall_of_forall₂ {α β : Type} {relation : α → β → Prop} {property : β → Prop}
    {items : List α} {others : List β} (related : List.Forall₂ relation items others)
    (each : ∀ item other, relation item other → property other) :
    ∀ other ∈ others, property other := by
  induction related with
  | nil => simp
  | cons first _ ih => exact List.forall_mem_cons.mpr ⟨each _ _ first, ih⟩

/-- What holds of all items of lists holds beside a relation of the lists to others. -/
theorem forall₂_and_of_forall {α β : Type} {relation : α → β → Prop} {property : α → Prop}
    {lists : List (List α)} {others : List (List β)}
    (all : ∀ list ∈ lists, ∀ item ∈ list, property item)
    (related : List.Forall₂ (List.Forall₂ relation) lists others) :
    List.Forall₂ (List.Forall₂ fun item other => property item ∧ relation item other)
      lists others := by
  apply ((List.forall₂_and_left _ _).mpr ⟨all, related⟩).imp
  intro list other both
  exact (List.forall₂_and_left _ _).mpr both

/-- Slices that stand beside terms are all compiled on their own. -/
theorem Slice.exists_compilesTo {slices : List (List Slice)} {groups : List (List Term)}
    (compiled : List.Forall₂ (List.Forall₂ (Slice.CompilesTo converter options)) slices groups) :
    ∀ group ∈ slices, ∀ slice ∈ group, ∃ term, slice.CompilesTo converter options term := by
  refine forall_of_forall₂ compiled.flip fun terms group own => ?_
  exact forall_of_forall₂ (List.Forall₂.flip own) fun term slice one => ⟨term, one⟩

/-- A filter of terms asks of a document what the slices that compile to them ask. -/
theorem Slice.matchesDocument_disjunctionOf {slices : List (List Slice)}
    {groups : List (List Term)} (nonempty : slices ≠ [])
    (fields : ∀ group ∈ slices, ∀ slice ∈ group, Matching.IsField slice.clause.field)
    (compiled : List.Forall₂ (List.Forall₂ (Slice.CompilesTo converter options)) slices groups)
    (document : Value) :
    (Filter.ofValue (Draft.disjunctionOf groups)).matchesDocument document =
      slices.anyM fun group => group.allM fun slice =>
        slice.matchesDocument converter options document := by
  -- Each slice stands beside its term, and its field is no logical key.
  have paired := forall₂_and_of_forall fields compiled
  have groupsNonempty : groups ≠ [] := by
    rintro rfl
    exact nonempty (List.forall₂_nil_right_iff.mp compiled)
  have termFields : ∀ terms ∈ groups, ∀ term ∈ terms, Matching.IsField term.field := by
    refine forall_of_forall₂ paired fun group terms own => ?_
    refine forall_of_forall₂ own fun slice term both => ?_
    rw [both.2.field_eq]
    exact both.1
  rw [Filter.matchesDocument, Draft.toValue_ofValue_disjunctionOf,
    Draft.matchesQuery_disjunctionOf .standard document groupsNonempty termFields]
  symm
  apply ShortCircuit.anyM_eq_of_forall₂
  apply paired.imp
  intro group terms own
  apply ShortCircuit.allM_eq_of_forall₂
  apply own.imp
  rintro slice term ⟨isField, one⟩
  exact one.matchesDocument_eq isField document

end Matching

/-- A compiled filter asks of a document what the filters of the single clauses ask, each compiled
on its own from its own values: some group has to hold, and in a group every clause, tested from
left to right up to the first that decides. The single clauses are all compiled with success, and
a test that fails is the same one on both sides. -/
theorem Criteria.matchesDocument_compile (convert : Value → Except Fault Value)
    (options : Options) (criteria : Criteria) (values : List Value) (filter : Filter)
    (binding : Binding) (document : Value) (nonempty : criteria.groups ≠ [])
    (fields : ∀ clause ∈ criteria.clauses, Matching.IsField clause.field)
    (compiled : outcome (criteria.compile (.stateless convert) options) (.ofValues values) =
      (.ok filter, binding)) :
    (∀ group ∈ criteria.slices values, ∀ slice ∈ group,
        ∃ alone, slice.filter (.stateless convert) options = .ok alone) ∧
      filter.matchesDocument document =
        (criteria.slices values).anyM fun group => group.allM fun slice =>
          slice.matchesDocument (.stateless convert) options document := by
  obtain ⟨groups, all, rfl, -⟩ := outcome_compile_iff.mp compiled
  constructor
  · intro group inside slice member
    obtain ⟨term, one⟩ := Slice.exists_compilesTo all group inside slice member
    exact ⟨_, one.filter_eq⟩
  · exact Slice.matchesDocument_disjunctionOf (slices_ne_nil nonempty values)
      (forall_slices fields values) all document

/-- The converter that writes every value as it is. -/
def Converter.plain (value : Value) : Except Fault Value :=
  return .mapping [(.text slot, value)]

/-- A clause on an age. -/
def Clause.onAge (keyword : Keyword) : Clause :=
  ⟨["age"], .known keyword, by decide⟩

/-- A clause on a name. -/
def Clause.onName (keyword : Keyword) : Clause :=
  ⟨["name"], .known keyword, by decide⟩

/-- An age within bounds and other than a number, or a name. -/
def Criteria.ageOrName : Criteria :=
  ⟨[⟨.onAge .between, [.onAge .notEquals]⟩, ⟨.onName .equals, []⟩]⟩

/-- A field that repeats, beside another group, is asked for by the single clauses as well. -/
theorem Criteria.matchesDocument_compile_ageOrName :
    ∃ filter binding,
      ageOrName.groups ≠ [] ∧
      (∀ clause ∈ ageOrName.clauses, Matching.IsField clause.field) ∧
      outcome (ageOrName.compile (.stateless Converter.plain) {})
        (.ofValues [.int 18, .int 65, .int 40, .text "Jan"]) = (.ok filter, binding) ∧
      filter.matchesDocument (.mapping [(.text "age", .int 40), (.text "name", .text "Jan")]) =
        (ageOrName.slices [.int 18, .int 65, .int 40, .text "Jan"]).anyM fun group =>
          group.allM fun slice => slice.matchesDocument (.stateless Converter.plain) {}
            (.mapping [(.text "age", .int 40), (.text "name", .text "Jan")]) := by
  refine ⟨_, _, by decide, by decide, rfl, ?_⟩
  exact (matchesDocument_compile Converter.plain {} ageOrName
    [.int 18, .int 65, .int 40, .text "Jan"] _ _ _ (by decide) (by decide) rfl).2

end DocFilter
