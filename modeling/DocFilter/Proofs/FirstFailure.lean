/-
# The first failure decides

Compiling criteria can fail in three ways: a clause has no keyword, a clause asks for a value when
none is left, or the converter refuses a value. The clauses are gone through in the order in which
they are written, whatever groups they stand in, and the first of these events decides the result
and how many values have been taken by then. If there is none, the compilation succeeds and takes
as many values as the arities of all clauses add up to.

`Clause.EndsWith` says this about a list of clauses without running anything. It leaves no case
open and never describes two ends of one compilation, because the compilation itself has one.
-/

import DocFilter.Proofs.Compiling
import Mathlib.Data.Nat.Find

namespace DocFilter

open Binder (outcome)

namespace Clause

/-- All clauses have keywords, and the values that they take are there and are written. -/
structure AreSupplied (converter : Converter) (values : List Value) (clauses : List Clause) :
    Prop where
  known : ∀ clause ∈ clauses, ∃ keyword, clause.comparison = .known keyword
  enough : totalArity clauses ≤ values.length
  written : ∀ index < totalArity clauses, converter.Writes values index

/-- How compiling clauses on fresh values ends: with a result, after a number of values has been
taken. -/
inductive EndsWith (converter : Converter) (values : List Value) (clauses : List Clause) :
    Except Fault Unit → Nat → Prop
  /-- Every clause gets its values. Spare values are left alone. -/
  | compiled (supplied : AreSupplied converter values clauses) :
      EndsWith converter values clauses (.ok ()) (totalArity clauses)
  /-- A clause has no keyword. It takes nothing, and the clauses before it have their values. -/
  | unknownTag {before after : List Clause} {clause : Clause} {tag : Value}
      (place : clauses = before ++ clause :: after)
      (supplied : AreSupplied converter values before)
      (unknown : clause.comparison = .unknown tag) :
      EndsWith converter values clauses
        (.error (.query
          (.unsupportedOperator tag.plainText (Keyword.all.map Keyword.word))))
        (totalArity before)
  /-- A clause asks for more values than there are. Those that there are have been taken and
  written, also when the clause itself has taken one of them. -/
  | exhausted {before after : List Clause} {clause : Clause} {keyword : Keyword}
      (place : clauses = before ++ clause :: after)
      (supplied : AreSupplied converter values before)
      (known : clause.comparison = .known keyword)
      (lacking : values.length < totalArity before + keyword.arity)
      (written : ∀ index < values.length, converter.Writes values index) :
      EndsWith converter values clauses
        (.error (.query (.valuesExhausted values.length (some clause.field)))) values.length
  /-- The converter refuses a value of a clause. The value is gone all the same. -/
  | refused {before after : List Clause} {clause : Clause} {keyword : Keyword} {index : Nat}
      {value : Value} {fault : Fault}
      (place : clauses = before ++ clause :: after)
      (supplied : AreSupplied converter values before)
      (known : clause.comparison = .known keyword)
      (reached : totalArity before ≤ index)
      (inside : index < totalArity before + keyword.arity)
      (written : ∀ earlier < index, converter.Writes values earlier)
      (given : values[index]? = some value)
      (refusal : converter (values.take index) value = .error fault) :
      EndsWith converter values clauses (.error fault) (index + 1)

variable {converter : Converter} {values : List Value}

/-! ## Every list of clauses ends in one of these ways -/

/-- A value that is written is there. -/
theorem lt_length_of_writes {index : Nat} (written : converter.Writes values index) :
    index < values.length := by
  obtain ⟨value, answer, given, -⟩ := written
  exact (List.getElem?_eq_some_iff.mp given).1

/-- One more clause is supplied if the values up to its last one are written. -/
theorem AreSupplied.append_singleton {before : List Clause} {clause : Clause} {keyword : Keyword}
    (supplied : AreSupplied converter values before)
    (known : clause.comparison = .known keyword)
    (written : ∀ index < totalArity before + keyword.arity, converter.Writes values index) :
    AreSupplied converter values (before ++ [clause]) := by
  have total : totalArity (before ++ [clause]) = totalArity before + keyword.arity := by
    simp [arity?, known, Comparison.arity?]
  refine ⟨?_, ?_, ?_⟩
  · intro other member
    rcases List.mem_append.mp member with earlier | last
    · exact supplied.known other earlier
    · rw [List.mem_singleton.mp last]
      exact ⟨keyword, known⟩
  · rw [total]
    by_contra short
    exact absurd (lt_length_of_writes (written values.length (by omega))) (Nat.lt_irrefl _)
  · rw [total]
    exact written

/-- When not all values up to a bound are written, there is a first one that is not. -/
theorem exists_first_not_writes {bound : Nat}
    (missing : ¬ ∀ index < bound, converter.Writes values index) :
    ∃ index < bound, ¬ converter.Writes values index ∧
      ∀ earlier < index, converter.Writes values earlier := by
  classical
  push Not at missing
  have found := Nat.find_spec missing
  refine ⟨Nat.find missing, found.1, found.2, fun earlier before => ?_⟩
  have earliest := Nat.find_min missing before
  push Not at earliest
  exact earliest (Nat.lt_trans before found.1)

/-- After clauses that are supplied, whatever follows them ends in one of the four ways. -/
theorem AreSupplied.exists_endsWith {before : List Clause}
    (supplied : AreSupplied converter values before) (after : List Clause) :
    ∃ result count, EndsWith converter values (before ++ after) result count := by
  induction after generalizing before with
  | nil =>
    rw [List.append_nil]
    exact ⟨_, _, .compiled supplied⟩
  | cons clause after ih =>
    cases shape : clause.comparison with
    | unknown tag => exact ⟨_, _, .unknownTag rfl supplied shape⟩
    | known keyword =>
      by_cases all : ∀ index < totalArity before + keyword.arity, converter.Writes values index
      · rw [List.append_cons]
        exact ih (supplied.append_singleton shape all)
      · obtain ⟨index, inside, missing, written⟩ := exists_first_not_writes all
        -- The clauses before have their values, so the missing one belongs to this clause.
        have reached : totalArity before ≤ index := by
          by_contra early
          exact missing (supplied.written index (by omega))
        cases given : values[index]? with
        | none =>
          have behind : values.length ≤ index := List.getElem?_eq_none_iff.mp given
          exact ⟨_, _, .exhausted rfl supplied shape (by omega)
            fun earlier there => written earlier (by omega)⟩
        | some value =>
          cases answer : converter (values.take index) value with
          | error fault =>
            exact ⟨_, _, .refused rfl supplied shape reached inside written given answer⟩
          | ok bound => exact absurd ⟨value, bound, given, answer⟩ missing

/-! ## The compilation ends that way -/

variable (options : Options)

/-- A clause whose values are written is compiled and takes just these. -/
theorem exists_outcome_compile_eq_ok {clause : Clause} {keyword : Keyword} {start : Nat}
    (known : clause.comparison = .known keyword)
    (written : ∀ index, start ≤ index → index < start + keyword.arity →
      converter.Writes values index) :
    ∃ term, outcome (clause.compile converter options) (.after values start) =
      (.ok term, .after values (start + keyword.arity)) := by
  obtain ⟨bound, took⟩ := Binder.exists_outcome_take_eq_ok written clause.field
  rw [compile_of_known converter options known, Binder.outcome_map, took]
  exact ⟨_, rfl⟩

/-- Clauses whose values are written are compiled in turn. -/
theorem exists_outcome_mapM_eq_ok {clauses : List Clause} {start : Nat}
    (known : ∀ clause ∈ clauses, ∃ keyword, clause.comparison = .known keyword)
    (written : ∀ index, start ≤ index → index < start + totalArity clauses →
      converter.Writes values index) :
    ∃ terms, outcome (clauses.mapM (compile converter options)) (.after values start) =
      (.ok terms, .after values (start + totalArity clauses)) := by
  induction clauses generalizing start with
  | nil => exact ⟨[], rfl⟩
  | cons clause clauses ih =>
    obtain ⟨keyword, shape⟩ := known clause (by simp)
    have total : totalArity (clause :: clauses) = keyword.arity + totalArity clauses := by
      simp [arity?, shape, Comparison.arity?]
    rw [total] at written ⊢
    obtain ⟨term, first⟩ := exists_outcome_compile_eq_ok options shape
      fun index above below => written index above (by omega)
    have after : ∀ index, start + keyword.arity ≤ index →
        index < start + keyword.arity + totalArity clauses → converter.Writes values index :=
      fun index above below => written index (by omega) (by omega)
    obtain ⟨terms, later⟩ :=
      ih (fun other member => known other (List.mem_cons_of_mem _ member)) after
    refine ⟨term :: terms, ?_⟩
    rw [List.mapM_cons, Binder.outcome_bind_of_ok first, Binder.outcome_bind_of_ok later,
      Binder.outcome_pure, Nat.add_assoc]

/-- Clauses that are supplied are compiled, and spare values are left. -/
theorem AreSupplied.exists_outcome_mapM {clauses : List Clause}
    (supplied : AreSupplied converter values clauses) :
    ∃ terms, outcome (clauses.mapM (compile converter options)) (.ofValues values) =
      (.ok terms, .after values (totalArity clauses)) := by
  have fromStart : ∀ index, 0 ≤ index → index < 0 + totalArity clauses →
      converter.Writes values index :=
    fun index _ below => supplied.written index (by omega)
  obtain ⟨terms, done⟩ := exists_outcome_mapM_eq_ok options supplied.known fromStart
  rw [Nat.zero_add] at done
  exact ⟨terms, done⟩

/-- After clauses that are supplied, a clause that fails ends the compilation. -/
theorem outcome_mapM_of_error {before after : List Clause} {clause : Clause} {fault : Fault}
    {final : Binding} (supplied : AreSupplied converter values before)
    (failed : outcome (clause.compile converter options) (.after values (totalArity before)) =
      (.error fault, final)) :
    outcome ((before ++ clause :: after).mapM (compile converter options)) (.ofValues values) =
      (.error fault, final) := by
  obtain ⟨terms, first⟩ := supplied.exists_outcome_mapM options
  rw [List.mapM_append, Binder.outcome_bind_of_ok first, List.mapM_cons, bind_assoc,
    Binder.outcome_bind_of_error failed]

/-- What decides the end of clauses is what compiling them comes to. -/
theorem EndsWith.outcome_mapM {clauses : List Clause} {result : Except Fault Unit} {count : Nat}
    (ends : EndsWith converter values clauses result count) :
    (outcome (clauses.mapM (compile converter options)) (.ofValues values)).1.map
        (fun _ => ()) = result ∧
      (outcome (clauses.mapM (compile converter options)) (.ofValues values)).2 =
        .after values count := by
  cases ends with
  | compiled supplied =>
    obtain ⟨terms, done⟩ := supplied.exists_outcome_mapM options
    rw [done]
    exact ⟨rfl, rfl⟩
  | unknownTag place supplied unknown =>
    rw [place, outcome_mapM_of_error options supplied
      (by rw [compile_of_unknown converter options unknown, Binder.outcome_throw])]
    exact ⟨rfl, rfl⟩
  | @exhausted before after clause keyword place supplied known lacking written =>
    have stop := Binder.outcome_take_of_error supplied.enough lacking
      (fun index _ below => written index below)
      (Binder.outcome_nextConverted_end converter clause.field values)
    rw [place, outcome_mapM_of_error options supplied
      (by rw [compile_of_known converter options known, Binder.outcome_map, stop]; rfl)]
    exact ⟨rfl, rfl⟩
  | @refused before after clause keyword index value fault place supplied known reached inside
      written given refusal =>
    have refused := Binder.outcome_nextConverted_after given converter clause.field
    rw [refusal] at refused
    have stop := Binder.outcome_take_of_error reached inside
      (fun earlier _ below => written earlier below) refused
    rw [place, outcome_mapM_of_error options supplied
      (by rw [compile_of_known converter options known, Binder.outcome_map, stop]; rfl)]
    exact ⟨rfl, rfl⟩

end Clause

namespace Criteria

variable (converter : Converter) (options : Options)

/-- Compiling the clauses of all groups in one row yields the terms of all groups. -/
theorem mapM_clauses_eq_map_compileTerms (criteria : Criteria) :
    criteria.clauses.mapM (Clause.compile converter options) =
      List.flatten <$> criteria.compileTerms converter options := by
  obtain ⟨groups⟩ := criteria
  rw [clauses, compileTerms]
  induction groups with
  | nil => simp
  | cons group groups ih =>
    simp [ih, ClauseGroup.compileTerms]

/-- A compilation takes the same values and fails in the same way as compiling all its clauses in
one row. -/
theorem outcome_compile_eq_mapM_clauses (criteria : Criteria) (binding : Binding) :
    (outcome (criteria.compile converter options) binding).1.map (fun _ => ()) =
        (outcome (criteria.clauses.mapM (Clause.compile converter options)) binding).1.map
          (fun _ => ()) ∧
      (outcome (criteria.compile converter options) binding).2 =
        (outcome (criteria.clauses.mapM (Clause.compile converter options)) binding).2 := by
  rw [compile_eq_map_compileTerms, mapM_clauses_eq_map_compileTerms, Binder.outcome_map,
    Binder.outcome_map]
  rcases outcome (criteria.compileTerms converter options) binding with ⟨result, final⟩
  cases result <;> exact ⟨rfl, rfl⟩

/-- The end of a compilation is the one that its first event decides, and no other: it comes to a
result and leaves a binding behind just if its clauses end with that result after that many
values. -/
theorem endsWith_iff_outcome_compile (criteria : Criteria) (values : List Value)
    (result : Except Fault Unit) (count : Nat) :
    Clause.EndsWith converter values criteria.clauses result count ↔
      (outcome (criteria.compile converter options) (.ofValues values)).1.map (fun _ => ()) =
          result ∧
        (outcome (criteria.compile converter options) (.ofValues values)).2 =
          .after values count := by
  obtain ⟨sameResult, sameBinding⟩ :=
    outcome_compile_eq_mapM_clauses converter options criteria (.ofValues values)
  rw [sameResult, sameBinding]
  constructor
  · intro ends
    exact ends.outcome_mapM options
  · rintro ⟨comes, leaves⟩
    -- Some end is described, and what it describes is what the compilation comes to.
    have supplied : Clause.AreSupplied converter values [] :=
      ⟨by simp, Nat.zero_le _, by simp⟩
    obtain ⟨other, size, ends⟩ := supplied.exists_endsWith criteria.clauses
    rw [List.nil_append] at ends
    obtain ⟨otherComes, otherLeaves⟩ := ends.outcome_mapM options
    have sameSize : size = count := by
      have := otherLeaves.symm.trans leaves
      exact congrArg (fun binding => binding.arguments.consumed) this
    rw [← comes, otherComes, ← sameSize]
    exact ends

end Criteria

end DocFilter
