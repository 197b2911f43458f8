/-
# Compiling from any position on

Clauses need not be compiled on fresh values: values may have been taken before, and compilations
may have failed. From any position on, clauses end in one of a few ways. They get their values, or
a clause among them has no keyword and leaves all as it was, or the values end, or the converter
refuses one. In each case the converter has been asked for exactly the values that are taken.
-/

import DocFilter.Proofs.Compiling

namespace DocFilter

/-- How taking values from a position on fails. -/
inductive Converter.Stops (converter : Converter) (values : List Value) (start : Nat) :
    Fault → Binding → Prop
  /-- There are no more values, and all that there are have been taken. -/
  | exhausted (field : String) :
      Stops converter values start
        (.query (.valuesExhausted values.length (some field))) (.after values values.length)
  /-- The converter refuses a value, which is gone all the same. -/
  | refused {index : Nat} {value : Value} {fault : Fault} (reached : start ≤ index)
      (given : values[index]? = some value)
      (refusal : converter (values.take index) value = .error fault) :
      Stops converter values start fault (.after values (index + 1))

/-- What fails from a later position on fails from an earlier one. -/
theorem Converter.Stops.mono {converter : Converter} {values : List Value} {start later : Nat}
    {fault : Fault} {final : Binding} (before : start ≤ later)
    (stops : converter.Stops values later fault final) :
    converter.Stops values start fault final := by
  cases stops with
  | exhausted field => exact .exhausted field
  | refused reached given refusal => exact .refused (Nat.le_trans before reached) given refusal

/-- Several values are taken in a row, or taking them fails. -/
theorem Binder.outcome_take_cases (converter : Converter) (field : String) (values : List Value)
    (count : Nat) {start : Nat} (inside : start ≤ values.length) :
    (∃ bound, outcome (take converter field count) (.after values start) =
        (.ok bound, .after values (start + count)) ∧ start + count ≤ values.length) ∨
      ∃ fault final, outcome (take converter field count) (.after values start) =
        (.error fault, final) ∧ converter.Stops values start fault final := by
  induction count generalizing start with
  | zero => exact .inl ⟨[], rfl, inside⟩
  | succ count ih =>
    rw [take]
    cases given : values[start]? with
    | none =>
      have finished : start = values.length :=
        Nat.le_antisymm inside (List.getElem?_eq_none_iff.mp given)
      subst finished
      rw [outcome_bind_of_error (outcome_nextConverted_end converter field values)]
      exact .inr ⟨_, _, rfl, .exhausted field⟩
    | some value =>
      have first := outcome_nextConverted_after given converter field
      cases answer : converter (values.take start) value with
      | error fault =>
        rw [answer] at first
        rw [outcome_bind_of_error first]
        exact .inr ⟨_, _, rfl, .refused (Nat.le_refl start) given answer⟩
      | ok written =>
        rw [answer] at first
        rw [outcome_bind_of_ok first]
        have next : start + 1 ≤ values.length := (List.getElem?_eq_some_iff.mp given).1
        rcases ih next with ⟨bound, took, enough⟩ | ⟨fault, final, failed, stops⟩
        · have sum : start + 1 + count = start + (count + 1) := by omega
          rw [outcome_bind_of_ok took, outcome_pure, sum]
          exact .inl ⟨_, rfl, sum ▸ enough⟩
        · rw [outcome_bind_of_error failed]
          exact .inr ⟨_, _, rfl, stops.mono (Nat.le_succ start)⟩

namespace Clause

variable (converter : Converter) (options : Options) (values : List Value)

/-- How compiling clauses from a position on ends: with a result, and with a binding that is left
behind. -/
inductive EndsFrom (start : Nat) (clauses : List Clause) :
    Except Fault (List Term) → Binding → Prop
  /-- Every clause gets its values. -/
  | compiled {terms : List Term} (enough : start + totalArity clauses ≤ values.length) :
      EndsFrom start clauses (.ok terms) (.after values (start + totalArity clauses))
  /-- A clause has no keyword. It takes nothing: all is left as the clauses before it left it. -/
  | unknownTag {before after : List Clause} {clause : Clause} {tag : Value} {terms : List Term}
      (place : clauses = before ++ clause :: after) (unknown : clause.comparison = .unknown tag)
      (enough : start + totalArity before ≤ values.length)
      (supplied : Binder.outcome (before.mapM (compile converter options)) (.after values start) =
        (.ok terms, .after values (start + totalArity before))) :
      EndsFrom start clauses
        (.error (.query
          (.unsupportedOperator tag.plainText (Keyword.all.map Keyword.word))))
        (.after values (start + totalArity before))
  /-- A value is missing or refused. -/
  | stopped {fault : Fault} {final : Binding} (stops : converter.Stops values start fault final) :
      EndsFrom start clauses (.error fault) final

variable {converter options values}

/-- Before clauses that end in one of these ways there may be one that gets its values. -/
theorem EndsFrom.cons {start : Nat} {clause : Clause} {clauses : List Clause} {term : Term}
    {result : Except Fault (List Term)} {final : Binding}
    (first : Binder.outcome (clause.compile converter options) (.after values start) =
      (.ok term, .after values (start + clause.arity?.getD 0)))
    (ends : EndsFrom converter options values (start + clause.arity?.getD 0) clauses result final) :
    EndsFrom converter options values start (clause :: clauses)
      (result.map fun terms => term :: terms) final := by
  cases ends with
  | compiled enough =>
    rw [Nat.add_assoc, ← totalArity_cons] at enough ⊢
    exact .compiled enough
  | @unknownTag before after offending tag terms place unknown enough supplied =>
    rw [Nat.add_assoc, ← totalArity_cons] at enough supplied ⊢
    have more : Binder.outcome ((clause :: before).mapM (compile converter options))
        (.after values start) =
          (.ok (term :: terms), .after values (start + totalArity (clause :: before))) := by
      rw [List.mapM_cons, Binder.outcome_bind_of_ok first, Binder.outcome_bind_of_ok supplied,
        Binder.outcome_pure]
    exact .unknownTag (congrArg (clause :: ·) place) unknown enough more
  | stopped stops => exact .stopped (stops.mono (Nat.le_add_right _ _))

variable (converter options)

/-- However clauses are compiled, it ends in one of these ways. -/
theorem endsFrom_outcome_mapM (clauses : List Clause) {start : Nat}
    (inside : start ≤ values.length) :
    EndsFrom converter options values start clauses
      (Binder.outcome (clauses.mapM (compile converter options)) (.after values start)).1
      (Binder.outcome (clauses.mapM (compile converter options)) (.after values start)).2 := by
  induction clauses generalizing start with
  | nil => exact .compiled inside
  | cons clause clauses ih =>
    rw [List.mapM_cons]
    cases shape : clause.comparison with
    | unknown tag =>
      have refused : Binder.outcome (clause.compile converter options) (.after values start) =
          (.error (.query (.unsupportedOperator tag.plainText (Keyword.all.map Keyword.word))),
            .after values start) := by
        rw [compile_of_unknown converter options shape, Binder.outcome_throw]
      rw [Binder.outcome_bind_of_error refused]
      exact .unknownTag (List.nil_append _).symm shape inside rfl
    | known keyword =>
      have arity : clause.arity?.getD 0 = keyword.arity := by
        rw [arity?, shape]
        rfl
      have compiled : clause.compile converter options = _ :=
        compile_of_known converter options shape
      rcases Binder.outcome_take_cases converter clause.field values keyword.arity inside with
        ⟨bound, took, enough⟩ | ⟨fault, final, failed, stops⟩
      · have first : Binder.outcome (clause.compile converter options) (.after values start) =
            (.ok ⟨clause.field, keyword.conditionsOn options bound⟩,
              .after values (start + clause.arity?.getD 0)) := by
          rw [compiled, Binder.outcome_map, took, arity]
          rfl
        rw [Binder.outcome_bind_of_ok first, ← map_eq_pure_bind, Binder.outcome_map]
        exact .cons first (ih (by rwa [arity]))
      · have first : Binder.outcome (clause.compile converter options) (.after values start) =
            (.error fault, final) := by
          rw [compiled, Binder.outcome_map, failed]
          rfl
        rw [Binder.outcome_bind_of_error first]
        exact .stopped stops

variable {converter options}

/-- However it ends, the converter has been asked for the values that are taken, and there are no
more of them than there were values. -/
theorem EndsFrom.exists_final_eq {start : Nat} {clauses : List Clause}
    {result : Except Fault (List Term)} {final : Binding}
    (ends : EndsFrom converter options values start clauses result final) :
    ∃ count ≤ values.length, final = .after values count := by
  cases ends with
  | compiled enough => exact ⟨_, enough, rfl⟩
  | unknownTag _ _ enough _ => exact ⟨_, enough, rfl⟩
  | stopped stops =>
    cases stops with
    | exhausted field => exact ⟨_, Nat.le_refl _, rfl⟩
    | refused _ given _ => exact ⟨_, (List.getElem?_eq_some_iff.mp given).1, rfl⟩

end Clause

end DocFilter
