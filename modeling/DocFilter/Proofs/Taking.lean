/-
# Taking values

A step of binding is tried on a binding: it comes to a result and leaves a binding behind. What
every keyword does is the same: it takes as many values as its arity says, and makes its
conditions of what the converter wrote for them. So everything about the order in which values
are taken, asked for and refused is settled here, for a number of values taken in a row.

A run that starts with fresh values is always at a binding that is known by the number of values
taken so far, because the converter is asked for exactly the values that have been taken.
-/

import DocFilter.Compilation
import Mathlib.Data.List.Forall2

namespace DocFilter

/-- The binding of values of which the first ones have been taken and asked for. -/
def Binding.after (values : List Value) (count : Nat) : Binding :=
  ⟨⟨count, values.drop count⟩, values.take count⟩

namespace Converter

/-- What is bound for values in turn, by a converter that was asked for some values before. -/
def bindAll (converter : Converter) : List Value → List Value → Except Fault (List Value)
  | _, [] => return []
  | calls, value :: values => do
    let bound ← (converter calls value).map read
    return bound :: (← bindAll converter (calls ++ [value]) values)

/-- A converter that answers by the value alone binds the same, whatever it was asked before. -/
theorem bindAll_stateless (convert : Value → Except Fault Value) (calls values : List Value) :
    (stateless convert).bindAll calls values = (stateless convert).bindAll [] values := by
  have anyCalls : ∀ (values first second : List Value),
      (stateless convert).bindAll first values = (stateless convert).bindAll second values := by
    intro values
    induction values with
    | nil => exact fun _ _ => rfl
    | cons value values ih =>
      intro first second
      rw [bindAll, bindAll, ih (first ++ [value]) (second ++ [value])]
      rfl
  exact anyCalls values calls []

/-- Values are bound just if the first one is and the others are after it. -/
theorem bindAll_cons_eq_ok_iff {converter : Converter} {calls values bound : List Value}
    {value : Value} :
    converter.bindAll calls (value :: values) = .ok bound ↔
      ∃ first others, (converter calls value).map read = .ok first ∧
        converter.bindAll (calls ++ [value]) values = .ok others ∧ bound = first :: others := by
  rw [bindAll]
  constructor
  · intro written
    cases first : (converter calls value).map read with
    | error fault =>
      rw [first] at written
      cases written
    | ok answer =>
      cases later : converter.bindAll (calls ++ [value]) values with
      | error fault =>
        rw [first, later] at written
        cases written
      | ok others =>
        rw [first, later] at written
        cases written
        exact ⟨answer, others, rfl, rfl, rfl⟩
  · rintro ⟨first, others, answer, later, rfl⟩
    rw [answer, later]
    rfl

/-- As many values are bound as the converter was asked for. -/
theorem length_of_bindAll_eq_ok {converter : Converter} {calls values bound : List Value}
    (written : converter.bindAll calls values = .ok bound) : bound.length = values.length := by
  induction values generalizing calls bound with
  | nil =>
    cases written
    rfl
  | cons value values ih =>
    obtain ⟨first, others, -, later, rfl⟩ := bindAll_cons_eq_ok_iff.mp written
    rw [List.length_cons, List.length_cons, ih later]

/-- Whether there is a value at an index and the converter writes it after all values before. -/
def Writes (converter : Converter) (values : List Value) (index : Nat) : Prop :=
  ∃ value written, values[index]? = some value ∧ converter (values.take index) value = .ok written

end Converter

section Steps

variable {σ α β : Type} {first : ExceptT Fault (StateM σ) α} {state middle : σ}

/-- A step after one that succeeds is taken on what that one leaves. -/
theorem run_bind_of_ok {value : α} (succeeded : first.run.run state = (.ok value, middle))
    (next : α → ExceptT Fault (StateM σ) β) :
    (first >>= next).run.run state = (next value).run.run middle := by
  simp only [ExceptT.run_bind, StateT.run_bind, succeeded]
  rfl

/-- A step after one that fails is not taken. -/
theorem run_bind_of_error {fault : Fault} (failed : first.run.run state = (.error fault, middle))
    (next : α → ExceptT Fault (StateM σ) β) :
    (first >>= next).run.run state = (.error fault, middle) := by
  simp only [ExceptT.run_bind, StateT.run_bind, failed]
  rfl

end Steps

namespace Binder

variable {α β : Type}

/-- What a step of binding comes to, and the binding that it leaves. -/
def outcome (binder : Binder α) (binding : Binding) : Except Fault α × Binding :=
  binder.run.run binding

@[simp]
theorem outcome_pure (value : α) (binding : Binding) :
    outcome (pure value) binding = (.ok value, binding) := rfl

@[simp]
theorem outcome_throw (fault : Fault) (binding : Binding) :
    outcome (throw fault : Binder α) binding = (.error fault, binding) := rfl

theorem outcome_bind (binder : Binder α) (next : α → Binder β) (binding : Binding) :
    outcome (binder >>= next) binding =
      match outcome binder binding with
      | (.ok value, middle) => outcome (next value) middle
      | (.error fault, middle) => (.error fault, middle) := by
  rcases first : outcome binder binding with ⟨result, middle⟩
  cases result with
  | ok value => exact run_bind_of_ok first next
  | error fault => exact run_bind_of_error first next

/-- After a step that succeeds the next one goes on from the binding that is left. -/
theorem outcome_bind_of_ok {binder : Binder α} {binding middle : Binding} {value : α}
    (first : outcome binder binding = (.ok value, middle)) (next : α → Binder β) :
    outcome (binder >>= next) binding = outcome (next value) middle := by
  rw [outcome_bind, first]

/-- After a step that fails there is no next one. -/
theorem outcome_bind_of_error {binder : Binder α} {binding middle : Binding} {fault : Fault}
    (first : outcome binder binding = (.error fault, middle)) (next : α → Binder β) :
    outcome (binder >>= next) binding = (.error fault, middle) := by
  rw [outcome_bind, first]

/-- Two steps succeed in turn just if the first does and the second does on what it leaves. -/
theorem outcome_bind_eq_ok_iff {binder : Binder α} {next : α → Binder β}
    {binding final : Binding} {result : β} :
    outcome (binder >>= next) binding = (.ok result, final) ↔
      ∃ value middle, outcome binder binding = (.ok value, middle) ∧
        outcome (next value) middle = (.ok result, final) := by
  constructor
  · intro both
    rcases first : outcome binder binding with ⟨answer, middle⟩
    cases answer with
    | ok value => exact ⟨value, middle, rfl, by rwa [outcome_bind_of_ok first] at both⟩
    | error fault =>
      rw [outcome_bind_of_error first] at both
      cases both
  · rintro ⟨value, middle, first, second⟩
    rw [outcome_bind_of_ok first, second]

/-- A step for every item of a list succeeds just if the step for the first one does and the
steps for the others do on what it leaves. -/
theorem outcome_mapM_cons_eq_ok_iff {step : α → Binder β} {item : α} {items : List α}
    {binding final : Binding} {results : List β} :
    outcome ((item :: items).mapM step) binding = (.ok results, final) ↔
      ∃ result middle others, outcome (step item) binding = (.ok result, middle) ∧
        outcome (items.mapM step) middle = (.ok others, final) ∧ results = result :: others := by
  rw [List.mapM_cons, outcome_bind_eq_ok_iff]
  constructor
  · rintro ⟨result, middle, first, later⟩
    obtain ⟨others, last, later, done⟩ := outcome_bind_eq_ok_iff.mp later
    cases done
    exact ⟨result, middle, others, first, later, rfl⟩
  · rintro ⟨result, middle, others, first, later, rfl⟩
    exact ⟨result, middle, first, outcome_bind_eq_ok_iff.mpr ⟨others, final, later, rfl⟩⟩

/-- When steps for all items succeed, each result stands to its item as results of the step do. -/
theorem forall₂_of_outcome_mapM {step : α → Binder β} {relation : α → β → Prop}
    (each : ∀ item binding result final,
      outcome (step item) binding = (.ok result, final) → relation item result)
    {items : List α} {results : List β} {binding final : Binding}
    (succeeded : outcome (items.mapM step) binding = (.ok results, final)) :
    List.Forall₂ relation items results := by
  induction items generalizing results binding with
  | nil =>
    rw [List.mapM_nil, outcome_pure] at succeeded
    cases succeeded
    exact .nil
  | cons item items ih =>
    obtain ⟨result, middle, others, first, later, rfl⟩ :=
      outcome_mapM_cons_eq_ok_iff.mp succeeded
    exact .cons (each item binding result middle first) (ih later)

theorem outcome_map (change : α → β) (binder : Binder α) (binding : Binding) :
    outcome (change <$> binder) binding =
      ((outcome binder binding).1.map change, (outcome binder binding).2) := by
  rw [map_eq_pure_bind, outcome_bind]
  rcases outcome binder binding with ⟨result, middle⟩
  cases result <;> rfl

/-! ## Several values in a row -/

/-- Takes several values for a field, one after the other, and converts each. -/
def take (converter : Converter) (field : String) : Nat → Binder (List Value)
  | 0 => return []
  | count + 1 => do
    let value ← nextConverted converter field
    return value :: (← take converter field count)

/-- Values are taken with success just if there are enough of them and the converter writes each;
then they are exactly the ones that are gone. -/
theorem outcome_take_eq_ok_iff {converter : Converter} {field : String} {count consumed : Nat}
    {values calls bound : List Value} {binding : Binding} :
    outcome (take converter field count) ⟨⟨consumed, values⟩, calls⟩ = (.ok bound, binding) ↔
      ∃ taken rest, values = taken ++ rest ∧ taken.length = count ∧
        converter.bindAll calls taken = .ok bound ∧
        binding = ⟨⟨consumed + count, rest⟩, calls ++ taken⟩ := by
  induction count generalizing consumed values calls bound binding with
  | zero =>
    constructor
    · intro none
      cases none
      exact ⟨[], values, rfl, rfl, rfl, by simp⟩
    · rintro ⟨taken, rest, rfl, none, written, rfl⟩
      rw [List.length_eq_zero_iff] at none
      subst none
      cases written
      simp [take]
  | succ count ih =>
    cases values with
    | nil =>
      constructor
      · intro none
        rw [take, outcome_bind_of_error (nextConverted_nil ..)] at none
        cases none
      · rintro ⟨taken, rest, split, size, -, -⟩
        simp [(List.append_eq_nil_iff.mp split.symm).1] at size
    | cons value values =>
      have sum : consumed + 1 + count = consumed + (count + 1) := by omega
      rw [take, outcome_bind_eq_ok_iff]
      constructor
      · rintro ⟨first, middle, one, others⟩
        rw [outcome, nextConverted_cons] at one
        obtain ⟨answer, rfl⟩ := Prod.mk.inj one
        obtain ⟨later, last, others, done⟩ := outcome_bind_eq_ok_iff.mp others
        obtain ⟨taken, rest, rfl, rfl, written, rfl⟩ := ih.mp others
        cases done
        refine ⟨value :: taken, rest, rfl, rfl,
          Converter.bindAll_cons_eq_ok_iff.mpr ⟨first, later, answer, written, rfl⟩, ?_⟩
        rw [sum, List.append_assoc, List.singleton_append]
      · rintro ⟨taken, rest, split, size, written, rfl⟩
        cases taken with
        | nil => cases size
        | cons head taken =>
          obtain ⟨rfl, rfl⟩ := List.cons.inj split
          obtain ⟨first, others, answer, later, rfl⟩ :=
            Converter.bindAll_cons_eq_ok_iff.mp written
          refine ⟨first, ⟨⟨consumed + 1, taken ++ rest⟩, calls ++ [value]⟩, ?_,
            outcome_bind_eq_ok_iff.mpr ⟨others, _, ih.mpr
              ⟨taken, rest, rfl, Nat.succ.inj size, later, rfl⟩, ?_⟩⟩
          · rw [outcome, nextConverted_cons, answer]
            rfl
          · rw [outcome_pure, sum, List.append_assoc, List.singleton_append]

/-! ## Where a run of takings stops -/

/-- A value that is there is gone after it was asked for, and the converter has the last word. -/
theorem outcome_nextConverted_after {values : List Value} {index : Nat} {value : Value}
    (given : values[index]? = some value) (converter : Converter) (field : String) :
    outcome (nextConverted converter field) (.after values index) =
      ((converter (values.take index) value).map Converter.read, .after values (index + 1)) := by
  obtain ⟨inside, here⟩ := List.getElem?_eq_some_iff.mp given
  have split : values.drop index = value :: values.drop (index + 1) := by
    rw [List.drop_eq_getElem_cons inside, here]
  have longer : values.take (index + 1) = values.take index ++ [value] := by
    rw [List.take_add_one, given]
    rfl
  rw [Binding.after, Binding.after, split, longer, outcome, nextConverted_cons]

/-- Behind the last value nothing is taken. -/
theorem outcome_nextConverted_end (converter : Converter) (field : String)
    (values : List Value) :
    outcome (nextConverted converter field) (.after values values.length) =
      (.error (.query (.valuesExhausted values.length (some field))),
        .after values values.length) := by
  rw [Binding.after, List.drop_length, outcome, nextConverted_nil]

/-- Values that the converter writes are all taken. -/
theorem exists_outcome_take_eq_ok {converter : Converter} {values : List Value}
    {start count : Nat}
    (written : ∀ index, start ≤ index → index < start + count → converter.Writes values index)
    (field : String) :
    ∃ bound, outcome (take converter field count) (.after values start) =
      (.ok bound, .after values (start + count)) := by
  induction count generalizing start with
  | zero => exact ⟨[], rfl⟩
  | succ count ih =>
    obtain ⟨value, answer, given, accepted⟩ := written start (by omega) (by omega)
    have after : ∀ index, start + 1 ≤ index → index < start + 1 + count →
        converter.Writes values index :=
      fun index above below => written index (by omega) (by omega)
    obtain ⟨others, later⟩ := ih after
    have first := outcome_nextConverted_after given converter field
    rw [accepted] at first
    refine ⟨Converter.read answer :: others, ?_⟩
    rw [take, outcome_bind_of_ok first, outcome_bind_of_ok later, outcome_pure,
      Nat.add_assoc, Nat.add_comm 1 count]

/-- A run of takings stops with the first one that fails. -/
theorem outcome_take_of_error {converter : Converter} {field : String} {values : List Value}
    {start index count : Nat} {fault : Fault} {final : Binding}
    (above : start ≤ index) (below : index < start + count)
    (written : ∀ earlier, start ≤ earlier → earlier < index → converter.Writes values earlier)
    (stop : outcome (nextConverted converter field) (.after values index) =
      (.error fault, final)) :
    outcome (take converter field count) (.after values start) = (.error fault, final) := by
  induction count generalizing start with
  | zero => omega
  | succ count ih =>
    by_cases here : start = index
    · subst here
      rw [take, outcome_bind_of_error stop]
    · obtain ⟨value, answer, given, accepted⟩ := written start (by omega) (by omega)
      have first := outcome_nextConverted_after given converter field
      rw [accepted] at first
      have next : start + 1 ≤ index := by omega
      have later := ih next (by omega)
        fun earlier after before => written earlier (by omega) before
      rw [take, outcome_bind_of_ok first, outcome_bind_of_error later]

end Binder

end DocFilter
