/-
# Tests that can fail

A result that is made of an earlier one is given only if that one is. Tests on the items of a list
are made from left to right up to the first that decides, and a test can fail instead of giving an
answer. An answer of the whole list is owed to answers of single tests, whatever stands after the
deciding one. So two orders of the same tests can differ only in whether they answer, never in the
answer.
-/

import Mathlib.Data.List.Forall2

namespace DocFilter

/-! ## One result after another -/

section Turns

variable {ε α β : Type}

/-- Two results are given in turn just if the first is and the second is after it. -/
theorem bind_eq_ok_iff {first : Except ε α} {next : α → Except ε β} {result : β} :
    first >>= next = .ok result ↔ ∃ value, first = .ok value ∧ next value = .ok result := by
  cases first with
  | error fault => exact ⟨nofun, nofun⟩
  | ok value => exact ⟨fun given => ⟨value, rfl, given⟩, by rintro ⟨_, ⟨⟩, given⟩; exact given⟩

/-- Two results are not given in turn just if the first is not or the second is not after it. -/
theorem bind_eq_error_iff {first : Except ε α} {next : α → Except ε β} {fault : ε} :
    first >>= next = .error fault ↔
      first = .error fault ∨ ∃ value, first = .ok value ∧ next value = .error fault := by
  cases first with
  | error own =>
    constructor
    · intro failed
      cases failed
      exact .inl rfl
    · rintro (same | ⟨_, ⟨⟩, _⟩)
      cases same
      rfl
  | ok value =>
    constructor
    · intro failed
      exact .inr ⟨value, rfl, failed⟩
    · rintro (⟨⟨⟩⟩ | ⟨_, ⟨⟩, failed⟩)
      exact failed

end Turns

namespace ShortCircuit

variable {α ε : Type} {test : α → Except ε Bool} {items : List α}

/-- Passing a test on to the answer it gives is the test. -/
theorem bind_ite_eq_self (answer : Except ε Bool) :
    (do if ← answer then return true else return false) = answer := by
  cases answer with
  | error fault => rfl
  | ok value => cases value <;> rfl

theorem allM_singleton (test : α → Except ε Bool) (item : α) : [item].allM test = test item := by
  rw [List.allM_cons, List.allM_nil, bind_ite_eq_self]

theorem anyM_singleton (test : α → Except ε Bool) (item : α) : [item].anyM test = test item := by
  rw [List.anyM_cons, List.anyM_nil, bind_ite_eq_self]

/-! ## Passing all tests -/

/-- Tests that agree item by item agree on all items. -/
theorem allM_eq_of_forall₂ {β : Type} {other : β → Except ε Bool} {others : List β}
    (same : List.Forall₂ (fun left right => test left = other right) items others) :
    items.allM test = others.allM other := by
  induction same with
  | nil => rfl
  | cons first _ ih => rw [List.allM_cons, List.allM_cons, first, ih]

/-- All tests are passed just if each one is. -/
theorem allM_eq_ok_true_iff :
    items.allM test = .ok true ↔ ∀ item ∈ items, test item = .ok true := by
  induction items with
  | nil => exact ⟨fun _ _ member => absurd member List.not_mem_nil, fun _ => rfl⟩
  | cons item items ih =>
    rw [List.allM_cons, List.forall_mem_cons, ← ih]
    cases first : test item with
    | error fault => simp [bind, Except.bind]
    | ok passed => cases passed <;> simp [bind, Except.bind, pure, Except.pure]

/-- If not all tests are passed, one of them is not. -/
theorem exists_of_allM_eq_ok_false (refuted : items.allM test = .ok false) :
    ∃ item ∈ items, test item = .ok false := by
  induction items with
  | nil => cases refuted
  | cons item items ih =>
    rw [List.allM_cons] at refuted
    cases first : test item with
    | error fault =>
      rw [first] at refuted
      cases refuted
    | ok passed =>
      cases passed with
      | false => exact ⟨item, List.mem_cons_self, first⟩
      | true =>
        rw [first] at refuted
        obtain ⟨other, member, answer⟩ := ih refuted
        exact ⟨other, List.mem_cons_of_mem _ member, answer⟩

/-- If every test answers, so does the test on all. -/
theorem exists_allM_eq_ok (answers : ∀ item ∈ items, ∃ answer, test item = .ok answer) :
    ∃ answer, items.allM test = .ok answer := by
  induction items with
  | nil => exact ⟨true, rfl⟩
  | cons item items ih =>
    obtain ⟨passed, first⟩ := answers item List.mem_cons_self
    rw [List.allM_cons, first]
    cases passed with
    | false => exact ⟨false, rfl⟩
    | true => exact ih fun other member => answers other (List.mem_cons_of_mem _ member)

/-! ## Passing some test -/

/-- The opposite of a test is passed just if the test is failed, and failed if it is passed. -/
theorem map_not_eq_ok_iff {result : Except ε Bool} {answer : Bool} :
    result.map not = .ok answer ↔ result = .ok !answer := by
  cases result with
  | error fault => simp [Except.map]
  | ok value => cases value <;> cases answer <;> simp [Except.map]

/-- Some test is passed if not all the opposite tests are. Both are made in the same order, and the
same one decides. -/
theorem anyM_eq_map_not_allM :
    items.anyM test = (items.allM fun item => (test item).map not).map not := by
  induction items with
  | nil => rfl
  | cons item items ih =>
    rw [List.anyM_cons, List.allM_cons, ih]
    cases test item with
    | error fault => rfl
    | ok passed => cases passed <;> rfl

/-- Tests that agree item by item agree on some item. -/
theorem anyM_eq_of_forall₂ {β : Type} {other : β → Except ε Bool} {others : List β}
    (same : List.Forall₂ (fun left right => test left = other right) items others) :
    items.anyM test = others.anyM other := by
  have opposite : List.Forall₂ (fun left right => (test left).map not = (other right).map not)
      items others := same.imp fun _ _ => congrArg (Except.map not)
  rw [anyM_eq_map_not_allM, anyM_eq_map_not_allM, allM_eq_of_forall₂ opposite]

/-- No test is passed just if each one is failed. -/
theorem anyM_eq_ok_false_iff :
    items.anyM test = .ok false ↔ ∀ item ∈ items, test item = .ok false := by
  rw [anyM_eq_map_not_allM, map_not_eq_ok_iff, Bool.not_false, allM_eq_ok_true_iff]
  exact forall₂_congr fun _ _ => map_not_eq_ok_iff

/-- An answer for some item is that one of the tests is passed. -/
theorem eq_true_iff_of_anyM_eq_ok {answer : Bool} (answered : items.anyM test = .ok answer) :
    answer = true ↔ ∃ item ∈ items, test item = .ok true := by
  constructor
  · rintro rfl
    rw [anyM_eq_map_not_allM, map_not_eq_ok_iff] at answered
    obtain ⟨item, member, failed⟩ := exists_of_allM_eq_ok_false answered
    exact ⟨item, member, map_not_eq_ok_iff.mp failed⟩
  · rintro ⟨item, member, passed⟩
    cases answer with
    | true => rfl
    | false =>
      rw [anyM_eq_ok_false_iff.mp answered item member] at passed
      cases passed

/-- If every test answers, so does the test on some. -/
theorem exists_anyM_eq_ok (answers : ∀ item ∈ items, ∃ answer, test item = .ok answer) :
    ∃ answer, items.anyM test = .ok answer := by
  have opposite : ∀ item ∈ items, ∃ answer, (test item).map not = .ok answer := by
    intro item member
    obtain ⟨answer, passed⟩ := answers item member
    exact ⟨!answer, by rw [passed]; rfl⟩
  obtain ⟨answer, all⟩ := exists_allM_eq_ok opposite
  exact ⟨!answer, by rw [anyM_eq_map_not_allM, all]; rfl⟩

/-- If every test answers whether its item has a property, so does the test on some. -/
theorem exists_anyM_eq_ok_iff {property : α → Prop}
    (each : ∀ item ∈ items, ∃ answer, test item = .ok answer ∧ (answer = true ↔ property item)) :
    ∃ answer, items.anyM test = .ok answer ∧
      (answer = true ↔ ∃ item ∈ items, property item) := by
  obtain ⟨answer, answered⟩ :=
    exists_anyM_eq_ok fun item member => (each item member).imp fun _ => And.left
  have passed : ∀ item ∈ items, test item = .ok true ↔ property item := by
    intro item member
    obtain ⟨own, ownAnswer, tells⟩ := each item member
    rw [ownAnswer, Except.ok.injEq, tells]
  refine ⟨answer, answered, (eq_true_iff_of_anyM_eq_ok answered).trans ?_⟩
  exact exists_congr fun item => and_congr_right (passed item)

/-- If the test on some item fails, one of the tests does. -/
theorem exists_of_anyM_eq_error {fault : ε} (failed : items.anyM test = .error fault) :
    ∃ item ∈ items, test item = .error fault := by
  induction items with
  | nil => cases failed
  | cons item items ih =>
    rw [List.anyM_cons] at failed
    rcases bind_eq_error_iff.mp failed with own | ⟨passed, -, later⟩
    · exact ⟨item, List.mem_cons_self, own⟩
    · cases passed with
      | true => cases later
      | false =>
        obtain ⟨other, member, own⟩ := ih later
        exact ⟨other, List.mem_cons_of_mem _ member, own⟩

end ShortCircuit

end DocFilter
