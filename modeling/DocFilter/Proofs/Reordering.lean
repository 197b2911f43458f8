/-
# Other orders of clauses

Groups may come in any order, and so may the clauses of each group, as long as every clause keeps
the values that it takes. The values then come in another order as well, the filter is written
differently, and on a document other conditions may be reached before one decides. What cannot
change is the answer: it is owed to answers of single clauses, and these are the same ones.

Whether there is an answer can change, when a clause fails on the document. If each clause answers
on its own, both orders answer.
-/

import DocFilter.Proofs.Slices
import Mathlib.Data.List.Perm.Basic

namespace DocFilter

open Binder (outcome)

/-- Another order of groups, with another order of the items of each group. -/
def IsReordering {α : Type} (first second : List (List α)) : Prop :=
  ∃ middle, first.Perm middle ∧ List.Forall₂ List.Perm middle second

namespace IsReordering

variable {α : Type} {first second : List (List α)}

theorem symm (reordered : IsReordering first second) : IsReordering second first := by
  obtain ⟨middle, groups, items⟩ := reordered
  obtain ⟨other, firstItems, secondGroups⟩ := List.perm_comp_forall₂ groups items
  refine ⟨other, secondGroups.symm, ?_⟩
  exact List.Forall₂.flip (firstItems.imp fun _ _ same => same.symm)

/-- Every group of the second order has the items of some group of the first. -/
theorem exists_perm (reordered : IsReordering first second) :
    ∀ other ∈ second, ∃ group ∈ first, group.Perm other := by
  obtain ⟨middle, groups, items⟩ := reordered
  have inMiddle : List.Forall₂ (fun group other => group ∈ middle ∧ group.Perm other)
      middle second := (List.forall₂_and_left _ _).mpr ⟨fun _ member => member, items⟩
  refine forall_of_forall₂ inMiddle fun group other both => ?_
  exact ⟨group, groups.mem_iff.mpr both.1, both.2⟩

/-- What holds of all items in the first order holds of all in the second. -/
theorem forall_mem (reordered : IsReordering first second) {property : α → Prop}
    (all : ∀ group ∈ first, ∀ item ∈ group, property item) :
    ∀ other ∈ second, ∀ item ∈ other, property item := by
  intro other inside item member
  obtain ⟨group, groupInside, same⟩ := reordered.exists_perm other inside
  exact all group groupInside item (same.mem_iff.mpr member)

/-- If no group of the first order is empty, none of the second is. -/
theorem forall_ne_nil (reordered : IsReordering first second)
    (nonempty : ∀ group ∈ first, group ≠ []) : ∀ other ∈ second, other ≠ [] := by
  rintro other inside rfl
  obtain ⟨group, groupInside, same⟩ := reordered.exists_perm [] inside
  exact nonempty group groupInside same.eq_nil

/-- There are no groups in the second order just if there are none in the first. -/
theorem eq_nil_iff (reordered : IsReordering first second) : first = [] ↔ second = [] := by
  obtain ⟨middle, groups, items⟩ := reordered
  constructor
  · rintro rfl
    rw [← groups.nil_eq] at items
    exact List.forall₂_nil_left_iff.mp items
  · rintro rfl
    rw [List.forall₂_nil_right_iff.mp items] at groups
    exact groups.eq_nil

variable {ε : Type} {test : α → Except ε Bool}

/-- A group that passes in the first order has its like in the second. -/
theorem exists_allM_eq_ok_true (reordered : IsReordering first second)
    (satisfied : ∃ group ∈ first, group.allM test = .ok true) :
    ∃ other ∈ second, other.allM test = .ok true := by
  obtain ⟨group, inside, passed⟩ := satisfied
  obtain ⟨other, otherInside, same⟩ := reordered.symm.exists_perm group inside
  refine ⟨other, otherInside, ?_⟩
  rw [ShortCircuit.allM_eq_ok_true_iff] at passed ⊢
  exact fun item member => passed item (same.mem_iff.mp member)

/-- Two orders that both answer give the same answer. -/
theorem anyM_allM_eq (reordered : IsReordering first second) {answer other : Bool}
    (answered : first.anyM (fun group => group.allM test) = .ok answer)
    (otherAnswered : second.anyM (fun group => group.allM test) = .ok other) :
    answer = other := by
  rw [Bool.eq_iff_iff, ShortCircuit.eq_true_iff_of_anyM_eq_ok answered,
    ShortCircuit.eq_true_iff_of_anyM_eq_ok otherAnswered]
  exact ⟨reordered.exists_allM_eq_ok_true, reordered.symm.exists_allM_eq_ok_true⟩

end IsReordering

/-! ## Slices can be put together again -/

/-- Values of slices in a row are as many as their clauses take. -/
theorem Slice.length_flatMap_values {slices : List Slice}
    (sizes : ∀ slice ∈ slices, slice.values.length = slice.clause.arity?.getD 0) :
    (slices.flatMap values).length = Clause.totalArity (slices.map clause) := by
  induction slices with
  | nil => rfl
  | cons slice slices ih =>
    rw [List.flatMap_cons, List.length_append, List.map_cons, Clause.totalArity_cons,
      sizes slice (by simp), ih fun other member => sizes other (List.mem_cons_of_mem _ member)]

/-- Clauses whose values stand in a row get them back. -/
theorem Clause.slicesFrom_flatMap_values (before after : List Value) {slices : List Slice}
    (sizes : ∀ slice ∈ slices, slice.values.length = slice.clause.arity?.getD 0) :
    Clause.slicesFrom (before ++ slices.flatMap Slice.values ++ after) before.length
      (slices.map Slice.clause) = slices := by
  induction slices generalizing before with
  | nil => rfl
  | cons slice slices ih =>
    have later := ih (before ++ slice.values)
      fun other member => sizes other (List.mem_cons_of_mem _ member)
    rw [List.length_append, sizes slice (by simp)] at later
    rw [List.flatMap_cons, List.map_cons, slicesFrom, ← sizes slice (by simp)]
    simp only [List.append_assoc] at later ⊢
    rw [List.drop_left, List.take_left, sizes slice (by simp), later]

/-- Groups of clauses whose values stand in a row get them back. -/
theorem ClauseGroup.slicesFrom_flatMap_values (before after : List Value)
    {slices : List (List Slice)} {groups : List ClauseGroup}
    (sizes : ∀ group ∈ slices, ∀ slice ∈ group,
      slice.values.length = slice.clause.arity?.getD 0)
    (own : groups.map clauses = slices.map (List.map Slice.clause)) :
    ClauseGroup.slicesFrom (before ++ slices.flatten.flatMap Slice.values ++ after) before.length
      groups = slices := by
  induction slices generalizing before groups with
  | nil =>
    rw [List.map_eq_nil_iff.mp own]
    rfl
  | cons first slices ih =>
    obtain ⟨group, others, rfl, firstOwn, othersOwn⟩ := List.map_eq_cons_iff.mp own
    have firstSizes := sizes first (by simp)
    have later := ih (before ++ first.flatMap Slice.values)
      (fun other member => sizes other (List.mem_cons_of_mem _ member)) othersOwn
    rw [List.length_append, Slice.length_flatMap_values firstSizes] at later
    have here := Clause.slicesFrom_flatMap_values before
      (slices.flatten.flatMap Slice.values ++ after) firstSizes
    rw [List.flatten_cons, List.flatMap_append, slicesFrom, firstOwn]
    simp only [List.append_assoc] at later here ⊢
    rw [here, later]

/-- Lists of clauses none of which is empty are groups. -/
theorem Criteria.exists_groupsFrom_eq_ok {lists : List (List Clause)}
    (nonempty : ∀ clauses ∈ lists, clauses ≠ []) (index : Nat) :
    ∃ groups, groupsFrom index lists = .ok groups ∧ groups.map ClauseGroup.clauses = lists := by
  induction lists generalizing index with
  | nil => exact ⟨[], rfl, rfl⟩
  | cons clauses lists ih =>
    obtain ⟨groups, built, own⟩ :=
      ih (fun other member => nonempty other (List.mem_cons_of_mem _ member)) (index + 1)
    cases clauses with
    | nil => exact absurd rfl (nonempty [] (by simp))
    | cons clause others =>
      refine ⟨⟨clause, others⟩ :: groups, ?_, ?_⟩
      · rw [groupsFrom, built]
        rfl
      · rw [List.map_cons, own]
        rfl

/-- Slices are cut again from criteria and values that are put together from them, with any spare
values behind. -/
theorem Criteria.exists_ofLists_slices {slices : List (List Slice)}
    (nonempty : ∀ group ∈ slices, group ≠ [])
    (sizes : ∀ group ∈ slices, ∀ slice ∈ group,
      slice.values.length = slice.clause.arity?.getD 0)
    (spare : List Value) :
    ∃ criteria, ofLists (slices.map (List.map Slice.clause)) = .ok criteria ∧
      criteria.slices (slices.flatten.flatMap Slice.values ++ spare) = slices := by
  have lists : ∀ clauses ∈ slices.map (List.map Slice.clause), clauses ≠ [] := by
    intro clauses inside
    obtain ⟨group, groupInside, rfl⟩ := List.mem_map.mp inside
    rw [Ne, List.map_eq_nil_iff]
    exact nonempty group groupInside
  obtain ⟨groups, built, own⟩ := exists_groupsFrom_eq_ok lists 0
  refine ⟨⟨groups⟩, ?_, ClauseGroup.slicesFrom_flatMap_values [] spare sizes own⟩
  rw [ofLists, built]
  rfl

/-- No group of slices is empty. -/
theorem ClauseGroup.forall_slicesFrom_ne_nil (values : List Value) (start : Nat)
    (groups : List ClauseGroup) : ∀ group ∈ slicesFrom values start groups, group ≠ [] := by
  induction groups generalizing start with
  | nil => simp [slicesFrom]
  | cons group groups ih =>
    rw [slicesFrom, List.forall_mem_cons]
    exact ⟨List.cons_ne_nil _ _, ih _⟩

/-! ## Answers in another order -/

section Stateless

variable {convert : Value → Except Fault Value} {options : Options}

/-- A clause alone takes as many values as its arity says. -/
theorem Slice.CompilesTo.length_values {converter : Converter} {slice : Slice} {term : Term}
    (compiled : slice.CompilesTo converter options term) :
    slice.values.length = slice.clause.arity?.getD 0 := by
  obtain ⟨keyword, bound, known, size, -, -⟩ := compilesTo_iff.mp compiled
  rw [size, Clause.arity?, known]
  rfl

/-- Items that each stand in a relation to something stand beside a list of such things. -/
theorem exists_forall₂_of_forall_exists {α β : Type} {relation : α → β → Prop} {items : List α}
    (each : ∀ item ∈ items, ∃ other, relation item other) :
    ∃ others, List.Forall₂ relation items others := by
  induction items with
  | nil => exact ⟨[], .nil⟩
  | cons item items ih =>
    obtain ⟨other, first⟩ := each item List.mem_cons_self
    obtain ⟨others, later⟩ := ih fun next member => each next (List.mem_cons_of_mem _ member)
    exact ⟨other :: others, .cons first later⟩

/-- If every clause that a document is asked about answers on its own, the filter answers. -/
theorem Slice.exists_matchesDocument_eq_ok {converter : Converter} {slices : List (List Slice)}
    {document : Value}
    (answers : ∀ group ∈ slices, ∀ slice ∈ group,
      ∃ answer, slice.matchesDocument converter options document = .ok answer) :
    ∃ answer, (slices.anyM fun group => group.allM fun slice =>
      slice.matchesDocument converter options document) = .ok answer :=
  ShortCircuit.exists_anyM_eq_ok fun group inside =>
    ShortCircuit.exists_allM_eq_ok (answers group inside)

/-- Filters that are made of the same slices in two orders give no document two answers, and both
give it one if every clause on its own does. -/
theorem Slice.matchesDocument_of_isReordering {converter : Converter}
    {slices arranged : List (List Slice)} {groups otherGroups : List (List Term)}
    (reordered : IsReordering slices arranged)
    (fields : ∀ group ∈ slices, ∀ slice ∈ group, Matching.IsField slice.clause.field)
    (compiled : List.Forall₂ (List.Forall₂ (Slice.CompilesTo converter options)) slices groups)
    (otherCompiled : List.Forall₂ (List.Forall₂ (Slice.CompilesTo converter options)) arranged
      otherGroups) (document : Value) :
    (∀ answer otherAnswer,
        (Filter.ofValue (Draft.disjunctionOf groups)).matchesDocument document = .ok answer →
        (Filter.ofValue (Draft.disjunctionOf otherGroups)).matchesDocument document =
          .ok otherAnswer →
        answer = otherAnswer) ∧
      ((∀ group ∈ slices, ∀ slice ∈ group, ∃ answer,
          slice.matchesDocument converter options document = .ok answer) →
        ∃ answer,
          (Filter.ofValue (Draft.disjunctionOf groups)).matchesDocument document = .ok answer ∧
          (Filter.ofValue (Draft.disjunctionOf otherGroups)).matchesDocument document =
            .ok answer) := by
  by_cases none : slices = []
  · -- Without groups both filters ask for nothing.
    subst none
    rw [reordered.eq_nil_iff.mp rfl] at otherCompiled
    rw [List.forall₂_nil_left_iff.mp compiled, List.forall₂_nil_left_iff.mp otherCompiled]
    refine ⟨?_, fun _ => ⟨true, rfl, rfl⟩⟩
    intro answer otherAnswer first second
    rw [first] at second
    exact Except.ok.inj second
  · rw [matchesDocument_disjunctionOf none fields compiled document,
      matchesDocument_disjunctionOf (mt reordered.eq_nil_iff.mpr none)
        (reordered.forall_mem fields) otherCompiled document]
    constructor
    · intro answer otherAnswer first second
      exact reordered.anyM_allM_eq first second
    · intro answers
      obtain ⟨answer, first⟩ := exists_matchesDocument_eq_ok answers
      obtain ⟨otherAnswer, second⟩ := exists_matchesDocument_eq_ok (reordered.forall_mem answers)
      have same : answer = otherAnswer := reordered.anyM_allM_eq first second
      exact ⟨answer, first, same ▸ second⟩

/-- Put in another order with their values, and with any spare values behind, clauses that can be
compiled are compiled again, and no document tells the two filters apart by their answers: if both
answer, they answer the same. Both do answer if every clause on its own does, for which it is
enough that none of its conditions fails. -/
theorem Criteria.matchesDocument_reordered (convert : Value → Except Fault Value)
    (options : Options) (criteria : Criteria) (values : List Value) (filter : Filter)
    (binding : Binding) (arranged : List (List Slice)) (spare : List Value) (document : Value)
    (fields : ∀ clause ∈ criteria.clauses, Matching.IsField clause.field)
    (compiled : outcome (criteria.compile (.stateless convert) options) (.ofValues values) =
      (.ok filter, binding))
    (reordered : IsReordering (criteria.slices values) arranged) :
    ∃ other otherFilter otherBinding,
      ofLists (arranged.map (List.map Slice.clause)) = .ok other ∧
      outcome (other.compile (.stateless convert) options)
        (.ofValues (arranged.flatten.flatMap Slice.values ++ spare)) =
          (.ok otherFilter, otherBinding) ∧
      (∀ answer otherAnswer, filter.matchesDocument document = .ok answer →
        otherFilter.matchesDocument document = .ok otherAnswer → answer = otherAnswer) ∧
      ((∀ group ∈ criteria.slices values, ∀ slice ∈ group, ∃ answer,
          slice.matchesDocument (.stateless convert) options document = .ok answer) →
        ∃ answer, filter.matchesDocument document = .ok answer ∧
          otherFilter.matchesDocument document = .ok answer) := by
  obtain ⟨groups, all, rfl, -⟩ := outcome_compile_iff.mp compiled
  -- Every slice is compiled on its own, and that it is does not depend on where it stands.
  have each := reordered.forall_mem (Slice.exists_compilesTo all)
  have sizes : ∀ group ∈ arranged, ∀ slice ∈ group,
      slice.values.length = slice.clause.arity?.getD 0 := by
    intro group inside slice member
    obtain ⟨term, one⟩ := each group inside slice member
    exact one.length_values
  have nonempty := reordered.forall_ne_nil
    (ClauseGroup.forall_slicesFrom_ne_nil values 0 criteria.groups)
  obtain ⟨other, built, cut⟩ := exists_ofLists_slices nonempty sizes spare
  obtain ⟨otherGroups, otherAll⟩ := exists_forall₂_of_forall_exists fun group inside =>
    exists_forall₂_of_forall_exists (each group inside)
  refine ⟨other, _, _, built,
    outcome_compile_iff.mpr ⟨otherGroups, by rwa [cut], rfl, rfl⟩, ?_⟩
  exact Slice.matchesDocument_of_isReordering reordered (forall_slices fields values) all otherAll
    document

/-- The slices of an age or a name, from the last group to the first and from the last clause to the
first. -/
def Slice.nameOrAge : List (List Slice) :=
  [[⟨.onName .equals, [.text "Jan"]⟩],
    [⟨.onAge .notEquals, [.int 40]⟩, ⟨.onAge .between, [.int 18, .int 65]⟩]]

/-- With its groups and the clauses of its first group swapped, an age or a name is the same
question. -/
theorem Criteria.matchesDocument_reordered_nameOrAge :
    ∃ filter binding other otherFilter otherBinding,
      (∀ clause ∈ ageOrName.clauses, Matching.IsField clause.field) ∧
      outcome (ageOrName.compile (.stateless Converter.plain) {})
        (.ofValues [.int 18, .int 65, .int 40, .text "Jan"]) = (.ok filter, binding) ∧
      IsReordering (ageOrName.slices [.int 18, .int 65, .int 40, .text "Jan"]) Slice.nameOrAge ∧
      ofLists (Slice.nameOrAge.map (List.map Slice.clause)) = .ok other ∧
      outcome (other.compile (.stateless Converter.plain) {})
        (.ofValues [.text "Jan", .int 40, .int 18, .int 65, .null]) =
          (.ok otherFilter, otherBinding) ∧
      ∃ answer,
        filter.matchesDocument (.mapping [(.text "age", .int 40), (.text "name", .text "Jan")]) =
          .ok answer ∧
        otherFilter.matchesDocument
          (.mapping [(.text "age", .int 40), (.text "name", .text "Jan")]) = .ok answer := by
  have reordered : IsReordering (ageOrName.slices [.int 18, .int 65, .int 40, .text "Jan"])
      Slice.nameOrAge :=
    ⟨_, .swap _ _ _, .cons (.refl _) (.cons (.swap _ _ _) .nil)⟩
  obtain ⟨other, otherFilter, otherBinding, built, compiled, -, both⟩ :=
    matchesDocument_reordered Converter.plain {} ageOrName
      [.int 18, .int 65, .int 40, .text "Jan"] _ _ Slice.nameOrAge [.null]
      (.mapping [(.text "age", .int 40), (.text "name", .text "Jan")]) (by decide) rfl reordered
  refine ⟨_, _, other, otherFilter, otherBinding, by decide, rfl, reordered, built, compiled,
    both ?_⟩
  -- The range answers because neither of its two conditions fails on the age.
  have range : (⟨.onAge .between, [.int 18, .int 65]⟩ : Slice).CompilesTo
      (.stateless Converter.plain) {} ⟨"age", [("$gt", .int 18), ("$lt", .int 65)]⟩ := rfl
  refine List.forall_mem_cons.mpr ⟨?_, List.forall_mem_singleton.mpr ?_⟩
  · refine List.forall_mem_cons.mpr ⟨?_, List.forall_mem_singleton.mpr ⟨_, rfl⟩⟩
    apply range.exists_matchesDocument_eq_ok (by decide)
    exact List.forall_mem_cons.mpr ⟨⟨_, rfl⟩, List.forall_mem_singleton.mpr ⟨_, rfl⟩⟩
  · exact List.forall_mem_singleton.mpr ⟨_, rfl⟩

end Stateless

end DocFilter
