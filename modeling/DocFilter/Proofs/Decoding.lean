/-
# Groups read back from filters

A filter tells which groups it was made of, and of which terms, all in their order. Its shape can
be seen from the filter itself: only a logical key has a list under it, while a field has the
mapping of a term's operators. So no shape is taken for another one, a field that bears the name of
a logical key included, and however often a field repeats, every term is still there.

A term is read back as it was written. That is the term itself unless it names an operator twice,
in which case the later operand is written, or an operand has the marker for what is absent in it.
-/

import DocFilter.Proofs.Rendering

namespace DocFilter

open Matching (allKey anyKey)

/-- Items that are each read back from what they are written as are all read back. -/
theorem mapM_map_eq_some {α β γ : Type} {write : α → β} {read : β → Option γ} {result : α → γ}
    (each : ∀ item, read (write item) = some (result item)) (items : List α) :
    (items.map write).mapM read = some (items.map result) := by
  induction items with
  | nil => rfl
  | cons item items ih =>
    rw [List.map_cons, List.mapM_cons, each, ih]
    rfl

namespace Term

/-- The condition that an operator with its operand writes. -/
def conditionOf? : Value × Value → Option (String × Value)
  | (.text operator, operand) => some (operator, operand)
  | _ => none

/-- The term that an entry of a filter writes. -/
def ofEntry? : Value × Value → Option Term
  | (.text field, .mapping operators) => do return ⟨field, ← operators.mapM conditionOf?⟩
  | _ => none

/-- The term that a mapping of a single entry writes. -/
def ofDocument? : Value → Option Term
  | .mapping [entry] => ofEntry? entry
  | _ => none

/-- The term with the conditions that are written for it. -/
def written (term : Term) : Term :=
  ⟨term.field, Entries.distinct (Value.copiedFields term.conditions)⟩

/-- Whether a term is written without loss: its operators are different, and the marker for what is
absent occurs in none of its operands. -/
structure IsPlain (term : Term) : Prop where
  different : (term.conditions.map (·.1)).Nodup
  unmarked : ∀ condition ∈ term.conditions, condition.2.holdsMarker = false

instance (term : Term) : Decidable term.IsPlain :=
  decidable_of_iff
    ((term.conditions.map (·.1)).Nodup ∧
      ∀ condition ∈ term.conditions, condition.2.holdsMarker = false)
    ⟨fun both => ⟨both.1, both.2⟩, fun plain => ⟨plain.different, plain.unmarked⟩⟩

theorem written_eq_self {term : Term} (plain : term.IsPlain) : term.written = term := by
  have kept : Value.copiedFields term.conditions = term.conditions := by
    rw [Value.copiedFields_eq_map]
    refine (List.map_congr_left fun condition member => ?_).trans (List.map_id _)
    rw [(Value.copied_eq_self_iff _).mpr (plain.unmarked condition member), id]
  rw [written, kept, Entries.distinct_of_nodup plain.different]

theorem map_written_eq_self {terms : List Term} (plain : ∀ term ∈ terms, term.IsPlain) :
    terms.map written = terms :=
  (List.map_congr_left fun term member => written_eq_self (plain term member)).trans
    (List.map_id terms)

theorem ofEntry?_entry (term : Term) : ofEntry? term.entry = some term.written := by
  have each : ∀ condition : String × Value,
      conditionOf? (.text condition.1, condition.2) = some (id condition) := fun _ => rfl
  have conditions :=
    mapM_map_eq_some each (Entries.distinct (Value.copiedFields term.conditions))
  rw [entry, Entries.ofNamed, Value.fieldEntries, ofEntry?, conditions, List.map_id]
  rfl

theorem ofDocument?_document (term : Term) : ofDocument? term.document = some term.written :=
  term.ofEntry?_entry

end Term

namespace Draft

/-- The queries that a filter lists under a key, if there is nothing else in it. -/
def queriesUnder? (key : String) : List (Value × Value) → Option (List Value)
  | [(.text name, .list queries)] => if name = key then some queries else none
  | _ => none

/-- The terms of a group that is written as a filter. -/
def termsOf? : Value → Option (List Term)
  | .mapping entries =>
    match queriesUnder? allKey entries with
    | some documents => documents.mapM Term.ofDocument?
    | none => entries.mapM Term.ofEntry?
  | _ => none

/-- The groups of terms that are written as a filter. -/
def groupsOf? : Value → Option (List (List Term))
  | .mapping entries =>
    match queriesUnder? anyKey entries with
    | some queries => queries.mapM termsOf?
    | none => (termsOf? (.mapping entries)).map fun terms => [terms]
  | _ => none

/-- What a term is written as under its field is no list. -/
theorem queriesUnder?_map_entry (key : String) (terms : List Term) :
    queriesUnder? key (terms.map Term.entry) = none := by
  match terms with
  | [] => rfl
  | [_] => rfl
  | _ :: _ :: _ => rfl

/-- In each of its shapes a group is read back. -/
theorem termsOf?_conjunctionOf (terms : List Term) :
    termsOf? (conjunctionOf terms) = some (terms.map Term.written) := by
  rw [conjunctionOf]
  split
  · rw [termsOf?, queriesUnder?_map_entry]
    exact mapM_map_eq_some Term.ofEntry?_entry terms
  · exact mapM_map_eq_some Term.ofDocument?_document terms

/-- A group on its own is not taken for a list of groups. -/
theorem groupsOf?_conjunctionOf (terms : List Term) :
    groupsOf? (conjunctionOf terms) = some [terms.map Term.written] := by
  have back := termsOf?_conjunctionOf terms
  by_cases different : (terms.map Term.field).Nodup
  · rw [conjunctionOf, if_pos different] at back ⊢
    rw [groupsOf?, queriesUnder?_map_entry, back]
    rfl
  · rw [conjunctionOf, if_neg different] at back ⊢
    exact congrArg (Option.map fun terms => [terms]) back

/-- Groups are read back, whether there is one or more of them. -/
theorem groupsOf?_disjunctionOf {groups : List (List Term)} (nonempty : groups ≠ []) :
    groupsOf? (disjunctionOf groups) = some (groups.map (List.map Term.written)) := by
  match groups with
  | [] => exact absurd rfl nonempty
  | [terms] => exact groupsOf?_conjunctionOf terms
  | first :: second :: others =>
    exact mapM_map_eq_some termsOf?_conjunctionOf (first :: second :: others)

/-- What has been put into a draft, as groups of terms: it starts with a term, takes further terms
into its first group, and takes the group of another draft that has no alternatives as one more
group. -/
inductive Collects : Draft → List (List Term) → Prop
  | start (term : Term) : Collects { first := term } [[term]]
  | and {draft : Draft} {terms : List Term} {groups : List (List Term)} (term : Term)
      (collects : Collects draft (terms :: groups)) :
      Collects (draft.and term) ((terms ++ [term]) :: groups)
  | or {draft other : Draft} {groups : List (List Term)} {terms : List Term}
      (collects : Collects draft groups) (single : Collects other [terms]) :
      Collects (draft.or other) (groups ++ [terms])

/-- The first group of what was put into a draft are its terms, and its alternatives are what the
other groups are written as. -/
theorem Collects.exists_eq_cons {draft : Draft} {groups : List (List Term)}
    (collects : draft.Collects groups) :
    ∃ others, groups = draft.terms :: others ∧
      draft.alternatives = others.map conjunctionOf := by
  induction collects with
  | start term => exact ⟨[], rfl, rfl⟩
  | @and draft terms groups term _ ih =>
    obtain ⟨others, same, alternatives⟩ := ih
    obtain ⟨rfl, rfl⟩ := List.cons.inj same
    exact ⟨groups, rfl, alternatives⟩
  | @or draft other groups terms _ _ ih singleIh =>
    obtain ⟨others, rfl, alternatives⟩ := ih
    obtain ⟨rest, same, -⟩ := singleIh
    obtain ⟨rfl, -⟩ := List.cons.inj same
    refine ⟨others ++ [other.terms], rfl, ?_⟩
    rw [Draft.or, alternatives, conjunction, List.map_append]
    rfl

/-- A draft is written as the groups that were put into it. -/
theorem Collects.filter_eq {draft : Draft} {groups : List (List Term)}
    (collects : draft.Collects groups) : draft.filter = disjunctionOf groups := by
  obtain ⟨others, rfl, alternatives⟩ := collects.exists_eq_cons
  rw [terms, ← filter_eq_disjunctionOf, ← alternatives]

/-- Whatever was put into a draft is read back from its filter: all groups in their order, and in
each all terms in theirs. So drafts that something else was put into have other filters. -/
theorem groupsOf?_filter (draft : Draft) (groups : List (List Term))
    (collects : draft.Collects groups) (plain : ∀ terms ∈ groups, ∀ term ∈ terms, term.IsPlain) :
    groupsOf? draft.filter = some groups ∧
      ∀ (other : Draft) (otherGroups : List (List Term)), other.Collects otherGroups →
        (∀ terms ∈ otherGroups, ∀ term ∈ terms, term.IsPlain) →
        other.filter = draft.filter → otherGroups = groups := by
  have back : ∀ (draft : Draft) (groups : List (List Term)), draft.Collects groups →
      (∀ terms ∈ groups, ∀ term ∈ terms, term.IsPlain) →
      groupsOf? draft.filter = some groups := by
    intro draft groups collects plain
    have nonempty : groups ≠ [] := by
      obtain ⟨others, rfl, -⟩ := collects.exists_eq_cons
      exact List.cons_ne_nil _ _
    rw [collects.filter_eq, groupsOf?_disjunctionOf nonempty]
    have kept : groups.map (List.map Term.written) = groups :=
      (List.map_congr_left fun terms member => Term.map_written_eq_self (plain terms member)).trans
        (List.map_id groups)
    rw [kept]
  refine ⟨back draft groups collects plain, ?_⟩
  intro other otherGroups otherCollects otherPlain same
  have otherBack := back other otherGroups otherCollects otherPlain
  rw [same, back draft groups collects plain] at otherBack
  exact (Option.some.inj otherBack).symm

/-- An age between bounds that are asked for in turn, the upper one last, or a name. -/
def agesOrName : Draft :=
  (Draft.or { first := ⟨"age", [("$gt", .int 18)]⟩ }
    { first := ⟨"name", [("$eq", .text "Jan")]⟩ }).and ⟨"age", [("$lt", .int 65)]⟩

/-- What was put into that draft. -/
def agesOrNameGroups : List (List Term) :=
  [[⟨"age", [("$gt", .int 18)]⟩, ⟨"age", [("$lt", .int 65)]⟩],
    [⟨"name", [("$eq", .text "Jan")]⟩]]

/-- The same ages, asked for by a single term. -/
def rangeOrName : Draft :=
  Draft.or { first := ⟨"age", [("$gt", .int 18), ("$lt", .int 65)]⟩ }
    { first := ⟨"name", [("$eq", .text "Jan")]⟩ }

/-- Both bounds on an age are read back from the filter, which is not that of a range. -/
theorem groupsOf?_filter_agesOrName :
    agesOrName.Collects agesOrNameGroups ∧
      (∀ terms ∈ agesOrNameGroups, ∀ term ∈ terms, term.IsPlain) ∧
      groupsOf? agesOrName.filter = some agesOrNameGroups ∧
      rangeOrName.filter ≠ agesOrName.filter := by
  have collects : agesOrName.Collects agesOrNameGroups := .and _ (.or (.start _) (.start _))
  have plain : ∀ terms ∈ agesOrNameGroups, ∀ term ∈ terms, term.IsPlain := by decide
  obtain ⟨back, unlike⟩ := groupsOf?_filter agesOrName agesOrNameGroups collects plain
  refine ⟨collects, plain, back, fun same => ?_⟩
  have sameGroups := unlike rangeOrName
    [[⟨"age", [("$gt", .int 18), ("$lt", .int 65)]⟩], [⟨"name", [("$eq", .text "Jan")]⟩]]
    (.or (.start _) (.start _)) (by decide) same
  cases sameGroups

end Draft

end DocFilter
