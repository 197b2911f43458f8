/-
# Groups of terms as documents

Groups of terms are written in four shapes: a term alone, one mapping for distinct fields, a list
under the key for all when a field repeats, and a list under the key for some when there are
several groups. On a document every shape means the same: some group holds, and a group holds when
all its terms do, tested from left to right.

The written form is made of copies, so that a finished filter is the written form itself.
-/

import DocFilter.Proofs.Compiling
import DocFilter.Proofs.Copies
import DocFilter.Proofs.ShortCircuit

namespace DocFilter

/-! ## Changing the values of named entries -/

namespace Entries

/-- Giving a name a changed value is changing the value afterwards. -/
theorem put_map (change : Value → Value) (name : String) (value : Value)
    (named : List (String × Value)) :
    put name (change value) (named.map fun entry => (entry.1, change entry.2)) =
      (put name value named).map fun entry => (entry.1, change entry.2) := by
  induction named with
  | nil => rfl
  | cons entry entries ih =>
    rw [List.map_cons, put, put]
    by_cases same : entry.1 = name
    · rw [if_pos same, if_pos same, List.map_cons]
    · rw [if_neg same, if_neg same, ih, List.map_cons]

/-- Which entries are left does not depend on their values. -/
theorem distinct_map (change : Value → Value) (named : List (String × Value)) :
    distinct (named.map fun entry => (entry.1, change entry.2)) =
      (distinct named).map fun entry => (entry.1, change entry.2) := by
  have fromAny : ∀ (named done : List (String × Value)),
      (named.map fun entry => (entry.1, change entry.2)).foldl
          (fun done entry => put entry.1 entry.2 done)
          (done.map fun entry => (entry.1, change entry.2)) =
        (named.foldl (fun done entry => put entry.1 entry.2 done) done).map
          fun entry => (entry.1, change entry.2) := by
    intro named
    induction named with
    | nil => exact fun _ => rfl
    | cons entry entries ih =>
      intro done
      rw [List.map_cons, List.foldl_cons, List.foldl_cons, put_map, ih]
  exact fromAny named []

/-- A name that is not there yet is added at the end. -/
theorem put_of_not_mem {name : String} {named : List (String × Value)}
    (fresh : name ∉ named.map (·.1)) (value : Value) :
    put name value named = named ++ [(name, value)] := by
  induction named with
  | nil => rfl
  | cons entry entries ih =>
    rw [List.map_cons, List.mem_cons, not_or] at fresh
    rw [put, if_neg (Ne.symm fresh.1), ih fresh.2, List.cons_append]

/-- Entries under different names are all left. -/
theorem distinct_of_nodup {named : List (String × Value)}
    (different : (named.map (·.1)).Nodup) : distinct named = named := by
  have fromAny : ∀ (named done : List (String × Value)),
      ((done ++ named).map (·.1)).Nodup →
        named.foldl (fun done entry => put entry.1 entry.2 done) done = done ++ named := by
    intro named
    induction named with
    | nil => exact fun done _ => (List.append_nil done).symm
    | cons entry entries ih =>
      intro done different
      have fresh : entry.1 ∉ done.map (·.1) := by
        rw [List.map_append, List.map_cons] at different
        exact fun member => (List.nodup_append.mp different).2.2 _ member _ (by simp) rfl
      rw [List.foldl_cons, put_of_not_mem fresh, ih _ (by rwa [List.append_assoc]),
        List.append_assoc, List.singleton_append]
  exact fromAny named [] different

end Entries

/-! ## Copies of what is written -/

namespace Term

/-- What a term is written as under its field. -/
def condition (term : Term) : Value :=
  .mapping (Entries.ofNamed (Value.copiedFields term.conditions))

theorem copied_condition (term : Term) : term.condition.copied = term.condition := by
  rw [condition, Value.copied, Entries.ofNamed, Value.copiedEntries_fieldEntries,
    Value.copiedFields_eq_map, ← Entries.distinct_map, ← Value.copiedFields_eq_map,
    Value.copiedFields_copiedFields]

/-- Conditions under different operators are all written, as entries under their names. -/
theorem condition_eq_fieldEntries {term : Term}
    (different : (term.conditions.map (·.1)).Nodup) :
    term.condition = .mapping (Value.fieldEntries (Value.copiedFields term.conditions)) := by
  rw [condition, Entries.ofNamed, Value.copiedFields_eq_map, Entries.distinct_map,
    Entries.distinct_of_nodup different]

/-- Conditions under different operators are all written. -/
theorem condition_eq {term : Term} (different : (term.conditions.map (·.1)).Nodup) :
    term.condition = .mapping
      (term.conditions.map fun condition => (.text condition.1, condition.2.copied)) := by
  rw [condition_eq_fieldEntries different, Value.copiedFields_eq_map, Value.fieldEntries,
    List.map_map]
  rfl

theorem entry_eq (term : Term) : term.entry = (.text term.field, term.condition) := rfl

theorem copiedEntries_entry (term : Term) : Value.copiedEntries [term.entry] = [term.entry] := by
  rw [entry_eq, Value.copiedEntries, copied_condition]
  rfl

theorem copied_document (term : Term) : term.document.copied = term.document := by
  rw [document, Value.copied, copiedEntries_entry]

end Term

namespace Draft

theorem copied_conjunctionOf (terms : List Term) :
    (conjunctionOf terms).copied = conjunctionOf terms := by
  rw [conjunctionOf]
  split
  · have kept : Value.copiedEntries (terms.map Term.entry) = terms.map Term.entry := by
      rw [Value.copiedEntries_eq_map, List.map_map]
      apply List.map_congr_left
      intro term _
      have single := term.copiedEntries_entry
      rw [Value.copiedEntries_eq_map] at single
      exact List.head_eq_of_cons_eq single
    rw [Value.copied, kept]
  · have kept : Value.copiedAll (terms.map Term.document) = terms.map Term.document := by
      rw [Value.copiedAll_eq_map, List.map_map]
      exact List.map_congr_left fun term _ => term.copied_document
    rw [Value.copied, Value.copiedEntries, Value.copied, kept]
    rfl

theorem disjunctionOf_cons_cons (first second : List Term) (others : List (List Term)) :
    disjunctionOf (first :: second :: others) =
      .mapping [(.text Matching.anyKey,
        .list ((first :: second :: others).map conjunctionOf))] := rfl

theorem copied_disjunctionOf (groups : List (List Term)) :
    (disjunctionOf groups).copied = disjunctionOf groups := by
  match groups with
  | [] => rfl
  | [terms] => exact copied_conjunctionOf terms
  | first :: second :: others =>
    have kept : Value.copiedAll ((first :: second :: others).map conjunctionOf) =
        (first :: second :: others).map conjunctionOf := by
      rw [Value.copiedAll_eq_map, List.map_map]
      exact List.map_congr_left fun terms _ => copied_conjunctionOf terms
    rw [disjunctionOf_cons_cons, Value.copied, Value.copiedEntries, Value.copied, kept]
    rfl

/-- The filter that is made of what groups are written as is just that. -/
theorem toValue_ofValue_disjunctionOf (groups : List (List Term)) :
    (Filter.ofValue (disjunctionOf groups)).toValue = disjunctionOf groups := by
  have mapping : ∃ entries, disjunctionOf groups = .mapping entries := by
    match groups with
    | [] => exact ⟨_, rfl⟩
    | [terms] =>
      rw [disjunctionOf, conjunctionOf]
      split <;> exact ⟨_, rfl⟩
    | first :: second :: others => exact ⟨_, rfl⟩
  obtain ⟨entries, written⟩ := mapping
  have kept := copied_disjunctionOf groups
  rw [written] at kept ⊢
  exact kept

end Draft

/-! ## Matching what is written -/

/-- Whether a name is one of a field and no logical key. -/
def Matching.IsField (name : String) : Prop :=
  name ≠ Matching.allKey ∧ name ≠ Matching.anyKey

instance (name : String) : Decidable (Matching.IsField name) := by
  unfold Matching.IsField
  infer_instance

open Matching

namespace Keyword

theorem nodup_operators (keyword : Keyword) : keyword.operators.Nodup := by
  cases keyword <;> decide

theorem operators_ne_nil (keyword : Keyword) : keyword.operators ≠ [] := by
  cases keyword <;> decide

theorem isOperatorKey_of_mem_operators (keyword : Keyword) :
    ∀ name ∈ keyword.operators, isOperatorKey (.text name) := by
  cases keyword <;> simp [operators, isOperatorKey, Value.plainText]

end Keyword

namespace Term

/-- Whether a document satisfies a term. -/
def holds (registry : Registry) (document : Value) (term : Term) : Except Fault Bool :=
  satisfies registry (Path.resolve document term.field) term.condition

/-- What is written for a keyword is read as operators with their operands. -/
theorem operatorsOf?_condition {term : Term} {keyword : Keyword}
    (operators : term.conditions.map (·.1) = keyword.operators) :
    operatorsOf? term.condition =
      some (term.conditions.map fun condition => (.text condition.1, condition.2.copied)) := by
  have different : (term.conditions.map (·.1)).Nodup := operators ▸ keyword.nodup_operators
  have nonempty : term.conditions ≠ [] := by
    intro none
    rw [none] at operators
    exact keyword.operators_ne_nil operators.symm
  have known : (term.conditions.map fun condition =>
      ((.text condition.1, condition.2.copied) : Value × Value)).all
        (fun entry => isOperatorKey entry.1) = true := by
    rw [List.all_map, List.all_eq_true]
    intro condition member
    apply keyword.isOperatorKey_of_mem_operators
    rw [← operators]
    exact List.mem_map_of_mem member
  rw [condition_eq different, operatorsOf?, known]
  simp [nonempty]

/-- A term of a keyword holds when all its conditions are met, tested in order. -/
theorem holds_eq_allM {term : Term} {keyword : Keyword}
    (operators : term.conditions.map (·.1) = keyword.operators) (registry : Registry)
    (document : Value) :
    term.holds registry document = term.conditions.allM fun condition =>
      registry.evaluate (.text condition.1) (Path.resolve document term.field)
        condition.2.copied := by
  rw [holds, satisfies, operatorsOf?_condition operators]
  apply ShortCircuit.allM_eq_of_forall₂
  rw [List.forall₂_map_left_iff, List.forall₂_same]
  exact fun _ _ => rfl

end Term

namespace Matching

/-- The first entry of a query under the key for all is a list of queries that all have to match. -/
theorem matchesEntries_allKey_cons (registry : Registry) (document : Value) (queries : List Value)
    (entries : List (Value × Value)) :
    matchesEntries registry document ((.text allKey, .list queries) :: entries) = (do
      if ← matchesEach registry document queries then matchesEntries registry document entries
      else return false) := by
  have isAll : (Value.text allKey).text? = some allKey := rfl
  rw [matchesEntries, if_pos isAll, matchesAll]

/-- The first entry of a query under the key for some is a list of queries one of which has to
match. -/
theorem matchesEntries_anyKey_cons (registry : Registry) (document : Value) (queries : List Value)
    (entries : List (Value × Value)) :
    matchesEntries registry document ((.text anyKey, .list queries) :: entries) = (do
      if ← matchesSome registry document queries then matchesEntries registry document entries
      else return false) := by
  have notAll : (Value.text anyKey).text? ≠ some allKey := by
    simp [Value.text?, anyKey, allKey]
  have isAny : (Value.text anyKey).text? = some anyKey := rfl
  rw [matchesEntries, if_neg notAll, if_pos isAny, matchesAny]

/-- A query under the key for all is a list of queries that all have to match. -/
theorem matchesQuery_allKey (registry : Registry) (document : Value) (queries : List Value) :
    matchesQuery registry document (.mapping [(.text allKey, .list queries)]) =
      matchesEach registry document queries := by
  rw [matchesQuery, matchesEntries_allKey_cons, matchesEntries]
  exact ShortCircuit.bind_ite_eq_self _

/-- A query under the key for some is a list of queries one of which has to match. -/
theorem matchesQuery_anyKey (registry : Registry) (document : Value) (queries : List Value) :
    matchesQuery registry document (.mapping [(.text anyKey, .list queries)]) =
      matchesSome registry document queries := by
  rw [matchesQuery, matchesEntries_anyKey_cons, matchesEntries]
  exact ShortCircuit.bind_ite_eq_self _

/-- The first entry of a query under the name of a field is a condition on that field. -/
theorem matchesEntries_field_cons {name : String} (isField : IsField name)
    (registry : Registry) (document condition : Value) (entries : List (Value × Value)) :
    matchesEntries registry document ((.text name, condition) :: entries) = (do
      if ← satisfies registry (Path.resolve document name) condition then
        matchesEntries registry document entries
      else return false) := by
  rw [matchesEntries]
  have notAll : (Value.text name).text? ≠ some allKey := by simpa [Value.text?] using isField.1
  have notAny : (Value.text name).text? ≠ some anyKey := by simpa [Value.text?] using isField.2
  rw [if_neg notAll, if_neg notAny]
  rfl

end Matching

namespace Draft

variable (registry : Registry) (document : Value)

/-- In one mapping the entries of all terms have to hold. -/
theorem matchesEntries_map_entry {terms : List Term}
    (fields : ∀ term ∈ terms, IsField term.field) :
    matchesEntries registry document (terms.map Term.entry) =
      terms.allM (Term.holds registry document) := by
  induction terms with
  | nil => rw [List.map_nil, matchesEntries, List.allM_nil]
  | cons term terms ih =>
    rw [List.map_cons, Term.entry_eq, matchesEntries_field_cons (fields term (by simp)),
      ih fun other member => fields other (List.mem_cons_of_mem _ member), List.allM_cons]
    rfl

/-- A term on its own holds when its condition does. -/
theorem matchesQuery_document {term : Term} (isField : IsField term.field) :
    matchesQuery registry document term.document = term.holds registry document := by
  have fields : ∀ other ∈ [term], IsField other.field := by simpa using isField
  have single := matchesEntries_map_entry registry document fields
  rw [ShortCircuit.allM_singleton] at single
  rw [Term.document, matchesQuery]
  exact single

/-- In a list under the key for all the documents of all terms have to match. -/
theorem matchesEach_map_document {terms : List Term}
    (fields : ∀ term ∈ terms, IsField term.field) :
    matchesEach registry document (terms.map Term.document) =
      terms.allM (Term.holds registry document) := by
  induction terms with
  | nil => rw [List.map_nil, matchesEach, List.allM_nil]
  | cons term terms ih =>
    rw [List.map_cons, matchesEach, matchesQuery_document registry document
      (fields term (by simp)), ih fun other member => fields other (List.mem_cons_of_mem _ member),
      List.allM_cons]

/-- However a group is written, all its terms have to hold. -/
theorem matchesQuery_conjunctionOf {terms : List Term}
    (fields : ∀ term ∈ terms, IsField term.field) :
    matchesQuery registry document (conjunctionOf terms) =
      terms.allM (Term.holds registry document) := by
  rw [conjunctionOf]
  split
  · rw [matchesQuery, matchesEntries_map_entry registry document fields]
  · rw [matchesQuery_allKey, matchesEach_map_document registry document fields]

/-- In a list under the key for some, one group has to hold. -/
theorem matchesSome_map_conjunctionOf {groups : List (List Term)}
    (fields : ∀ terms ∈ groups, ∀ term ∈ terms, IsField term.field) :
    matchesSome registry document (groups.map conjunctionOf) =
      groups.anyM fun terms => terms.allM (Term.holds registry document) := by
  induction groups with
  | nil => rw [List.map_nil, matchesSome, List.anyM_nil]
  | cons terms groups ih =>
    rw [List.map_cons, matchesSome, matchesQuery_conjunctionOf registry document
      (fields terms (by simp)), ih fun other member => fields other (List.mem_cons_of_mem _ member),
      List.anyM_cons]

/-- However groups are written, one of them has to hold. -/
theorem matchesQuery_disjunctionOf {groups : List (List Term)} (nonempty : groups ≠ [])
    (fields : ∀ terms ∈ groups, ∀ term ∈ terms, IsField term.field) :
    matchesQuery registry document (disjunctionOf groups) =
      groups.anyM fun terms => terms.allM (Term.holds registry document) := by
  match groups with
  | [] => exact absurd rfl nonempty
  | [terms] =>
    rw [disjunctionOf, matchesQuery_conjunctionOf registry document (fields terms (by simp)),
      ShortCircuit.anyM_singleton]
  | first :: second :: others =>
    rw [disjunctionOf_cons_cons, matchesQuery_anyKey,
      matchesSome_map_conjunctionOf registry document fields]

end Draft

/-- The filter of a term alone asks of a document whether the term holds. -/
theorem Term.matchesDocument_alone {term : Term} (isField : IsField term.field)
    (document : Value) :
    (Filter.ofValue (Draft.disjunctionOf [[term]])).matchesDocument document =
      term.holds .standard document := by
  have fields : ∀ terms ∈ [[term]], ∀ other ∈ terms, IsField other.field := by
    simpa using isField
  rw [Filter.matchesDocument, Draft.toValue_ofValue_disjunctionOf,
    Draft.matchesQuery_disjunctionOf .standard document (by simp) fields,
    ShortCircuit.anyM_singleton, ShortCircuit.allM_singleton]

end DocFilter
