/-
# Where paths lead

A path of keys goes down through nested mappings. Either every key is found and the path leads to a
value, or it breaks off at a key that is missing or at a value that has no keys, and then it leads
to what is absent. There is no third way, whatever else the document holds.

So a test for null is known by the path alone: it answers on every document, it holds where the path
breaks off or ends at null or at a list of which null is an item, and its opposite holds everywhere
else.
-/

import DocFilter.Proofs.Copies
import DocFilter.Proofs.Retrieval

namespace DocFilter

open Binder (outcome)

/-! ## Paths that break off -/

/-- Entries have a name as a key, and first at one place, or none of them has. -/
theorem Entries.first_or_none (name : String) (entries : List (Value × Value)) :
    (∃ before key inner after, entries = before ++ (key, inner) :: after ∧
      key.text? = some name ∧ ∀ entry ∈ before, entry.1.text? ≠ some name) ∨
    ∀ entry ∈ entries, entry.1.text? ≠ some name := by
  cases found : entries.find? fun entry => entry.1.text? == some name with
  | none =>
    exact .inr fun entry member same =>
      List.find?_eq_none.mp found entry member (beq_iff_eq.mpr same)
  | some entry =>
    obtain ⟨isName, before, after, place, others⟩ := List.find?_eq_some_iff_append.mp found
    refine .inl ⟨before, entry.1, entry.2, after, place, beq_iff_eq.mp isName, ?_⟩
    intro other member same
    have passedBy := others other member
    rw [same, beq_self_eq_true] at passedBy
    cases passedBy

namespace Path

/-- A path of keys breaks off in a document: at a value that is no mapping, at a mapping without the
next key, or further on. -/
inductive BreaksOff : List String → Value → Prop
  | noMapping {name : String} {names : List String} {value : Value}
      (other : ∀ entries, value ≠ .mapping entries) : BreaksOff (name :: names) value
  | noKey {name : String} {names : List String} {entries : List (Value × Value)}
      (others : ∀ entry ∈ entries, entry.1.text? ≠ some name) :
      BreaksOff (name :: names) (.mapping entries)
  | under {name : String} {names : List String} {key inner : Value}
      (before : List (Value × Value)) {after : List (Value × Value)}
      (isName : key.text? = some name) (others : ∀ entry ∈ before, entry.1.text? ≠ some name)
      (breaks : BreaksOff names inner) :
      BreaksOff (name :: names) (.mapping (before ++ (key, inner) :: after))

/-- A key that is found leads on to the value under it. -/
theorem follow_cons_of_first {name : String} {key inner : Value} {before : List (Value × Value)}
    (isName : key.text? = some name) (others : ∀ entry ∈ before, entry.1.text? ≠ some name)
    (names : List String) (after : List (Value × Value)) :
    follow (.mapping (before ++ (key, inner) :: after)) (name :: names) = follow inner names := by
  have alone : Nests inner [name] (.mapping (before ++ (key, inner) :: after)) :=
    .under before isName others .here
  show follow _ ([name] ++ names) = _
  rw [follow_append, alone.follow_eq]

/-- Where a path breaks off, following it leads to what is absent. -/
theorem BreaksOff.follow_eq {names : List String} {document : Value}
    (breaks : BreaksOff names document) : follow document names = .absent := by
  induction breaks with
  | @noMapping name names value other =>
    cases value with
    | mapping entries => exact absurd rfl (other entries)
    | _ => rfl
  | @noKey name names entries others =>
    have missing : child? (some name) (.mapping entries) = none := by
      rw [child?, Entries.named?, List.find?_eq_none.mpr]
      · rfl
      · exact fun entry member same => others entry member (beq_iff_eq.mp same)
    rw [follow, List.map_cons, followKeys, missing]
  | @under name names key inner before after isName others _ ih =>
    rw [follow_cons_of_first isName others, ih]

/-- A path leads to a value in a document, or it breaks off. -/
theorem nests_or_breaksOff (names : List String) (document : Value) :
    (∃ value, Nests value names document) ∨ BreaksOff names document := by
  induction names generalizing document with
  | nil => exact .inl ⟨document, .here⟩
  | cons name names ih =>
    cases document with
    | mapping entries =>
      rcases Entries.first_or_none name entries with
        ⟨before, key, inner, after, rfl, isName, others⟩ | others
      · rcases ih inner with ⟨value, nests⟩ | breaks
        · exact .inl ⟨value, .under before isName others nests⟩
        · exact .inr (.under before isName others breaks)
      · exact .inr (.noKey others)
    | _ => exact .inr (.noMapping fun _ => nofun)

/-- Where a path of keys leads in a document: to the value that is nested under them, or to what is
absent if it breaks off. -/
inductive LeadsTo (names : List String) (document : Value) : Value → Prop
  | found {value : Value} (nests : Nests value names document) : LeadsTo names document value
  | nowhere (breaks : BreaksOff names document) : LeadsTo names document .absent

/-- Following a path is going where it leads. -/
theorem leadsTo_follow (names : List String) (document : Value) :
    LeadsTo names document (follow document names) := by
  rcases nests_or_breaksOff names document with ⟨value, nests⟩ | breaks
  · rw [nests.follow_eq]
    exact .found nests
  · rw [breaks.follow_eq]
    exact .nowhere breaks

end Path

/-! ## Values that hold no marker -/

namespace Value

theorem anyHoldsMarker_eq_false_iff {items : List Value} :
    anyHoldsMarker items = false ↔ ∀ item ∈ items, item.holdsMarker = false := by
  induction items with
  | nil => simp [anyHoldsMarker]
  | cons item items ih => rw [anyHoldsMarker, Bool.or_eq_false_iff, ih, List.forall_mem_cons]

theorem entriesHoldMarker_eq_false_iff {entries : List (Value × Value)} :
    entriesHoldMarker entries = false ↔
      ∀ entry ∈ entries, entry.1.holdsMarker = false ∧ entry.2.holdsMarker = false := by
  induction entries with
  | nil => simp [entriesHoldMarker]
  | cons entry entries ih =>
    rw [entriesHoldMarker, Bool.or_eq_false_iff, Bool.or_eq_false_iff, ih, List.forall_mem_cons]

/-- What is nested in a document without the marker is without it. -/
theorem holdsMarker_of_nests {value document : Value} {names : List String}
    (nests : Path.Nests value names document) (noMarker : document.holdsMarker = false) :
    value.holdsMarker = false := by
  induction nests with
  | here => exact noMarker
  | under before isName others _ ih =>
    rw [holdsMarker, entriesHoldMarker_eq_false_iff] at noMarker
    exact ih (noMarker _ (List.mem_append_right before List.mem_cons_self)).2

theorem isNothing_iff {value : Value} (noMarker : value.holdsMarker = false) :
    value.isNothing ↔ value = .null := by
  cases value with
  | absent => cases noMarker
  | null => simp [isNothing]
  | _ => simp [isNothing]

/-- There is nothing among the candidates of a value without the marker just if the value is null or
is a list with null as an item. -/
theorem any_isNothing_candidates_iff {value : Value} (noMarker : value.holdsMarker = false) :
    value.candidates.any isNothing ↔
      value = .null ∨ ∃ items, value = .list items ∧ .null ∈ items := by
  cases value with
  | list items =>
    rw [holdsMarker, anyHoldsMarker_eq_false_iff] at noMarker
    have nothing : items.any isNothing ↔ .null ∈ items := by
      rw [List.any_eq_true]
      constructor
      · rintro ⟨item, member, isNothing⟩
        exact (isNothing_iff (noMarker item member)).mp isNothing ▸ member
      · exact fun member => ⟨.null, member, rfl⟩
    simpa [candidates, isNothing] using nothing
  | absent => cases noMarker
  | null => simp [candidates, isNothing]
  | _ => simp [candidates, isNothing]

end Value

/-! ## Tests for null -/

/-- Against null nothing is compared: candidates only are there or not. -/
theorem Operator.isEqual_null (field : Value) :
    isEqual field .null = .ok (field.candidates.any Value.isNothing) :=
  List.anyM_pure

theorem Operator.notEqual_null (field : Value) :
    notEqual.evaluate field .null = .ok !field.candidates.any Value.isNothing := by
  show (do return !(← isEqual field .null) : Except Fault Bool) = _
  rw [isEqual_null]
  rfl

/-- A clause whose keyword takes no value is compiled on any values, and takes none. -/
theorem Clause.outcome_compile_of_no_values {clause : Clause} {keyword : Keyword}
    (known : clause.comparison = .known keyword) (none : keyword.arity = 0)
    (converter : Converter) (options : Options) (binding : Binding) :
    outcome (clause.compile converter options) binding =
      (.ok ⟨clause.field, keyword.conditionsOn options []⟩, binding) := by
  rw [compile_of_known converter options known, none]
  rfl

/-- On documents without the marker, there is nothing among the candidates at the end of a path just
if the path breaks off, or leads to null or to a list with null as an item. -/
theorem Path.any_isNothing_follow_iff {names : List String} {document : Value}
    (noMarker : document.holdsMarker = false) :
    (follow document names).candidates.any Value.isNothing ↔
      BreaksOff names document ∨ Nests .null names document ∨
        ∃ items, Nests (.list items) names document ∧ .null ∈ items := by
  rcases nests_or_breaksOff names document with ⟨value, nests⟩ | breaks
  · have clean := Value.holdsMarker_of_nests nests noMarker
    have unbroken : ¬ BreaksOff names document := by
      intro breaks
      rw [← nests.follow_eq, breaks.follow_eq] at clean
      cases clean
    have only : ∀ other, Nests other names document ↔ value = other :=
      fun other => ⟨fun also => nests.follow_eq.symm.trans also.follow_eq, fun same => same ▸ nests⟩
    rw [nests.follow_eq, Value.any_isNothing_candidates_iff clean]
    simp only [unbroken, only, false_or]
  · rw [breaks.follow_eq]
    exact iff_of_true rfl (.inl breaks)

/-- A keyword that takes no value is compiled on every path that is accepted, without taking one, to
a filter that asks for its conditions. -/
theorem Criteria.exists_filter_of_no_values {path : String} {tag : Value} {accepted : Clause}
    (built : (ClauseForm.ofDotted path tag).build = .ok accepted)
    (isField : Matching.IsField path) (keyword : Keyword) (none : keyword.arity = 0)
    (converter : Converter) (options : Options) (binding : Binding) :
    ∃ clause filter,
      (ClauseForm.ofDotted path (.text keyword.word)).build = .ok clause ∧
      outcome ((⟨[⟨clause, []⟩]⟩ : Criteria).compile converter options) binding =
        (.ok filter, binding) ∧
      ∀ document, filter.matchesDocument document =
        (Term.mk path (keyword.conditionsOn options [])).holds .standard document := by
  obtain ⟨clause, builtAgain, field, known⟩ := ClauseForm.exists_build_ofDotted built keyword
  refine ⟨clause, .ofValue (Draft.disjunctionOf
    [[⟨clause.field, keyword.conditionsOn options []⟩]]), builtAgain, ?_, ?_⟩
  · rw [outcome_compile_singleton, Clause.outcome_compile_of_no_values known none]
    rfl
  · intro document
    rw [field, Term.matchesDocument_alone isField]

/-- The two tests for null part all documents. On every path that is accepted and is no logical key
they are compiled without taking a value, whatever the converter and the values are. On every
document without the marker both answer, one of them yes and the other no. The test for null answers
yes just if the path breaks off, at a key that is missing or at a value that is no mapping, or ends
at null or at a list of which null is an item. -/
theorem Criteria.null_tests_part_documents (path : String) (tag : Value) (accepted : Clause)
    (converter : Converter) (options : Options) (binding : Binding) (document : Value)
    (built : (ClauseForm.ofDotted path tag).build = .ok accepted)
    (isField : Matching.IsField path) (noMarker : document.holdsMarker = false) :
    ∃ isNull isNotNull nullFilter notNullFilter answer,
      (ClauseForm.ofDotted path (.text "is_null")).build = .ok isNull ∧
      (ClauseForm.ofDotted path (.text "is_not_null")).build = .ok isNotNull ∧
      outcome ((⟨[⟨isNull, []⟩]⟩ : Criteria).compile converter options) binding =
        (.ok nullFilter, binding) ∧
      outcome ((⟨[⟨isNotNull, []⟩]⟩ : Criteria).compile converter options) binding =
        (.ok notNullFilter, binding) ∧
      nullFilter.matchesDocument document = .ok answer ∧
      notNullFilter.matchesDocument document = .ok !answer ∧
      (answer ↔
        Path.BreaksOff (Path.segments path) document ∨
        Path.Nests .null (Path.segments path) document ∨
        ∃ items, Path.Nests (.list items) (Path.segments path) document ∧ .null ∈ items) := by
  obtain ⟨isNull, nullFilter, nullBuilt, nullCompiled, nullMatches⟩ :=
    exists_filter_of_no_values built isField .isNull rfl converter options binding
  obtain ⟨isNotNull, notNullFilter, notNullBuilt, notNullCompiled, notNullMatches⟩ :=
    exists_filter_of_no_values built isField .isNotNull rfl converter options binding
  refine ⟨isNull, isNotNull, nullFilter, notNullFilter,
    (Path.resolve document path).candidates.any Value.isNothing, nullBuilt, notNullBuilt,
    nullCompiled, notNullCompiled, ?_, ?_, Path.any_isNothing_follow_iff noMarker⟩
  · rw [nullMatches]
    exact (Term.holds_of_single ⟨.isNull, rfl⟩ document).trans (Operator.isEqual_null _)
  · rw [notNullMatches]
    exact (Term.holds_of_single ⟨.isNotNull, rfl⟩ document).trans (Operator.notEqual_null _)

/-- A document with numbers that cannot be compared, and with owners one of whom is not known. -/
def Value.ownedByUnknown : Value :=
  .mapping [(.text "price", .decimal (.notANumber false true 0)),
    (.text "pet", .mapping [(.int 1, .stranger),
      (.text "owners", .list [.float .notANumber, .list [.text "Jan"], .null])])]

/-- Null among the owners is found, and the path to their names breaks off at the list. -/
theorem Criteria.null_tests_part_documents_owners :
    Value.ownedByUnknown.holdsMarker = false ∧
    (∃ isNull isNotNull nullFilter notNullFilter,
      (ClauseForm.ofDotted "pet.owners" (.text "is_null")).build = .ok isNull ∧
      (ClauseForm.ofDotted "pet.owners" (.text "is_not_null")).build = .ok isNotNull ∧
      outcome ((⟨[⟨isNull, []⟩]⟩ : Criteria).compile .document {}) (.ofValues [.int 1]) =
        (.ok nullFilter, .ofValues [.int 1]) ∧
      outcome ((⟨[⟨isNotNull, []⟩]⟩ : Criteria).compile .document {}) (.ofValues [.int 1]) =
        (.ok notNullFilter, .ofValues [.int 1]) ∧
      nullFilter.matchesDocument .ownedByUnknown = .ok true ∧
      notNullFilter.matchesDocument .ownedByUnknown = .ok false) ∧
    Path.BreaksOff ["pet", "owners", "name"] .ownedByUnknown ∧
    ∃ isNull nullFilter,
      (ClauseForm.ofDotted "pet.owners.name" (.text "is_null")).build = .ok isNull ∧
      outcome ((⟨[⟨isNull, []⟩]⟩ : Criteria).compile .document {}) (.ofValues []) =
        (.ok nullFilter, .ofValues []) ∧
      nullFilter.matchesDocument .ownedByUnknown = .ok true := by
  have noMarker : Value.ownedByUnknown.holdsMarker = false := by decide
  have owners : Path.Nests (.list [.float .notANumber, .list [.text "Jan"], .null])
      ["pet", "owners"] .ownedByUnknown :=
    .under [(.text "price", .decimal (.notANumber false true 0))] rfl (by simp [Value.text?])
      (.under [(.int 1, .stranger)] rfl (by simp [Value.text?]) .here)
  have broken : Path.BreaksOff ["pet", "owners", "name"] .ownedByUnknown :=
    .under [(.text "price", .decimal (.notANumber false true 0))] rfl (by simp [Value.text?])
      (.under [(.int 1, .stranger)] rfl (by simp [Value.text?]) (.noMapping (by simp)))
  refine ⟨noMarker, ?_, broken, ?_⟩
  · obtain ⟨isNull, isNotNull, nullFilter, notNullFilter, answer, nullBuilt, notNullBuilt,
      nullCompiled, notNullCompiled, nullMatches, notNullMatches, tells⟩ :=
      null_tests_part_documents "pet.owners" .null _ .document {} (.ofValues [.int 1])
        .ownedByUnknown rfl (by decide) noMarker
    obtain rfl : answer = true := tells.mpr (.inr (.inr ⟨_, owners, by simp⟩))
    exact ⟨isNull, isNotNull, nullFilter, notNullFilter, nullBuilt, notNullBuilt, nullCompiled,
      notNullCompiled, nullMatches, notNullMatches⟩
  · obtain ⟨isNull, -, nullFilter, -, answer, nullBuilt, -, nullCompiled, -, nullMatches, -,
      tells⟩ := null_tests_part_documents "pet.owners.name" .null _ .document {} (.ofValues [])
        .ownedByUnknown rfl (by decide) noMarker
    obtain rfl : answer = true := tells.mpr (.inl broken)
    exact ⟨isNull, nullFilter, nullBuilt, nullCompiled, nullMatches⟩

end DocFilter
