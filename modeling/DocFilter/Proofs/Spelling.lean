/-
# How paths are spelled

A path is written with dots between its keys and read by cutting it at its dots. Cutting what was
written gives the pieces of every key in turn, so the keys come back just if none of them holds a
dot. Keys that come from a written path never do, but a clause takes its keys from a list as they
are.

A clause whose keys hold no dot is about the field that its keys lead to, and two such clauses on
different keys are about different fields. A key with a dot in it is lost: it is written like two
keys, and two keys are looked up.
-/

import DocFilter.Proofs.Destinations

namespace DocFilter

open Binder (outcome)

/-! ## Cutting and joining -/

namespace Text.Pieces

/-- A text is its own single piece just if the separator does not occur in it. -/
theorem split_eq_singleton_iff {separator : Char} {text : List Char} :
    split separator text = [text] ↔ separator ∉ text := by
  induction text with
  | nil => simp [split]
  | cons head rest ih =>
    by_cases same : head = separator
    · subst same
      simp [split_separator_cons]
    · obtain ⟨piece, pieces, cut, longer⟩ := split_cons_of_ne same rest
      rw [cut] at ih
      rw [longer, List.mem_cons, not_or, ← ih]
      simp [Ne.symm same]

/-- Cutting what was joined gives the pieces of each part in turn. -/
theorem split_join (separator : Char) {parts : List (List Char)} (nonempty : parts ≠ []) :
    split separator (join [separator] parts) = parts.flatMap (split separator) := by
  induction parts with
  | nil => exact absurd rfl nonempty
  | cons part parts ih =>
    cases parts with
    | nil => simp [join]
    | cons next others =>
      rw [join_cons_of_ne_nil _ _ (List.cons_ne_nil next others), List.append_assoc,
        List.singleton_append, split_append_separator, ih (List.cons_ne_nil next others)]
      rfl

end Text.Pieces

namespace Path

open Text

/-- Whether a key can be told from a path of several keys: it holds no dot. -/
def IsWhole (key : String) : Prop :=
  '.' ∉ key.toList

instance (key : String) : Decidable (IsWhole key) := by
  unfold IsWhole
  infer_instance

theorem segments_ne_nil (path : String) : segments path ≠ [] :=
  mt List.map_eq_nil_iff.mp (Pieces.split_ne_nil '.' path.toList)

/-- A key is read as itself just if it holds no dot. -/
theorem segments_eq_singleton_iff {key : String} : segments key = [key] ↔ IsWhole key := by
  rw [IsWhole, ← Pieces.split_eq_singleton_iff, segments]
  constructor
  · intro alone
    have chars := congrArg (List.map String.toList) alone
    simpa using chars
  · intro alone
    rw [alone, List.map_singleton, String.ofList_toList]

/-- What is read from written keys are the keys of each of them in turn. -/
theorem segments_write {keys : List String} (nonempty : keys ≠ []) :
    segments (write keys) = keys.flatMap segments := by
  have parts : keys.map String.toList ≠ [] := mt List.map_eq_nil_iff.mp nonempty
  rw [segments, write, String.toList_ofList, Pieces.split_join '.' parts, List.map_flatMap,
    List.flatMap_map]
  rfl

theorem length_le_length_flatMap_segments (keys : List String) :
    keys.length ≤ (keys.flatMap segments).length := by
  induction keys with
  | nil => simp
  | cons key keys ih =>
    have more := List.length_pos_of_ne_nil (segments_ne_nil key)
    rw [List.flatMap_cons, List.length_append, List.length_cons]
    omega

/-- Every key in turn is read as itself just if none holds a dot. -/
theorem flatMap_segments_eq_self_iff {keys : List String} :
    keys.flatMap segments = keys ↔ ∀ key ∈ keys, IsWhole key := by
  induction keys with
  | nil => simp
  | cons key keys ih =>
    rw [List.flatMap_cons, List.forall_mem_cons, ← ih]
    constructor
    · intro same
      obtain ⟨first, more, pieces⟩ := List.exists_cons_of_ne_nil (segments_ne_nil key)
      have enough := length_le_length_flatMap_segments keys
      have sizes := congrArg List.length same
      rw [pieces, List.length_append, List.length_cons, List.length_cons] at sizes
      obtain rfl : more = [] := List.eq_nil_of_length_eq_zero (by omega)
      rw [pieces] at same
      obtain ⟨rfl, others⟩ := List.cons.inj same
      exact ⟨segments_eq_singleton_iff.mp pieces, others⟩
    · rintro ⟨whole, same⟩
      rw [segments_eq_singleton_iff.mpr whole, same, List.singleton_append]

/-- The keys of a written path hold no dots. -/
theorem isWhole_of_mem_segments (path : String) : ∀ key ∈ segments path, IsWhole key := by
  rw [← flatMap_segments_eq_self_iff, ← segments_write (segments_ne_nil path), write_segments]

end Path

/-! ## Clauses and their fields -/

namespace Clause

/-- Whether the keys of a clause can be told from its field: none of them holds a dot. -/
def HasWholeKeys (clause : Clause) : Prop :=
  ∀ key ∈ clause.path, Path.IsWhole key

instance (clause : Clause) : Decidable clause.HasWholeKeys := by
  unfold HasWholeKeys
  infer_instance

/-- What is read from the field of a clause are the keys of each of its keys in turn. -/
theorem segments_field (clause : Clause) :
    Path.segments clause.field = clause.path.flatMap Path.segments :=
  Path.segments_write clause.isPath.1

/-- The keys of a clause are read from its field just if they are whole. -/
theorem segments_field_eq_path_iff {clause : Clause} :
    Path.segments clause.field = clause.path ↔ clause.HasWholeKeys := by
  rw [segments_field, Path.flatMap_segments_eq_self_iff, HasWholeKeys]

/-- What is looked up for a clause is where the keys of each of its keys in turn lead. -/
theorem resolve_field (clause : Clause) (document : Value) :
    Path.resolve document clause.field =
      Path.follow document (clause.path.flatMap Path.segments) := by
  rw [Path.resolve, segments_field]

/-- Clauses with whole keys that are about the same field have the same path. -/
theorem path_eq_of_field_eq {clause other : Clause} (whole : clause.HasWholeKeys)
    (wholeToo : other.HasWholeKeys) (same : clause.field = other.field) :
    clause.path = other.path := by
  rw [← segments_field_eq_path_iff.mpr whole, ← segments_field_eq_path_iff.mpr wholeToo, same]

/-- A clause that is compiled becomes a term on its field. -/
theorem field_of_outcome_compile {clause : Clause} {converter : Converter} {options : Options}
    {binding final : Binding} {term : Term}
    (compiled : outcome (clause.compile converter options) binding = (.ok term, final)) :
    term.field = clause.field := by
  obtain ⟨keyword, taken, rest, bound, -, -, -, -, rfl, -⟩ := outcome_compile_eq_ok_iff.mp compiled
  rfl

end Clause

/-- The path of a form that is accepted is made of the keys of the form. -/
theorem ClauseForm.path_of_build {form : ClauseForm} {clause : Clause}
    (built : form.build = .ok clause) : clause.path = form.path.keys :=
  (build_eq_ok_iff.mp built).1

/-- A clause is about the field that its keys spell. The keys of a clause that is accepted are those
of the form, which are whole if they are written with dots, as a text or cut beforehand. What is
looked up are the keys of each key in turn, so they are the keys of the clause just if these are
whole. Then the field is where they lead: the value that is nested under them, or what is absent if
they break off. And two clauses of whole keys on different paths are never compiled to terms on one
field. -/
theorem Clause.field_spells_path (form : ClauseForm) (clause : Clause)
    (built : form.build = .ok clause) :
    clause.path = form.path.keys ∧
    (∀ text, form.path = .dotted text ∨ form.path = .segments true (Path.segments text) →
      clause.HasWholeKeys ∧ clause.field = text) ∧
    (∀ document, Path.LeadsTo (clause.path.flatMap Path.segments) document
      (Path.resolve document clause.field)) ∧
    (Path.segments clause.field = clause.path ↔ clause.HasWholeKeys) ∧
    (clause.HasWholeKeys →
      (∀ document, Path.LeadsTo clause.path document (Path.resolve document clause.field)) ∧
      ∀ (other : Clause) (converter otherConverter : Converter) (options otherOptions : Options)
        (binding final otherBinding otherFinal : Binding) (term otherTerm : Term),
        other.HasWholeKeys → clause.path ≠ other.path →
        outcome (clause.compile converter options) binding = (.ok term, final) →
        outcome (other.compile otherConverter otherOptions) otherBinding =
          (.ok otherTerm, otherFinal) →
        term.field ≠ otherTerm.field) := by
  have ownKeys := ClauseForm.path_of_build built
  have leads : ∀ document, Path.LeadsTo (clause.path.flatMap Path.segments) document
      (Path.resolve document clause.field) := by
    intro document
    rw [resolve_field]
    exact Path.leadsTo_follow _ document
  refine ⟨ownKeys, ?_, leads, segments_field_eq_path_iff, ?_⟩
  · intro text written
    have keys : clause.path = Path.segments text := by
      rcases written with dotted | cut
      · rw [ownKeys, dotted, PathForm.keys]
      · rw [ownKeys, cut, PathForm.keys]
    refine ⟨?_, ?_⟩
    · rw [HasWholeKeys, keys]
      exact Path.isWhole_of_mem_segments text
    · rw [field, keys, Path.write_segments]
  · intro whole
    refine ⟨?_, ?_⟩
    · intro document
      rw [resolve_field, Path.flatMap_segments_eq_self_iff.mpr whole]
      exact Path.leadsTo_follow _ document
    · intro other converter otherConverter options otherOptions binding final otherBinding
        otherFinal term otherTerm wholeToo different compiled otherCompiled same
      rw [field_of_outcome_compile compiled, field_of_outcome_compile otherCompiled] at same
      exact different (path_eq_of_field_eq whole wholeToo same)

/-- A document with an address. -/
def Value.addressed : Value :=
  .mapping [(.text "name", .text "Jon"),
    (.text "address", .mapping [(.text "zip", .null), (.text "city", .text "Athens")])]

/-- The city of an address is found in a document, and it is another field than the address. -/
theorem Clause.field_spells_path_city :
    ∃ city address : Clause,
      (ClauseForm.mk (.segments false ["address", "city"]) (.text "like")).build = .ok city ∧
      (ClauseForm.mk (.dotted "address") (.text "is_null")).build = .ok address ∧
      Path.segments city.field = ["address", "city"] ∧
      Path.LeadsTo ["address", "city"] .addressed (Path.resolve .addressed city.field) ∧
      Path.resolve .addressed city.field = .text "Athens" ∧
      ∀ term otherTerm final otherFinal,
        outcome (city.compile .document {}) (.ofValues [.text "A*"]) = (.ok term, final) →
        outcome (address.compile .document {}) (.ofValues []) = (.ok otherTerm, otherFinal) →
        term.field ≠ otherTerm.field := by
  have cityPath : IsPath ["address", "city"] := by decide
  have addressPath : IsPath ["address"] := by decide
  have city : (ClauseForm.mk (.segments false ["address", "city"]) (.text "like")).build =
      .ok ⟨["address", "city"], .known .like, cityPath⟩ := rfl
  have whole : ∀ key ∈ ["address", "city"], Path.IsWhole key := by decide
  have wholeToo : ∀ key ∈ ["address"], Path.IsWhole key := by decide
  have different : ["address", "city"] ≠ ["address"] := by decide
  obtain ⟨-, -, -, read, apart⟩ := field_spells_path _ _ city
  obtain ⟨leads, others⟩ := apart whole
  refine ⟨_, ⟨["address"], .known .isNull, addressPath⟩, city, rfl, read.mpr whole,
    leads .addressed, resolve_field _ _, ?_⟩
  intro term otherTerm final otherFinal compiled otherCompiled
  exact others ⟨["address"], .known .isNull, addressPath⟩ .document .document {} {} _ final _
    otherFinal term otherTerm wholeToo different compiled otherCompiled

/-- A key with a dot in it is accepted, but it is not what is looked up: a document that has the key
does not match. The same field is asked for by a clause on another path. -/
theorem Clause.not_field_spells_path_dotted :
    ∃ clause other filter final,
      (ClauseForm.mk (.segments false ["a.b"]) (.text "equals")).build = .ok clause ∧
      (ClauseForm.ofDotted "a.b" (.text "equals")).build = .ok other ∧
      clause.path = ["a.b"] ∧ other.path = ["a", "b"] ∧ clause.field = other.field ∧
      Path.segments clause.field ≠ clause.path ∧
      outcome ((⟨[⟨clause, []⟩]⟩ : Criteria).compile .document {}) (.ofValues [.int 5]) =
        (.ok filter, final) ∧
      Path.Nests (.int 5) clause.path (.mapping [(.text "a.b", .int 5)]) ∧
      Path.resolve (.mapping [(.text "a.b", .int 5)]) clause.field = .absent ∧
      filter.matchesDocument (.mapping [(.text "a.b", .int 5)]) = .ok false := by
  have dotted : IsPath ["a.b"] := by decide
  have cut : IsPath ["a", "b"] := by decide
  have notWhole : ¬ ∀ key ∈ ["a.b"], Path.IsWhole key := by decide
  refine ⟨⟨["a.b"], .known .equals, dotted⟩, ⟨["a", "b"], .known .equals, cut⟩,
    .ofValue (Draft.disjunctionOf [[⟨"a.b", [("$eq", .int 5)]⟩]]), _, rfl, rfl, rfl, rfl, rfl,
    mt segments_field_eq_path_iff.mp notWhole, rfl, .under [] rfl (by simp) .here,
    resolve_field _ _, ?_⟩
  rw [Term.matchesDocument_alone (by decide), Term.holds_of_single ⟨.equals, rfl⟩]
  rfl

end DocFilter
