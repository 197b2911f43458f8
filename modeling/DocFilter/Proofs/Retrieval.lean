/-
# What is stored is found

A document that holds the stored form of a value at the end of a path is found by the query for that
value on that path. The filter holds the same stored form, so what is tested is a value against
itself: equality answers yes, its opposite no, and neither order puts the value before itself, not
even through the items of a list. What else the document holds is passed by on the way.
-/

import DocFilter.Proofs.Reflexivity

namespace DocFilter

open Binder (outcome)

/-! ## Documents that hold a value -/

namespace Path

/-- A document holds a value at the end of a path: each key is found in a mapping, whatever stands
before the entry under other keys and whatever stands behind it. -/
inductive Nests (value : Value) : List String → Value → Prop
  | here : Nests value [] value
  | under {name : String} {names : List String} {key inner : Value}
      (before : List (Value × Value)) {after : List (Value × Value)}
      (isName : key.text? = some name) (others : ∀ entry ∈ before, entry.1.text? ≠ some name)
      (nests : Nests value names inner) :
      Nests value (name :: names) (.mapping (before ++ (key, inner) :: after))

/-- Following the path leads to the value. -/
theorem Nests.follow_eq {value document : Value} {names : List String}
    (nests : Nests value names document) : follow document names = value := by
  induction nests with
  | here => rfl
  | @under name names key inner before after isName others _ ih =>
    have passedBy : before.find? (fun entry => entry.1.text? == some name) = none :=
      List.find?_eq_none.mpr fun entry member same => others entry member (beq_iff_eq.mp same)
    have child : child? (some name) (.mapping (before ++ (key, inner) :: after)) = some inner := by
      rw [child?, Entries.named?, List.find?_append, passedBy, Option.none_or, List.find?_cons,
        isName, beq_self_eq_true]
      rfl
    rw [follow, List.map_cons, followKeys, child]
    exact ih

end Path

/-! ## Operators on a value and itself -/

namespace Value

/-- The first candidate of a field is its value. -/
theorem exists_candidates_eq_cons (value : Value) : ∃ items, value.candidates = value :: items := by
  cases value <;> exact ⟨_, rfl⟩

/-- Values of ordered brackets are no lists. -/
theorem candidates_of_isOrderedBracket {value : Value} (ordered : isOrderedBracket value.bracket) :
    value.candidates = [value] := by
  cases value <;> first | rfl | cases ordered

/-- What equals itself meets itself. -/
theorem IsLevel.meets {value : Value} (level : value.IsLevel) : value.meets value = .ok true := by
  rw [Value.meets.eq_def]
  split
  · rfl
  · rw [if_pos rfl, level.equal]

end Value

namespace Operator

variable {value : Value}

theorem isEqual_self (level : value.IsLevel) : isEqual value value = .ok true := by
  obtain ⟨items, candidates⟩ := value.exists_candidates_eq_cons
  rw [isEqual, candidates, List.anyM_cons, level.meets]
  rfl

/-- An order that does not put a value before itself does not put it before its items either: it
has none, or its bracket has no order. -/
theorem isOrdered_self (order : Value → Value → Except Fault Bool)
    (same : Value.isOrderedBracket value.bracket →
      order value.normalized value.normalized = .ok false) :
    isOrdered order value value = .ok false := by
  rw [isOrdered, ShortCircuit.anyM_eq_ok_false_iff]
  intro candidate member
  cases ordered : Value.isOrderedBracket value.bracket with
  | false => rfl
  | true =>
    rw [Value.candidates_of_isOrderedBracket ordered, List.mem_singleton] at member
    rw [member, beq_self_eq_true]
    exact same ordered

end Operator

/-! ## Clauses on a path -/

/-- If a clause on a path with dots is accepted, the same clause with any keyword is. -/
theorem ClauseForm.exists_build_ofDotted {path : String} {tag : Value} {accepted : Clause}
    (built : (ofDotted path tag).build = .ok accepted) (keyword : Keyword) :
    ∃ clause, (ofDotted path (.text keyword.word)).build = .ok clause ∧ clause.field = path ∧
      clause.comparison = .known keyword := by
  have own : accepted.path = Path.segments path := (build_eq_ok_iff.mp built).1
  have isPath : IsPath (Path.segments path) := own ▸ accepted.isPath
  refine ⟨⟨Path.segments path, .ofTag (.text keyword.word), isPath⟩, build_eq_ok_iff.mpr ⟨rfl, rfl⟩,
    Path.write_segments path, ?_⟩
  have named : (Value.text keyword.word).text?.bind Keyword.ofWord? = some keyword :=
    keyword.ofWord?_word
  rw [Comparison.ofTag, named]

/-- A term of a single condition holds as its operator answers. -/
theorem Term.holds_of_single {field name : String} {operand : Value}
    (operators : ∃ keyword : Keyword, [name] = keyword.operators) (document : Value) :
    (Term.mk field [(name, operand)]).holds .standard document =
      Registry.standard.evaluate (.text name) (Path.resolve document field) operand.copied := by
  obtain ⟨keyword, operators⟩ := operators
  have own : (Term.mk field [(name, operand)]).conditions.map (·.1) = keyword.operators := operators
  rw [holds_eq_allM own, ShortCircuit.allM_singleton]

/-- What a comparison with a single value answers on a field that is that value. -/
def Keyword.answerOnItself? : Keyword → Option Bool
  | .equals => some true
  | .notEquals | .greaterThan | .lessThan => some false
  | _ => none

theorem Keyword.arity_of_answerOnItself? {keyword : Keyword} {answer : Bool}
    (answers : keyword.answerOnItself? = some answer) : keyword.arity = 1 := by
  cases keyword <;> first | rfl | cases answers

/-- On a field that is what the filter holds, a comparison with a single value answers. -/
theorem Term.holds_on_itself {field : String} {written document : Value}
    (level : written.IsLevel) (copied : written.copied = written)
    (found : Path.resolve document field = written) (options : Options) {keyword : Keyword}
    {answer : Bool} (answers : keyword.answerOnItself? = some answer) :
    (Term.mk field (keyword.conditionsOn options [written])).holds .standard document =
      .ok answer := by
  have equal : Operator.isEqual written written = .ok true := Operator.isEqual_self level
  cases keyword with
  | equals =>
    cases answers
    refine (holds_of_single ⟨.equals, rfl⟩ document).trans ?_
    rw [found, copied]
    exact equal
  | notEquals =>
    cases answers
    refine (holds_of_single ⟨.notEquals, rfl⟩ document).trans ?_
    rw [found, copied]
    show (do return !(← Operator.isEqual written written) : Except Fault Bool) = _
    rw [equal]
    rfl
  | greaterThan =>
    cases answers
    refine (holds_of_single ⟨.greaterThan, rfl⟩ document).trans ?_
    rw [found, copied]
    exact Operator.isOrdered_self (fun left right => right.less left) level.less
  | lessThan =>
    cases answers
    refine (holds_of_single ⟨.lessThan, rfl⟩ document).trans ?_
    rw [found, copied]
    exact Operator.isOrdered_self Value.less level.less
  | between | like | isNull | isNotNull => cases answers

/-- What is stored is found. A document that has the stored form of a value at the end of a path,
among whatever else, matches the filter that is compiled for equality with the value on that path,
and none of the filters for the opposite of equality and for the two orders. This needs a path that
is no logical key, and parts of the value that can be compared. -/
theorem Criteria.stored_value_is_found (path : String) (tag : Value) (accepted : Clause)
    (options : Options) (value written document : Value)
    (built : (ClauseForm.ofDotted path tag).build = .ok accepted)
    (isField : Matching.IsField path) (comparable : value.everyPart Value.isComparable)
    (converted : (Converter.document [] value).map Converter.read = .ok written)
    (nests : Path.Nests written (Path.segments path) document) :
    ∀ keyword answer, Keyword.answerOnItself? keyword = some answer →
      ∃ clause filter binding,
        (ClauseForm.ofDotted path (.text keyword.word)).build = .ok clause ∧
        outcome ((⟨[⟨clause, []⟩]⟩ : Criteria).compile .document options) (.ofValues [value]) =
          (.ok filter, binding) ∧
        filter.matchesDocument document = .ok answer := by
  intro keyword answer answers
  rw [Converter.map_read_document] at converted
  obtain ⟨clause, builtAgain, field, known⟩ := ClauseForm.exists_build_ofDotted built keyword
  have compiled : (⟨clause, [value]⟩ : Slice).CompilesTo .document options
      ⟨clause.field, keyword.conditionsOn options [written]⟩ :=
    Slice.compilesTo_document_iff.mpr ⟨keyword, [written], known,
      (Keyword.arity_of_answerOnItself? answers).symm, .cons converted .nil, rfl⟩
  have alone : outcome ((⟨[⟨clause, []⟩]⟩ : Criteria).compile .document options)
      (.ofValues [value]) = (.ok (.ofValue (Draft.disjunctionOf
        [[⟨clause.field, keyword.conditionsOn options [written]⟩]])), .after [value] 1) := by
    rw [outcome_compile_singleton, compiled]
    rfl
  refine ⟨clause, _, _, builtAgain, alone, ?_⟩
  rw [field, Term.matchesDocument_alone isField]
  exact Term.holds_on_itself (Value.isLevel_of_stored converted comparable)
    (Value.copied_of_stored rfl (fun _ => rfl) converted comparable) nests.follow_eq options answers

/-- A record with a price, sizes in a set, and a date under a key that is no text. -/
def Value.offer : Value :=
  .record [("price", .decimal (.finite false 150 (-2))), ("sizes", .set true [.int 4, .null]),
    ("notes", .mapping [(.int 1, .date ⟨2024, 5, 1⟩)])]

/-- A document that holds something at the end of a path, among other entries. -/
def Value.holdingOffer (written : Value) : Value :=
  .mapping [(.text "id", .int 7),
    (.text "shop", .mapping [(.null, .int 0), (.text "best", written), (.text "worst", .null)])]

/-- A record is found where its stored form is nested among other entries. -/
theorem Criteria.stored_value_is_found_offer :
    ∃ written clause filter binding,
      Value.offer.everyPart Value.isComparable ∧
      (Converter.document [] .offer).map Converter.read = .ok written ∧
      Path.Nests written ["shop", "best"] (.holdingOffer written) ∧
      (ClauseForm.ofDotted "shop.best" (.text "equals")).build = .ok clause ∧
      outcome ((⟨[⟨clause, []⟩]⟩ : Criteria).compile .document {}) (.ofValues [.offer]) =
        (.ok filter, binding) ∧
      filter.matchesDocument (.holdingOffer written) = .ok true := by
  have comparable : Value.offer.everyPart Value.isComparable := by decide
  have nests : ∀ written, Path.Nests written ["shop", "best"] (.holdingOffer written) :=
    fun written => .under [(.text "id", .int 7)] rfl (by simp [Value.text?])
      (.under [(.null, .int 0)] rfl (by simp [Value.text?]) .here)
  obtain ⟨clause, filter, binding, found⟩ := stored_value_is_found "shop.best" .null _ {} .offer _ _
    rfl (by decide) comparable rfl (nests _) .equals true rfl
  exact ⟨_, clause, filter, binding, comparable, rfl, nests _, found⟩

end DocFilter
