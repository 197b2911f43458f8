/-
# Open ranges

A range is asked for by two conditions on one field, each tested on its own: to be above the lower
bound and to be below the upper one. On a value that is no list both conditions are about that
value, so they hold just if it lies strictly between the bounds, in the one order of their bracket.
Then the bounds themselves are in order, and a range whose bounds are not holds of no such value. On
a list each condition looks for an item of its own, and two items on either side of the range are
enough.

What is tested are the bounds as they are written into the filter. They lie at the points of the
bounds that were given, so the range is the one that was asked for.
-/

import DocFilter.Proofs.ScalarOrder
import DocFilter.Proofs.Transparency

namespace DocFilter

open Binder (outcome)

namespace Value

variable {aware : Bool} {left right value : Value} {first second point : Point}

/-! ## Coming before -/

/-- Whether a value comes before another one: they are of one bracket and lie at points of its
order, the first one at the lower point. -/
def Precedes (left right : Value) : Prop :=
  left.bracket = right.bracket ∧ ∃ aware first second,
    left.LiesAt aware first ∧ right.LiesAt aware second ∧ first < second

/-- It does not matter at which points two values are known to lie. -/
theorem precedes_iff (lies : left.LiesAt aware first) (liesToo : right.LiesAt aware second)
    (same : left.bracket = right.bracket) : left.Precedes right ↔ first < second := by
  constructor
  · rintro ⟨-, other, low, high, atLow, atHigh, below⟩
    have answer := (lies.together liesToo same).less_eq
    rw [(atLow.together atHigh same).less_eq, Except.ok.injEq, decide_eq_decide] at answer
    exact answer.mp below
  · exact fun below => ⟨same, aware, first, second, lies, liesToo, below⟩

/-- What comes before a value in the order comes before all that the value comes before. -/
theorem Precedes.trans {middle : Value} {between : Point} (lies : left.LiesAt aware first)
    (liesBetween : middle.LiesAt aware between) (liesToo : right.LiesAt aware second)
    (precedes : left.Precedes middle) (precedesToo : middle.Precedes right) :
    left.Precedes right := by
  rw [precedes_iff lies liesToo (precedes.1.trans precedesToo.1)]
  rw [precedes_iff lies liesBetween precedes.1] at precedes
  rw [precedes_iff liesBetween liesToo precedesToo.1] at precedesToo
  exact lt_trans precedes precedesToo

/-- A list comes neither before nor after anything. -/
theorem not_liesAt_list (items : List Value) : ¬ (Value.list items).LiesAt aware point :=
  fun lies => nomatch lies.isOrderedBracket

/-! ## Bounds as they are written -/

/-- What lies at a point has no parts, and so is its own copy. -/
theorem LiesAt.copied_eq (lies : value.LiesAt aware point) : value.copied = value := by
  have ordered := lies.isOrderedBracket
  cases value with
  | set frozen items => cases frozen <;> cases ordered
  | list | tuple | mapping | record | object | absent => cases ordered
  | _ => rfl

/-- The stored form of a value that lies at a point lies there too, in the same bracket. -/
theorem LiesAt.of_stored (lies : value.LiesAt aware point) {written : Value}
    (stored : value.stored = .ok written) :
    written.LiesAt aware point ∧ written.bracket = value.bracket := by
  cases lies with
  | truth value =>
    cases stored
    exact ⟨.truth value, rfl⟩
  | @number value number position inBracket counts place =>
    cases value with
    | int | float | packed | intMember =>
      cases stored
      exact ⟨.number rfl counts place, rfl⟩
    | decimal number =>
      obtain ⟨packed, packs, rfl⟩ := stored_decimal_eq_ok_iff.mp stored
      cases counts
      exact ⟨.number rfl rfl ((Packed.isLike_of_pack_eq_ok packs).position?.trans place), rfl⟩
    | bool => exact absurd (show "bool" = "number" from inBracket) (by decide)
    | _ => cases counts
  | @text value text inBracket reads =>
    cases value with
    | text | textMember =>
      cases stored
      exact ⟨.text rfl reads, rfl⟩
    | _ => cases reads
  | moment awareness =>
    cases stored
    exact ⟨.moment awareness, rfl⟩

/-- Whether a value is what is written for a bound at a point. -/
structure IsWrittenFor (aware : Bool) (point : Point) (bound written : Value) : Prop where
  lies : bound.LiesAt aware point
  liesToo : written.LiesAt aware point
  bracket : written.bracket = bound.bracket

end Value

/-- The document converter and one that binds every value as it is write for a bound what lies where
it lies. -/
theorem Converter.isWrittenFor {converter : Converter}
    (known : converter = .document ∨ converter.IsIdentity) {aware : Bool} {point : Value.Point}
    {calls : List Value} {bound written : Value} (lies : bound.LiesAt aware point)
    (converted : (converter calls bound).map read = .ok written) :
    bound.IsWrittenFor aware point written := by
  rcases known with rfl | identity
  · rw [map_read_document] at converted
    obtain ⟨liesToo, same⟩ := lies.of_stored converted
    exact ⟨lies, liesToo, same⟩
  · rw [identity, Except.ok.injEq] at converted
    subst converted
    exact ⟨lies, lies, rfl⟩

/-! ## Both conditions of a range -/

namespace Operator

open Value

variable {aware : Bool} {point : Point} {field bound written : Value}

/-- Asking for an order to a bound answers whether a candidate is related to the bound, if all
candidates in its bracket are scalars. -/
theorem exists_isOrdered_eq {order : Value → Value → Except Fault Bool} {related : Value → Prop}
    (stands : bound.IsWrittenFor aware point written)
    (scalars : ∀ candidate ∈ field.candidates, candidate.bracket = bound.bracket →
      candidate.isOrderedScalar aware)
    (answers : ∀ candidate other, candidate.LiesAt aware other →
      candidate.bracket = bound.bracket → ∃ answer,
        order candidate.normalized written.normalized = .ok answer ∧ (answer ↔ related candidate))
    (within : ∀ candidate, related candidate → candidate.bracket = bound.bracket) :
    ∃ answer, isOrdered order field written = .ok answer ∧
      (answer ↔ ∃ candidate ∈ field.candidates, related candidate) := by
  rw [isOrdered, stands.liesToo.isOrderedBracket]
  refine ShortCircuit.exists_anyM_eq_ok_iff fun candidate member => ?_
  rw [stands.bracket, Bool.true_and]
  by_cases same : candidate.bracket = bound.bracket
  · obtain ⟨other, lies⟩ := exists_liesAt (scalars candidate member same)
    rw [same, beq_self_eq_true, if_pos rfl]
    exact answers candidate other lies same
  · rw [beq_false_of_ne same, if_neg Bool.false_ne_true]
    exact ⟨false, rfl, iff_of_false Bool.false_ne_true (mt (within candidate) same)⟩

/-- Being greater than a bound is having a candidate that the bound precedes. -/
theorem exists_greater_eq (stands : bound.IsWrittenFor aware point written)
    (scalars : ∀ candidate ∈ field.candidates, candidate.bracket = bound.bracket →
      candidate.isOrderedScalar aware) :
    ∃ answer, greater.evaluate field written = .ok answer ∧
      (answer ↔ ∃ candidate ∈ field.candidates, bound.Precedes candidate) := by
  show ∃ answer, isOrdered (fun left right => right.less left) field written = .ok answer ∧ _
  refine exists_isOrdered_eq stands scalars ?_
    fun candidate (precedes : bound.Precedes candidate) => precedes.1.symm
  intro candidate other lies same
  refine ⟨_, (stands.liesToo.together lies (stands.bracket.trans same.symm)).less_eq, ?_⟩
  rw [decide_eq_true_iff, precedes_iff stands.lies lies same.symm]

/-- Being less than a bound is having a candidate that precedes it. -/
theorem exists_less_eq (stands : bound.IsWrittenFor aware point written)
    (scalars : ∀ candidate ∈ field.candidates, candidate.bracket = bound.bracket →
      candidate.isOrderedScalar aware) :
    ∃ answer, less.evaluate field written = .ok answer ∧
      (answer ↔ ∃ candidate ∈ field.candidates, candidate.Precedes bound) := by
  show ∃ answer, isOrdered Value.less field written = .ok answer ∧ _
  refine exists_isOrdered_eq stands scalars ?_
    fun candidate (precedes : candidate.Precedes bound) => precedes.1
  intro candidate other lies same
  refine ⟨_, (lies.together stands.liesToo (same.trans stands.bracket.symm)).less_eq, ?_⟩
  rw [decide_eq_true_iff, precedes_iff lies stands.lies same]

end Operator

namespace Value

variable {lower upper field : Value}

/-- Of a list only the items count, because a list is in no order. -/
theorem exists_candidate_list_iff {items : List Value} {related : Value → Prop}
    (list : ¬ related (.list items)) :
    (∃ candidate ∈ (Value.list items).candidates, related candidate) ↔
      ∃ item ∈ items, related item := by
  rw [candidates, List.exists_mem_cons_iff]
  exact or_iff_right list

theorem candidates_of_ne_list (noList : ∀ items, field ≠ .list items) :
    field.candidates = [field] := by
  cases field with
  | list items => exact absurd rfl (noList items)
  | _ => rfl

end Value

/-- A range holds of a field if a candidate is above the lower bound and a candidate below the upper
one. -/
theorem Term.exists_holds_range {aware : Bool} {low high : Value.Point}
    {lower upper writtenLower writtenUpper document : Value} (field : String)
    (stands : lower.IsWrittenFor aware low writtenLower)
    (standsToo : upper.IsWrittenFor aware high writtenUpper)
    (scalars : ∀ candidate ∈ (Path.resolve document field).candidates,
      candidate.bracket = lower.bracket ∨ candidate.bracket = upper.bracket →
      candidate.isOrderedScalar aware) :
    ∃ answer, (Term.mk field [("$gt", writtenLower), ("$lt", writtenUpper)]).holds .standard
        document = .ok answer ∧
      (answer ↔
        (∃ candidate ∈ (Path.resolve document field).candidates, lower.Precedes candidate) ∧
        ∃ candidate ∈ (Path.resolve document field).candidates, candidate.Precedes upper) := by
  obtain ⟨above, aboveAnswer, isAbove⟩ :=
    Operator.exists_greater_eq stands fun candidate member same =>
      scalars candidate member (.inl same)
  obtain ⟨below, belowAnswer, isBelow⟩ :=
    Operator.exists_less_eq standsToo fun candidate member same =>
      scalars candidate member (.inr same)
  have operators : (Term.mk field [("$gt", writtenLower), ("$lt", writtenUpper)]).conditions.map
      (·.1) = Keyword.between.operators := rfl
  refine ⟨above && below, ?_, ?_⟩
  · rw [holds_eq_allM operators, List.allM_cons, ShortCircuit.allM_singleton,
      stands.liesToo.copied_eq, standsToo.liesToo.copied_eq]
    show (do
      if ← Operator.greater.evaluate (Path.resolve document field) writtenLower then
        Operator.less.evaluate (Path.resolve document field) writtenUpper
      else return false : Except Fault Bool) = _
    rw [aboveAnswer, belowAnswer]
    cases above <;> rfl
  · rw [Bool.and_eq_true, isAbove, isBelow]

/-- A range that is compiled has taken two values, and its conditions are on what was written for
them, the first one below and the second one above. -/
theorem Clause.exists_bounds {converter : Converter} {options : Options} {clause : Clause}
    {lower upper : Value} {spare : List Value} {filter : Filter} {final : Binding}
    (known : clause.comparison = .known .between)
    (compiled : outcome ((⟨[⟨clause, []⟩]⟩ : Criteria).compile converter options)
      (.ofValues (lower :: upper :: spare)) = (.ok filter, final)) :
    ∃ writtenLower writtenUpper,
      (converter [] lower).map Converter.read = .ok writtenLower ∧
      (converter [lower] upper).map Converter.read = .ok writtenUpper ∧
      filter = .ofValue (Draft.disjunctionOf
        [[⟨clause.field, [("$gt", writtenLower), ("$lt", writtenUpper)]⟩]]) := by
  rw [Criteria.outcome_compile_singleton] at compiled
  rcases own : outcome (clause.compile converter options) (.ofValues (lower :: upper :: spare))
    with ⟨result, middle⟩
  rw [own] at compiled
  cases result with
  | error fault => cases compiled
  | ok term =>
    cases compiled
    obtain ⟨keyword, taken, rest, bound, same, split, size, written, rfl, -⟩ :=
      outcome_compile_eq_ok_iff.mp own
    cases known.symm.trans same
    obtain ⟨first, second, rfl⟩ := List.length_eq_two.mp size
    cases split
    obtain ⟨writtenLower, others, first, later, rfl⟩ := Converter.bindAll_cons_eq_ok_iff.mp written
    obtain ⟨writtenUpper, none, second, last, rfl⟩ := Converter.bindAll_cons_eq_ok_iff.mp later
    cases last
    exact ⟨writtenLower, writtenUpper, first, second, rfl⟩

/-- A range is open. It is compiled from its two bounds, the lower one first, with the document
converter or with one that binds all values as they are. The bounds are scalars, of which the
moments are all local or all on the time line, and so is every candidate of the field that is in the
bracket of a bound; what else there is in the field, like null, what is absent, mappings and lists,
is in no bracket of a bound. Then the filter answers. A field that is no list matches just if the
lower bound comes before it and it comes before the upper bound, and never if the lower bound does
not come before the upper one. A list matches just if the lower bound comes before one of its items
and one, maybe another, comes before the upper bound. -/
theorem Criteria.ranges_are_open (clause : Clause) (converter : Converter) (options : Options)
    (aware : Bool) (lower upper : Value) (spare : List Value) (filter : Filter) (final : Binding)
    (document : Value) (known : clause.comparison = .known .between)
    (isField : Matching.IsField clause.field)
    (converts : converter = .document ∨ converter.IsIdentity)
    (isLower : lower.isOrderedScalar aware) (isUpper : upper.isOrderedScalar aware)
    (scalars : ∀ candidate ∈ (Path.resolve document clause.field).candidates,
      candidate.bracket = lower.bracket ∨ candidate.bracket = upper.bracket →
      candidate.isOrderedScalar aware)
    (compiled : outcome ((⟨[⟨clause, []⟩]⟩ : Criteria).compile converter options)
      (.ofValues (lower :: upper :: spare)) = (.ok filter, final)) :
    ∃ answer, filter.matchesDocument document = .ok answer ∧
      (∀ items, Path.resolve document clause.field = .list items →
        (answer ↔ (∃ item ∈ items, lower.Precedes item) ∧ ∃ item ∈ items, item.Precedes upper)) ∧
      ((∀ items, Path.resolve document clause.field ≠ .list items) →
        (answer ↔ lower.Precedes (Path.resolve document clause.field) ∧
          (Path.resolve document clause.field).Precedes upper) ∧
        (¬ lower.Precedes upper → answer = false)) := by
  obtain ⟨low, lies⟩ := Value.exists_liesAt isLower
  obtain ⟨high, liesToo⟩ := Value.exists_liesAt isUpper
  obtain ⟨writtenLower, writtenUpper, first, second, rfl⟩ := Clause.exists_bounds known compiled
  obtain ⟨answer, answered, tells⟩ := Term.exists_holds_range clause.field
    (Converter.isWrittenFor converts lies first) (Converter.isWrittenFor converts liesToo second)
    scalars
  rw [Term.matchesDocument_alone isField]
  refine ⟨answer, answered, ?_, ?_⟩
  · intro items list
    rw [tells, list, Value.exists_candidate_list_iff, Value.exists_candidate_list_iff]
    · rintro ⟨-, aware, first, second, lies, -⟩
      exact Value.not_liesAt_list items lies
    · rintro ⟨-, aware, first, second, -, lies, -⟩
      exact Value.not_liesAt_list items lies
  · intro noList
    rw [Value.candidates_of_ne_list noList] at tells scalars
    simp only [List.mem_singleton, exists_eq_left] at tells
    refine ⟨tells, fun crossed => Bool.eq_false_iff.mpr fun holds => crossed ?_⟩
    obtain ⟨above, below⟩ := tells.mp holds
    have scalar := scalars _ (List.mem_singleton.mpr rfl) (.inl above.1.symm)
    obtain ⟨between, liesBetween⟩ := Value.exists_liesAt scalar
    exact .trans lies liesBetween liesToo above below

/-- A tenth, as a decimal. -/
def Value.decimalTenth : Value :=
  .decimal (.finite false 1 (-1))

/-- Sizes on either side of the range from a tenth to one, and what is no size. -/
def Value.mixedSizes : List Value :=
  [.text "small", .int 0, .null, .list [.packedTenth], .int 5]

/-- The filter for sizes between a tenth and one. -/
def Filter.sizesToOne : Filter :=
  .ofValue (Draft.disjunctionOf [[⟨"size", [("$gt", .packedTenth), ("$lt", .int 1)]⟩]])

/-- The binary number nearest to a tenth is between a tenth and a member of an enumeration that is
one. Sizes of which none is in between match as well, because one is above and another below. -/
theorem Criteria.ranges_are_open_sizes :
    ∃ clause filter final,
      (ClauseForm.ofDotted "size" (.text "between")).build = .ok clause ∧
      outcome ((⟨[⟨clause, []⟩]⟩ : Criteria).compile .document {})
        (.ofValues [.decimalTenth, .intMember "Size" "ONE" 1]) = (.ok filter, final) ∧
      filter.matchesDocument (.mapping [(.text "size", .binaryTenth)]) = .ok true ∧
      Value.decimalTenth.Precedes .binaryTenth ∧
      Value.binaryTenth.Precedes (.intMember "Size" "ONE" 1) ∧
      filter.matchesDocument (.mapping [(.text "size", .list Value.mixedSizes)]) = .ok true ∧
      (∃ size ∈ Value.mixedSizes, Value.decimalTenth.Precedes size) ∧
      ∃ size ∈ Value.mixedSizes, size.Precedes (.intMember "Size" "ONE" 1) := by
  have isPath : IsPath ["size"] := by decide
  have isField : Matching.IsField "size" := by decide
  have built : (ClauseForm.ofDotted "size" (.text "between")).build =
      .ok ⟨["size"], .known .between, isPath⟩ := rfl
  have compiled : outcome
      ((⟨[⟨⟨["size"], .known .between, isPath⟩, []⟩]⟩ : Criteria).compile .document {})
      (.ofValues [.decimalTenth, .intMember "Size" "ONE" 1]) =
        (.ok .sizesToOne, .after [.decimalTenth, .intMember "Size" "ONE" 1] 2) := rfl
  have found : ∀ size, Path.resolve (.mapping [(.text "size", size)])
      (Clause.field ⟨["size"], .known .between, isPath⟩) = size := by
    intro size
    have spelled : Clause.field ⟨["size"], .known .between, isPath⟩ = "size" := rfl
    rw [spelled]
    rfl
  have single : ∀ candidate ∈ Value.binaryTenth.candidates,
      candidate.bracket = "number" ∨ candidate.bracket = "number" →
      candidate.isOrderedScalar true := by decide
  have mixed : ∀ candidate ∈ (Value.list Value.mixedSizes).candidates,
      candidate.bracket = "number" ∨ candidate.bracket = "number" →
      candidate.isOrderedScalar true := by decide
  -- The theorem is about what is found in a document, so every size is put into one.
  have sizeOf (size : Value) (scalars : ∀ candidate ∈ size.candidates,
      candidate.bracket = "number" ∨ candidate.bracket = "number" →
      candidate.isOrderedScalar true) :=
    ranges_are_open ⟨["size"], .known .between, isPath⟩ .document {} true .decimalTenth
      (.intMember "Size" "ONE" 1) [] _ _ (.mapping [(.text "size", size)]) rfl isField (.inl rfl)
      rfl rfl (by rwa [found]) compiled
  simp only [found] at sizeOf
  have matched : Filter.sizesToOne.matchesDocument (.mapping [(.text "size", .binaryTenth)]) =
      .ok true := by
    rw [Filter.sizesToOne, Term.matchesDocument_alone isField]
    rfl
  have matchedToo : Filter.sizesToOne.matchesDocument
      (.mapping [(.text "size", .list Value.mixedSizes)]) = .ok true := by
    rw [Filter.sizesToOne, Term.matchesDocument_alone isField]
    rfl
  obtain ⟨answer, answered, -, alone⟩ := sizeOf _ single
  obtain ⟨listAnswer, listAnswered, onItems, -⟩ := sizeOf _ mixed
  obtain rfl := Except.ok.inj (answered.symm.trans matched)
  obtain rfl := Except.ok.inj (listAnswered.symm.trans matchedToo)
  obtain ⟨above, below⟩ := (alone (by rintro items ⟨⟩)).1.mp rfl
  obtain ⟨aboveToo, belowToo⟩ := (onItems _ rfl).mp rfl
  exact ⟨_, _, _, built, compiled, matched, above, below, matchedToo, aboveToo, belowToo⟩

end DocFilter
