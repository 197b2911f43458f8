/-
# A converter that makes no difference

The document converter binds scalars as they are, except that it packs decimals. A packed decimal
lies where the decimal lies, so no operator that compares tells the two apart, and a filter does not
either, in whatever shape it is written. Only the text of a number can show how it was stored:
patterns that are made of decimals are left out here.
-/

import DocFilter.Proofs.Packing
import DocFilter.Proofs.StoredForms

namespace DocFilter

open Binder (outcome)

/-! ## Operands that no comparison tells apart -/

namespace Value

variable {first second : Decimal}

theorem equal_decimal_congr (alike : (Number.decimal first).IsLike (.decimal second))
    (field : Value) : field.equal (.decimal first) = field.equal (.decimal second) := by
  have numbers : ∀ number : Number,
      numbersEqual number (.decimal first) = numbersEqual number (.decimal second) := by
    intro number
    rw [numbersEqual, numbersEqual, (Number.IsLike.refl number).equal?_congr alike]
  cases field <;> first | rfl | exact numbers _

theorem less_decimal_congr (alike : (Number.decimal first).IsLike (.decimal second))
    (field : Value) : field.less (.decimal first) = field.less (.decimal second) := by
  have numbers : ∀ number : Number,
      number.less? (.decimal first) = number.less? (.decimal second) :=
    fun number => (Number.IsLike.refl number).less?_congr alike
  unfold less
  cases field <;> first | rfl | simp only [number?, numbers]

theorem decimal_less_congr (alike : (Number.decimal first).IsLike (.decimal second))
    (field : Value) : (Value.decimal first).less field = (Value.decimal second).less field := by
  have numbers : ∀ number : Number,
      (Number.decimal first).less? number = (Number.decimal second).less? number :=
    fun number => alike.less?_congr (.refl number)
  unfold less
  cases field <;> first | rfl | simp only [number?, numbers]

end Value

namespace Operator

variable {number : Decimal} {packed : Packed}

theorem isEqual_packed (stored : Packed.pack number = .ok packed) (field : Value) :
    isEqual field (.packed packed) = isEqual field (.decimal number) := by
  have alike := Packed.isLike_of_pack_eq_ok stored
  rw [isEqual, isEqual]
  congr 1
  funext candidate
  show (if candidate.bracket = "number" then
    candidate.normalized.equal (.decimal packed.number) else return false) = _
  rw [Value.equal_decimal_congr alike]
  rfl

/-- An order that does not tell the numbers apart does not tell the operands apart. -/
theorem isOrdered_packed (order : Value → Value → Except Fault Bool)
    (same : ∀ field, order field (.decimal packed.number) = order field (.decimal number))
    (field : Value) :
    isOrdered order field (.packed packed) = isOrdered order field (.decimal number) := by
  rw [isOrdered, isOrdered]
  congr 1
  funext candidate
  show (if Value.isOrderedBracket "number" && candidate.bracket == "number" then
    order candidate.normalized (.decimal packed.number) else return false) = _
  rw [same]
  rfl

/-- A decimal and what it is packed to are the same operand for all operators that compare. -/
theorem evaluate_packed (stored : Packed.pack number = .ok packed) {operator : Operator}
    (standard : operator ∈ Registry.standard.operators) (compares : operator.name ≠ "$regex")
    (field : Value) :
    operator.evaluate field (.packed packed) = operator.evaluate field (.decimal number) := by
  have alike := Packed.isLike_of_pack_eq_ok stored
  have listed : operator ∈ [equal, notEqual, greater, less, regex] := standard
  simp only [List.mem_cons, List.not_mem_nil, or_false] at listed
  rcases listed with rfl | rfl | rfl | rfl | rfl
  · exact isEqual_packed stored field
  · show (do return !(← isEqual field (.packed packed)) : Except Fault Bool) = _
    rw [isEqual_packed stored]
    rfl
  · exact isOrdered_packed (fun left right => right.less left)
      (Value.decimal_less_congr alike) field
  · exact isOrdered_packed Value.less (Value.less_decimal_congr alike) field
  · exact absurd rfl compares

end Operator

/-! ## Conditions that ask the same -/

/-- A named condition asks the same as another one of every value that a field can have. -/
def Registry.AsksAlike (registry : Registry) (left right : String × Value) : Prop :=
  left.1 = right.1 ∧ ∀ field, registry.evaluate (.text left.1) field left.2.copied =
    registry.evaluate (.text right.1) field right.2.copied

/-- An operand stands for a value: it is the value itself, or what a decimal is packed to. -/
inductive Value.StandsFor : Value → Value → Prop
  | itself (value : Value) : StandsFor value value
  | packed {number : Decimal} {packed : Packed} (stored : Packed.pack number = .ok packed) :
    StandsFor (.packed packed) (.decimal number)

/-- A condition that compares asks the same of an operand and of what that stands for. -/
theorem Registry.asksAlike_of_standsFor {name : String} (compares : name ≠ "$regex")
    {operand value : Value} (stands : operand.StandsFor value) :
    Registry.standard.AsksAlike (name, operand) (name, value) := by
  refine ⟨rfl, fun field => ?_⟩
  cases stands with
  | itself => rfl
  | packed stored =>
    show Registry.standard.evaluate (.text name) field (.packed _) =
      Registry.standard.evaluate (.text name) field (.decimal _)
    rw [evaluate_text, evaluate_text]
    cases known : Registry.standard.find? name with
    | none => rfl
    | some operator =>
      have named : operator.name = name := by
        simpa using List.find?_some known
      exact Operator.evaluate_packed stored (List.mem_of_find?_eq_some known)
        (named ▸ compares) field

namespace Matching

variable {registry : Registry}

/-- Nothing that is written in the place of one condition is told apart from the other, under
whatever key it stands. -/
structure AskAlike (registry : Registry) (left right : Value) : Prop where
  satisfies : ∀ field, satisfies registry field left = satisfies registry field right
  matchesAll : ∀ document, matchesAll registry document left = matchesAll registry document right
  matchesAny : ∀ document, matchesAny registry document left = matchesAny registry document right

theorem matchesEntries_congr {entries others : List (Value × Value)}
    (alike : List.Forall₂ (fun left right => left.1 = right.1 ∧
      AskAlike registry left.2 right.2) entries others) (document : Value) :
    matchesEntries registry document entries = matchesEntries registry document others := by
  induction alike with
  | nil => rfl
  | @cons left right _ _ first _ ih =>
    obtain ⟨key, condition⟩ := left
    obtain ⟨otherKey, other⟩ := right
    obtain ⟨rfl, same⟩ : key = otherKey ∧ AskAlike registry condition other := first
    simp only [matchesEntries, holdsAt, ih, same.satisfies, same.matchesAll, same.matchesAny]

theorem matchesEach_congr {queries others : List Value} {document : Value}
    (alike : List.Forall₂ (fun left right =>
      matchesQuery registry document left = matchesQuery registry document right)
      queries others) :
    matchesEach registry document queries = matchesEach registry document others := by
  induction alike with
  | nil => rfl
  | cons first _ ih => rw [matchesEach, matchesEach, first, ih]

theorem matchesSome_congr {queries others : List Value} {document : Value}
    (alike : List.Forall₂ (fun left right =>
      matchesQuery registry document left = matchesQuery registry document right)
      queries others) :
    matchesSome registry document queries = matchesSome registry document others := by
  induction alike with
  | nil => rfl
  | cons first _ ih => rw [matchesSome, matchesSome, first, ih]

end Matching

/-! ## Terms that ask the same -/

/-- Lists whose items have the same image, one beside the other, have the same image. -/
theorem map_eq_of_forall₂ {α β γ : Type} {first : α → γ} {second : β → γ} {items : List α}
    {others : List β} (same : List.Forall₂ (fun left right => first left = second right)
      items others) : items.map first = others.map second := by
  rw [← List.forall₂_eq_eq_eq, List.forall₂_map_left_iff, List.forall₂_map_right_iff]
  exact same

/-- Terms on one field whose conditions ask the same, one beside the other. -/
structure Term.AskAlike (registry : Registry) (left right : Term) : Prop where
  field : left.field = right.field
  operators : ∃ keyword : Keyword, left.conditions.map (·.1) = keyword.operators
  conditions : List.Forall₂ registry.AsksAlike left.conditions right.conditions

namespace Term.AskAlike

variable {registry : Registry} {left right : Term} (alike : left.AskAlike registry right)

include alike

/-- The conditions of both terms are under the same operators. -/
theorem map_fst_eq : left.conditions.map (·.1) = right.conditions.map (·.1) :=
  map_eq_of_forall₂ (alike.conditions.imp fun _ _ => And.left)

/-- What the terms are written as asks the same. Where a query is expected both are refused, for
their first operator. -/
theorem condition : Matching.AskAlike registry left.condition right.condition := by
  obtain ⟨keyword, operators⟩ := alike.operators
  have others : right.conditions.map (·.1) = keyword.operators := alike.map_fst_eq ▸ operators
  have sameKeys : (left.conditions.map fun condition =>
        ((.text condition.1, condition.2.copied) : Value × Value)).map (·.1) =
      (right.conditions.map fun condition =>
        ((.text condition.1, condition.2.copied) : Value × Value)).map (·.1) := by
    have names := congrArg (List.map Value.text) alike.map_fst_eq
    simpa only [List.map_map, Function.comp_def] using names
  have sameElements : left.condition.elements? = right.condition.elements? := by
    rw [Term.condition_eq (operators ▸ keyword.nodup_operators),
      Term.condition_eq (others ▸ keyword.nodup_operators)]
    exact congrArg some sameKeys
  refine ⟨fun field => ?_, fun document => ?_, fun document => ?_⟩
  · rw [Matching.satisfies, Matching.satisfies, Term.operatorsOf?_condition operators,
      Term.operatorsOf?_condition others]
    apply ShortCircuit.allM_eq_of_forall₂
    rw [List.forall₂_map_left_iff, List.forall₂_map_right_iff]
    exact alike.conditions.imp fun _ _ same => same.2 field
  · show Matching.noQueries true left.condition = Matching.noQueries true right.condition
    rw [Matching.noQueries, Matching.noQueries, sameElements]
  · show Matching.noQueries false left.condition = Matching.noQueries false right.condition
    rw [Matching.noQueries, Matching.noQueries, sameElements]

end Term.AskAlike

namespace Draft

variable {registry : Registry}

/-- Groups of terms that ask the same are matched by the same documents. -/
theorem matchesQuery_conjunctionOf_congr {terms others : List Term}
    (alike : List.Forall₂ (Term.AskAlike registry) terms others) (document : Value) :
    Matching.matchesQuery registry document (conjunctionOf terms) =
      Matching.matchesQuery registry document (conjunctionOf others) := by
  have sameFields : terms.map Term.field = others.map Term.field :=
    map_eq_of_forall₂ (alike.imp fun _ _ same => same.field)
  have entries : ∀ left right : Term, left.AskAlike registry right →
      left.entry.1 = right.entry.1 ∧ Matching.AskAlike registry left.entry.2 right.entry.2 :=
    fun left right same => ⟨congrArg Value.text same.field, same.condition⟩
  rw [conjunctionOf, conjunctionOf, sameFields]
  split
  · apply Matching.matchesEntries_congr
    rw [List.forall₂_map_left_iff, List.forall₂_map_right_iff]
    exact alike.imp entries
  · rw [Matching.matchesQuery_allKey, Matching.matchesQuery_allKey]
    apply Matching.matchesEach_congr
    rw [List.forall₂_map_left_iff, List.forall₂_map_right_iff]
    exact alike.imp fun left right same =>
      Matching.matchesEntries_congr (.cons (entries left right same) .nil) document

/-- Groups that ask the same are matched by the same documents, in whatever shape they are
written. -/
theorem matchesQuery_disjunctionOf_congr {groups others : List (List Term)}
    (alike : List.Forall₂ (List.Forall₂ (Term.AskAlike registry)) groups others)
    (document : Value) :
    Matching.matchesQuery registry document (disjunctionOf groups) =
      Matching.matchesQuery registry document (disjunctionOf others) := by
  match groups, others, alike with
  | [], [], .nil => rfl
  | [_], [_], .cons own .nil => exact matchesQuery_conjunctionOf_congr own document
  | first :: second :: more, firstOther :: secondOther :: moreOthers, alike =>
    rw [disjunctionOf_cons_cons, disjunctionOf_cons_cons, Matching.matchesQuery_anyKey,
      Matching.matchesQuery_anyKey]
    apply Matching.matchesSome_congr
    rw [List.forall₂_map_left_iff, List.forall₂_map_right_iff]
    exact alike.imp fun _ _ own => matchesQuery_conjunctionOf_congr own document

end Draft

/-! ## Scalars and what is stored for them -/

namespace Value

/-- Whether a value is a scalar that documents hold, or a decimal. -/
def isScalar : Value → Bool
  | .null | .bool _ | .int _ | .float _ | .decimal _ | .text _ | .moment _ => true
  | _ => false

/-- The stored form of a scalar stands for it. -/
theorem standsFor_of_stored {value written : Value} (scalar : value.isScalar)
    (given : value.stored = .ok written) : written.StandsFor value := by
  cases value with
  | decimal number =>
    obtain ⟨packed, stored, rfl⟩ := stored_decimal_eq_ok_iff.mp given
    exact .packed stored
  | null | bool | int | float | text | moment =>
    cases given
    exact .itself _
  | _ => cases scalar

/-- Only decimals have another stored form. -/
theorem StandsFor.eq_of_ne_decimal {operand value : Value} (stands : operand.StandsFor value)
    (other : ∀ number, value ≠ .decimal number) : operand = value := by
  cases stands with
  | itself => rfl
  | packed => exact absurd rfl (other _)

end Value

/-- The conditions of a keyword ask the same of operands and of the values that these stand for,
unless the text of a decimal is asked for. -/
theorem Keyword.forall₂_conditionsOn (options : Options) {keyword : Keyword}
    {operands values : List Value} (stand : List.Forall₂ Value.StandsFor operands values)
    (size : values.length = keyword.arity)
    (noDecimal : keyword = .like → ∀ number, .decimal number ∉ values) :
    List.Forall₂ Registry.standard.AsksAlike (keyword.conditionsOn options operands)
      (keyword.conditionsOn options values) := by
  have condition : ∀ name ≠ "$regex", ∀ operand value : Value, operand.StandsFor value →
      Registry.standard.AsksAlike (name, operand) (name, value) :=
    fun name compares operand value => Registry.asksAlike_of_standsFor compares
  cases keyword with
  | isNull | isNotNull =>
    obtain rfl := List.eq_nil_of_length_eq_zero size
    cases stand
    exact .cons (condition _ (by decide) _ _ (.itself _)) .nil
  | between =>
    obtain ⟨lower, upper, rfl⟩ := List.length_eq_two.mp size
    obtain _ | ⟨first, _ | ⟨second, _ | _⟩⟩ := stand
    exact .cons (condition _ (by decide) _ _ first)
      (.cons (condition _ (by decide) _ _ second) .nil)
  | equals | notEquals | greaterThan | lessThan =>
    obtain ⟨value, rfl⟩ := List.length_eq_one_iff.mp size
    obtain _ | ⟨first, _ | _⟩ := stand
    exact .cons (condition _ (by decide) _ _ first) .nil
  | like =>
    obtain ⟨value, rfl⟩ := List.length_eq_one_iff.mp size
    obtain _ | ⟨first, _ | _⟩ := stand
    have other : ∀ number, value ≠ .decimal number := by
      rintro number rfl
      exact noDecimal rfl number List.mem_cons_self
    rw [first.eq_of_ne_decimal other]
    exact .cons ⟨rfl, fun _ => rfl⟩ .nil

/-! ## Converters that bind the same -/

/-- Compiling knows nothing of a converter but what it binds. -/
theorem Criteria.compile_congr {first second : Converter}
    (same : ∀ calls value, (first calls value).map Converter.read =
      (second calls value).map Converter.read) (options : Options) (criteria : Criteria) :
    criteria.compile first options = criteria.compile second options := by
  have next : Binder.nextConverted first = Binder.nextConverted second := by
    funext field
    simp only [Binder.nextConverted, same]
  have conditions : Keyword.conditions first options = Keyword.conditions second options := by
    funext field keyword
    cases keyword <;> simp only [Keyword.conditions, next]
  have clauses : Clause.compile first options = Clause.compile second options := by
    funext clause
    simp only [Clause.compile, conditions]
  have groups :
      ClauseGroup.compileTerms first options = ClauseGroup.compileTerms second options := by
    funext group
    rw [ClauseGroup.compileTerms, ClauseGroup.compileTerms, clauses]
  rw [compile_eq_map_compileTerms, compile_eq_map_compileTerms, compileTerms, compileTerms, groups]

/-- A converter that binds every value as it is. -/
def Converter.IsIdentity (converter : Converter) : Prop :=
  ∀ calls value, (converter calls value).map Converter.read = .ok value

theorem Converter.isIdentity_plain : (Converter.stateless Converter.plain).IsIdentity :=
  fun _ _ => rfl

theorem Converter.IsIdentity.bindAll_eq_ok {converter : Converter}
    (identity : converter.IsIdentity) (calls values : List Value) :
    converter.bindAll calls values = .ok values := by
  induction values generalizing calls with
  | nil => rfl
  | cons value values ih =>
    exact bindAll_cons_eq_ok_iff.mpr ⟨value, values, identity calls value, ih _, rfl⟩

/-! ## Transparent slices -/

namespace Slice

/-- The document converter makes no difference to a slice: its values are scalars, and no wildcard
text is made of a decimal. -/
structure IsTransparent (slice : Slice) : Prop where
  scalars : ∀ value ∈ slice.values, value.isScalar
  noDecimal : slice.clause.comparison = .known .like → ∀ number, .decimal number ∉ slice.values

variable {options : Options}

/-- A transparent slice that is compiled with the document converter is compiled with no converter
to a term that asks the same. -/
theorem CompilesTo.exists_askAlike {slice : Slice} {term : Term}
    (compiled : slice.CompilesTo .document options term) (transparent : slice.IsTransparent)
    {identity : Converter} (isIdentity : identity.IsIdentity) :
    ∃ other, slice.CompilesTo identity options other ∧ term.AskAlike .standard other := by
  have operators := compiled.exists_operators
  obtain ⟨keyword, bound, known, size, stored, rfl⟩ := compilesTo_document_iff.mp compiled
  refine ⟨⟨slice.clause.field, keyword.conditionsOn options slice.values⟩,
    compilesTo_iff.mpr ⟨keyword, slice.values, known, size, isIdentity.bindAll_eq_ok _ _, rfl⟩,
    rfl, operators, Keyword.forall₂_conditionsOn options ?_ size ?_⟩
  · have scalars := (List.forall₂_and_left _ _).mpr ⟨transparent.scalars, stored⟩
    exact (scalars.imp fun _ _ both => Value.standsFor_of_stored both.1 both.2).flip
  · rintro rfl
    exact transparent.noDecimal known

end Slice

/-- Items that are related to others through a third each stand beside lists of such thirds. -/
theorem exists_forall₂_of_forall₂ {α β γ : Type} {relation : α → β → Prop} {left : α → γ → Prop}
    {right : β → γ → Prop} {items : List α} {others : List β}
    (related : List.Forall₂ relation items others)
    (each : ∀ item other, relation item other → ∃ third, left item third ∧ right other third) :
    ∃ thirds, List.Forall₂ left items thirds ∧ List.Forall₂ right others thirds := by
  induction related with
  | nil => exact ⟨[], .nil, .nil⟩
  | cons first _ ih =>
    obtain ⟨third, own, other⟩ := each _ _ first
    obtain ⟨thirds, items, others⟩ := ih
    exact ⟨third :: thirds, .cons own items, .cons other others⟩

/-- Criteria on transparent slices are compiled with no converter just as with the document
converter, and documents match the one filter as they match the other. -/
theorem Criteria.exists_outcome_compile_identity {options : Options} {criteria : Criteria}
    {values : List Value} {filter : Filter} {binding : Binding}
    (transparent : ∀ group ∈ criteria.slices values, ∀ slice ∈ group, slice.IsTransparent)
    (compiled : outcome (criteria.compile .document options) (.ofValues values) =
      (.ok filter, binding)) :
    ∃ other, outcome (criteria.compile (.stateless Converter.plain) options) (.ofValues values) =
        (.ok other, binding) ∧
      ∀ document, filter.matchesDocument document = other.matchesDocument document := by
  obtain ⟨groups, all, rfl, rfl⟩ := outcome_compile_iff.mp compiled
  obtain ⟨others, compiledOthers, alike⟩ := exists_forall₂_of_forall₂
    (forall₂_and_of_forall transparent all) fun group terms own => exists_forall₂_of_forall₂ own
      fun slice term both => both.2.exists_askAlike both.1 Converter.isIdentity_plain
  refine ⟨_, outcome_compile_iff.mpr ⟨others, compiledOthers, rfl, rfl⟩, fun document => ?_⟩
  rw [Filter.matchesDocument, Filter.matchesDocument, Draft.toValue_ofValue_disjunctionOf,
    Draft.toValue_ofValue_disjunctionOf]
  exact Draft.matchesQuery_disjunctionOf_congr alike document

/-- The document converter makes no difference to scalars. A filter that is compiled with it answers
on every document as the filter that is compiled with a converter that binds all values as they are,
with the same answer or the same fault, as long as no wildcard text is made of a decimal. And a
decimal is packed to one of the same value, which every operator but the one for patterns tests as
the decimal itself, or is refused. -/
theorem Criteria.scalars_are_stored_exactly :
    (∀ (identity : Converter) (options : Options) (criteria : Criteria) (values : List Value)
        (filter : Filter) (binding : Binding),
      identity.IsIdentity →
      (∀ value ∈ values, value.isScalar) →
      (∀ group ∈ criteria.slices values, ∀ slice ∈ group,
        slice.clause.comparison = .known .like → ∀ number, .decimal number ∉ slice.values) →
      outcome (criteria.compile .document options) (.ofValues values) = (.ok filter, binding) →
      ∃ other,
        outcome (criteria.compile identity options) (.ofValues values) = (.ok other, binding) ∧
        ∀ document, filter.matchesDocument document = other.matchesDocument document) ∧
    ∀ number : Decimal,
      (∃ refusal, (Value.decimal number).stored = .error (.packing refusal)) ∨
      ∃ packed, (Value.decimal number).stored = .ok (.packed packed) ∧
        (Number.decimal packed.number).position? = (Number.decimal number).position? ∧
        ∀ operator ∈ Registry.standard.operators, operator.name ≠ "$regex" → ∀ field,
          operator.evaluate field (.packed packed) = operator.evaluate field (.decimal number) := by
  constructor
  · intro identity options criteria values filter binding isIdentity scalars noDecimal compiled
    have transparent : ∀ group ∈ criteria.slices values, ∀ slice ∈ group, slice.IsTransparent :=
      fun group inside slice member =>
        ⟨criteria.forall_slices_values scalars group inside slice member,
          noDecimal group inside slice member⟩
    have same : criteria.compile identity options =
        criteria.compile (.stateless Converter.plain) options :=
      compile_congr (fun calls value => (isIdentity calls value).trans
        (Converter.isIdentity_plain calls value).symm) options criteria
    rw [same]
    exact exists_outcome_compile_identity transparent compiled
  · intro number
    rw [Value.stored]
    cases packs : Packed.pack number with
    | error refusal => exact .inl ⟨refusal, rfl⟩
    | ok packed =>
      exact .inr ⟨packed, rfl, (Packed.isLike_of_pack_eq_ok packs).position?,
        fun operator standard compares field => Operator.evaluate_packed packs standard compares
          field⟩

/-- Fifty, with more digits than can be packed. -/
def Decimal.longFifty : Decimal :=
  .finite false (5 * 10 ^ 34) (-33)

/-- A bound on an age, or a wildcard text for a name. -/
def Criteria.boundOrName : Criteria :=
  ⟨[⟨.onAge .lessThan, []⟩, ⟨.onName .like, []⟩]⟩

/-- The values for a bound and a wildcard text. -/
def Criteria.boundOrNameValues : List Value :=
  [.decimal .longFifty, .text "J*n"]

/-- The bound is packed without its last zero, and still bounds the same ages. -/
theorem Criteria.scalars_are_stored_exactly_longFifty :
    ∃ filter other binding packed,
      (∀ value ∈ boundOrNameValues, value.isScalar) ∧
      outcome (boundOrName.compile .document {}) (.ofValues boundOrNameValues) =
        (.ok filter, binding) ∧
      outcome (boundOrName.compile (.stateless Converter.plain) {})
        (.ofValues boundOrNameValues) = (.ok other, binding) ∧
      (Value.decimal .longFifty).stored = .ok (.packed packed) ∧
      packed.number = .finite false (5 * 10 ^ 33) (-32) ∧
      filter.matchesDocument (.mapping [(.text "age", .list [.int 40, .decimal .longFifty])]) =
        .ok true ∧
      ∀ document, filter.matchesDocument document = other.matchesDocument document := by
  have scalars : ∀ value ∈ boundOrNameValues, value.isScalar := by decide
  have noDecimal : ∀ group ∈ boundOrName.slices boundOrNameValues, ∀ slice ∈ group,
      slice.clause.comparison = .known .like → ∀ number, .decimal number ∉ slice.values := by
    simp [boundOrName, boundOrNameValues, slices, ClauseGroup.slicesFrom, ClauseGroup.clauses,
      Clause.slicesFrom, Clause.onAge, Clause.onName, Clause.arity?, Comparison.arity?,
      Keyword.arity]
  have compiled : ∃ filter binding, outcome (boundOrName.compile .document {})
      (.ofValues boundOrNameValues) = (.ok filter, binding) ∧
      filter.matchesDocument (.mapping [(.text "age", .list [.int 40, .decimal .longFifty])]) =
        .ok true := ⟨_, _, rfl, rfl⟩
  obtain ⟨filter, binding, compiled, found⟩ := compiled
  obtain ⟨other, plain, same⟩ := scalars_are_stored_exactly.1 (.stateless Converter.plain) {}
    boundOrName boundOrNameValues filter binding Converter.isIdentity_plain scalars
    noDecimal compiled
  exact ⟨filter, other, binding, _, scalars, compiled, plain, rfl, rfl, found, same⟩

end DocFilter
