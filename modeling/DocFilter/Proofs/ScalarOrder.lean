/-
# One order for each bracket

Truth values, numbers that are some number, texts, and moments that are all local or all on the time
line lie at points of a linear order, each bracket in a part of its own. Order and equality are
tested in different ways, and a packed decimal, a text and a member of an enumeration each come
through a way of their own. But within a bracket every test is one of the points: less is being at a
lower point, and equal being at the same one. So the three operators that compare inherit the laws
of a strict total order.

The point of a number is its exact value: the mantissa or the coefficient times a power of two or of
ten, without rounding.
-/

import DocFilter.Proofs.ExactOrder
import DocFilter.Proofs.Retrieval
import Mathlib.Data.Bool.Basic
import Mathlib.Data.Sum.Order
import Mathlib.Data.String.Basic

namespace DocFilter

/-! ## Exact values -/

/-- The exact value of a signed multiple of a power. -/
def signedMultiple (negative : Bool) (size : Nat) (base : ℚ) (exponent : Int) : ℚ :=
  (if negative then -1 else 1) * size * base ^ exponent

/-- The greatest or the least point of the extended number line. -/
def infinitePoint (negative : Bool) : WithBot (WithTop ℚ) :=
  if negative then ⊥ else ((⊤ : WithTop ℚ) : WithBot (WithTop ℚ))

/-- A rational number on the extended number line. -/
def finitePoint (value : ℚ) : WithBot (WithTop ℚ) :=
  ((value : WithTop ℚ) : WithBot (WithTop ℚ))

/-- The exact value of a binary number that is one. -/
def Binary64.magnitude? : Binary64 → Option (WithBot (WithTop ℚ))
  | .notANumber => none
  | .infinite negative => some (infinitePoint negative)
  | .finite negative mantissa exponent _ =>
    some (finitePoint (signedMultiple negative mantissa 2 exponent))

/-- The exact value of a decimal number that is one. -/
def Decimal.magnitude? : Decimal → Option (WithBot (WithTop ℚ))
  | .notANumber .. => none
  | .infinite negative => some (infinitePoint negative)
  | .finite negative coefficient exponent =>
    some (finitePoint (signedMultiple negative coefficient 10 exponent))

/-- The exact value of a value that is a number. -/
def Value.magnitude? : Value → Option (WithBot (WithTop ℚ))
  | .int value | .intMember _ _ value => some (finitePoint value)
  | .float value => value.magnitude?
  | .decimal value => value.magnitude?
  | .packed value => value.number.magnitude?
  | _ => none

/-- Halves are fives over ten. -/
theorem Binary64.value_scale (negative : Bool) (mantissa : Nat) (exponent : Int) :
    (scale negative mantissa exponent).value = signedMultiple negative mantissa 2 exponent := by
  have positive : (scale false mantissa exponent).value = mantissa * 2 ^ exponent := by
    rw [scale, if_neg Bool.false_ne_true]
    split
    · next natural =>
      obtain ⟨power, rfl⟩ := Int.eq_ofNat_of_zero_le natural
      simp [Scaled.value, powerOfTwo]
    · next fractional =>
      obtain ⟨power, rfl⟩ := Int.exists_eq_neg_ofNat (le_of_not_ge fractional)
      have halves : (5 : ℚ) ^ power * (10 ^ power)⁻¹ = (2 ^ power)⁻¹ := by
        rw [show (10 : ℚ) = 5 * 2 by norm_num, mul_pow, mul_inv,
          mul_inv_cancel_left₀ (by positivity)]
      simp [Scaled.value, powerOfFive, mul_assoc, halves]
  cases negative with
  | false => rw [positive, signedMultiple, if_neg Bool.false_ne_true, one_mul]
  | true =>
    have opposite : (scale true mantissa exponent).value =
        -(scale false mantissa exponent).value := by
      simp [scale, Scaled.value]
    rw [opposite, positive, signedMultiple, if_pos rfl, neg_one_mul, neg_mul]

theorem Decimal.value_scale (negative : Bool) (coefficient : Nat) (exponent : Int) :
    (scale negative coefficient exponent).value =
      signedMultiple negative coefficient 10 exponent := by
  cases negative <;> simp [scale, Scaled.value, signedMultiple]

namespace Number

theorem position?_whole (value : Int) : (whole value).position? = some (finitePoint value) := by
  simp [position?, extended?, Extended.position, Scaled.ofInt, Scaled.value, finitePoint]

/-- A binary number lies at its exact value. -/
theorem position?_binary (value : Binary64) : (binary value).position? = value.magnitude? := by
  cases value with
  | notANumber => rfl
  | infinite negative => cases negative <;> rfl
  | finite negative mantissa exponent canonical =>
    rw [position?, extended?, Option.map_some, Extended.position, Binary64.value_scale]
    rfl

/-- A decimal number lies at its exact value. -/
theorem position?_decimal (value : Decimal) : (decimal value).position? = value.magnitude? := by
  cases value with
  | notANumber => rfl
  | infinite negative => cases negative <;> rfl
  | finite negative coefficient exponent =>
    rw [position?, extended?, Option.map_some, Extended.position, Decimal.value_scale]
    rfl

end Number

/-! ## Points -/

section Orderings

variable {α : Type} [LinearOrder α] (first second : α)

theorem compare_beq_lt : (compare first second == .lt) = decide (first < second) :=
  Bool.eq_iff_iff.mpr <| by rw [beq_iff_eq, compare_lt_iff_lt, decide_eq_true_iff]

theorem compare_beq_eq : (compare first second == .eq) = decide (first = second) :=
  Bool.eq_iff_iff.mpr <| by rw [beq_iff_eq, compare_eq_iff_eq, decide_eq_true_iff]

end Orderings

namespace Value

/-- The points at which ordered values lie: truth values, numbers, texts and microseconds. -/
abbrev Point : Type :=
  Bool ⊕ₗ WithBot (WithTop ℚ) ⊕ₗ String ⊕ₗ Int

namespace Point

def ofTruth (value : Bool) : Point :=
  toLex (.inl value)

def ofPosition (position : WithBot (WithTop ℚ)) : Point :=
  toLex (.inr (toLex (.inl position)))

def ofText (text : String) : Point :=
  toLex (.inr (toLex (.inr (toLex (.inl text)))))

def ofTime (time : Int) : Point :=
  toLex (.inr (toLex (.inr (toLex (.inr time)))))

end Point

variable {aware : Bool} {left right value : Value} {first second point : Point}

/-- A value of an ordered bracket lies at a point. Of moments either those without an offset or
those with one are meant: local time and the time line have no points in common. -/
inductive LiesAt (aware : Bool) : Value → Point → Prop
  | truth (value : Bool) : LiesAt aware (.bool value) (.ofTruth value)
  | number {value : Value} {number : Number} {position : WithBot (WithTop ℚ)}
      (inBracket : value.bracket = "number") (counts : value.normalized.number? = some number)
      (place : number.position? = some position) : LiesAt aware value (.ofPosition position)
  | text {value : Value} {text : String} (inBracket : value.bracket = "string")
      (reads : value.normalized.text? = some text) : LiesAt aware value (.ofText text)
  | moment {moment : Moment} (awareness : moment.offset.isSome = aware) :
      LiesAt aware (.moment moment) (.ofTime (moment.localTime - moment.offset.getD 0))

/-- Two values of one bracket at their points. -/
inductive LieTogether (aware : Bool) : Value → Value → Point → Point → Prop
  | truth (value other : Bool) :
    LieTogether aware (.bool value) (.bool other) (.ofTruth value) (.ofTruth other)
  | number {left right : Value} {number other : Number}
      {position otherPosition : WithBot (WithTop ℚ)}
      (counts : left.normalized.number? = some number)
      (place : number.position? = some position)
      (countsToo : right.normalized.number? = some other)
      (placeToo : other.position? = some otherPosition) :
      LieTogether aware left right (.ofPosition position) (.ofPosition otherPosition)
  | text {left right : Value} {text other : String} (reads : left.normalized.text? = some text)
      (readsToo : right.normalized.text? = some other) :
      LieTogether aware left right (.ofText text) (.ofText other)
  | moment {moment other : Moment} (awareness : moment.offset.isSome = aware)
      (awarenessToo : other.offset.isSome = aware) :
      LieTogether aware (.moment moment) (.moment other)
        (.ofTime (moment.localTime - moment.offset.getD 0))
        (.ofTime (other.localTime - other.offset.getD 0))

namespace LiesAt

theorem isOrderedBracket (lies : value.LiesAt aware point) :
    Value.isOrderedBracket value.bracket := by
  cases lies with
  | truth | moment => rfl
  | number inBracket => rw [inBracket]; rfl
  | text inBracket => rw [inBracket]; rfl

/-- The bracket of a value is known from the part of the order that its point is in. -/
theorem together (lies : left.LiesAt aware first) (liesToo : right.LiesAt aware second)
    (same : left.bracket = right.bracket) : LieTogether aware left right first second := by
  -- Of the sixteen cases those are left in which the brackets are the same.
  cases lies with
  | truth value =>
    cases liesToo with
    | truth other => exact .truth value other
    | _ => grind [bracket]
  | number inBracket counts place =>
    cases liesToo with
    | number _ countsToo placeToo => exact .number counts place countsToo placeToo
    | _ => grind [bracket]
  | text inBracket reads =>
    cases liesToo with
    | text _ readsToo => exact .text reads readsToo
    | _ => grind [bracket]
  | moment awareness =>
    cases liesToo with
    | moment awarenessToo => exact .moment awareness awarenessToo
    | _ => grind [bracket]

end LiesAt

/-! ## Comparing values is comparing points -/

/-- A text does not count as a number. -/
theorem number?_of_text? {text : String} (reads : value.text? = some text) :
    value.number? = none := by
  cases value <;> first | rfl | cases reads

theorem less_of_number? {number other : Number} (counts : left.number? = some number)
    (countsToo : right.number? = some other) {order : Ordering}
    (ordered : number.order? other = some order) : left.less right = .ok (order == .lt) := by
  unfold less
  simp only [counts, countsToo, Number.less?_eq_order?, ordered]
  rfl

theorem equal_of_number? {number other : Number} (counts : left.number? = some number)
    (countsToo : right.number? = some other) : left.equal right = numbersEqual number other := by
  have plain : left.equal right = plainEqual left right := by
    cases left <;> first | rfl | cases counts
  rw [plain]
  unfold plainEqual
  simp only [counts, countsToo]

theorem less_of_text? {text other : String} (reads : left.text? = some text)
    (readsToo : right.text? = some other) : left.less right = .ok (decide (text < other)) := by
  unfold less
  simp only [number?_of_text? reads, reads, readsToo]
  rfl

theorem equal_of_text? {text other : String} (reads : left.text? = some text)
    (readsToo : right.text? = some other) : left.equal right = .ok (text == other) := by
  cases left with
  | text | textMember =>
    cases right with
    | text | textMember =>
      cases reads
      cases readsToo
      rfl
    | _ => cases readsToo
  | _ => cases reads

/-- Of numbers that lie somewhere none is signalling. -/
theorem isSignalling_of_position? {number : Number} {position : WithBot (WithTop ℚ)}
    (place : number.position? = some position) : number.isSignalling = false := by
  cases number with
  | decimal number => cases number <;> first | rfl | cases place
  | _ => rfl

theorem order?_of_position? {number other : Number} {position otherPosition : WithBot (WithTop ℚ)}
    (place : number.position? = some position) (placeToo : other.position? = some otherPosition) :
    number.order? other = some (compare position otherPosition) := by
  rw [Number.order?_eq_position?, place, placeToo]
  rfl

/-- Moments that are all local, or all on the time line, are ordered by their points. -/
theorem compare?_eq {moment other : Moment}
    (awareness : moment.offset.isSome = other.offset.isSome) :
    moment.compare? other = some (compare (moment.localTime - moment.offset.getD 0)
      (other.localTime - other.offset.getD 0)) := by
  rw [Moment.compare?]
  cases own : moment.offset <;> cases others : other.offset <;> simp_all

/-- Moments come before one another as they are compared, if they are. -/
theorem less_moment (moment other : Moment) :
    (Value.moment moment).less (.moment other) =
      (moment.compare? other).elim (.error .unordered) fun order => .ok (order == .lt) := by
  unfold less
  simp only [number?, text?]
  cases moment.compare? other <;> rfl

/-- What is something meets only what is in its bracket. -/
theorem meets_eq_ite {field operand : Value} (something : operand ≠ .null) :
    field.meets operand =
      if field.bracket = operand.bracket then field.normalized.equal operand.normalized
      else .ok false := by
  cases operand <;> first | rfl | exact absurd rfl something

namespace LieTogether

/-- Coming before is being at a lower point. -/
theorem less_eq (together : LieTogether aware left right first second) :
    left.normalized.less right.normalized = .ok (decide (first < second)) := by
  cases together with
  | truth value other => cases value <;> cases other <;> rfl
  | number counts place countsToo placeToo =>
    rw [less_of_number? counts countsToo (order?_of_position? place placeToo), compare_beq_lt]
    simp only [Point.ofPosition, Sum.Lex.inr_lt_inr_iff, Sum.Lex.inl_lt_inl_iff]
  | text reads readsToo =>
    rw [less_of_text? reads readsToo]
    simp only [Point.ofText, Sum.Lex.inr_lt_inr_iff, Sum.Lex.inl_lt_inl_iff]
  | @moment moment other awareness awarenessToo =>
    have order := compare?_eq (awareness.trans awarenessToo.symm)
    show (Value.moment moment).less (.moment other) = _
    rw [less_moment, order, Option.elim_some, compare_beq_lt]
    simp only [Point.ofTime, Sum.Lex.inr_lt_inr_iff]

/-- Being equal is being at the same point. -/
theorem equal_eq (together : LieTogether aware left right first second) :
    left.normalized.equal right.normalized = .ok (decide (first = second)) := by
  cases together with
  | truth value other => cases value <;> cases other <;> rfl
  | number counts place countsToo placeToo =>
    rw [equal_of_number? counts countsToo, numbersEqual, Number.equal?_eq_order?,
      isSignalling_of_position? place, isSignalling_of_position? placeToo,
      order?_of_position? place placeToo]
    show Except.ok (compare _ _ == .eq) = _
    rw [compare_beq_eq]
    simp only [Point.ofPosition, toLex_inj, Sum.inr.injEq, Sum.inl.injEq]
  | text reads readsToo =>
    rw [equal_of_text? reads readsToo]
    simp only [Point.ofText, toLex_inj, Sum.inr.injEq, Sum.inl.injEq]
    rfl
  | @moment moment other awareness awarenessToo =>
    show Except.ok (moment.compare? other == some .eq) = _
    rw [compare?_eq (awareness.trans awarenessToo.symm)]
    show Except.ok (compare _ _ == .eq) = _
    rw [compare_beq_eq]
    simp only [Point.ofTime, toLex_inj, Sum.inr.injEq]

end LieTogether

/-! ## Scalars have points -/

/-- Whether a value is a truth value, a number that is some number, a text, or a moment that has an
offset or has none as it is said. -/
def isOrderedScalar (aware : Bool) (value : Value) : Bool :=
  match value with
  | .bool _ | .int _ | .intMember .. | .text _ | .textMember .. => true
  | .float _ | .decimal _ | .packed _ => !value.isNotANumber
  | .moment value => value.offset.isSome == aware
  | _ => false

/-- A number that is some number lies at its exact value. -/
theorem exists_magnitude? (scalar : value.isOrderedScalar aware)
    (inBracket : value.bracket = "number") :
    ∃ position, value.magnitude? = some position ∧ value.LiesAt aware (.ofPosition position) := by
  cases value with
  | int value => exact ⟨_, rfl, .number rfl rfl (Number.position?_whole value)⟩
  | intMember enumeration name value =>
    exact ⟨_, rfl, .number rfl rfl (Number.position?_whole value)⟩
  | float value =>
    cases value with
    | notANumber => cases scalar
    | infinite | finite => exact ⟨_, rfl, .number rfl rfl (Number.position?_binary _)⟩
  | decimal value =>
    cases value with
    | notANumber => cases scalar
    | infinite | finite => exact ⟨_, rfl, .number rfl rfl (Number.position?_decimal _)⟩
  | packed value =>
    obtain ⟨value, packable⟩ := value
    cases value with
    | notANumber => cases scalar
    | infinite | finite => exact ⟨_, rfl, .number rfl rfl (Number.position?_decimal _)⟩
  | bool | text | textMember | moment => grind [bracket]
  | _ => cases scalar

theorem exists_liesAt (scalar : value.isOrderedScalar aware) :
    ∃ point, value.LiesAt aware point := by
  by_cases inBracket : value.bracket = "number"
  · obtain ⟨position, -, lies⟩ := exists_magnitude? scalar inBracket
    exact ⟨_, lies⟩
  · cases value with
    | bool value => exact ⟨_, .truth value⟩
    | text value => exact ⟨_, .text rfl rfl⟩
    | textMember enumeration name value => exact ⟨_, .text rfl rfl⟩
    | moment value => exact ⟨_, .moment (beq_iff_eq.mp scalar)⟩
    | int | intMember | float | decimal | packed => exact absurd rfl inBracket
    | _ => cases scalar

end Value

/-! ## Operators on scalars -/

namespace Operator

open Value

variable {aware : Bool} {field operand : Value} {first second : Point}

/-- An order is asked for within a bracket only. -/
theorem isOrdered_eq_ite (order : Value → Value → Except Fault Bool)
    (lies : field.LiesAt aware first) (liesToo : operand.LiesAt aware second) :
    isOrdered order field operand =
      if field.bracket = operand.bracket then order field.normalized operand.normalized
      else .ok false := by
  rw [isOrdered, candidates_of_isOrderedBracket lies.isOrderedBracket,
    ShortCircuit.anyM_singleton, liesToo.isOrderedBracket]
  by_cases same : field.bracket = operand.bracket
  · rw [if_pos same, same, beq_self_eq_true]
    rfl
  · rw [if_neg same, beq_false_of_ne same]
    rfl

theorem less_evaluate (lies : field.LiesAt aware first) (liesToo : operand.LiesAt aware second) :
    less.evaluate field operand =
      .ok (decide (field.bracket = operand.bracket ∧ first < second)) := by
  show isOrdered Value.less field operand = _
  rw [isOrdered_eq_ite _ lies liesToo]
  by_cases same : field.bracket = operand.bracket
  · simp [same, (lies.together liesToo same).less_eq]
  · simp [same]

theorem greater_evaluate (lies : field.LiesAt aware first)
    (liesToo : operand.LiesAt aware second) :
    greater.evaluate field operand =
      .ok (decide (field.bracket = operand.bracket ∧ second < first)) := by
  show isOrdered (fun left right => right.less left) field operand = _
  rw [isOrdered_eq_ite _ lies liesToo]
  by_cases same : field.bracket = operand.bracket
  · simp [same, (liesToo.together lies same.symm).less_eq]
  · simp [same]

theorem equal_evaluate (lies : field.LiesAt aware first) (liesToo : operand.LiesAt aware second) :
    equal.evaluate field operand =
      .ok (decide (field.bracket = operand.bracket ∧ first = second)) := by
  have something : operand ≠ .null := by
    rintro rfl
    cases liesToo.isOrderedBracket
  show isEqual field operand = _
  rw [isEqual, candidates_of_isOrderedBracket lies.isOrderedBracket,
    ShortCircuit.anyM_singleton, meets_eq_ite something]
  by_cases same : field.bracket = operand.bracket
  · simp [same, (lies.together liesToo same).equal_eq]
  · simp [same]

/-- On scalars that are no lists, of which the moments are all local or all on the time line, the
three operators that compare are one strict total order for each bracket. Of values of one bracket
exactly one operator holds, and of values of different brackets none. Being greater is being less
the other way round, and being less is transitive. On numbers being less and being equal are what
they are for the exact values. -/
theorem scalars_are_totally_ordered (aware : Bool) (x y z : Value)
    (first : x.isOrderedScalar aware) (second : y.isOrderedScalar aware)
    (third : z.isOrderedScalar aware) :
    (∃ isLess isEqual isGreater,
      less.evaluate x y = .ok isLess ∧ equal.evaluate x y = .ok isEqual ∧
      greater.evaluate x y = .ok isGreater ∧
      [isLess, isEqual, isGreater].count true = if x.bracket = y.bracket then 1 else 0) ∧
    greater.evaluate x y = less.evaluate y x ∧
    (less.evaluate x y = .ok true → less.evaluate y z = .ok true →
      less.evaluate x z = .ok true) ∧
    (x.bracket = "number" → y.bracket = "number" →
      ∃ value other, x.magnitude? = some value ∧ y.magnitude? = some other ∧
        less.evaluate x y = .ok (decide (value < other)) ∧
        equal.evaluate x y = .ok (decide (value = other))) := by
  obtain ⟨p, atP⟩ := exists_liesAt first
  obtain ⟨q, atQ⟩ := exists_liesAt second
  obtain ⟨r, atR⟩ := exists_liesAt third
  refine ⟨⟨_, _, _, less_evaluate atP atQ, equal_evaluate atP atQ, greater_evaluate atP atQ, ?_⟩,
    ?_, ?_, ?_⟩
  · by_cases same : x.bracket = y.bracket
    · rcases lt_trichotomy p q with below | level | above
      · simp [same, below, below.ne, below.not_gt]
      · simp [same, level]
      · simp [same, above, above.ne', above.not_gt]
    · simp [same]
  · rw [greater_evaluate atP atQ, less_evaluate atQ atP]
    simp only [eq_comm]
  · rw [less_evaluate atP atQ, less_evaluate atQ atR, less_evaluate atP atR]
    simp only [Except.ok.injEq, decide_eq_true_eq]
    rintro ⟨same, below⟩ ⟨sameToo, belowToo⟩
    exact ⟨same.trans sameToo, below.trans belowToo⟩
  · intro isNumber isNumberToo
    obtain ⟨value, magnitude, atValue⟩ := exists_magnitude? first isNumber
    obtain ⟨other, magnitudeToo, atOther⟩ := exists_magnitude? second isNumberToo
    refine ⟨value, other, magnitude, magnitudeToo, ?_, ?_⟩
    · rw [less_evaluate atValue atOther]
      simp [isNumber, isNumberToo, Point.ofPosition]
    · rw [equal_evaluate atValue atOther]
      simp [isNumber, isNumberToo, Point.ofPosition]

end Operator

/-- One tenth, packed. -/
def Value.packedTenth : Value :=
  .packed ⟨.finite false 1 (-1), by decide⟩

/-- The binary number nearest to one tenth, which is a little more. -/
def Value.binaryTenth : Value :=
  .float (.finite false 7205759403792794 (-56) (by decide))

/-- One tenth is less than the binary number nearest to it, which is less than a member of an
enumeration that is one. -/
theorem Operator.scalars_are_totally_ordered_tenths :
    Value.packedTenth.isOrderedScalar true ∧ Value.binaryTenth.isOrderedScalar true ∧
      (Value.intMember "Size" "ONE" 1).isOrderedScalar true ∧
      less.evaluate .packedTenth .binaryTenth = .ok true ∧
      equal.evaluate .packedTenth .binaryTenth = .ok false ∧
      greater.evaluate .packedTenth .binaryTenth = less.evaluate .binaryTenth .packedTenth ∧
      less.evaluate .packedTenth (.intMember "Size" "ONE" 1) = .ok true ∧
      ∃ value other, Value.packedTenth.magnitude? = some value ∧
        Value.binaryTenth.magnitude? = some other ∧ value < other := by
  have first : Value.packedTenth.isOrderedScalar true := by decide
  have second : Value.binaryTenth.isOrderedScalar true := by decide
  have third : (Value.intMember "Size" "ONE" 1).isOrderedScalar true := by decide
  have below : less.evaluate .packedTenth .binaryTenth = .ok true := by rfl
  obtain ⟨⟨isLess, isEqual, isGreater, isLessAnswer, isEqualAnswer, -, once⟩, mirrored, transitive,
    exact⟩ := scalars_are_totally_ordered true .packedTenth .binaryTenth
      (.intMember "Size" "ONE" 1) first second third
  obtain ⟨value, other, magnitude, magnitudeToo, isLessToo, -⟩ := exact rfl rfl
  rw [below, Except.ok.injEq] at isLessAnswer isLessToo
  subst isLessAnswer
  have notEqual : isEqual = false := by
    cases isEqual with
    | false => rfl
    | true => cases isGreater <;> cases once
  exact ⟨first, second, third, below, notEqual ▸ isEqualAnswer, mirrored,
    transitive below (by rfl), value, other, magnitude, magnitudeToo,
    decide_eq_true_iff.mp isLessToo.symm⟩

end DocFilter
