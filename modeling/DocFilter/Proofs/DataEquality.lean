/-
# Equality of data

Since data is equal just if it means the same, equality of a field and an operand is an equivalence
relation on all plain data, and no order of entries makes a difference at any depth.

It is not compositional. Inside lists and mappings the rules of fields and operands end and plain
equality holds, which takes truth values for numbers and packed decimals for nothing but themselves.
So equal fields can hold unequal items, and unequal fields equal ones, but only where a packed
decimal stands, or a truth value faces a number.
-/

import DocFilter.Proofs.Meaning

namespace DocFilter

open Binder (outcome)

namespace Value

/-! ## An equivalence relation -/

/-- The entries of one mapping somewhere in a value are put into another order. -/
inductive Reordered : Value → Value → Prop
  | entries {entries others : List (Value × Value)} (order : entries.Perm others) :
    Reordered (.mapping entries) (.mapping others)
  | inList (before : List Value) {value other : Value} (after : List Value)
      (inside : Reordered value other) :
    Reordered (.list (before ++ value :: after)) (.list (before ++ other :: after))
  | inTuple (before : List Value) {value other : Value} (after : List Value)
      (inside : Reordered value other) :
    Reordered (.tuple (before ++ value :: after)) (.tuple (before ++ other :: after))
  | inMapping (before : List (Value × Value)) {key value other : Value}
      (after : List (Value × Value)) (inside : Reordered value other) :
    Reordered (.mapping (before ++ (key, value) :: after))
      (.mapping (before ++ (key, other) :: after))

section Replacing

variable {test : Value → Bool} {value other : Value}

/-- Items keep a test if one of them is replaced by a value that keeps it. -/
theorem everyItem_replace {before after : List Value}
    (replaced : value.everyPart test → other.everyPart test)
    (all : everyItem test (before ++ value :: after)) :
    everyItem test (before ++ other :: after) := by
  rw [everyItem_iff] at all ⊢
  simp only [List.forall_mem_append, List.forall_mem_cons] at all ⊢
  exact ⟨all.1, replaced all.2.1, all.2.2⟩

/-- Items mean the same if one of them is replaced by a value that means the same. -/
theorem innerMeanings_replace (before after : List Value)
    (same : value.innerMeaning = other.innerMeaning) :
    innerMeanings (before ++ value :: after) = innerMeanings (before ++ other :: after) := by
  simp only [innerMeanings_eq_map, List.map_append, List.map_cons, same]

/-- Entries mean the same if the value of one of them is replaced by one that means the same. -/
theorem innerMeaningUnder_replace (before after : List (Value × Value)) (key : Value)
    (same : value.innerMeaning = other.innerMeaning) :
    innerMeaningUnder (before ++ (key, value) :: after) =
      innerMeaningUnder (before ++ (key, other) :: after) := by
  funext name
  induction before with
  | nil => simp only [List.nil_append, innerMeaningUnder, same]
  | cons first before ih =>
    obtain ⟨firstKey, firstValue⟩ := first
    simp only [List.cons_append, innerMeaningUnder, ih]

end Replacing

/-- Entries under different names mean the same in any order. -/
theorem innerMeaningUnder_perm {entries others : List (Value × Value)}
    (isDatum : (mapping entries).isDatum) (isDatumToo : (mapping others).isDatum)
    (order : entries.Perm others) : innerMeaningUnder entries = innerMeaningUnder others := by
  obtain ⟨named, rfl, different⟩ := exists_named_of_isDatum isDatum
  obtain ⟨renamed, rfl, differentToo⟩ := exists_named_of_isDatum isDatumToo
  have sizes : named.length = renamed.length := by
    simpa only [fieldEntries, List.length_map] using order.length_eq
  have kept : ∀ field ∈ named, field ∈ renamed := by
    intro field member
    have moved : (text field.1, field.2) ∈ fieldEntries renamed :=
      order.subset (List.mem_map_of_mem (f := fun field => (text field.1, field.2)) member)
    obtain ⟨other, found, same⟩ := List.mem_map.mp moved
    obtain ⟨name, value⟩ := field
    cases same
    exact found
  funext name
  rw [innerMeaningUnder_fieldEntries, innerMeaningUnder_fieldEntries]
  revert name
  rw [lookup_eq_iff different sizes]
  intro field member
  rw [lookup_eq_some_of_mem differentToo (kept field member), Option.map_some]

/-- Data in which entries are put into another order is data, and means the same. -/
theorem Reordered.everyPart_isDatum_and_innerMeaning_eq {value other : Value}
    (reordered : Reordered value other) (isData : value.everyPart isDatum) :
    other.everyPart isDatum ∧ value.innerMeaning = other.innerMeaning := by
  induction reordered with
  | @entries entries others order =>
    obtain ⟨own, values⟩ := Bool.and_eq_true_iff.mp isData
    have isDatumToo : (mapping others).isDatum := by
      obtain ⟨texts, different⟩ := Bool.and_eq_true_iff.mp own
      refine Bool.and_eq_true_iff.mpr ⟨order.all_eq ▸ texts, decide_eq_true ?_⟩
      exact (order.map _).nodup_iff.mp (of_decide_eq_true different)
    refine ⟨Bool.and_eq_true_iff.mpr ⟨isDatumToo, ?_⟩, ?_⟩
    · rw [everyEntry_iff] at values ⊢
      exact fun entry member => values entry (order.symm.subset member)
    · exact congrArg Meaning.mapping (innerMeaningUnder_perm own isDatumToo order)
  | inList before after _ ih =>
    have items := (Bool.and_eq_true_iff.mp isData).2
    have inside := everyItem_iff.mp items _ (List.mem_append_right before List.mem_cons_self)
    refine ⟨everyItem_replace (fun isData => (ih isData).1) items, ?_⟩
    exact congrArg Meaning.list (innerMeanings_replace before after (ih inside).2)
  | inTuple before after _ ih =>
    have items := (Bool.and_eq_true_iff.mp isData).2
    have inside := everyItem_iff.mp items _ (List.mem_append_right before List.mem_cons_self)
    refine ⟨everyItem_replace (fun isData => (ih isData).1) items, ?_⟩
    exact congrArg Meaning.tuple (innerMeanings_replace before after (ih inside).2)
  | @inMapping before key value other after _ ih =>
    obtain ⟨own, values⟩ := Bool.and_eq_true_iff.mp isData
    rw [everyEntry_iff] at values
    simp only [List.forall_mem_append, List.forall_mem_cons] at values
    obtain ⟨early, inside, late⟩ := values
    refine ⟨Bool.and_eq_true_iff.mpr ⟨?_, everyEntry_iff.mpr ?_⟩, ?_⟩
    · simpa only [isDatum, List.all_append, List.all_cons, List.map_append, List.map_cons] using own
    · simp only [List.forall_mem_append, List.forall_mem_cons]
      exact ⟨early, (ih inside).1, late⟩
    · exact congrArg Meaning.mapping (innerMeaningUnder_replace before after key (ih inside).2)

/-- Reordering any number of times changes neither of the meanings of data. -/
theorem everyPart_isDatum_and_meaning_eq {value other : Value}
    (reordered : Relation.ReflTransGen Reordered value other)
    (isData : value.everyPart isDatum) :
    other.everyPart isDatum ∧ value.meaning = other.meaning := by
  induction reordered with
  | refl => exact ⟨isData, rfl⟩
  | tail _ step ih =>
    obtain ⟨isDataThere, same⟩ := ih
    obtain ⟨isDataHere, inner⟩ := step.everyPart_isDatum_and_innerMeaning_eq isDataThere
    refine ⟨isDataHere, same.trans ?_⟩
    -- Only values with parts are reordered, and these have one meaning.
    cases step <;> exact inner

/-- On all plain data, however it is nested, equality of a field and an operand always has an
answer. Data equals itself, equality is the same in both directions, and what equals one value
equals all that this one equals. Entries of mappings can be put into another order at any depth, any
number of times, and no answer changes. -/
theorem meets_is_equivalence (x y z : Value) (xIsData : x.everyPart isDatum)
    (yIsData : y.everyPart isDatum) (zIsData : z.everyPart isDatum) :
    x.meets x = .ok true ∧
    (∃ answer, x.meets y = .ok answer ∧ y.meets x = .ok answer) ∧
    (x.meets y = .ok true → y.meets z = .ok true → x.meets z = .ok true) ∧
    (∀ other, Relation.ReflTransGen Reordered x other →
      x.meets other = .ok true ∧ other.meets y = x.meets y ∧ y.meets other = y.meets x) := by
  have toY := meets_tells xIsData yIsData
  have fromY := meets_tells yIsData xIsData
  have symmetric : y.meets x = x.meets y := fromY.eq_of_iff toY eq_comm
  refine ⟨(meets_tells xIsData xIsData).eq_true_iff.mpr rfl, ?_, ?_, ?_⟩
  · obtain ⟨answer, answered, -⟩ := toY
    exact ⟨answer, answered, symmetric.trans answered⟩
  · rw [toY.eq_true_iff, (meets_tells yIsData zIsData).eq_true_iff,
      (meets_tells xIsData zIsData).eq_true_iff]
    exact Eq.trans
  · intro other reordered
    obtain ⟨isData, same⟩ := everyPart_isDatum_and_meaning_eq reordered xIsData
    refine ⟨(meets_tells xIsData isData).eq_true_iff.mpr same, ?_, ?_⟩
    · exact (meets_tells isData yIsData).eq_of_iff toY (by rw [same])
    · exact (meets_tells yIsData isData).eq_of_iff fromY (by rw [same])

/-- A mapping of a moment and of a list, in which there is a mapping again. -/
def parcel : Value :=
  .mapping [(.text "sent", .moment (.ofDate ⟨2024, 5, 1⟩)),
    (.text "sizes", .list [.mapping [(.text "low", .int 1), (.text "high", .tuple [.null])]])]

/-- The same parcel with its entries in another order, and a number written in another way. -/
def parcelAgain : Value :=
  .mapping [(.text "sizes", .list [.mapping [(.text "high", .tuple [.null]),
    (.text "low", .decimal (.finite false 10 (-1)))]]),
    (.text "sent", .moment (.ofDate ⟨2024, 5, 1⟩))]

/-- A parcel with the entries of the mapping inside it in another order. -/
def parcelReordered : Value :=
  .mapping [(.text "sent", .moment (.ofDate ⟨2024, 5, 1⟩)),
    (.text "sizes", .list [.mapping [(.text "high", .tuple [.null]), (.text "low", .int 1)]])]

/-- A parcel equals itself written in another way, in both directions and in whatever order its
entries stand. -/
theorem meets_is_equivalence_parcel :
    parcel.everyPart isDatum ∧ parcelAgain.everyPart isDatum ∧
      Relation.ReflTransGen Reordered parcel parcelReordered ∧
      parcel.meets parcelAgain = .ok true ∧ parcelAgain.meets parcel = .ok true ∧
      parcelReordered.meets parcelAgain = .ok true := by
  have isData : parcel.everyPart isDatum := by decide
  have isDataToo : parcelAgain.everyPart isDatum := by decide
  have reordered : Relation.ReflTransGen Reordered parcel parcelReordered :=
    .single (.inMapping [_] [] (.inList [] [] (.entries (.swap _ _ []))))
  have same : parcel.meets parcelAgain = .ok true := by rfl
  obtain ⟨-, ⟨answer, answered, converse⟩, -, anyOrder⟩ :=
    meets_is_equivalence parcel parcelAgain parcel isData isDataToo isData
  rw [same, Except.ok.injEq] at answered
  exact ⟨isData, isDataToo, reordered, same, answered ▸ converse,
    (anyOrder parcelReordered reordered).2.1.trans same⟩

/-! ## Parts that are compared plainly -/

/-- Whether a value is a packed decimal. -/
def isPacked : Value → Bool
  | .packed _ => true
  | _ => false

/-- Whether two values can compare differently inside others than they do alone: one of them is a
packed decimal, or a truth value faces a number. -/
def canDifferInside (left right : Value) : Bool :=
  left.isPacked || right.isPacked || (left.bracket == "bool" && right.bracket == "number") ||
    (left.bracket == "number" && right.bracket == "bool")

/-- Plain equality of data tells whether the data means the same inside other data. -/
theorem equal_tells {left right : Value} (isData : left.everyPart isDatum)
    (isDataToo : right.everyPart isDatum) :
    Tells (left.equal right) (left.innerMeaning = right.innerMeaning) :=
  equalByMeaning_of_data isData right isDataToo true

/-- Items mean the same just if they are equally many and equal one by one. -/
theorem innerMeanings_eq_iff {items others : List Value} (isData : everyItem isDatum items)
    (isDataToo : everyItem isDatum others) :
    innerMeanings items = innerMeanings others ↔
      List.Forall₂ (fun item other => item.equal other = .ok true) items others := by
  induction items generalizing others with
  | nil => cases others <;> simp [innerMeanings]
  | cons item items ih =>
    cases others with
    | nil => simp [innerMeanings]
    | cons other others =>
      obtain ⟨first, rest⟩ := Bool.and_eq_true_iff.mp isData
      obtain ⟨firstToo, restToo⟩ := Bool.and_eq_true_iff.mp isDataToo
      rw [innerMeanings, innerMeanings, List.cons.injEq, List.forall₂_cons, ih rest restToo,
        (equal_tells first firstToo).eq_true_iff]

/-- The same stands under each name just if values under one name are equal. -/
theorem map_innerMeaning_eq_iff {named others : List (String × Value)}
    (isData : ∀ field ∈ named, field.2.everyPart isDatum)
    (isDataToo : ∀ field ∈ others, field.2.everyPart isDatum) (name : String) :
    (named.lookup name).map innerMeaning = (others.lookup name).map innerMeaning ↔
      Option.Rel (fun value other => value.equal other = .ok true) (named.lookup name)
        (others.lookup name) := by
  cases found : named.lookup name with
  | none => cases others.lookup name <;> simp
  | some value =>
    cases foundToo : others.lookup name with
    | none => simp
    | some other =>
      have tells := equal_tells (isData _ (mem_of_lookup_eq_some found))
        (isDataToo _ (mem_of_lookup_eq_some foundToo))
      rw [Option.map_some, Option.map_some, Option.some.injEq, Option.rel_some_some,
        tells.eq_true_iff]

/-- Inside other data a truth value is in the bracket of numbers. -/
theorem bracket_innerMeaning {value : Value} (isData : value.everyPart isDatum) :
    value.innerMeaning.bracket = if value.bracket = "bool" then "number" else value.bracket := by
  cases value with
  | date | pattern | set | member | textMember | intMember | record | object | absent
  | stranger => cases isData
  | _ => simp [bracket, innerMeaning, Meaning.bracket]

theorem normalized_of_isPacked_eq_false {value : Value} (plain : value.isPacked = false) :
    value.normalized = value := by
  cases value <;> first | rfl | cases plain

/-- Where values cannot differ inside others they mean the same there just if they do alone. -/
theorem innerMeaning_eq_iff_meaning_eq {left right : Value} (isData : left.everyPart isDatum)
    (isDataToo : right.everyPart isDatum) (alike : left.canDifferInside right = false) :
    left.innerMeaning = right.innerMeaning ↔ left.meaning = right.meaning := by
  simp only [canDifferInside, Bool.or_eq_false_iff, Bool.and_eq_false_iff] at alike
  obtain ⟨⟨⟨plain, plainToo⟩, noTruth⟩, noTruthToo⟩ := alike
  by_cases same : left.bracket = right.bracket
  · have iff := innerMeaning_normalized_eq_iff isData isDataToo same
    rwa [normalized_of_isPacked_eq_false plain, normalized_of_isPacked_eq_false plainToo] at iff
  · refine iff_of_false (fun inner => ?_) fun alone => ?_
    · have brackets := congrArg Meaning.bracket inner
      rw [bracket_innerMeaning isData, bracket_innerMeaning isDataToo] at brackets
      grind
    · rw [← bracket_meaning isData, ← bracket_meaning isDataToo, alone] at same
      exact same rfl

/-- A packed decimal means nothing but itself inside other data. -/
theorem innerMeaning_eq_packed_iff {value : Value} {packed : Packed} :
    value.innerMeaning = .packed packed ↔ value = .packed packed := by
  cases value <;> simp [innerMeaning]

/-- Lists are equal just if they are equally long and their items are equal one by one, and mappings
just if the same names are in both and the values under one name are equal. But these parts are
compared by plain equality. It agrees with equality of a field and an operand on all plain data,
unless a packed decimal stands somewhere or a truth value faces a number: inside other data a packed
decimal equals only itself, and a truth value is the number one or zero. -/
theorem parts_are_equal_plainly (left right : Value) (isData : left.everyPart isDatum)
    (isDataToo : right.everyPart isDatum) :
    (∀ items others, left = .list items → right = .list others →
      Tells (left.meets right)
        (List.Forall₂ (fun item other => item.equal other = .ok true) items others)) ∧
    (∀ named others, left = .mapping (fieldEntries named) →
      right = .mapping (fieldEntries others) →
      Tells (left.meets right) (∀ name, Option.Rel (fun value other => value.equal other = .ok true)
        (named.lookup name) (others.lookup name))) ∧
    (left.canDifferInside right = false → left.equal right = left.meets right) ∧
    (left.isPacked || right.isPacked → (left.equal right = .ok true ↔ left = right)) ∧
    (∀ answer, left = .bool answer →
      left.equal right = (Value.int (if answer then 1 else 0)).equal right) := by
  have tells := meets_tells isData isDataToo
  refine ⟨?_, ?_, ?_, ?_, ?_⟩
  · rintro items others rfl rfl
    refine tells.congr ?_
    rw [← innerMeanings_eq_iff (Bool.and_eq_true_iff.mp isData).2
      (Bool.and_eq_true_iff.mp isDataToo).2]
    simp only [meaning, innerMeaning, Meaning.list.injEq]
  · rintro named others rfl rfl
    refine tells.congr ?_
    simp only [← map_innerMeaning_eq_iff (everyPart_of_mem_fieldEntries isData)
      (everyPart_of_mem_fieldEntries isDataToo), meaning, innerMeaning, Meaning.mapping.injEq,
      funext_iff, innerMeaningUnder_fieldEntries]
  · intro alike
    exact (equal_tells isData isDataToo).eq_of_iff tells
      (innerMeaning_eq_iff_meaning_eq isData isDataToo alike)
  · intro some
    rw [(equal_tells isData isDataToo).eq_true_iff]
    rcases Bool.or_eq_true_iff.mp some with isPacked | isPacked
    · cases left with
      | packed packed => exact eq_comm.trans (innerMeaning_eq_packed_iff.trans eq_comm)
      | _ => cases isPacked
    · cases right with
      | packed packed => exact innerMeaning_eq_packed_iff
      | _ => cases isPacked
  · rintro answer rfl
    cases right <;> rfl

/-- Two lists are equal since their items are plainly equal, though the first ones, a truth value
and a number, are not equal alone. -/
theorem parts_are_equal_plainly_flags :
    ∃ flags numbers, flags = list [.bool true, .int 2] ∧
      numbers = list [.int 1, .decimal (.finite false 20 (-1))] ∧
      flags.everyPart isDatum ∧ numbers.everyPart isDatum ∧
      flags.meets numbers = .ok true ∧ flags.equal numbers = .ok true := by
  obtain ⟨items, -, plainly, -⟩ := parts_are_equal_plainly (list [.bool true, .int 2])
    (list [.int 1, .decimal (.finite false 20 (-1))]) (by decide) (by decide)
  have equal := (items _ _ rfl rfl).eq_true_iff.mpr (.cons rfl (.cons rfl .nil))
  exact ⟨_, _, rfl, rfl, by decide, by decide, equal, (plainly rfl).trans equal⟩

end Value

/-- A decimal equals what it is packed to, but a list of it does not equal the list of that, which
is what the document converter makes of the list: a document is not found by what it holds. And a
truth value does not equal a number, but a list of it does. -/
theorem Criteria.matchesDocument_prices :
    ∃ clause filter final number packed,
      (ClauseForm.ofDotted "prices" (.text "equals")).build = .ok clause ∧
      outcome ((⟨[⟨clause, []⟩]⟩ : Criteria).compile .document {})
        (.ofValues [.list [.decimal number]]) = (.ok filter, final) ∧
      (Value.list [.decimal number]).stored = .ok (.list [.packed packed]) ∧
      (Value.decimal number).meets (.packed packed) = .ok true ∧
      (Value.list [.decimal number]).meets (.list [.packed packed]) = .ok false ∧
      filter.matchesDocument (.mapping [(.text "prices", .list [.decimal number])]) = .ok false ∧
      (Value.bool true).meets (.int 1) = .ok false ∧
      (Value.list [.bool true]).meets (.list [.int 1]) = .ok true := by
  have isPath : IsPath ["prices"] := by decide
  refine ⟨⟨["prices"], .known .equals, isPath⟩, .ofValue (Draft.disjunctionOf
    [[⟨"prices", [("$eq", .list [.packed ⟨.finite false 999 (-2), by decide⟩])]⟩]]), _,
    .finite false 999 (-2), ⟨.finite false 999 (-2), by decide⟩, rfl, rfl, rfl, rfl, rfl, ?_, rfl,
    rfl⟩
  rw [Term.matchesDocument_alone (by decide), Term.holds_of_single ⟨.equals, rfl⟩]
  rfl

end DocFilter
