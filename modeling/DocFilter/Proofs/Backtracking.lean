/-
# Backtracking decides

A matcher that is given the rest of the work as a continuation is right if each of its steps is: if
the work tells of every spot whether the text after it has a property, then a step before the work
tells whether the text begins with something that leads to the property. A run of characters tries
its ends in turn, and the work can say of each whether it is the right one. So no end is tried in
vain that matters, and a failed attempt leaves nothing behind as long as there are no groups.

Searching asks the same at one position after the other, so it tells whether the property holds of
some end of the text.
-/

import DocFilter.Pattern.Compiled

namespace DocFilter.Pattern

/-- The outcome is a match if something holds and a failure otherwise, and no group is marked. -/
def Outcome.Tells (outcome : Outcome) (holds : Prop) : Prop :=
  match outcome with
  | .matched after => after.marks = [] ∧ holds
  | .failed after => after.marks = [] ∧ ¬ holds

theorem Outcome.Tells.congr {outcome : Outcome} {holds other : Prop} (tells : outcome.Tells holds)
    (same : holds ↔ other) : outcome.Tells other := by
  cases outcome with
  | matched after => exact ⟨tells.1, same.mp tells.2⟩
  | failed after => exact ⟨tells.1, mt same.mpr tells.2⟩

/-- Wherever no group is marked, the work tells whether the text after a spot has a property. -/
def Decides (go : Work) (property : List Char → Prop) : Prop :=
  ∀ spot trail, trail.marks = [] → (go spot trail).Tells (property spot.rest)

variable {go : Work} {property other : List Char → Prop} {lead : Lead} {accepts : Char → Bool}

theorem Decides.congr (decides : Decides go property)
    (same : ∀ text, property text ↔ other text) : Decides go other :=
  fun spot trail unmarked => (decides spot trail unmarked).congr (same spot.rest)

/-! ## Steps -/

theorem decides_finish : Decides finish fun _ => True :=
  fun _ _ unmarked => ⟨unmarked, trivial⟩

/-- A step over a character needs one that is accepted. -/
theorem Decides.step (decides : Decides go property) (accepts : Char → Bool) :
    Decides (Pattern.step accepts go) fun text =>
      ∃ c rest, text = c :: rest ∧ accepts c ∧ property rest := by
  intro spot trail unmarked
  rw [Pattern.step]
  cases text : spot.rest with
  | nil => exact ⟨unmarked, by simp⟩
  | cons c rest =>
    by_cases accepted : accepts c
    · simp only [if_pos accepted]
      refine (decides (spot.past c rest) trail unmarked).congr ⟨fun there => ?_, ?_⟩
      · exact ⟨c, rest, rfl, accepted, there⟩
      · rintro ⟨_, _, ⟨⟩, -, there⟩
        exact there
    · simp only [if_neg accepted]
      refine ⟨unmarked, ?_⟩
      rintro ⟨_, _, ⟨⟩, passed, -⟩
      exact accepted passed

/-- Of several spots one is found from where the work succeeds, if there is any. -/
theorem Decides.firstOf (decides : Decides go property) (spots : List Spot) (trail : Trail)
    (unmarked : trail.marks = []) :
    (Pattern.firstOf false go spots trail).Tells (∃ spot ∈ spots, property spot.rest) := by
  induction spots generalizing trail with
  | nil => exact ⟨unmarked, by simp⟩
  | cons spot spots ih =>
    have first := decides spot (trail.at spot) unmarked
    rw [Pattern.firstOf]
    cases outcome : go spot (trail.at spot) with
    | matched after =>
      rw [outcome] at first
      exact ⟨first.1, spot, List.mem_cons_self, first.2⟩
    | failed after =>
      rw [outcome] at first
      -- The marks of the failed attempt are cut off to those from before it, which are none.
      have rewound : (after.rewound false trail).marks = [] := by
        show after.marks.take trail.marks.length = []
        rw [unmarked]
        rfl
      exact (ih (after.rewound false trail) rewound).congr (by simp [first.2])

theorem reach_none_cons (spot : Spot) (c : Char) (text : List Char) :
    Spot.reach accepts none spot (c :: text) =
      if accepts c then spot.past c text :: Spot.reach accepts none (spot.past c text) text
      else [] := by
  rw [Spot.reach]
  cases accepts c <;> rfl

/-- The ends of a run are where accepted characters lead to. -/
theorem exists_mem_reach_iff (spot : Spot) (text : List Char) :
    (property text ∨ ∃ reached ∈ Spot.reach accepts none spot text, property reached.rest) ↔
      ∃ run rest, text = run ++ rest ∧ (∀ c ∈ run, accepts c) ∧ property rest := by
  induction text generalizing spot with
  | nil =>
    constructor
    · rintro (here | ⟨_, ⟨⟩, _⟩)
      exact ⟨[], [], rfl, nofun, here⟩
    · rintro ⟨run, rest, whole, -, there⟩
      rw [(List.append_eq_nil_iff.mp whole.symm).2] at there
      exact .inl there
  | cons c text ih =>
    have runs : (∃ run rest, c :: text = run ++ rest ∧ (∀ c ∈ run, accepts c) ∧ property rest) ↔
        property (c :: text) ∨ accepts c ∧
          ∃ run rest, text = run ++ rest ∧ (∀ c ∈ run, accepts c) ∧ property rest := by
      constructor
      · rintro ⟨_ | ⟨first, run⟩, rest, whole, all, there⟩
        · cases whole
          exact .inl there
        · cases whole
          obtain ⟨accepted, all⟩ := List.forall_mem_cons.mp all
          exact .inr ⟨accepted, run, rest, rfl, all, there⟩
      · rintro (here | ⟨accepted, run, rest, rfl, all, there⟩)
        · exact ⟨[], _, rfl, nofun, here⟩
        · exact ⟨c :: run, rest, rfl, List.forall_mem_cons.mpr ⟨accepted, all⟩, there⟩
    rw [runs, ← ih (spot.past c text), reach_none_cons]
    by_cases accepted : accepts c
    · simp [accepted, Spot.past]
    · simp [accepted]

/-- What a pattern begins with is not in the way of what it needs. -/
def Lead.Allows (lead : Lead) (property : List Char → Prop) : Prop :=
  ∀ spot : Spot, property spot.rest → lead.admits spot

theorem Lead.Allows.admitsLiteral (allows : lead.Allows property) {spot : Spot}
    (holds : property spot.rest) : lead.admitsLiteral spot := by
  cases lead with
  | code point => exact allows spot holds
  | anything | set => rfl

/-- A run of any length, as long as possible at first, leads to where the work succeeds, if some run
does. -/
theorem Decides.single (decides : Decides go property) (allows : lead.Allows property)
    (accepts : Char → Bool) :
    Decides (Repetition.single .greedy 0 none accepts false false lead go) fun text =>
      ∃ run rest, text = run ++ rest ∧ (∀ c ∈ run, accepts c) ∧ property rest := by
  intro spot trail unmarked
  let ends := (spot :: Spot.reach accepts none spot spot.rest).reverse.filter lead.admitsLiteral
  have first : Repetition.single .greedy 0 none accepts false false lead go spot trail =
      Pattern.firstOf false go ends (trail.at spot) := by
    rw [Repetition.single, if_neg (Nat.not_lt_zero _)]
    rfl
  rw [first]
  refine ((decides.firstOf ends (trail.at spot) unmarked).congr ?_).congr
    (exists_mem_reach_iff spot spot.rest)
  constructor
  · rintro ⟨reached, member, there⟩
    rw [List.mem_filter, List.mem_reverse, List.mem_cons] at member
    rcases member.1 with rfl | member
    · exact .inl there
    · exact .inr ⟨reached, member, there⟩
  · rintro (here | ⟨reached, member, there⟩)
    · exact ⟨spot, by simp [ends, allows.admitsLiteral here], here⟩
    · exact ⟨reached, by simp [ends, member, allows.admitsLiteral there], there⟩

/-- In a sequence the first part goes on to the others, and knows what they begin with. -/
theorem run_ofSequence_cons (node : Node) (nodes : List Node) (inRound : Bool) (lead : Lead)
    (go : Work) :
    (Node.ofSequence (node :: nodes)).run inRound lead go =
      node.run inRound ((Node.ofSequence nodes).lead lead)
        ((Node.ofSequence nodes).run inRound lead go) := by
  cases nodes <;> rfl

theorem lead_ofSequence_cons (node : Node) (nodes : List Node) (lead : Lead) :
    (Node.ofSequence (node :: nodes)).lead lead =
      node.lead ((Node.ofSequence nodes).lead lead) := by
  cases nodes <;> rfl

/-! ## Searching -/

variable {node : Node}

/-- A search has found a match without groups if something holds, and nothing otherwise. -/
def FoundIf (found : Option Match) (holds : Prop) : Prop :=
  match found with
  | some found => found.marks = [] ∧ holds
  | none => ¬ holds

theorem FoundIf.congr {found : Option Match} {holds other : Prop} (foundIf : FoundIf found holds)
    (same : holds ↔ other) : FoundIf found other := by
  cases found with
  | some found => exact ⟨foundIf.1, same.mp foundIf.2⟩
  | none => exact mt same.mpr foundIf

theorem foundIf_matchAt (decides : Decides (node.run false .anything finish) property)
    (start : Spot) : FoundIf (node.matchAt false start) (property start.rest) := by
  have tells := decides start ⟨start, []⟩ rfl
  show FoundIf (match node.run false .anything finish start ⟨start, []⟩ with
    | .matched trail => some ⟨start, trail.reached, trail.marks⟩
    | .failed _ => none) _
  cases outcome : node.run false .anything finish start ⟨start, []⟩ with
  | matched after =>
    rw [outcome] at tells
    exact tells
  | failed after =>
    rw [outcome] at tells
    exact tells.2

/-- A search goes through all ends of a text. -/
theorem foundIf_searchFrom (decides : Decides (node.run false .anything finish) property)
    (spot : Spot) (text : List Char) (rest : spot.rest = text) :
    FoundIf (node.searchFrom false spot text)
      (∃ before after, text = before ++ after ∧ property after) := by
  induction text generalizing spot with
  | nil =>
    refine (foundIf_matchAt decides spot).congr ?_
    rw [rest]
    constructor
    · intro holds
      exact ⟨[], [], rfl, holds⟩
    · rintro ⟨before, after, whole, holds⟩
      rw [(List.append_eq_nil_iff.mp whole.symm).2] at holds
      exact holds
  | cons c text ih =>
    have ends : (∃ before after, c :: text = before ++ after ∧ property after) ↔
        property (c :: text) ∨ ∃ before after, text = before ++ after ∧ property after := by
      constructor
      · rintro ⟨_ | ⟨first, before⟩, after, whole, holds⟩
        · cases whole
          exact .inl holds
        · cases whole
          exact .inr ⟨before, after, rfl, holds⟩
      · rintro (holds | ⟨before, after, rfl, holds⟩)
        · exact ⟨[], _, rfl, holds⟩
        · exact ⟨c :: before, after, rfl, holds⟩
    have here := foundIf_matchAt decides spot
    rw [rest] at here
    rw [Node.searchFrom]
    cases first : node.matchAt false spot with
    | some found =>
      rw [first] at here
      exact ⟨here.1, ends.mpr (.inl here.2)⟩
    | none =>
      rw [first] at here
      refine (ih (spot.past c text) rfl).congr ?_
      rw [ends, or_iff_right here]

/-- Whether a pattern for texts occurs in a text has an answer: whether some end of the text has the
property that the pattern decides. -/
theorem exists_occursIn_eq_ok (written : String) (meaning : Meaning)
    (decides : Decides (meaning.node.run false .anything finish) property) (text : String) :
    ∃ answer, CompiledPattern.occursIn ⟨.text written, meaning⟩ text = .ok answer ∧
      (answer = true ↔ ∃ before after, text.toList = before ++ after ∧ property after) := by
  have found := foundIf_searchFrom decides (.first text.toList) text.toList rfl
  cases result : meaning.node.search text with
  | none =>
    rw [← Node.search, result] at found
    refine ⟨false, ?_, iff_of_false Bool.false_ne_true found⟩
    simp only [CompiledPattern.occursIn, CompiledPattern.forTexts, pure_bind, result]
    rfl
  | some first =>
    rw [← Node.search, result] at found
    refine ⟨true, ?_, iff_of_true rfl found.2⟩
    simp only [CompiledPattern.occursIn, CompiledPattern.forTexts, pure_bind, result, found.1]
    rfl

end DocFilter.Pattern
