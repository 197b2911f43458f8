/-
# Alternatives of drafts

Drafts are worked on under names: a draft starts with a term, takes further terms into its group,
and takes the group of another draft as an alternative. Taking an alternative adds to what a draft
asks of documents just what the group of the other draft asks, tested after everything that was
there before.

The alternatives of the other draft are not taken along. As long as it has none, the draft asks for
either of the two. Otherwise it can ask for less: a document that only an alternative of the other
draft lets through is lost.
-/

import DocFilter.Proofs.Rendering
import DocFilter.Session

namespace DocFilter

open Matching

/-- One of several lists of queries has to match just if one of the first list does, or else one of
the second. -/
theorem Matching.matchesSome_append (registry : Registry) (document : Value)
    (first second : List Value) :
    matchesSome registry document (first ++ second) = (do
      if ← matchesSome registry document first then return true
      else matchesSome registry document second) := by
  induction first with
  | nil => rfl
  | cons query queries ih =>
    rw [List.cons_append, matchesSome, matchesSome, ih]
    cases matchesQuery registry document query with
    | error fault => rfl
    | ok satisfied => cases satisfied <;> rfl

theorem Matching.matchesSome_singleton (registry : Registry) (document query : Value) :
    matchesSome registry document [query] = matchesQuery registry document query := by
  rw [matchesSome, matchesSome]
  exact ShortCircuit.bind_ite_eq_self _

namespace Draft

variable (registry : Registry) (document : Value)

/-- A draft asks for its group or one of its alternatives, in this order. -/
theorem matchesQuery_filter (draft : Draft) :
    matchesQuery registry document draft.filter =
      matchesSome registry document (draft.conjunction :: draft.alternatives) := by
  rw [filter]
  cases alternatives : draft.alternatives with
  | nil => rw [List.isEmpty_nil, if_pos rfl, matchesSome_singleton]
  | cons alternative others =>
    rw [List.isEmpty_cons, if_neg Bool.false_ne_true, matchesQuery_anyKey]

/-- With one more alternative, a draft asks for what it asked for before or else for the group of
the other draft. -/
theorem matchesQuery_filter_or (draft other : Draft) :
    matchesQuery registry document (draft.or other).filter = (do
      if ← matchesQuery registry document draft.filter then return true
      else matchesQuery registry document other.conjunction) := by
  have split : (draft.or other).conjunction :: (draft.or other).alternatives =
      (draft.conjunction :: draft.alternatives) ++ [other.conjunction] := rfl
  rw [matchesQuery_filter, matchesQuery_filter, split, matchesSome_append, matchesSome_singleton]

/-- When a draft answers, its group answers, and the draft lets through what its group does. -/
theorem exists_matchesQuery_conjunction {draft : Draft} {answer : Bool}
    (answered : matchesQuery registry document draft.filter = .ok answer) :
    ∃ own, matchesQuery registry document draft.conjunction = .ok own ∧
      (own = true → answer = true) ∧ (draft.alternatives = [] → own = answer) := by
  rw [matchesQuery_filter, matchesSome] at answered
  cases result : matchesQuery registry document draft.conjunction with
  | error fault =>
    rw [result] at answered
    cases answered
  | ok own =>
    rw [result] at answered
    refine ⟨own, rfl, ?_, ?_⟩
    · rintro rfl
      cases answered
      rfl
    · intro none
      rw [none] at answered
      cases own <;> cases answered <;> rfl

end Draft

namespace Drafts

/-- A step of work on drafts. -/
inductive Step
  /-- Puts a draft that starts with a term under a name. -/
  | new (name : String) (term : Term)
  /-- Adds a term to the group of a draft. -/
  | and (name : String) (term : Term)
  /-- Adds the group of another draft as an alternative. -/
  | or (name other : String)

/-- The drafts after a step; drafts that a step works on have to be there. -/
def step (drafts : Drafts) : Step → Except Fault Drafts
  | .new name term => return drafts.put name { first := term }
  | .and name term => do return drafts.put name ((← drafts.get name).and term)
  | .or name other => do
    let base ← drafts.get name
    return drafts.put name (base.or (← drafts.get other))

/-- The drafts after steps in turn. -/
def run (steps : List Step) (drafts : Drafts) : Except Fault Drafts :=
  steps.foldlM step drafts

/-- After a draft has taken the group of another one as an alternative, a document on which both
answered matches it if it did before, or if it matches that group; so nothing is let through that
neither let through. If the other draft has no alternatives, a document matches just if it matched
one of the two. -/
theorem matchesQuery_or (registry : Registry) (document : Value) (drafts : Drafts)
    (name other : String) (base alternative : Draft) (answer otherAnswer : Bool)
    (isBase : drafts.get name = .ok base) (isOther : drafts.get other = .ok alternative)
    (answered : matchesQuery registry document base.filter = .ok answer)
    (otherAnswered : matchesQuery registry document alternative.filter = .ok otherAnswer) :
    ∃ next joined own, drafts.step (.or name other) = .ok next ∧
      next.get name = .ok joined ∧
      matchesQuery registry document alternative.conjunction = .ok own ∧
      matchesQuery registry document joined.filter = .ok (answer || own) ∧
      (own = true → otherAnswer = true) ∧
      (alternative.alternatives = [] → own = otherAnswer) := by
  obtain ⟨own, ownAnswered, within, alone⟩ :=
    Draft.exists_matchesQuery_conjunction registry document otherAnswered
  refine ⟨drafts.put name (base.or alternative), base.or alternative, own, ?_,
    get_put drafts name _, ownAnswered, ?_, within, alone⟩
  · rw [step, isBase, isOther]
    rfl
  · rw [Draft.matchesQuery_filter_or, answered, ownAnswered]
    cases answer <;> rfl

/-- Asking for a number. -/
def asking (number : Int) : Term :=
  ⟨"number", [("$eq", .int number)]⟩

/-- A draft that asks for one takes one that asks for two, and then asks for either. -/
theorem matchesQuery_or_oneTwo :
    ∃ drafts next base alternative joined,
      run [.new "a" (asking 1), .new "b" (asking 2)] {} = .ok drafts ∧
      drafts.get "a" = .ok base ∧ drafts.get "b" = .ok alternative ∧
      drafts.step (.or "a" "b") = .ok next ∧ next.get "a" = .ok joined ∧
      matchesQuery .standard (.mapping [(.text "number", .int 2)]) base.filter = .ok false ∧
      matchesQuery .standard (.mapping [(.text "number", .int 2)]) alternative.filter =
        .ok true ∧
      matchesQuery .standard (.mapping [(.text "number", .int 2)]) joined.filter = .ok true := by
  obtain ⟨next, joined, own, stepped, isJoined, -, met, -, alone⟩ :=
    matchesQuery_or .standard (.mapping [(.text "number", .int 2)])
      ⟨[("b", { first := asking 2 }), ("a", { first := asking 1 })]⟩ "a" "b" _ _ false true
      rfl rfl rfl rfl
  rw [alone rfl] at met
  exact ⟨_, next, _, _, joined, rfl, rfl, rfl, stepped, isJoined, rfl, rfl, met⟩

/-- If the other draft asks for two or else for three, three is lost. -/
theorem not_matchesQuery_or_oneTwoThree :
    ∃ drafts next base alternative joined,
      run [.new "a" (asking 1), .new "b" (asking 2), .new "c" (asking 3), .or "b" "c"] {} =
        .ok drafts ∧
      drafts.get "a" = .ok base ∧ drafts.get "b" = .ok alternative ∧
      drafts.step (.or "a" "b") = .ok next ∧ next.get "a" = .ok joined ∧
      matchesQuery .standard (.mapping [(.text "number", .int 3)]) base.filter = .ok false ∧
      matchesQuery .standard (.mapping [(.text "number", .int 3)]) alternative.filter =
        .ok true ∧
      matchesQuery .standard (.mapping [(.text "number", .int 3)]) joined.filter = .ok false :=
  ⟨_, _, _, _, _, rfl, rfl, rfl, rfl, rfl, rfl, rfl, rfl⟩

end Drafts

end DocFilter
