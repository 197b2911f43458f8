/-
# Clauses

A clause is one comparison: a path to a field, and a keyword that says what is asked of it. A
clause may carry a tag that is no keyword, which is refused only when the clause is compiled.
Clauses come in groups, of which at least one has to hold; within a group all clauses have to.
-/

import DocFilter.Keyword
import DocFilter.Path
import DocFilter.Value.Display

namespace DocFilter

open Text

/-- How the path of a clause is written: with dots, or as a list or tuple of its keys. -/
inductive PathForm
  | dotted (text : String)
  | segments (tuple : Bool) (segments : List String)
  deriving DecidableEq, Repr

namespace PathForm

/-- The keys of a path. -/
def keys : PathForm → List String
  | .dotted text => Path.segments text
  | .segments _ keys => keys

/-- The path as it was written. -/
def display : PathForm → String
  | .dotted text => Quoted.text text
  | .segments tuple keys =>
    let items := keys.map Quoted.text
    if tuple then Value.displayTuple items else Value.displayItems "[" "]" items

end PathForm

/-- What a clause asks of its field. -/
inductive Comparison
  | known (keyword : Keyword)
  | unknown (tag : Value)

namespace Comparison

/-- The comparison that a tag names. -/
def ofTag (tag : Value) : Comparison :=
  match tag.text?.bind Keyword.ofWord? with
  | some keyword => .known keyword
  | none => .unknown tag

/-- The tag of a comparison. -/
def tag : Comparison → Value
  | .known keyword => .text keyword.word
  | .unknown tag => tag

/-- How many values a comparison takes; an unknown one takes none that are known. -/
def arity? : Comparison → Option Nat
  | .known keyword => some keyword.arity
  | .unknown _ => none

/-- Whether two comparisons are the same: keywords and texts by their words, other tags by their
equality. -/
def equal (left right : Comparison) : Except Fault Bool :=
  left.tag.equal right.tag

end Comparison

/-- Whether keys make up a path: there is one at least, and none is empty. -/
def IsPath (keys : List String) : Prop :=
  keys ≠ [] ∧ ∀ key ∈ keys, key ≠ ""

instance (keys : List String) : Decidable (IsPath keys) := by
  unfold IsPath
  infer_instance

/-- One comparison of a field. -/
structure Clause where
  path : List String
  comparison : Comparison
  isPath : IsPath path

namespace Clause

/-- The clause on a written path; the path has to have keys, and none of them empty. -/
def make (path : PathForm) (tag : Value) : Except Fault Clause :=
  if isPath : IsPath path.keys then return ⟨path.keys, .ofTag tag, isPath⟩
  else
    throw <| .query <| .invalidClause
      ("Clause path must have non-empty segments: " ++ path.display) (some (Path.write path.keys))

/-- The field that a clause is about. -/
def field (clause : Clause) : String :=
  Path.write clause.path

/-- How many values a clause takes. -/
def arity? (clause : Clause) : Option Nat :=
  clause.comparison.arity?

/-- Whether two clauses ask the same of the same path. -/
def equal (left right : Clause) : Except Fault Bool :=
  if left.path = right.path then left.comparison.equal right.comparison else return false

end Clause

/-- How a clause is asked for: a path and the tag of its comparison. -/
structure ClauseForm where
  path : PathForm
  tag : Value := .text Keyword.equals.word

namespace ClauseForm

/-- The form of a clause on a path with dots, which is cut into its keys. -/
def ofDotted (path : String) (tag : Value) : ClauseForm :=
  ⟨.segments true (Path.segments path), tag⟩

/-- The clause that is asked for. -/
def build (form : ClauseForm) : Except Fault Clause :=
  Clause.make form.path form.tag

/-- A form asks for the one clause that has its keys and the comparison of its tag. That there is
such a clause is what makes the form acceptable. -/
theorem build_eq_ok_iff {form : ClauseForm} {clause : Clause} :
    form.build = .ok clause ↔
      clause.path = form.path.keys ∧ clause.comparison = .ofTag form.tag := by
  constructor
  · intro built
    rw [build, Clause.make] at built
    split at built
    · cases built
      exact ⟨rfl, rfl⟩
    · cases built
  · obtain ⟨path, comparison, isPath⟩ := clause
    rintro ⟨rfl, rfl⟩
    rw [build, Clause.make, dif_pos isPath]
    rfl

/-- A form is refused just if its keys make up no path, with an error that shows how it was written
and names the written form of its keys. -/
theorem build_eq_error_iff {form : ClauseForm} {fault : Fault} :
    form.build = .error fault ↔ ¬ IsPath form.path.keys ∧
      fault = .query (.invalidClause
        ("Clause path must have non-empty segments: " ++ form.path.display)
        (some (Path.write form.path.keys))) := by
  constructor
  · intro refused
    rw [build, Clause.make] at refused
    split at refused
    · cases refused
    · next noPath =>
      cases refused
      exact ⟨noPath, rfl⟩
  · rintro ⟨noPath, rfl⟩
    rw [build, Clause.make, dif_neg noPath]
    rfl

end ClauseForm

/-- Clauses all of which have to hold; there is at least one. -/
structure ClauseGroup where
  first : Clause
  others : List Clause

namespace ClauseGroup

/-- The clauses of a group in order. -/
def clauses (group : ClauseGroup) : List Clause :=
  group.first :: group.others

end ClauseGroup

/-- Groups of clauses one of which has to hold. -/
structure Criteria where
  groups : List ClauseGroup

namespace Criteria

/-- The groups from an index on, none of which may be empty. -/
def groupsFrom : Nat → List (List Clause) → Except Fault (List ClauseGroup)
  | _, [] => return []
  | index, [] :: _ =>
    throw <| .query <| .invalidClause
      ("AND-group " ++ Numeral.decimal index ++ " is empty")
      (some ("groups[" ++ Numeral.decimal index ++ "]"))
  | index, (first :: others) :: groups => do
    return ⟨first, others⟩ :: (← groupsFrom (index + 1) groups)

/-- The criteria of lists of clauses. -/
def ofLists (groups : List (List Clause)) : Except Fault Criteria := do
  return ⟨← groupsFrom 0 groups⟩

/-- The criteria that lists of forms ask for. All clauses are built before the groups are. -/
def ofForms (groups : List (List ClauseForm)) : Except Fault Criteria := do
  ofLists (← groups.mapM fun group => group.mapM ClauseForm.build)

/-- All clauses in order. -/
def clauses (criteria : Criteria) : List Clause :=
  criteria.groups.flatMap ClauseGroup.clauses

/-- How many values all clauses with known comparisons take. -/
def totalArity (criteria : Criteria) : Nat :=
  criteria.clauses.foldr (fun clause total => clause.arity?.getD 0 + total) 0

end Criteria

end DocFilter
