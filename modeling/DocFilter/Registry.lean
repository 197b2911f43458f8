/-
# Registries of operators

A registry knows operators by their names. Registering an operator under a name that is taken
replaces the earlier one.
-/

import DocFilter.Operator
import DocFilter.Value.Entries

namespace DocFilter

/-- The operators known by name. -/
structure Registry where
  operators : List Operator := []

namespace Registry

/-- The registry with an operator added or replaced. -/
def register (registry : Registry) (operator : Operator) : Registry :=
  ⟨registry.operators.filter (·.name != operator.name) ++ [operator]⟩

/-- The registry with several operators added in turn. -/
def registerAll (registry : Registry) (operators : List Operator) : Registry :=
  operators.foldl register registry

/-- The operator of a name. -/
def find? (registry : Registry) (name : String) : Option Operator :=
  registry.operators.find? (·.name == name)

/-- The operator that a key names, if there is one; a value that cannot be a key names none and is
at fault. -/
def named? (registry : Registry) (key : Value) : Except Fault (Option Operator) := do
  Entries.checkKey key
  return key.text?.bind registry.find?

/-- The names of all operators in rising order. -/
def names (registry : Registry) : List String :=
  QueryError.sorted (registry.operators.map (·.name))

/-- Tests a field with the operator that a key names. -/
def evaluate (registry : Registry) (key field operand : Value) : Except Fault Bool := do
  match ← registry.named? key with
  | some operator => operator.evaluate field operand
  | none => throw (.query (.unsupportedOperator key.plainText registry.names))

/-- The operators that compiled filters use. -/
def standard : Registry :=
  Registry.registerAll {} [.equal, .notEqual, .greater, .less, .regex]

/-- A condition under the name of an operator is tested with that operator. -/
theorem evaluate_text (registry : Registry) (name : String) (field operand : Value) :
    registry.evaluate (.text name) field operand =
      match registry.find? name with
      | some operator => operator.evaluate field operand
      | none => throw (.query (.unsupportedOperator name registry.names)) :=
  rfl

/-- A name that some operator has is found. -/
theorem exists_find?_eq_some {registry : Registry} {name : String}
    (known : name ∈ registry.operators.map Operator.name) :
    ∃ operator ∈ registry.operators, registry.find? name = some operator := by
  obtain ⟨own, member, rfl⟩ := List.mem_map.mp known
  have found : (registry.find? own.name).isSome :=
    List.find?_isSome.mpr ⟨own, member, beq_self_eq_true own.name⟩
  obtain ⟨operator, first⟩ := Option.isSome_iff_exists.mp found
  exact ⟨operator, List.mem_of_find?_eq_some first, first⟩

end Registry

end DocFilter
