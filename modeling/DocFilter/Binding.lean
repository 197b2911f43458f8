/-
# Binding values

The values for the clauses of a query come in one list and are taken from its front, each once. A
value goes through a converter, and what is bound is found in a slot of what the converter wrote.
-/

import DocFilter.Value.Stored

namespace DocFilter

open Text

/-- Values in order, with how many have been taken. -/
structure Arguments where
  consumed : Nat := 0
  rest : List Value

namespace Arguments

/-- How many values are left. -/
def remaining (arguments : Arguments) : Nat :=
  arguments.rest.length

/-- The text that shows how far the values have been taken. -/
def display (arguments : Arguments) : String :=
  "ParameterCursor(consumed=" ++ Numeral.decimal arguments.consumed ++ ", remaining=" ++
    Numeral.decimal arguments.remaining ++ ")"

/-- Takes the next value, for a field if one is named. -/
def next (arguments : Arguments) (field : Option String) : Except Fault (Value × Arguments) :=
  match arguments.rest with
  | [] => throw (.query (.valuesExhausted arguments.consumed field))
  | value :: rest => return (value, ⟨arguments.consumed + 1, rest⟩)

end Arguments

/-- What writes a value down. It is given the values it was asked for before, so that its answer may
depend on them. The answer is a value and stays as it was given: no later call changes it. The
results on schedules and on steps that fail rely on that. -/
abbrev Converter := List Value → Value → Except Fault Value

namespace Converter

/-- The name of the slot that holds a written value. -/
def slot : String := "value"

/-- The converter that answers by the value alone. -/
def stateless (convert : Value → Except Fault Value) : Converter :=
  fun _ value => convert value

/-- The converter that writes a mapping with the stored form of the value in its slot. -/
def document : Converter :=
  stateless fun value => do return .mapping [(.text slot, ← value.stored)]

/-- What is in the slot of a written value. Mappings, records, objects and members of enumerations
have one; where there is none, nothing is bound. -/
def read : Value → Value
  | .mapping entries => (Entries.named? slot entries).getD .null
  | .record fields | .object fields => (fields.lookup slot).getD .null
  | .member _ _ value _ => value
  | .textMember _ _ text => .text text
  | .intMember _ _ number => .int number
  | _ => .null

end Converter

/-- The state of binding: the values, and those that a converter has been asked for. -/
structure Binding where
  arguments : Arguments
  calls : List Value := []

/-- The binding of values of which none has been taken. -/
def Binding.ofValues (values : List Value) : Binding :=
  ⟨⟨0, values⟩, []⟩

/-- A step that binds values. What it has taken stays taken when it fails. -/
abbrev Binder := ExceptT Fault (StateM Binding)

namespace Binder

/-- Takes the next value for a field, if one is named. -/
def next (field : Option String) : Binder Value :=
  ExceptT.mk fun binding =>
    match binding.arguments.next field with
    | .ok (value, arguments) => (.ok value, { binding with arguments := arguments })
    | .error fault => (.error fault, binding)

/-- Takes the next value for a field and converts it. The converter has been asked for the value
even if it refuses it. -/
def nextConverted (converter : Converter) (field : String) : Binder Value :=
  ExceptT.mk fun binding =>
    match binding.arguments.next (some field) with
    | .ok (value, arguments) =>
      ((converter binding.calls value).map Converter.read,
        { arguments := arguments, calls := binding.calls ++ [value] })
    | .error fault => (.error fault, binding)

/-- With no value left nothing is taken and the converter is not asked. -/
theorem nextConverted_nil (converter : Converter) (field : String) (consumed : Nat)
    (calls : List Value) :
    (nextConverted converter field).run.run ⟨⟨consumed, []⟩, calls⟩ =
      (.error (.query (.valuesExhausted consumed (some field))), ⟨⟨consumed, []⟩, calls⟩) :=
  rfl

/-- Otherwise one value is taken and the converter is asked for it. -/
theorem nextConverted_cons (converter : Converter) (field : String) (consumed : Nat)
    (calls : List Value) (value : Value) (rest : List Value) :
    (nextConverted converter field).run.run ⟨⟨consumed, value :: rest⟩, calls⟩ =
      ((converter calls value).map Converter.read,
        ⟨⟨consumed + 1, rest⟩, calls ++ [value]⟩) :=
  rfl

end Binder

end DocFilter
