/-
# Filters

A finished filter is a mapping that can be read, shown and compared, and that documents match or
do not. It cannot be changed: it is made of copies, and what is read from it is a copy.
-/

import DocFilter.Matching
import DocFilter.Value.Copied
import DocFilter.Value.Display

namespace DocFilter

/-- A finished filter. -/
structure Filter where
  entries : List (Value × Value) := []

namespace Filter

/-- The filter of entries. -/
def ofEntries (entries : List (Value × Value)) : Filter :=
  ⟨Value.copiedEntries entries⟩

/-- The filter of a value that has been compiled; only mappings have entries. -/
def ofValue : Value → Filter
  | .mapping entries => ofEntries entries
  | _ => {}

/-- The entry that a pair of a key and a value is. -/
def pair (element : Value) : Except Fault (Value × Value) :=
  match element.elements? with
  | some [key, value] => do
    Entries.checkKey key
    return (key, value)
  | some _ => throw .notPair
  | none => throw .notIterable

/-- The filter that is made of a value: a mapping, or pairs of keys and values, the later of which
win over the earlier ones. What counts as false makes the filter that asks for nothing. -/
def make (value : Value) : Except Fault Filter :=
  if !value.truthy then return {}
  else
    match value with
    | .mapping entries => return ofEntries entries
    | value =>
      if value.hasAttribute "keys" then throw .notOperation
      else
        match value.elements? with
        | some elements => do return ofEntries (Entries.ofList (← elements.mapM pair))
        | none => throw .notIterable

/-- The filter as a mapping. -/
def toValue (filter : Filter) : Value :=
  .mapping filter.entries

/-- The value under a key, if there is one. -/
def find? (filter : Filter) (key : Value) : Except Fault (Option Value) := do
  Entries.checkKey key
  return Entries.find? key filter.entries

/-- The value under a key. -/
def get (filter : Filter) (key : Value) : Except Fault Value := do
  match ← filter.find? key with
  | some value => return value
  | none => throw .missingKey

/-- The value under a key, or a default. -/
def getD (filter : Filter) (key fallback : Value) : Except Fault Value := do
  return (← filter.find? key).getD fallback

/-- Whether there is an entry under a key. -/
def contains (filter : Filter) (key : Value) : Except Fault Bool := do
  return (← filter.find? key).isSome

/-- All keys in order. -/
def keys (filter : Filter) : List Value :=
  filter.entries.map (·.1)

/-- How many entries there are. -/
def size (filter : Filter) : Nat :=
  filter.entries.length

/-- The text that shows the filter. -/
def display (filter : Filter) : String :=
  callText "FilterExpression" [filter.toValue.display]

/-- Whether the filter equals a mapping; it equals nothing else. -/
def equal (filter : Filter) : Value → Except Fault Bool
  | .mapping entries => filter.toValue.equal (.mapping entries)
  | _ => return false

/-- Whether a document matches the filter. -/
def matchesDocument (filter : Filter) (document : Value) : Except Fault Bool :=
  Matching.matchesQuery .standard document filter.toValue

/-- Filters take no entries. -/
def assign (_filter : Filter) (_key _value : Value) : Except Fault Filter :=
  throw .notAssignable

/-- The filter after an entry has been written into what was read from it, which is a copy: the
whole filter, or the value under a key. Only mappings take entries. -/
def assignInCopy (filter : Filter) (key : Option Value) : Except Fault Filter := do
  let read ← key.elim (return filter.toValue) filter.get
  match read with
  | .mapping _ => return filter
  | _ => throw .notAssignable

end Filter

end DocFilter
