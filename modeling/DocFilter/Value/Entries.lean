/-
# Entries of mappings

Finding entries by their keys, and inserting them: a key that is there already keeps its place and
its written form and takes the new value. A value that can change, or that cannot be compared, is no
key, and no item of a set either.
-/

import DocFilter.Value.Equality

namespace DocFilter.Entries

mutual

/-- Whether a value can be a key. -/
def isKey : Value → Bool
  | .list _ | .mapping _ | .record _ | .object _ | .packed _ => false
  | .set frozen _ => frozen
  | .tuple items => areKeys items
  | .decimal (.notANumber _ signalling _) => !signalling
  | _ => true

/-- Whether all values can be keys. -/
def areKeys : List Value → Bool
  | [] => true
  | item :: items => isKey item && areKeys items

end

/-- A value that has to be a key. -/
def checkKey (key : Value) : Except Fault Unit :=
  if isKey key then return else throw .notKey

/-- The value under a key. -/
def find? (key : Value) (entries : List (Value × Value)) : Option Value :=
  (entries.find? fun entry => Value.isSameKey key entry.1).map (·.2)

/-- The value under a key that is a text. -/
def named? (name : String) (entries : List (Value × Value)) : Option Value :=
  (entries.find? fun entry => entry.1.text? == some name).map (·.2)

/-- The entries with a value under a key. -/
def insert (key value : Value) : List (Value × Value) → List (Value × Value)
  | [] => [(key, value)]
  | entry :: entries =>
    if Value.isSameKey key entry.1 then (entry.1, value) :: entries
    else entry :: insert key value entries

/-- The entries that are left when each key is inserted in turn. -/
def ofList (entries : List (Value × Value)) : List (Value × Value) :=
  entries.foldl (fun done entry => insert entry.1 entry.2 done) []

/-- A set of items, of which those that are the same key as an earlier one are left out. -/
def setOf (frozen : Bool) (items : List Value) : Value :=
  .set frozen ((ofList (items.map fun item => (item, .null))).map (·.1))

/-- The named values with a value under a name. -/
def put (name : String) (value : Value) : List (String × Value) → List (String × Value)
  | [] => [(name, value)]
  | entry :: entries =>
    if entry.1 = name then (name, value) :: entries else entry :: put name value entries

/-- The named values that are left when each name is inserted in turn. -/
def distinct (named : List (String × Value)) : List (String × Value) :=
  named.foldl (fun done entry => put entry.1 entry.2 done) []

/-- The entries that are left when each name is inserted in turn. -/
def ofNamed (named : List (String × Value)) : List (Value × Value) :=
  Value.fieldEntries (distinct named)

/-- What is under a name after it was given a value. -/
theorem lookup_put (name key : String) (value : Value) (named : List (String × Value)) :
    (put name value named).lookup key =
      if key = name then some value else named.lookup key := by
  induction named with
  | nil =>
    by_cases same : key = name
    · simp [put, same]
    · have differs : (key == name) = false := by simpa using same
      simp [put, List.lookup_cons, same, differs]
  | cons entry entries ih =>
    obtain ⟨first, old⟩ := entry
    by_cases isFirst : first = name
    · subst isFirst
      by_cases same : key = first
      · simp [put, same]
      · have differs : (key == first) = false := by simpa using same
        simp [put, List.lookup_cons, same, differs]
    · by_cases same : key = first
      · subst same
        simp [put, isFirst]
      · have differs : (key == first) = false := by simpa using same
        simp [put, List.lookup_cons, isFirst, differs, ih]

end DocFilter.Entries
