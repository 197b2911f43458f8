/-
# Matching documents

A query is a mapping, and a document matches it if it satisfies every entry. An entry under a
logical key holds queries of which all, or at least one, have to match. Any other key is a path,
and its value is a condition on what the path leads to: a mapping of operators to operands, all of
which have to hold, or any other value, which has to be equal.

Entries, conditions and queries are taken in their order up to the first that decides, so what
comes later can be at fault without harm.
-/

import DocFilter.Path
import DocFilter.Registry
import DocFilter.Value.Elements

namespace DocFilter.Matching

/-- The key of queries that all have to match. -/
def allKey : String := "$and"

/-- The key of queries one of which has to match. -/
def anyKey : String := "$or"

/-- Whether a key is the name of an operator. -/
def isOperatorKey (key : Value) : Bool :=
  key.plainText.toList.head? == some '$'

/-- The operators of a condition, if it consists of operators only. -/
def operatorsOf? : Value → Option (List (Value × Value))
  | .mapping entries =>
    if !entries.isEmpty && entries.all fun entry => isOperatorKey entry.1 then some entries
    else none
  | _ => none

/-- Whether the value of a field satisfies a condition. -/
def satisfies (registry : Registry) (field condition : Value) : Except Fault Bool :=
  match operatorsOf? condition with
  | some operators =>
    operators.allM fun (key, operand) => registry.evaluate key field operand
  | none => registry.evaluate (.text "$eq") field condition

/-- The keys of the path that a key of a query stands for. A text is split at its dots. A pattern
splits the dot: what is left around its matches, and what its groups have matched, are the keys. -/
def keysOf (key : Value) : Except Fault (List (Option String)) :=
  if key.hasAttribute "split" then throw .notOperation
  else
    match key with
    | .bytes _ => throw .binaryPath
    | .pattern pattern => pattern.split "."
    | key =>
      match key.text? with
      | some path => return (Path.segments path).map some
      | none => throw .notPath

/-- Whether a document satisfies a condition on what a path leads to. -/
def holdsAt (registry : Registry) (document key condition : Value) : Except Fault Bool := do
  satisfies registry (Path.followKeys document (← keysOf key)) condition

/-- Why a value that is no mapping is no query: it has no entries, or has something else in their
place. -/
def queryFault (value : Value) : Fault :=
  if value.hasAttribute "items" then .notOperation else .notMapping

/-- The outcome for a value that stands in the place of a list of queries. Of its elements, if it
has any, none is a query. -/
def noQueries (outcome : Bool) (value : Value) : Except Fault Bool :=
  match value.elements? with
  | some [] => return outcome
  | some (element :: _) => throw (queryFault element)
  | none => throw .notIterable

mutual

/-- Whether a document matches a query. -/
def matchesQuery (registry : Registry) (document : Value) : Value → Except Fault Bool
  | .mapping entries => matchesEntries registry document entries
  | value => throw (queryFault value)

/-- Whether a document satisfies all entries of a query. -/
def matchesEntries (registry : Registry) (document : Value) :
    List (Value × Value) → Except Fault Bool
  | [] => return true
  | (key, condition) :: entries => do
    let satisfied ←
      if key.text? = some allKey then matchesAll registry document condition
      else if key.text? = some anyKey then matchesAny registry document condition
      else holdsAt registry document key condition
    if satisfied then matchesEntries registry document entries else return false

/-- Whether a document matches all queries of a collection. -/
def matchesAll (registry : Registry) (document : Value) : Value → Except Fault Bool
  | .list queries | .tuple queries | .set _ queries => matchesEach registry document queries
  | value => noQueries true value

/-- Whether a document matches some query of a collection. -/
def matchesAny (registry : Registry) (document : Value) : Value → Except Fault Bool
  | .list queries | .tuple queries | .set _ queries => matchesSome registry document queries
  | value => noQueries false value

/-- Whether a document matches all queries of a list. -/
def matchesEach (registry : Registry) (document : Value) : List Value → Except Fault Bool
  | [] => return true
  | query :: queries => do
    if ← matchesQuery registry document query then matchesEach registry document queries
    else return false

/-- Whether a document matches some query of a list. -/
def matchesSome (registry : Registry) (document : Value) : List Value → Except Fault Bool
  | [] => return false
  | query :: queries => do
    if ← matchesQuery registry document query then return true
    else matchesSome registry document queries

end

/-- Whether a document matches a query, with the operators of a registry if one is given and with
the standard ones otherwise. A registry is given even if nothing is registered in it. -/
def evaluate (given : Option Registry) (query document : Value) : Except Fault Bool :=
  matchesQuery (given.getD .standard) document query

end DocFilter.Matching
