/-
# Compiling criteria

Criteria are compiled from left to right. The clauses of a group become the terms of a draft, and
each later group becomes an alternative to the first one. A clause that cannot be compiled ends the
whole compilation.
-/

import DocFilter.Draft
import DocFilter.Filter

namespace DocFilter

/-- The filter of a draft; without one it asks for nothing. -/
def Filter.ofDraft : Option Draft → Filter
  | none => {}
  | some draft => .ofValue draft.filter

namespace Draft

/-- The draft of a group that starts with a clause. -/
def start (converter : Converter) (options : Options) (clause : Clause) : Binder Draft := do
  return { first := ← clause.compile converter options }

/-- The draft with one more clause in its group. -/
def andClause (converter : Converter) (options : Options) (draft : Draft) (clause : Clause) :
    Binder Draft := do
  return draft.and (← clause.compile converter options)

end Draft

/-- The draft of a group of clauses. -/
def ClauseGroup.compile (converter : Converter) (options : Options) (group : ClauseGroup) :
    Binder Draft := do
  group.others.foldlM (Draft.andClause converter options)
    (← Draft.start converter options group.first)

namespace Criteria

/-- The draft of groups, as alternatives to one that has been compiled before, if any. -/
def compileGroups (converter : Converter) (options : Options) :
    Option Draft → List ClauseGroup → Binder (Option Draft)
  | base, [] => return base
  | base, group :: groups => do
    let draft ← group.compile converter options
    compileGroups converter options (some (base.elim draft (·.or draft))) groups

/-- The filter of criteria. -/
def compile (converter : Converter) (options : Options) (criteria : Criteria) : Binder Filter := do
  return .ofDraft (← compileGroups converter options none criteria.groups)

end Criteria

end DocFilter
