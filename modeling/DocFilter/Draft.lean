/-
# Drafts

A draft is a filter in the making: the terms of one group, all of which have to hold, and the
alternatives to that group, which are finished filters.
-/

import DocFilter.Matching
import DocFilter.Term

namespace DocFilter

/-- A group of terms, of which there is at least one, and its alternatives. -/
structure Draft where
  first : Term
  others : List Term := []
  alternatives : List Value := []

namespace Draft

/-- The terms of the group in order. -/
def terms (draft : Draft) : List Term :=
  draft.first :: draft.others

/-- The draft with one more term in its group. -/
def and (draft : Draft) (term : Term) : Draft :=
  { draft with others := draft.others ++ [term] }

/-- The filter of a group. Terms on different fields share one mapping; as soon as a field occurs
twice, every term gets a mapping of its own. -/
def conjunctionOf (terms : List Term) : Value :=
  if (terms.map Term.field).Nodup then .mapping (terms.map Term.entry)
  else .mapping [(.text Matching.allKey, .list (terms.map Term.document))]

/-- The filter of the group. -/
def conjunction (draft : Draft) : Value :=
  conjunctionOf draft.terms

/-- The draft with the group of another one, as it is now, as one more alternative. -/
def or (draft other : Draft) : Draft :=
  { draft with alternatives := draft.alternatives ++ [other.conjunction] }

/-- The filter of the group and its alternatives. -/
def filter (draft : Draft) : Value :=
  if draft.alternatives.isEmpty then draft.conjunction
  else .mapping [(.text Matching.anyKey, .list (draft.conjunction :: draft.alternatives))]

end Draft

end DocFilter
