/-
# Paths

A path leads through nested mappings, one key after the other. It is written with dots between
the keys. A path that leads to a missing key, or on from a value that is no mapping, ends at what
is absent. Each key is a name, or null where a pattern that splits paths has left a gap.
-/

import DocFilter.Text.Pieces
import DocFilter.Value.Entries

namespace DocFilter.Path

open Text

/-- The keys of a written path. -/
def segments (path : String) : List String :=
  (Pieces.split '.' path.toList).map String.ofList

/-- The written form of a path. -/
def write (segments : List String) : String :=
  String.ofList (Pieces.join ['.'] (segments.map String.toList))

/-- The value under a key, which is a name or null; only mappings have any. -/
def child? (key : Option String) : Value → Option Value
  | .mapping entries =>
    match key with
    | some name => Entries.named? name entries
    | none => Entries.find? .null entries
  | _ => none

/-- The value at the end of a path of keys. -/
def followKeys (document : Value) : List (Option String) → Value
  | [] => document
  | key :: keys =>
    match child? key document with
    | some value => followKeys value keys
    | none => .absent

/-- The value at the end of a path of names. -/
def follow (document : Value) (names : List String) : Value :=
  followKeys document (names.map some)

/-- The value at the end of a written path. -/
def resolve (document : Value) (path : String) : Value :=
  follow document (segments path)

/-- The written form of the keys of a path is the path. -/
theorem write_segments (path : String) : write (segments path) = path := by
  have back : (String.toList ∘ String.ofList : List Char → List Char) = id := by
    funext text
    simp
  simp [write, segments, back, Pieces.join_split]

/-- A dot between two written paths separates their keys. -/
theorem segments_append_dot (first second : String) :
    segments (first ++ "." ++ second) = segments first ++ segments second := by
  have spelled : (first ++ "." ++ second).toList = first.toList ++ '.' :: second.toList := by
    simp
  rw [segments, spelled, Pieces.split_append_separator, List.map_append]
  rfl

/-- From what is absent every path ends at what is absent. -/
theorem followKeys_absent (keys : List (Option String)) : followKeys .absent keys = .absent := by
  cases keys <;> rfl

/-- Following one path of keys after another is following both in turn. -/
theorem followKeys_append (document : Value) (first second : List (Option String)) :
    followKeys document (first ++ second) = followKeys (followKeys document first) second := by
  induction first generalizing document with
  | nil => rfl
  | cons key keys ih =>
    simp only [List.cons_append, followKeys]
    split
    · exact ih _
    · exact (followKeys_absent second).symm

/-- Following one path of names after another is following both in turn. -/
theorem follow_append (document : Value) (first second : List String) :
    follow document (first ++ second) = follow (follow document first) second := by
  simp only [follow, List.map_append, followKeys_append]

end DocFilter.Path
