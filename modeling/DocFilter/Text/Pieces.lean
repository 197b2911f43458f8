/-
# Pieces of a text

A text is cut at every occurrence of one separator. The pieces, put together again with the
separator between them, give the text back, and cutting distributes over a separator that
stands between two texts.
-/

namespace DocFilter.Text.Pieces

/-- The pieces of a text between the occurrences of a separator. There is always at least one
piece: a text without the separator is its own single piece, and the empty text has one empty
piece. -/
def split (separator : Char) : List Char → List (List Char)
  | [] => [[]]
  | head :: rest =>
    if head = separator then [] :: split separator rest
    else
      match split separator rest with
      | [] => [[head]]
      | piece :: pieces => (head :: piece) :: pieces

/-- The pieces with the separator text between each two neighbours. -/
def join (separator : List Char) : List (List Char) → List Char
  | [] => []
  | [piece] => piece
  | piece :: next :: pieces => piece ++ separator ++ join separator (next :: pieces)

theorem split_ne_nil (separator : Char) (text : List Char) : split separator text ≠ [] := by
  cases text with
  | nil => simp [split]
  | cons head rest =>
    unfold split
    split
    · simp
    · split <;> simp

/-- A separator at the front closes an empty first piece. -/
theorem split_separator_cons (separator : Char) (text : List Char) :
    split separator (separator :: text) = [] :: split separator text := by
  simp [split]

/-- Any other character joins the first piece of what follows. -/
theorem split_cons_of_ne {separator head : Char} (different : head ≠ separator)
    (text : List Char) :
    ∃ piece pieces, split separator text = piece :: pieces ∧
      split separator (head :: text) = (head :: piece) :: pieces := by
  match cut : split separator text with
  | [] => exact absurd cut (split_ne_nil separator text)
  | piece :: pieces => exact ⟨piece, pieces, rfl, by simp [split, different, cut]⟩

theorem join_cons_of_ne_nil (separator piece : List Char) {pieces : List (List Char)}
    (nonempty : pieces ≠ []) :
    join separator (piece :: pieces) = piece ++ separator ++ join separator pieces := by
  match pieces, nonempty with
  | next :: others, _ => rfl

/-- Joining the pieces with the separator gives the text back. -/
theorem join_split (separator : Char) (text : List Char) :
    join [separator] (split separator text) = text := by
  induction text with
  | nil => rfl
  | cons head rest ih =>
    by_cases same : head = separator
    · subst same
      rw [split_separator_cons, join_cons_of_ne_nil _ _ (split_ne_nil _ _), ih]
      simp
    · obtain ⟨piece, pieces, cut, longer⟩ := split_cons_of_ne same rest
      rw [longer]
      rw [cut] at ih
      cases pieces with
      | nil => simpa [join] using ih
      | cons next others => simpa [join] using ih

/-- A separator between two texts separates their pieces. -/
theorem split_append_separator (separator : Char) (left right : List Char) :
    split separator (left ++ separator :: right) =
      split separator left ++ split separator right := by
  induction left with
  | nil => simp [split]
  | cons head rest ih =>
    by_cases same : head = separator
    · subst same
      simp [split, ih]
    · obtain ⟨piece, pieces, cut, longer⟩ := split_cons_of_ne same rest
      rw [cut] at ih
      rw [List.cons_append, longer]
      simp [split, same, ih]

end DocFilter.Text.Pieces
