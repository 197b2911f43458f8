/-
# What the pattern of a wildcard text means

The pattern of a wildcard text is the patterns of its characters in a row, and so is its meaning: a
star is read as a run of any characters, and any other character as itself. In the literal mode this
is so for all characters, because those that could mean something else are escaped. Otherwise it
takes characters that mean nothing else.

Nothing that is read depends on what was read before, except that a star repeats the dot in front of
it, and a mark after a star would be taken for a part of it.
-/

import DocFilter.Pattern.Compiled
import DocFilter.Pattern.Wildcard

namespace DocFilter

open Text
open Pattern (Node Token)

/-! ## Characters in a row -/

namespace Wildcard

/-- The pattern of a character. -/
def charPattern (literal : Bool) (c : Char) : List Char :=
  if c = star then anyRun else if literal then escapeChar c else [c]

theorem join_append_cons (separator front piece : List Char) (pieces : List (List Char)) :
    Pieces.join separator ((front ++ piece) :: pieces) =
      front ++ Pieces.join separator (piece :: pieces) := by
  cases pieces with
  | nil => rfl
  | cons next others => simp [Pieces.join]

/-- Escaping the chunks between the stars is escaping every character but the stars. -/
theorem literalPattern_eq_flatMap (text : List Char) :
    literalPattern text = text.flatMap (charPattern true) := by
  induction text with
  | nil => rfl
  | cons c text ih =>
    rw [literalPattern] at ih ⊢
    rw [List.flatMap_cons, ← ih]
    by_cases isStar : c = star
    · subst isStar
      rw [Pieces.split_separator_cons, List.map_cons,
        Pieces.join_cons_of_ne_nil _ _ (mt List.map_eq_nil_iff.mp (Pieces.split_ne_nil _ _))]
      rfl
    · obtain ⟨chunk, chunks, cut, longer⟩ := Pieces.split_cons_of_ne isStar text
      rw [cut, longer, charPattern, if_neg isStar, if_pos rfl, List.map_cons, List.map_cons,
        escape, List.flatMap_cons, join_append_cons]
      rfl

theorem toList_pattern (literal : Bool) (text : String) :
    (pattern literal text).toList = text.toList.flatMap (charPattern literal) := by
  cases literal with
  | false =>
    rw [pattern, if_neg Bool.false_ne_true, String.toList_ofList]
    rfl
  | true => rw [pattern, if_pos rfl, String.toList_ofList, literalPattern_eq_flatMap]

/-- The characters besides the star that mean something else than themselves in patterns. -/
def activeChars : List Char :=
  ['.', '^', '$', '+', '?', '\x7b', '\x7d', '[', ']', '(', ')', '|', '\\']

/-- What the pattern of a character means. -/
def nodeOf (c : Char) : Node :=
  if c = star then .repetition .greedy 0 none (.any false) else .code .exact false c.toNat

end Wildcard

namespace Pattern

open Wildcard (star activeChars)

/-- A row of stars, of escaped characters, and of characters that mean only themselves: how it is
written, its tokens, and what it means. -/
inductive IsRow : List Char → List Token → List Node → Prop
  | nil : IsRow [] [] []
  | run {chars : List Char} {tokens : List Token} {nodes : List Node}
      (later : IsRow chars tokens nodes) :
      IsRow ('.' :: star :: chars) (.plain '.' :: .plain star :: tokens)
        (.repetition .greedy 0 none (.any false) :: nodes)
  | escaped {c : Char} {chars : List Char} {tokens : List Token} {nodes : List Node}
      (neither : (Reader.isLetter c || c.isDigit) = false) (later : IsRow chars tokens nodes) :
      IsRow ('\\' :: c :: chars) (.escaped c :: tokens) (.code .exact false c.toNat :: nodes)
  | plain {c : Char} {chars : List Char} {tokens : List Token} {nodes : List Node}
      (inert : c ∉ star :: activeChars) (later : IsRow chars tokens nodes) :
      IsRow (c :: chars) (.plain c :: tokens) (.code .exact false c.toNat :: nodes)

namespace IsRow

variable {chars : List Char} {tokens : List Token} {nodes : List Node}

/-- The pattern of a wildcard text is a row, in the literal mode always. -/
theorem of_wildcard {literal : Bool} {text : List Char}
    (readable : literal = true ∨ ∀ c ∈ text, c ∉ activeChars) :
    ∃ tokens, IsRow (text.flatMap (Wildcard.charPattern literal)) tokens
      (text.map Wildcard.nodeOf) := by
  induction text with
  | nil => exact ⟨[], .nil⟩
  | cons c text ih =>
    obtain ⟨tokens, later⟩ := ih (readable.imp_right fun each => (List.forall_mem_cons.mp each).2)
    rw [List.flatMap_cons, List.map_cons, Wildcard.charPattern, Wildcard.nodeOf]
    by_cases isStar : c = star
    · rw [if_pos isStar, if_pos isStar]
      exact ⟨_, .run later⟩
    rw [if_neg isStar, if_neg isStar]
    cases literal with
    | false =>
      have inert : c ∉ activeChars :=
        (List.forall_mem_cons.mp (readable.resolve_left Bool.false_ne_true)).1
      exact ⟨_, .plain (List.not_mem_cons_of_ne_of_not_mem isStar inert) later⟩
    | true =>
      rw [if_pos rfl, Wildcard.escapeChar]
      by_cases special : Wildcard.specialChars.contains c
      · -- No special character is a letter or a digit, which would mean something else.
        have neither : Wildcard.specialChars.all fun c =>
            (Reader.isLetter c || c.isDigit) == false := by
          decide
        have own := List.all_eq_true.mp neither c (List.contains_iff_mem.mp special)
        rw [if_pos special]
        exact ⟨_, .escaped (beq_iff_eq.mp own) later⟩
      · have active : (Wildcard.star :: activeChars).all Wildcard.specialChars.contains := by
          decide
        rw [if_neg special]
        exact ⟨_, .plain (mt (List.all_eq_true.mp active c) special) later⟩

theorem ofChars_eq (row : IsRow chars tokens nodes) : Token.ofChars chars = tokens := by
  induction row with
  | nil => rfl
  | run later ih => rw [← ih]; rfl
  | escaped neither later ih => rw [← ih]; rfl
  | @plain c chars tokens nodes inert later ih =>
    have noBackslash : c ≠ '\\' := by
      rintro rfl
      exact absurd (by decide) inert
    rw [← ih]
    simp [Token.ofChars, noBackslash]

/-- No row begins with what would change the meaning of a star before it, or with a backslash that
stands alone. -/
theorem head (row : IsRow chars tokens nodes) :
    tokens.head? ≠ some .dangling ∧ tokens.head? ≠ some (.plain '?') ∧
      tokens.head? ≠ some (.plain '+') := by
  cases row with
  | nil | run | escaped => simp
  | plain inert later =>
    refine ⟨by simp, ?_, ?_⟩
    · rintro ⟨⟩
      exact absurd (by decide) inert
    · rintro ⟨⟩
      exact absurd (by decide) inert

end IsRow

/-! ## Reading a row -/

namespace Reader

section Steps

variable {reading after : Reading} {token : Token} {rest : List Token} {place : Place}
  {pieces read : List Piece} {node : Node} {c : Char} {fuel : Nat}

theorem run_bind_of_eq_ok {α β : Type} {first : Reader α} {later : α → Reader β} {value : α}
    (ran : first.run reading = .ok (value, after)) :
    (first >>= later).run reading = (later value).run after := by
  rw [StateT.run_bind, ran]
  rfl

theorem get_bind_run {α : Type} {later : Reading → Reader α} :
    (get >>= later).run reading = (later reading).run reading :=
  rfl

theorem discard_run {α : Type} {first : Reader α} {value : α}
    (ran : first.run reading = .ok (value, after)) :
    (discard first).run reading = .ok ((), after) := by
  show (Function.const α () <$> first).run reading = _
  rw [StateT.run_map, ran]
  rfl

theorem peek_run : peek.run reading = .ok (reading.rest.head?, reading) :=
  rfl

theorem checkNext_run (ready : reading.rest.head? ≠ some .dangling) :
    checkNext.run reading = .ok ((), reading) := by
  rw [checkNext, run_bind_of_eq_ok peek_run, if_neg (by simpa using ready)]
  rfl

/-- Taking a token looks ahead to the one after it. -/
theorem next_run (first : reading.rest = token :: rest) (ready : rest.head? ≠ some .dangling) :
    next.run reading =
      .ok (some token,
        { reading with rest := rest, position := reading.position + token.size }) := by
  rw [next, get_bind_run]
  simp only [first]
  rw [run_bind_of_eq_ok rfl, run_bind_of_eq_ok (checkNext_run ready)]
  rfl

theorem accept_run (other : reading.rest.head? ≠ some (.plain c)) :
    (accept c).run reading = .ok (false, reading) := by
  have isOther : (nextIs c).run reading = .ok (false, reading) := by
    rw [nextIs, run_bind_of_eq_ok peek_run, beq_false_of_ne other]
    rfl
  rw [accept, run_bind_of_eq_ok isOther]
  rfl

theorem appetite_run (noQuestion : reading.rest.head? ≠ some (.plain '?'))
    (noPlus : reading.rest.head? ≠ some (.plain '+')) :
    appetite.run reading = .ok (.greedy, reading) := by
  rw [appetite, run_bind_of_eq_ok (accept_run noQuestion), if_neg Bool.false_ne_true,
    run_bind_of_eq_ok (accept_run noPlus)]
  rfl

theorem literal_eq (code : Nat) : ({} : Modes).literal code = .code .exact false code := by
  simp [Modes.literal, Modes.casing]

/-- An escaped character that is no letter and no digit is read as itself. -/
theorem escape_run (neither : (isLetter c || c.isDigit) = false) :
    (escape {} c).run reading = .ok (.code .exact false c.toNat, reading) := by
  have noCategory : categoryEscape? false c = none := by
    rw [categoryEscape?.eq_def]
    split <;> first | rfl | cases neither
  have noAnchor : anchorEscape? false c = none := by
    rw [anchorEscape?.eq_def]
    split <;> first | rfl | cases neither
  have noDigit : c.isDigit = false := (Bool.or_eq_false_iff.mp neither).2
  have plain : (codeEscape c).run reading = .ok (c.toNat, reading) := by
    rw [codeEscape, get_bind_run]
    split
    case h_5 => rw [plainEscape, neither]; rfl
    all_goals cases neither
  rw [escape]
  simp only [noCategory, noAnchor]
  split
  · contradiction
  · contradiction
  · next code _ _ control =>
    have same : code = c.toNat := by
      rw [controlEscape?.eq_def] at control
      split at control <;> first
        | exact (Option.some.inj control).symm
        | exact absurd neither (by decide)
        | cases control
    rw [literal_eq, same]
    rfl
  · have noZero : c ≠ '0' := by
      rintro rfl
      cases noDigit
    simp only [beq_iff_eq, noZero, if_false, noDigit, Bool.false_eq_true]
    rw [run_bind_of_eq_ok plain, literal_eq]
    rfl

/-- A character that means nothing else is read as itself. -/
theorem simple_run (inert : c ∉ star :: activeChars) :
    (simple {} pieces c).run reading =
      .ok (.node (.code .exact false c.toNat) :: pieces, reading) := by
  rw [simple, get_bind_run]
  split
  case h_9 =>
    rw [literal_eq]
    rfl
  all_goals exact absurd (by decide) inert

/-- A star repeats the dot in front of it, if no mark follows. -/
theorem simple_run_star (noQuestion : reading.rest.head? ≠ some (.plain '?'))
    (noPlus : reading.rest.head? ≠ some (.plain '+')) :
    (simple {} (.node (.any false) :: pieces) star).run reading =
      .ok (.node (.repetition .greedy 0 none (.any false)) :: pieces, reading) := by
  rw [simple, get_bind_run]
  show (repeated _ 0 none (.node (.any false) :: pieces)).run reading = _
  rw [repeated, run_bind_of_eq_ok (appetite_run noQuestion noPlus)]
  · rfl
  · nofun
  · nofun

/-- An escaped character ends no alternative. -/
theorem sequence_run_escaped (first : reading.rest = .escaped c :: rest)
    (ready : rest.head? ≠ some .dangling)
    (escapes : (escape {} c).run
      { reading with rest := rest, position := reading.position + (Token.escaped c).size } =
        .ok (node, after)) :
    (sequence place {} pieces (fuel + 1)).run reading =
      (sequence place {} (.node node :: pieces) fuel).run after := by
  rw [sequence, run_bind_of_eq_ok peek_run, first]
  simp only [List.head?_cons]
  rw [run_bind_of_eq_ok (discard_run (next_run first ready))]
  exact run_bind_of_eq_ok escapes

/-- A character that neither ends an alternative nor opens a group is read by itself. -/
theorem sequence_run_plain (first : reading.rest = .plain c :: rest)
    (ready : rest.head? ≠ some .dangling) (inside : c ∉ ['|', ')', '('])
    (simply : (simple {} pieces c).run
      { reading with rest := rest, position := reading.position + (Token.plain c).size } =
        .ok (read, after)) :
    (sequence place {} pieces (fuel + 1)).run reading =
      (sequence place {} read fuel).run after := by
  rw [sequence, run_bind_of_eq_ok peek_run, first]
  simp only [List.head?_cons]
  split
  · contradiction
  · next same =>
    cases same
    exact absurd (by decide) inside
  · next same =>
    cases same
    exact absurd (by decide) inside
  · next same =>
    cases same
    have noGroup : c ≠ '(' := by
      rintro rfl
      exact absurd (by decide) inside
    rw [run_bind_of_eq_ok (discard_run (next_run first ready))]
    simp only [Bool.false_and, Bool.false_eq_true, if_false, beq_iff_eq, noGroup]
    exact run_bind_of_eq_ok simply

/-- A dot and a star are read one after the other as a run. -/
theorem sequence_run_anyRun (first : reading.rest = .plain '.' :: .plain star :: rest)
    (noDangling : rest.head? ≠ some .dangling) (noQuestion : rest.head? ≠ some (.plain '?'))
    (noPlus : rest.head? ≠ some (.plain '+')) :
    (sequence place {} pieces (fuel + 2)).run reading =
      (sequence place {} (.node (.repetition .greedy 0 none (.any false)) :: pieces) fuel).run
        { reading with rest := rest, position := reading.position + 2 } := by
  calc
    _ = (sequence place {} (.node (.any false) :: pieces) (fuel + 1)).run
          { reading with rest := .plain star :: rest, position := reading.position + 1 } :=
      sequence_run_plain first (by simp) (by decide) rfl
    _ = _ := sequence_run_plain rfl noDangling (by decide) (simple_run_star noQuestion noPlus)

theorem sequence_run_nil (none : reading.rest = []) :
    (sequence place {} pieces (fuel + 1)).run reading =
      .ok (pieces.reverse.flatMap Piece.nodes, reading) := by
  rw [sequence, run_bind_of_eq_ok peek_run, none]
  rfl

end Steps

theorem flatMap_nodes_cons (node : Node) (pieces : List Piece) (nodes : List Node) :
    (.node node :: pieces : List Piece).reverse.flatMap Piece.nodes ++ nodes =
      pieces.reverse.flatMap Piece.nodes ++ node :: nodes := by
  simp [Piece.nodes]

/-- A row is read as one alternative, if there is fuel for each of its tokens. -/
theorem sequence_run_row {chars : List Char} {tokens : List Token} {nodes : List Node}
    (row : IsRow chars tokens nodes) (place : Place) (reading : Reading) (pieces : List Piece)
    (position fuel : Nat) (enough : tokens.length < fuel) :
    ∃ final,
      (sequence place {} pieces fuel).run { reading with rest := tokens, position := position } =
        .ok (pieces.reverse.flatMap Piece.nodes ++ nodes,
          { reading with rest := [], position := final }) := by
  -- Each token takes one unit of fuel and is read as long as the tokens after it are a row.
  induction row generalizing pieces position fuel with
  | nil =>
    obtain ⟨fuel, rfl⟩ := Nat.exists_eq_add_one.mpr enough
    exact ⟨position, by rw [sequence_run_nil rfl, List.append_nil]⟩
  | @run chars tokens nodes later ih =>
    obtain ⟨noDangling, noQuestion, noPlus⟩ := later.head
    obtain ⟨fuel, rfl⟩ := Nat.exists_eq_add_of_lt enough
    rw [List.length_cons, List.length_cons, Nat.add_right_comm (tokens.length + 1),
      sequence_run_anyRun rfl noDangling noQuestion noPlus, ← flatMap_nodes_cons]
    exact ih _ _ _ (by omega)
  | escaped neither later ih =>
    obtain ⟨fuel, rfl⟩ := Nat.exists_eq_add_of_lt enough
    rw [sequence_run_escaped rfl later.head.1 (escape_run neither), ← flatMap_nodes_cons]
    exact ih _ _ _ (Nat.lt_add_right fuel (Nat.lt_succ_self _))
  | @plain c chars tokens nodes inert later ih =>
    have inside : c ∉ ['|', ')', '('] := by
      have active : ['|', ')', '('] ⊆ star :: activeChars := by simp [activeChars]
      exact fun member => inert (active member)
    obtain ⟨fuel, rfl⟩ := Nat.exists_eq_add_of_lt enough
    rw [sequence_run_plain rfl later.head.1 inside (simple_run inert), ← flatMap_nodes_cons]
    exact ih _ _ _ (Nat.lt_add_right fuel (Nat.lt_succ_self _))

/-- A row is a single alternative. -/
theorem alternatives_run_row {chars : List Char} {tokens : List Token} {nodes : List Node}
    (row : IsRow chars tokens nodes) (place : Place) (reading : Reading) (position fuel : Nat)
    (enough : tokens.length < fuel) :
    ∃ final,
      (alternatives place {} [] (fuel + 1)).run
          { reading with rest := tokens, position := position } =
        .ok (nodes, { reading with rest := [], position := final }) := by
  obtain ⟨final, done⟩ := sequence_run_row row place reading [] position fuel enough
  refine ⟨final, ?_⟩
  rw [alternatives, run_bind_of_eq_ok done, run_bind_of_eq_ok (accept_run (by simp)),
    if_neg Bool.false_ne_true]
  rfl

end Reader

/-- Nothing is wrong with a row beyond how it is written. -/
theorem IsRow.flaw?_eq_none {chars : List Char} {tokens : List Token} {nodes : List Node}
    (row : IsRow chars tokens nodes) : Reader.flaw? false (.ofSequence nodes) = none := by
  induction row with
  | nil => rfl
  | run later ih | escaped _ later ih | plain _ later ih =>
    cases later with
    | nil => rfl
    | run | escaped | plain => exact ih

/-- A row is read as the sequence of its parts, without groups. -/
theorem IsRow.read_eq {written : String} {tokens : List Token} {nodes : List Node}
    (row : IsRow written.toList tokens nodes) :
    read false {} written = .ok ⟨.ofSequence nodes, 0, {}⟩ := by
  obtain ⟨final, done⟩ := Reader.alternatives_run_row row .first { rest := tokens, modes := {} } 0
    (2 * tokens.length + 1) (by omega)
  have whole : (Reader.whole (2 * tokens.length + 2)).run { rest := tokens, modes := {} } =
      .ok (.ofSequence nodes, { rest := [], position := final, modes := {} }) := by
    rw [Reader.whole, Reader.run_bind_of_eq_ok (Reader.checkNext_run row.head.1),
      Reader.get_bind_run, Reader.run_bind_of_eq_ok done, Reader.get_bind_run]
    simp only [row.flaw?_eq_none]
    rfl
  rw [read, row.ofChars_eq]
  simp only [whole]
  rfl

end Pattern

/-- The pattern of a wildcard text is read as a sequence of runs and characters, in the literal mode
always. -/
theorem CompiledPattern.compile_wildcard {literal : Bool} {text : String}
    (readable : literal = true ∨ ∀ c ∈ text.toList, c ∉ Wildcard.activeChars) :
    compile (.text (Wildcard.pattern literal text)) =
      .ok ⟨.text (Wildcard.pattern literal text),
        .ofSequence (text.toList.map Wildcard.nodeOf), 0, {}⟩ := by
  obtain ⟨tokens, row⟩ := Pattern.IsRow.of_wildcard readable
  rw [← Wildcard.toList_pattern] at row
  rw [compile]
  simp only [row.read_eq]
  rfl

end DocFilter
