/-
# What a wildcard text is found in

A wildcard text is found in every text that holds its chunks one after the other, with gaps between
them that hold no line feed, and anything before the first chunk and after the last one. This is
said in two ways. From the left, a text begins with a wildcard text if it begins with its first
character, or with a run in place of a star, and what comes after begins with the rest; in this way
the matcher works. As a whole, the chunks between the stars are filled up with gaps. Both say the
same, and the search for a pattern tells it of every text.
-/

import DocFilter.Proofs.Backtracking
import DocFilter.Proofs.Retrieval
import DocFilter.Proofs.Skeleton
import DocFilter.Proofs.WildcardReading

namespace DocFilter

open Binder (outcome)
open Text

/-! ## Chunks and gaps -/

namespace Wildcard

/-- Whether a text begins with a wildcard text. -/
def Begins : List Char → List Char → Prop
  | [], _ => True
  | c :: wildcard, text =>
    if c = star then ∃ run rest, text = run ++ rest ∧ '\n' ∉ run ∧ Begins wildcard rest
    else ∃ rest, text = c :: rest ∧ Begins wildcard rest

/-- The chunks with a gap between each two neighbours. -/
def filled : List (List Char) → List (List Char) → List Char
  | [], _ => []
  | chunk :: chunks, gaps => chunk ++ (List.zipWith (· ++ ·) gaps chunks).flatten

/-- Whether a text begins with the chunks, with gaps between them that hold no line feed. -/
def BeginsFilled (chunks : List (List Char)) (text : List Char) : Prop :=
  ∃ gaps after, gaps.length + 1 = chunks.length ∧ (∀ gap ∈ gaps, '\n' ∉ gap) ∧
    text = filled chunks gaps ++ after

/-- A character at the front of the first chunk is the first of the text. -/
theorem beginsFilled_cons_cons (c : Char) (chunk : List Char) (chunks : List (List Char))
    (text : List Char) :
    BeginsFilled ((c :: chunk) :: chunks) text ↔
      ∃ rest, text = c :: rest ∧ BeginsFilled (chunk :: chunks) rest := by
  constructor
  · rintro ⟨gaps, after, size, noFeed, rfl⟩
    exact ⟨_, rfl, gaps, after, size, noFeed, rfl⟩
  · rintro ⟨_, rfl, gaps, after, size, noFeed, rfl⟩
    exact ⟨gaps, after, size, noFeed, rfl⟩

/-- An empty chunk at the front leaves the first gap. -/
theorem beginsFilled_nil_cons {chunks : List (List Char)} (nonempty : chunks ≠ [])
    (text : List Char) :
    BeginsFilled ([] :: chunks) text ↔
      ∃ run rest, text = run ++ rest ∧ '\n' ∉ run ∧ BeginsFilled chunks rest := by
  obtain ⟨chunk, chunks, rfl⟩ := List.exists_cons_of_ne_nil nonempty
  constructor
  · rintro ⟨_ | ⟨gap, gaps⟩, after, size, noFeed, rfl⟩
    · cases size
    · obtain ⟨first, noFeed⟩ := List.forall_mem_cons.mp noFeed
      exact ⟨gap, _, by simp [filled], first, gaps, after, Nat.succ.inj size, noFeed, rfl⟩
  · rintro ⟨gap, _, rfl, first, gaps, after, size, noFeed, rfl⟩
    exact ⟨gap :: gaps, after, congrArg (· + 1) size, List.forall_mem_cons.mpr ⟨first, noFeed⟩,
      by simp [filled]⟩

/-- Beginning with a wildcard text is beginning with its chunks and gaps between them. -/
theorem begins_iff_beginsFilled (wildcard text : List Char) :
    Begins wildcard text ↔ BeginsFilled (Pieces.split star wildcard) text := by
  induction wildcard generalizing text with
  | nil => exact iff_of_true trivial ⟨[], text, rfl, nofun, rfl⟩
  | cons c wildcard ih =>
    rw [Begins]
    by_cases isStar : c = star
    · subst isStar
      rw [if_pos rfl, Pieces.split_separator_cons,
        beginsFilled_nil_cons (Pieces.split_ne_nil star wildcard)]
      simp only [ih]
    · obtain ⟨chunk, chunks, cut, longer⟩ := Pieces.split_cons_of_ne isStar wildcard
      rw [if_neg isStar, longer, beginsFilled_cons_cons]
      simp only [ih, cut]

/-- Whether a text holds the chunks of a wildcard text one after the other, with gaps between them
that hold no line feed. -/
def IsFoundIn (wildcard text : String) : Prop :=
  ∃ before gaps after, gaps.length + 1 = (Pieces.split star wildcard.toList).length ∧
    (∀ gap ∈ gaps, '\n' ∉ gap) ∧
    text.toList = before ++ filled (Pieces.split star wildcard.toList) gaps ++ after

theorem isFoundIn_iff (wildcard text : String) :
    IsFoundIn wildcard text ↔
      ∃ before rest, text.toList = before ++ rest ∧ Begins wildcard.toList rest := by
  simp only [begins_iff_beginsFilled]
  constructor
  · rintro ⟨before, gaps, after, size, noFeed, whole⟩
    exact ⟨before, _, by rw [whole, List.append_assoc], gaps, after, size, noFeed, rfl⟩
  · rintro ⟨before, _, whole, gaps, after, size, noFeed, rfl⟩
    exact ⟨before, gaps, after, size, noFeed, by rw [whole, List.append_assoc]⟩

end Wildcard

/-! ## Matching a wildcard text -/

namespace Pattern

/-- What the pattern of a wildcard text begins with is not in the way of what begins with it. -/
theorem allows_begins (wildcard : List Char) :
    ((Node.ofSequence (wildcard.map Wildcard.nodeOf)).lead .anything).Allows
      (Wildcard.Begins wildcard) := by
  intro spot begins
  cases wildcard with
  | nil => rfl
  | cons c wildcard =>
    rw [List.map_cons, lead_ofSequence_cons, Wildcard.nodeOf]
    by_cases isStar : c = Wildcard.star
    · rw [if_pos isStar]
      rfl
    · rw [Wildcard.Begins, if_neg isStar] at begins
      obtain ⟨rest, first, -⟩ := begins
      rw [if_neg isStar]
      show (Lead.code c.toNat).admits spot = true
      simp only [Lead.admits, first, beq_self_eq_true]

theorem agree_exact (c next : Char) :
    (Casing.exact.agree c.toNat next.toNat != false) = true ↔ next = c := by
  simp [Casing.agree, Casing.siblings, Casing.lower, Char.toNat_inj]

/-- The pattern of a wildcard text tells of every text whether it begins with the wildcard text. -/
theorem decides_wildcard (wildcard : List Char) :
    Decides ((Node.ofSequence (wildcard.map Wildcard.nodeOf)).run false .anything finish)
      (Wildcard.Begins wildcard) := by
  induction wildcard with
  | nil => exact decides_finish
  | cons c wildcard ih =>
    rw [List.map_cons, run_ofSequence_cons, Wildcard.nodeOf]
    by_cases isStar : c = Wildcard.star
    · rw [if_pos isStar]
      refine (ih.single (allows_begins wildcard) fun next => false || next != '\n').congr
        fun text => ?_
      rw [Wildcard.Begins, if_pos isStar]
      have noFeed : ∀ run : List Char, (∀ next ∈ run, (false || next != '\n') = true) ↔
          '\n' ∉ run := by
        intro run
        constructor
        · intro all member
          exact absurd (all '\n' member) (by decide)
        · intro noFeed next member
          exact bne_iff_ne.mpr fun isFeed => noFeed (isFeed ▸ member)
      simp only [noFeed]
    · rw [if_neg isStar]
      refine (ih.step fun next => Casing.exact.agree c.toNat next.toNat != false).congr
        fun text => ?_
      rw [Wildcard.Begins, if_neg isStar]
      simp only [agree_exact]
      constructor
      · rintro ⟨_, rest, rfl, rfl, begins⟩
        exact ⟨rest, rfl, begins⟩
      · rintro ⟨rest, rfl, begins⟩
        exact ⟨c, rest, rfl, rfl, begins⟩

end Pattern

/-! ## Clauses for wildcard texts -/

/-- Whether a value is a text in which a wildcard text is found. -/
def Value.HoldsText (wildcard : String) (value : Value) : Prop :=
  ∃ text, value.text? = some text ∧ Wildcard.IsFoundIn wildcard text

/-- The pattern of a wildcard text occurs just in the texts in which the wildcard text is found. -/
theorem CompiledPattern.exists_occursIn_wildcard (source wildcard text : String) :
    ∃ answer,
      occursIn ⟨.text source, .ofSequence (wildcard.toList.map Wildcard.nodeOf), 0, {}⟩ text =
        .ok answer ∧
      (answer = true ↔ Wildcard.IsFoundIn wildcard text) := by
  obtain ⟨answer, answered, tells⟩ := Pattern.exists_occursIn_eq_ok
    source ⟨.ofSequence (wildcard.toList.map Wildcard.nodeOf), 0, {}⟩
    (Pattern.decides_wildcard wildcard.toList) text
  exact ⟨answer, answered, tells.trans (Wildcard.isFoundIn_iff wildcard text).symm⟩

/-- A search that answers for every text answers for a field: whether one of its candidates is a
text in which something is found. -/
theorem Operator.exists_searchEach_eq_ok {search : String → Except Fault Bool}
    {isFound : String → Prop}
    (each : ∀ text, ∃ answer, search text = .ok answer ∧ (answer = true ↔ isFound text))
    (field : Value) :
    ∃ answer, searchEach search field = .ok answer ∧
      (answer = true ↔
        ∃ candidate ∈ field.candidates, ∃ text, candidate.text? = some text ∧ isFound text) := by
  refine ShortCircuit.exists_anyM_eq_ok_iff fun candidate _ => ?_
  cases candidate.text? with
  | none => exact ⟨false, rfl, by simp⟩
  | some text => simpa using each text

/-- Searching for the pattern of a wildcard text always has an answer: whether it is found in the
field or in one of its items. -/
theorem Operator.exists_regex_evaluate_wildcard {literal : Bool} {wildcard : String}
    (readable : literal = true ∨ ∀ c ∈ wildcard.toList, c ∉ Wildcard.activeChars) (field : Value) :
    ∃ answer,
      regex.evaluate field (.text (Wildcard.pattern literal wildcard)) = .ok answer ∧
      (answer = true ↔ field.HoldsText wildcard ∨
        ∃ items, field = .list items ∧ ∃ item ∈ items, item.HoldsText wildcard) := by
  have searches : regex.evaluate field (.text (Wildcard.pattern literal wildcard)) =
      searchEach (CompiledPattern.occursIn ⟨.text (Wildcard.pattern literal wildcard),
        .ofSequence (wildcard.toList.map Wildcard.nodeOf), 0, {}⟩) field := by
    show (do
      let pattern ← CompiledPattern.compile (.text (Wildcard.pattern literal wildcard))
      searchEach pattern.occursIn field) = _
    rw [CompiledPattern.compile_wildcard readable]
    rfl
  rw [searches, ← Value.exists_mem_candidates_iff]
  exact exists_searchEach_eq_ok
    (CompiledPattern.exists_occursIn_wildcard (Wildcard.pattern literal wildcard) wildcard) field

/-- A clause for a wildcard text asks whether the text is found. It is compiled whatever stands
after its value, and then it has an answer on every document: whether the field is a text, or a list
with a text, that holds the chunks between the stars one after the other, with gaps between them
that hold no line feed. In the literal mode this is so for every text, and otherwise for those in
which all characters stand for themselves. -/
theorem Criteria.like_is_ordered_containment (clause : Clause) (converter : Converter)
    (options : Options) (value : Value) (others : List Value) (wildcard : String)
    (isLike : clause.comparison = .known .like) (isField : Matching.IsField clause.field)
    (converted : (converter [] value).map Converter.read = .ok (.text wildcard))
    (readable : options.literalWildcards = true ∨
      ∀ c ∈ wildcard.toList, c ∉ Wildcard.activeChars) :
    ∃ filter binding,
      outcome ((⟨[⟨clause, []⟩]⟩ : Criteria).compile converter options)
        (.ofValues (value :: others)) = (.ok filter, binding) ∧
      ∀ document, ∃ answer, filter.matchesDocument document = .ok answer ∧
        (answer = true ↔ (Path.resolve document clause.field).HoldsText wildcard ∨
          ∃ items, Path.resolve document clause.field = .list items ∧
            ∃ item ∈ items, item.HoldsText wildcard) := by
  let operand := Value.text (Wildcard.pattern options.literalWildcards wildcard)
  have compiled : outcome (clause.compile converter options) (.ofValues (value :: others)) =
      (.ok ⟨clause.field, [("$regex", operand)]⟩, ⟨⟨1, others⟩, [value]⟩) :=
    Clause.outcome_compile_eq_ok_iff.mpr ⟨.like, [value], others, [.text wildcard], isLike, rfl,
      rfl, Converter.bindAll_cons_eq_ok_iff.mpr ⟨_, [], converted, rfl, rfl⟩, rfl, rfl⟩
  have alone : outcome ((⟨[⟨clause, []⟩]⟩ : Criteria).compile converter options)
      (.ofValues (value :: others)) =
        (.ok (.ofValue (Draft.disjunctionOf [[⟨clause.field, [("$regex", operand)]⟩]])),
          ⟨⟨1, others⟩, [value]⟩) := by
    rw [outcome_compile_singleton, compiled]
    rfl
  refine ⟨_, _, alone, fun document => ?_⟩
  rw [Term.matchesDocument_alone isField, Term.holds_of_single ⟨.like, rfl⟩]
  exact Operator.exists_regex_evaluate_wildcard readable _

/-- A clause for a wildcard text on an author. -/
def Clause.authorLike : Clause :=
  ⟨["author"], .known .like, by decide⟩

/-- In the literal mode the dot of a chunk is a dot, so it is found in an initial but not in a name
that has a letter in its place. -/
theorem Criteria.like_is_ordered_containment_initial :
    Matching.IsField Clause.authorLike.field ∧
      (Converter.document [] (.text "J.*s")).map Converter.read = .ok (.text "J.*s") ∧
      ∃ filter binding,
        outcome ((⟨[⟨.authorLike, []⟩]⟩ : Criteria).compile .document { literalWildcards := true })
          (.ofValues [.text "J.*s"]) = (.ok filter, binding) ∧
        filter.matchesDocument
          (.mapping [(.text "author", .list [.int 3, .text "Dr. J. Jones, Jr."])]) = .ok true ∧
        filter.matchesDocument (.mapping [(.text "author", .text "Jans")]) = .ok false := by
  have isField : Matching.IsField Clause.authorLike.field := by decide
  obtain ⟨filter, binding, compiled, matching⟩ := like_is_ordered_containment .authorLike .document
    { literalWildcards := true } (.text "J.*s") [] "J.*s" rfl isField rfl (.inl rfl)
  refine ⟨isField, rfl, filter, binding, compiled, ?_, ?_⟩
  · obtain ⟨answer, answered, tells⟩ := matching
      (.mapping [(.text "author", .list [.int 3, .text "Dr. J. Jones, Jr."])])
    have found : Wildcard.IsFoundIn "J.*s" "Dr. J. Jones, Jr." :=
      ⟨"Dr. ".toList, [" Jone".toList], ", Jr.".toList, rfl, by decide, by decide⟩
    rw [answered, tells.mpr (.inr ⟨_, rfl, _, List.mem_cons_of_mem _ List.mem_cons_self, _, rfl,
      found⟩)]
  · obtain ⟨answer, answered, tells⟩ := matching (.mapping [(.text "author", .text "Jans")])
    have missing : ¬ Wildcard.IsFoundIn "J.*s" "Jans" := by
      rintro ⟨before, gaps, after, -, -, whole⟩
      have chunks : Pieces.split Wildcard.star "J.*s".toList = [['J', '.'], ['s']] := by decide
      have dot : '.' ∈ "Jans".toList := by
        rw [whole, chunks, Wildcard.filled]
        simp
      exact absurd dot (by decide)
    have noMatch : answer ≠ true := by
      rw [Ne, tells]
      rintro (⟨text, reads, found⟩ | ⟨items, isList, -⟩)
      · cases reads
        exact missing found
      · cases isList
    rw [answered, Bool.eq_false_of_not_eq_true noMatch]

end DocFilter
