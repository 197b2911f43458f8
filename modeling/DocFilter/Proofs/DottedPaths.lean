/-
# Dotted paths

A text with dots is the path of a clause just if every piece between its dots has a character. This
is seen without cutting the text: an empty piece stands at the start, at the end, or between two
dots that touch. The keys of such a text are the only ones that spell it, so a clause keeps all of
the text that it was made from, and it is the same clause if its keys are given one by one.

A dotted text is walked along in parts. Whatever the parts are, a walk along two texts with a dot
between them is a walk along the first and then, from where that ended, along the second: a walk
that breaks off in the first part ends at what is absent, and from there nothing leads on.
-/

import DocFilter.Proofs.Spelling

namespace DocFilter

/-! ## Empty pieces -/

namespace Text.Pieces

variable {separator : Char} {text : List Char}

/-- The first piece is empty just if the text is, or begins with the separator. -/
theorem head?_split_eq_nil_iff :
    (split separator text).head? = some [] ↔ text = [] ∨ text.head? = some separator := by
  cases text with
  | nil => simp [split]
  | cons head rest =>
    by_cases same : head = separator
    · subst same
      simp [split_separator_cons]
    · obtain ⟨piece, pieces, -, longer⟩ := split_cons_of_ne same rest
      simp [longer, same]

theorem nil_mem_split_iff_first_or_later :
    [] ∈ split separator text ↔
      (split separator text).head? = some [] ∨ [] ∈ (split separator text).tail := by
  obtain ⟨piece, pieces, cut⟩ := List.exists_cons_of_ne_nil (split_ne_nil separator text)
  rw [cut, List.mem_cons, List.head?_cons, List.tail_cons, Option.some_inj, eq_comm]

/-- Two separators touch at the front of a text or further on. -/
theorem touching_cons_iff {head : Char} {rest : List Char} :
    [separator, separator] <:+: head :: rest ↔
      (head = separator ∧ rest.head? = some separator) ∨ [separator, separator] <:+: rest := by
  rw [List.infix_cons_iff, List.cons_prefix_cons, eq_comm, List.head?_eq_some_iff]
  constructor
  · rintro (⟨same, more, rfl⟩ | later)
    · exact .inl ⟨same, more, rfl⟩
    · exact .inr later
  · rintro (⟨same, more, rfl⟩ | later)
    · exact .inl ⟨same, more, rfl⟩
    · exact .inr later

/-- A later piece is empty just if the text ends with the separator, or two separators touch. -/
theorem nil_mem_tail_split_iff :
    [] ∈ (split separator text).tail ↔
      text.getLast? = some separator ∨ [separator, separator] <:+: text := by
  induction text with
  | nil => simp [split]
  | cons head rest ih =>
    rw [touching_cons_iff]
    by_cases same : head = separator
    · -- All pieces of the rest are later ones here, the first one included.
      subst same
      rw [split_separator_cons, List.tail_cons, nil_mem_split_iff_first_or_later,
        head?_split_eq_nil_iff, ih]
      cases rest with
      | nil => simp
      | cons next others => simp [or_left_comm]
    · obtain ⟨piece, pieces, cut, longer⟩ := split_cons_of_ne same rest
      rw [cut, List.tail_cons] at ih
      rw [longer, List.tail_cons, ih]
      cases rest with
      | nil => simp [same]
      | cons next others => simp [same]

/-- A piece is empty just if the text is, or a separator stands at its start, at its end or next to
another one. -/
theorem nil_mem_split_iff :
    [] ∈ split separator text ↔ text = [] ∨ text.head? = some separator ∨
      text.getLast? = some separator ∨ [separator, separator] <:+: text := by
  rw [nil_mem_split_iff_first_or_later, head?_split_eq_nil_iff, nil_mem_tail_split_iff, or_assoc]

end Text.Pieces

/-! ## Texts that are paths -/

namespace Path

open Text

/-- Whether a text is a dotted path: it has characters, it neither begins nor ends with a dot, and
no two dots in it touch. -/
structure IsDotted (text : String) : Prop where
  nonempty : text ≠ ""
  start : text.toList.head? ≠ some '.'
  finish : text.toList.getLast? ≠ some '.'
  apart : ¬ ['.', '.'] <:+: text.toList

theorem isDotted_iff {text : String} :
    IsDotted text ↔ ¬ (text.toList = [] ∨ text.toList.head? = some '.' ∨
      text.toList.getLast? = some '.' ∨ ['.', '.'] <:+: text.toList) := by
  rw [not_or, not_or, not_or, String.toList_eq_nil_iff]
  exact ⟨fun dotted => ⟨dotted.nonempty, dotted.start, dotted.finish, dotted.apart⟩,
    fun ⟨nonempty, start, finish, apart⟩ => ⟨nonempty, start, finish, apart⟩⟩

instance (text : String) : Decidable (IsDotted text) :=
  decidable_of_iff _ isDotted_iff.symm

/-- The keys of a text make up a path just if the text is a dotted path. -/
theorem isPath_segments_iff {text : String} : IsPath (segments text) ↔ IsDotted text := by
  rw [isDotted_iff, ← Pieces.nil_mem_split_iff]
  constructor
  · rintro ⟨-, each⟩ empty
    exact each "" (List.mem_map.mpr ⟨[], empty, rfl⟩) rfl
  · intro filled
    refine ⟨segments_ne_nil text, ?_⟩
    rintro key member rfl
    obtain ⟨piece, isPiece, noChars⟩ := List.mem_map.mp member
    obtain rfl : piece = [] := String.ofList_eq_empty_iff.mp noChars
    exact filled isPiece

/-- Whether keys spell a text: there is one at least, each has characters but no dot, and with dots
between them they are the text. -/
structure Spells (keys : List String) (text : String) : Prop where
  isPath : IsPath keys
  whole : ∀ key ∈ keys, IsWhole key
  written : write keys = text

/-- A dotted path is spelled by its own keys and no others, and any other text by none. -/
theorem spells_iff {keys : List String} {text : String} :
    Spells keys text ↔ IsDotted text ∧ keys = segments text := by
  constructor
  · rintro ⟨isPath, whole, rfl⟩
    have own : segments (write keys) = keys := by
      rw [segments_write isPath.1, flatMap_segments_eq_self_iff.mpr whole]
    exact ⟨isPath_segments_iff.mp (own.symm ▸ isPath), own.symm⟩
  · rintro ⟨dotted, rfl⟩
    exact ⟨isPath_segments_iff.mpr dotted, isWhole_of_mem_segments text, write_segments text⟩

end Path

/-! ## Clauses on dotted paths -/

/-- Comparisons by one tag are the same if the tag equals itself. -/
theorem Comparison.equal_ofTag {tag : Value} (reflexive : tag.equal tag = .ok true) :
    (ofTag tag).equal (ofTag tag) = .ok true := by
  rw [equal, ofTag]
  split
  · next keyword _ =>
    show Except.ok (keyword.word == keyword.word) = .ok true
    rw [beq_self_eq_true]
  · exact reflexive

/-- A text is accepted as the path of a clause just if it is a dotted path. Then nothing of it is
lost: the path of the clause is the one list of keys that spell the text, the field is the text
again, and the text as it stands, the list of its keys and their tuple all make this same clause,
which is equal to itself if its tag is, as every keyword is. Any other text is refused with an error
that names it. -/
theorem Clause.dotted_texts_are_accepted (text : String) (tag : Value) :
    ((∃ clause, (ClauseForm.ofDotted text tag).build = .ok clause) ↔ Path.IsDotted text) ∧
    (∀ clause, (ClauseForm.ofDotted text tag).build = .ok clause →
      (∀ keys, Path.Spells keys text ↔ keys = clause.path) ∧
      clause.field = text ∧
      (∀ form ∈ [.dotted text, .segments false clause.path, .segments true clause.path],
        (ClauseForm.mk form tag).build = .ok clause) ∧
      (tag.equal tag = .ok true → clause.equal clause = .ok true)) ∧
    (¬ Path.IsDotted text →
      (ClauseForm.ofDotted text tag).build = .error (.query (.invalidClause
        ("Clause path must have non-empty segments: " ++
          Value.displayTuple ((Path.segments text).map Text.Quoted.text))
        (some text)))) := by
  have keysOf : (ClauseForm.ofDotted text tag).path.keys = Path.segments text := rfl
  refine ⟨?_, ?_, ?_⟩
  · rw [← Path.isPath_segments_iff]
    constructor
    · rintro ⟨clause, built⟩
      have own : clause.path = Path.segments text := ClauseForm.path_of_build built
      exact own ▸ clause.isPath
    · intro isPath
      exact ⟨⟨Path.segments text, .ofTag tag, isPath⟩, ClauseForm.build_eq_ok_iff.mpr ⟨rfl, rfl⟩⟩
  · intro clause built
    obtain ⟨own, compares⟩ := ClauseForm.build_eq_ok_iff.mp built
    rw [keysOf] at own
    have dotted : Path.IsDotted text := Path.isPath_segments_iff.mp (own ▸ clause.isPath)
    refine ⟨?_, ?_, ?_, ?_⟩
    · intro keys
      rw [Path.spells_iff, own, and_iff_right dotted]
    · rw [field, own, Path.write_segments]
    · intro form member
      have sameKeys : clause.path = form.keys := by
        simp only [List.mem_cons, List.not_mem_nil, or_false] at member
        rcases member with rfl | rfl | rfl
        · exact own
        · rfl
        · rfl
      exact ClauseForm.build_eq_ok_iff.mpr ⟨sameKeys, compares⟩
    · intro reflexive
      rw [equal, if_pos rfl, compares]
      exact Comparison.equal_ofTag reflexive
  · intro notDotted
    refine ClauseForm.build_eq_error_iff.mpr ⟨mt Path.isPath_segments_iff.mp notDotted, ?_⟩
    rw [keysOf, Path.write_segments]
    rfl

/-- The city of an address is asked for by a text or by its two keys, and a text in which two dots
touch is refused. -/
theorem Clause.dotted_texts_are_accepted_city :
    (∃ city, (ClauseForm.ofDotted "address.city" (.text "equals")).build = .ok city ∧
      Path.Spells ["address", "city"] "address.city" ∧
      city.path = ["address", "city"] ∧ city.field = "address.city" ∧
      (ClauseForm.mk (.dotted "address.city") (.text "equals")).build = .ok city ∧
      (ClauseForm.mk (.segments false ["address", "city"]) (.text "equals")).build = .ok city ∧
      city.equal city = .ok true) ∧
    (ClauseForm.ofDotted "a..b" (.text "equals")).build = .error (.query (.invalidClause
      ("Clause path must have non-empty segments: " ++
        Value.displayTuple (["a", "", "b"].map Text.Quoted.text))
      (some "a..b"))) := by
  obtain ⟨accepted, keeps, -⟩ := dotted_texts_are_accepted "address.city" (.text "equals")
  obtain ⟨-, -, refused⟩ := dotted_texts_are_accepted "a..b" (.text "equals")
  obtain ⟨city, built⟩ := accepted.mpr (by decide)
  obtain ⟨spelled, fieldOf, same, equals⟩ := keeps city built
  have path : city.path = ["address", "city"] := (ClauseForm.build_eq_ok_iff.mp built).1
  refine ⟨⟨city, built, (spelled _).mpr path.symm, path, fieldOf, same _ (by simp), ?_, equals rfl⟩,
    refused (by decide)⟩
  exact path ▸ same _ (List.mem_cons_of_mem _ List.mem_cons_self)

/-! ## Walks along dotted texts -/

namespace Path

/-- From a value that is no mapping every written path leads to what is absent, the empty one
included: it has one key, the empty name. -/
theorem resolve_of_no_mapping {value : Value} (other : ∀ entries, value ≠ .mapping entries)
    (path : String) : resolve value path = .absent := by
  obtain ⟨key, keys, cut⟩ := List.exists_cons_of_ne_nil (segments_ne_nil path)
  rw [resolve, cut, (BreaksOff.noMapping other).follow_eq]

/-- A walk along two texts with a dot between them is a walk along the first, and then a walk along
the second from where the first one ended. This holds in every value and for all texts, the empty
one and those with empty pieces included; and a walk that starts at what is no mapping, as a walk
that broke off before does, ends at what is absent. -/
theorem walks_compose (document : Value) (first second : String) :
    resolve document (first ++ "." ++ second) = resolve (resolve document first) second ∧
    ∀ (value : Value) (path : String), (∀ entries, value ≠ .mapping entries) →
      resolve value path = .absent := by
  refine ⟨?_, fun value path other => resolve_of_no_mapping other path⟩
  calc resolve document (first ++ "." ++ second)
    _ = follow document (segments first ++ segments second) := by
      rw [resolve, segments_append_dot]
    _ = follow (follow document (segments first)) (segments second) :=
      follow_append document (segments first) (segments second)

/-- A walk to the city of an address goes through the address, and a walk past the city, which is a
text, ends at what is absent. -/
theorem walks_compose_city :
    resolve .addressed ("address" ++ "." ++ "city") =
        resolve (resolve .addressed "address") "city" ∧
      resolve .addressed ("address.city" ++ "." ++ "") = .absent ∧
      resolve .absent "city" = .absent := by
  obtain ⟨composed, -⟩ := walks_compose .addressed "address" "city"
  obtain ⟨further, leadsNowhere⟩ := walks_compose .addressed "address.city" ""
  refine ⟨composed, ?_, leadsNowhere .absent "city" nofun⟩
  have city : resolve .addressed "address.city" = .text "Athens" := rfl
  rw [further, city]
  exact leadsNowhere (.text "Athens") "" nofun

end Path

end DocFilter
