/-
# What storing preserves

A stored form is a normal form: storing it again changes nothing, not even the order of its entries.
So a value that was stored before can be bound like any other.

What a mapping holds is stored entry by entry, but under the texts of its keys, and different keys
can have one text. Of the entries that meet in this way one is left: it stands where the first one
stood and holds what the last one held. So no entry is lost just if the texts of the keys are
different, at whatever depth the mapping stands.
-/

import DocFilter.Proofs.Reflexivity

namespace DocFilter

/-! ## The entry that is left of several -/

namespace Entries

/-- Each name is put among those that are left of the names before. -/
theorem distinct_concat (named : List (String × Value)) (entry : String × Value) :
    distinct (named ++ [entry]) = put entry.1 entry.2 (distinct named) := by
  rw [distinct, List.foldl_concat]
  rfl

/-- What is left under a name is what was given last. -/
theorem lookup_distinct (named : List (String × Value)) (name : String) :
    (distinct named).lookup name = named.reverse.lookup name := by
  induction named using List.reverseRecOn with
  | nil => rfl
  | append_singleton named entry ih =>
    rw [distinct_concat, lookup_put, ih, List.reverse_concat]
    by_cases same : name = entry.1
    · rw [if_pos same, same, List.lookup_cons_self]
    · rw [if_neg same, List.lookup_cons, beq_false_of_ne same]

/-- The names are left in the order in which they were first given. -/
theorem map_fst_distinct (named : List (String × Value)) :
    (distinct named).map (·.1) = (named.map (·.1)).eraseDups := by
  induction named using List.reverseRecOn with
  | nil => rfl
  | append_singleton named entry ih =>
    rw [distinct_concat, map_fst_put, ih, List.map_append, List.eraseDups_append,
      List.map_singleton, List.removeAll, List.filter_singleton]
    by_cases known : entry.1 ∈ named.map (·.1)
    · rw [if_pos (List.mem_eraseDups.mpr known), List.elem_eq_true_of_mem known]
      exact (List.append_nil _).symm
    · rw [if_neg (List.mem_eraseDups.not.mpr known),
        Bool.eq_false_iff.mpr (List.elem_iff.not.mpr known)]
      rfl

end Entries

namespace Value

/-! ## Stored forms part by part -/

/-- What is made of a result is given just if the result is. -/
theorem bind_return_eq_ok_iff {α β : Type} {first : Except Fault α} {make : α → β} {result : β} :
    (do return make (← first)) = .ok result ↔ ∃ value, first = .ok value ∧ result = make value := by
  rw [bind_eq_ok_iff]
  refine exists_congr fun value => and_congr_right fun _ => ?_
  exact ⟨fun made => (Except.ok.inj made).symm, fun same => congrArg Except.ok same.symm⟩

theorem storedAll_eq_ok_iff {items others : List Value} :
    storedAll items = .ok others ↔
      List.Forall₂ (fun item other => item.stored = .ok other) items others := by
  induction items generalizing others with
  | nil =>
    rw [storedAll, List.forall₂_nil_left_iff]
    exact ⟨fun given => by cases given; rfl, fun none => none ▸ rfl⟩
  | cons item items ih =>
    rw [storedAll, List.forall₂_cons_left_iff]
    simp only [bind_eq_ok_iff, ih]
    constructor
    · rintro ⟨first, own, rest, parts, done⟩
      cases done
      exact ⟨first, rest, own, parts, rfl⟩
    · rintro ⟨first, rest, own, parts, rfl⟩
      exact ⟨first, own, rest, parts, rfl⟩

/-- Each entry of a mapping stands beside its stored form under the text of its key. -/
def StandBeside (entries : List (Value × Value)) (named : List (String × Value)) : Prop :=
  List.Forall₂ (fun entry field => field.1 = entry.1.plainText ∧ entry.2.stored = .ok field.2)
    entries named

theorem storedEntries_eq_ok_iff {entries : List (Value × Value)} {named : List (String × Value)} :
    storedEntries entries = .ok named ↔ StandBeside entries named := by
  induction entries generalizing named with
  | nil =>
    rw [storedEntries, StandBeside, List.forall₂_nil_left_iff]
    exact ⟨fun given => by cases given; rfl, fun none => none ▸ rfl⟩
  | cons entry entries ih =>
    obtain ⟨key, value⟩ := entry
    rw [storedEntries, StandBeside, List.forall₂_cons_left_iff]
    simp only [bind_eq_ok_iff, ih]
    constructor
    · rintro ⟨first, own, rest, parts, done⟩
      cases done
      exact ⟨(key.plainText, first), rest, ⟨rfl, own⟩, parts, rfl⟩
    · rintro ⟨⟨_, first⟩, rest, ⟨rfl, own⟩, parts, rfl⟩
      exact ⟨first, own, rest, parts, rfl⟩

/-- A mapping is stored with the entries that are left of the stored forms of its own. -/
theorem stored_mapping_eq_ok_iff {entries : List (Value × Value)} {written : Value} :
    (mapping entries).stored = .ok written ↔
      ∃ named, StandBeside entries named ∧ written = .mapping (Entries.ofNamed named) := by
  rw [stored, bind_return_eq_ok_iff]
  simp only [storedEntries_eq_ok_iff]

/-- A list, a tuple or a set is stored as the list of the stored forms of its items. -/
theorem stored_of_items?_eq {value written : Value} {items : List Value}
    (collection : value.items? = some items) :
    value.stored = .ok written ↔
      ∃ others, List.Forall₂ (fun item other => item.stored = .ok other) items others ∧
        written = .list others := by
  have asList : value.stored = (do return .list (← storedAll items)) := by
    cases value with
    | list | tuple | set =>
      cases collection
      rfl
    | _ => cases collection
  rw [asList, bind_return_eq_ok_iff]
  simp only [storedAll_eq_ok_iff]

/-- Fields are stored as the entries that they are. -/
theorem storedFields_eq_storedEntries (fields : List (String × Value)) :
    storedFields fields = storedEntries (fieldEntries fields) := by
  induction fields with
  | nil => rfl
  | cons field fields ih =>
    obtain ⟨name, value⟩ := field
    rw [storedFields, ih]
    rfl

/-- A record is stored as the mapping of its fields. -/
theorem stored_record (fields : List (String × Value)) :
    (record fields).stored = (mapping (fieldEntries fields)).stored := by
  rw [stored, stored, storedFields_eq_storedEntries]

/-! ## Stored forms are kept -/

/-- Values that are stored as they are make a mapping that is stored as it is, as soon as the names
are different. -/
theorem stored_ofNamed_eq_self {named : List (String × Value)}
    (own : ∀ field ∈ named, field.2.stored = .ok field.2) :
    (mapping (Entries.ofNamed named)).stored = .ok (.mapping (Entries.ofNamed named)) := by
  rw [stored_mapping_eq_ok_iff]
  refine ⟨Entries.distinct named, ?_, ?_⟩
  · refine List.forall₂_map_left_iff.mpr (List.forall₂_same.mpr fun field left => ⟨rfl, ?_⟩)
    exact own field (Entries.mem_of_mem_distinct left)
  · rw [Entries.ofNamed, Entries.ofNamed,
      Entries.distinct_of_nodup (Entries.nodup_distinct named)]

/-- What is written for a value without parts is stored as it is. -/
theorem stored_eq_self_of_isLeaf {value written : Value} (isLeaf : value.isLeaf)
    (given : value.stored = .ok written) : written.stored = .ok written := by
  cases value with
  | record | member | mapping | list | tuple | set => cases isLeaf
  | decimal number =>
    obtain ⟨packed, -, rfl⟩ := stored_decimal_eq_ok_iff.mp given
    rfl
  | _ =>
    cases given
    rfl

/-- A stored form is stored as it is. -/
theorem stored_eq_self_of_stored {value written : Value} (given : value.stored = .ok written) :
    written.stored = .ok written := by
  have each : StoredCases fun _ written => written.stored = .ok written :=
    { leaf := fun _ _ => stored_eq_self_of_isLeaf
      member := fun _ _ _ _ _ own => own
      collection := fun _ _ written _ parts =>
        (stored_of_items?_eq rfl).mpr ⟨written,
          List.forall₂_same.mpr (forall_of_forall₂ parts fun _ _ own => own), rfl⟩
      mapping := fun _ _ parts =>
        stored_ofNamed_eq_self (forall_of_forall₂ parts fun _ _ own => own.2)
      record := fun _ _ parts =>
        stored_ofNamed_eq_self (forall_of_forall₂ parts fun _ _ own => own.2) }
  exact each.of_stored value given

end Value

/-- What the document converter has bound is bound as it is when it is bound again, in whatever
collections, records and members of enumerations it came first, and with whatever objects among
it. -/
theorem Converter.bound_again_is_same (calls later : List Value) (value written : Value)
    (bound : (document calls value).map read = .ok written) :
    (document later written).map read = .ok written := by
  rw [map_read_document] at bound ⊢
  exact Value.stored_eq_self_of_stored bound

/-- A mapping with keys of several kinds, two of which have one text, and with objects in it. -/
def Value.ledger : Value :=
  .mapping [(.int 1, .object [("due", .date ⟨2024, 5, 1⟩)]),
    (.uuid ⟨255⟩, .set false [.decimal (.finite false 150 (-2))]),
    (.text "1", .member "Level" "HIGH" (.record [("ids", .tuple [.uuid ⟨7⟩, .stranger])])
      "Level.HIGH")]

/-- The form in which it is stored is stored as it is. -/
theorem Converter.bound_again_is_same_ledger :
    ∃ written, (document [] .ledger).map read = .ok written ∧
      (document [] written).map read = .ok written :=
  ⟨_, rfl, bound_again_is_same [] [] .ledger _ rfl⟩

/-! ## Entries that are kept -/

namespace Value

/-- A value stands in another one at some depth: among its items, under one of its keys, in one of
its fields, or as what it stands for. -/
inductive HasPart : Value → Value → Prop
  | itself (value : Value) : HasPart value value
  | item {value item part : Value} {items : List Value} (collection : value.items? = some items)
      (member : item ∈ items) (inside : HasPart item part) : HasPart value part
  | entry {entries : List (Value × Value)} {entry : Value × Value} {part : Value}
      (member : entry ∈ entries) (inside : HasPart entry.2 part) : HasPart (.mapping entries) part
  | field {fields : List (String × Value)} {field : String × Value} {part : Value}
      (member : field ∈ fields) (inside : HasPart field.2 part) : HasPart (.record fields) part
  | member {enumeration name declaration : String} {value part : Value}
      (inside : HasPart value part) : HasPart (.member enumeration name value declaration) part

/-- Whether the keys of a mapping have different texts, and the fields of a record different
names. -/
def keysDiffer : Value → Bool
  | .mapping entries => decide (entries.map (·.1.plainText)).Nodup
  | .record fields => decide (fields.map (·.1)).Nodup
  | _ => true

/-- What is related to a list item by item has something beside each item. -/
theorem exists_mem_of_forall₂ {α β : Type} {relation : α → β → Prop} {items : List α}
    {others : List β} (related : List.Forall₂ relation items others) :
    ∀ item ∈ items, ∃ other ∈ others, relation item other := by
  induction related with
  | nil => simp
  | cons first _ ih =>
    refine List.forall_mem_cons.mpr ⟨⟨_, List.mem_cons_self, first⟩, fun item member => ?_⟩
    obtain ⟨other, beside, own⟩ := ih item member
    exact ⟨other, List.mem_cons_of_mem _ beside, own⟩

section StandBeside

variable {entries : List (Value × Value)} {named : List (String × Value)}

/-- The names are the texts of the keys. -/
theorem StandBeside.map_fst_eq (beside : StandBeside entries named) :
    named.map (·.1) = entries.map (·.1.plainText) := by
  induction beside with
  | nil => rfl
  | cons first _ ih => rw [List.map_cons, List.map_cons, first.1, ih]

/-- Under the text of a key stands the stored form of the first value that has such a key. -/
theorem StandBeside.lookup_eq (beside : StandBeside entries named) {name : String}
    {entry : Value × Value}
    (found : entries.find? (fun entry => entry.1.plainText == name) = some entry) :
    ∃ written, entry.2.stored = .ok written ∧ named.lookup name = some written := by
  induction beside with
  | nil => cases found
  | @cons first field entries named own _ ih =>
    obtain ⟨text, value⟩ := field
    obtain ⟨rfl, stored⟩ := own
    by_cases same : first.1.plainText = name
    · subst same
      rw [List.find?_cons, beq_self_eq_true, Option.some.injEq] at found
      exact ⟨value, found ▸ stored, List.lookup_cons_self⟩
    · rw [List.find?_cons, beq_false_of_ne same] at found
      rw [List.lookup_cons, beq_false_of_ne (Ne.symm same)]
      exact ih found

/-- The entries that are left stand beside the entries of the mapping just if none is lost. -/
theorem StandBeside.distinct_iff (beside : StandBeside entries named) :
    StandBeside entries (Entries.distinct named) ↔ (entries.map (·.1.plainText)).Nodup := by
  constructor
  · intro kept
    rw [← kept.map_fst_eq]
    exact Entries.nodup_distinct named
  · intro different
    rw [← beside.map_fst_eq] at different
    rwa [Entries.distinct_of_nodup different]

end StandBeside

theorem HasPart.trans {value part inner : Value} (outside : value.HasPart part)
    (inside : part.HasPart inner) : value.HasPart inner := by
  induction outside with
  | itself => exact inside
  | item collection member _ ih => exact .item collection member (ih inside)
  | entry member _ ih => exact .entry member (ih inside)
  | field member _ ih => exact .field member (ih inside)
  | member _ ih => exact .member (ih inside)

/-- A value under a key of a mapping that has a stored form has one, which stands in that of the
mapping if no entry is lost. -/
theorem exists_stored_of_mem {entries : List (Value × Value)} {entry : Value × Value}
    {written : Value} (member : entry ∈ entries)
    (given : (mapping entries).stored = .ok written) :
    ∃ own, entry.2.stored = .ok own ∧
      ((entries.map (·.1.plainText)).Nodup → written.HasPart own) := by
  obtain ⟨named, parts, rfl⟩ := stored_mapping_eq_ok_iff.mp given
  obtain ⟨field, beside, -, stored⟩ := exists_mem_of_forall₂ parts entry member
  refine ⟨field.2, stored, fun different => ?_⟩
  rw [← parts.map_fst_eq] at different
  rw [Entries.ofNamed, Entries.distinct_of_nodup different]
  exact .entry (List.mem_map_of_mem beside) (.itself _)

/-- What stands in a value that has a stored form has one, which stands in that of the value if no
entry is lost on the way. -/
theorem HasPart.exists_stored {value part written : Value} (inside : value.HasPart part)
    (given : value.stored = .ok written) :
    ∃ own, part.stored = .ok own ∧ (value.everyPart keysDiffer → written.HasPart own) := by
  induction inside generalizing written with
  | itself value => exact ⟨written, given, fun _ => .itself written⟩
  | member _ ih =>
    obtain ⟨own, stored, kept⟩ := ih given
    exact ⟨own, stored, fun all => kept (Bool.and_eq_true_iff.mp all).2⟩
  | item collection member _ ih =>
    obtain ⟨others, parts, rfl⟩ := (stored_of_items?_eq collection).mp given
    obtain ⟨other, beside, stored⟩ := exists_mem_of_forall₂ parts _ member
    obtain ⟨own, storedToo, kept⟩ := ih stored
    exact ⟨own, storedToo, fun all =>
      .item rfl beside (kept (everyPart_of_items?_eq collection all _ member))⟩
  | entry member _ ih =>
    obtain ⟨middle, stored, keptThere⟩ := exists_stored_of_mem member given
    obtain ⟨own, storedToo, kept⟩ := ih stored
    refine ⟨own, storedToo, fun all => ?_⟩
    obtain ⟨different, values⟩ := Bool.and_eq_true_iff.mp all
    exact (keptThere (of_decide_eq_true different)).trans
      (kept (everyEntry_iff.mp values _ member))
  | @field fields field _ member _ ih =>
    rw [stored_record] at given
    have asEntry : (text field.1, field.2) ∈ fieldEntries fields :=
      List.mem_map_of_mem (f := fun field => (text field.1, field.2)) member
    obtain ⟨middle, stored, keptThere⟩ := exists_stored_of_mem asEntry given
    obtain ⟨own, storedToo, kept⟩ := ih stored
    refine ⟨own, storedToo, fun all => ?_⟩
    obtain ⟨different, values⟩ := Bool.and_eq_true_iff.mp all
    have names : (fieldEntries fields).map (·.1.plainText) = fields.map (·.1) := by
      rw [fieldEntries, List.map_map]
      rfl
    exact (keptThere (names ▸ of_decide_eq_true different)).trans
      (kept (everyField_iff.mp values _ member))

end Value

/-- What becomes of the entries of a mapping that stands anywhere in a value that can be bound. The
stored form of the mapping has an entry for each text that keys have, in the order in which the
texts come first, and under each text what is stored for the last entry with such a key. No entry
is lost, and each one is stored in its place, just if the texts of the keys are different. If they
are in all mappings, the stored form of this one stands in what is bound. -/
theorem Converter.entries_are_kept_iff (calls : List Value) (value written : Value)
    (entries : List (Value × Value)) (bound : (document calls value).map read = .ok written)
    (inside : value.HasPart (.mapping entries)) :
    ∃ named, (Value.mapping entries).stored = .ok (.mapping (Value.fieldEntries named)) ∧
      named.map (·.1) = (entries.map (·.1.plainText)).eraseDups ∧
      (∀ name entry, entries.reverse.find? (fun entry => entry.1.plainText == name) = some entry →
        ∃ last, entry.2.stored = .ok last ∧ named.lookup name = some last) ∧
      (List.Forall₂ (fun entry field => field.1 = entry.1.plainText ∧
          entry.2.stored = .ok field.2) entries named ↔
        (entries.map (·.1.plainText)).Nodup) ∧
      (value.everyPart Value.keysDiffer →
        written.HasPart (.mapping (Value.fieldEntries named))) := by
  rw [map_read_document] at bound
  obtain ⟨own, stored, kept⟩ := inside.exists_stored bound
  obtain ⟨named, parts, rfl⟩ := Value.stored_mapping_eq_ok_iff.mp stored
  refine ⟨Entries.distinct named, stored, ?_, fun name entry found => ?_, parts.distinct_iff, kept⟩
  · rw [Entries.map_fst_distinct, parts.map_fst_eq]
  · rw [Entries.lookup_distinct]
    exact Value.StandBeside.lookup_eq (List.forall₂_reverse_iff.mpr parts) found

/-- Of the three entries of a mapping inside a record two are left. -/
theorem Converter.entries_are_kept_iff_ledger :
    ∃ written named,
      (document [] (.record [("books", .tuple [.ledger])])).map read = .ok written ∧
      (Value.record [("books", .tuple [.ledger])]).HasPart .ledger ∧
      Value.ledger.stored = .ok (.mapping (Value.fieldEntries named)) ∧
      named.map (·.1) = ["1", "00000000-0000-0000-0000-0000000000ff"] := by
  have inside : (Value.record [("books", .tuple [.ledger])]).HasPart .ledger :=
    .field List.mem_cons_self (.item rfl List.mem_cons_self (.itself _))
  obtain ⟨named, stored, names, -⟩ := entries_are_kept_iff [] _ _ _ rfl inside
  exact ⟨_, named, rfl, inside, stored, names⟩

/-- A number and its text are two keys, but only one of their entries is stored. -/
theorem Value.stored_one_and_its_text :
    isSameKey (.int 1) (.text "1") = false ∧
      (Value.mapping [(.int 1, .text "a"), (.text "1", .text "b")]).stored =
        .ok (.mapping [(.text "1", .text "b")]) :=
  ⟨rfl, rfl⟩

end DocFilter
