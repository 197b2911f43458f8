/-
# Schedules

Criteria can be worked on in a session step by step: every clause is compiled into the draft of its
group, and every later group is joined to the first one. The clauses have to be compiled in order,
because they share the values. But a group can wait before it is joined, while clauses of other
groups are compiled: what is joined is the group as it is then, and a group that has all its
clauses does not change any more. So every such schedule comes to what compiling the criteria in
one step comes to, and it stops where that stops.
-/

import DocFilter.Proofs.Compiling
import DocFilter.Proofs.Sessions
import Mathlib.Data.List.Nodup

namespace DocFilter

namespace Step

/-- The clause that a step compiles, with the name of the draft that takes it. -/
def clause? : Step → Option (String × ClauseForm)
  | .start name form | .and name form => some (name, form)
  | .or _ _ | .complete _ | .create _ => none

/-- The name of the draft that a step joins to another one. -/
def joined? : Step → Option String
  | .or _ other => some other
  | .start _ _ | .and _ _ | .complete _ | .create _ => none

end Step

/-- The clauses of a group, which has a draft of its own. -/
structure NamedGroup where
  name : String
  first : ClauseForm
  others : List ClauseForm

namespace NamedGroup

/-- The clauses in order. -/
def forms (group : NamedGroup) : List ClauseForm :=
  group.first :: group.others

/-- The steps that compile the clauses into the draft of the group. -/
def steps (group : NamedGroup) : List Step :=
  .start group.name group.first :: group.others.map (.and group.name)

end NamedGroup

/-- Whether steps work on groups as they have to be worked on. -/
structure IsSchedule (base : NamedGroup) (later : List NamedGroup) (steps : List Step) : Prop where
  /-- The clauses are compiled in order, each into the draft of its group. -/
  compiles : steps.filter (·.clause?.isSome) = (base :: later).flatMap NamedGroup.steps
  /-- All that is done besides is that the later groups are joined to the first one, in order. -/
  joins : steps.filter (·.clause?.isNone) = later.map fun group => .or base.name group.name
  /-- A group that has been joined has all its clauses. -/
  complete : steps.Pairwise fun earlier next =>
    ∀ name form, earlier.joined? = some name → next.clause? ≠ some (name, form)

/-- How a schedule goes on while a group is being compiled: clauses of the group and further groups
are still to be compiled, and some of the groups that have been compiled wait to be joined. -/
inductive Continues (base : String) :
    String → List ClauseForm → List NamedGroup → List String → List Step → Prop
  | done {current : String} : Continues base current [] [] [] []
  | start {current : String} {group : NamedGroup} {rest : List NamedGroup}
      {waiting : List String} {steps : List Step}
      (continues : Continues base group.name group.others rest (waiting ++ [group.name]) steps) :
      Continues base current [] (group :: rest) waiting
        (.start group.name group.first :: steps)
  | and {current : String} {form : ClauseForm} {forms : List ClauseForm}
      {rest : List NamedGroup} {waiting : List String} {steps : List Step}
      (continues : Continues base current forms rest waiting steps) :
      Continues base current (form :: forms) rest waiting (.and current form :: steps)
  | or {current name : String} {forms : List ClauseForm} {rest : List NamedGroup}
      {waiting : List String} {steps : List Step} (whole : forms ≠ [] → name ≠ current)
      (continues : Continues base current forms rest waiting steps) :
      Continues base current forms rest (name :: waiting) (.or base name :: steps)

/-- Steps that compile what is left in order, join what is left in order, and join no group that
is still to take a clause, go on as a schedule does. -/
theorem Continues.of_filter {base current : String} {forms : List ClauseForm}
    {rest : List NamedGroup} {waiting : List String} {steps : List Step}
    (compiles : steps.filter (·.clause?.isSome) =
      forms.map (.and current) ++ rest.flatMap NamedGroup.steps)
    (joins : steps.filter (·.clause?.isNone) =
      (waiting ++ rest.map NamedGroup.name).map (.or base))
    (complete : steps.Pairwise fun earlier next =>
      ∀ name form, earlier.joined? = some name → next.clause? ≠ some (name, form)) :
    Continues base current forms rest waiting steps := by
  induction steps generalizing current forms rest waiting with
  | nil =>
    rw [List.filter_nil] at compiles joins
    obtain ⟨noForms, noRest⟩ := List.append_eq_nil_iff.mp compiles.symm
    obtain ⟨noWaiting, noNames⟩ := List.append_eq_nil_iff.mp (List.map_eq_nil_iff.mp joins.symm)
    rw [List.map_eq_nil_iff.mp noForms, List.map_eq_nil_iff.mp noNames, noWaiting]
    exact .done
  | cons step steps ih =>
    obtain ⟨whole, onward⟩ := List.pairwise_cons.mp complete
    cases compiled : step.clause? with
    | some clause =>
      rw [List.filter_cons_of_pos (by rw [compiled]; rfl)] at compiles
      rw [List.filter_cons_of_neg (by rw [compiled]; simp)] at joins
      cases forms with
      | cons form forms =>
        obtain ⟨rfl, left⟩ := List.cons.inj compiles
        exact .and (ih left joins onward)
      | nil =>
        cases rest with
        | nil => cases compiles
        | cons group rest =>
          obtain ⟨rfl, left⟩ := List.cons.inj compiles
          rw [List.map_cons, List.append_cons] at joins
          exact .start (ih left joins onward)
    | none =>
      rw [List.filter_cons_of_neg (by rw [compiled]; simp)] at compiles
      rw [List.filter_cons_of_pos (by rw [compiled]; rfl)] at joins
      have others : ∀ name, step.joined? = some name →
          ∀ next ∈ forms.map (.and current) ++ rest.flatMap NamedGroup.steps,
            ∀ form, next.clause? ≠ some (name, form) := by
        intro name joined next member form
        rw [← compiles] at member
        exact whole next (List.mem_filter.mp member).1 name form joined
      cases waiting with
      | cons name waiting =>
        obtain ⟨rfl, left⟩ := List.cons.inj joins
        refine .or ?_ (ih compiles left onward)
        rintro more rfl
        obtain ⟨form, forms, rfl⟩ := List.exists_cons_of_ne_nil more
        exact others name rfl (.and name form) List.mem_cons_self form rfl
      | nil =>
        -- The group that comes next cannot be joined yet: its first clause is to be compiled.
        cases rest with
        | nil => cases joins
        | cons group rest =>
          obtain ⟨rfl, -⟩ := List.cons.inj joins
          have start : Step.start group.name group.first ∈
              forms.map (.and current) ++ (group :: rest).flatMap NamedGroup.steps :=
            List.mem_append_right _ List.mem_cons_self
          exact absurd rfl (others group.name rfl _ start group.first)

/-- A schedule starts with the first clause, and goes on from there. -/
theorem IsSchedule.exists_continues {base : NamedGroup} {later : List NamedGroup}
    {steps : List Step} (schedule : IsSchedule base later steps) :
    ∃ onward, steps = .start base.name base.first :: onward ∧
      Continues base.name base.name base.others later [] onward := by
  obtain ⟨compiles, joins, complete⟩ := schedule
  cases steps with
  | nil => cases compiles
  | cons step steps =>
    obtain ⟨whole, onward⟩ := List.pairwise_cons.mp complete
    cases compiled : step.clause? with
    | some clause =>
      rw [List.filter_cons_of_pos (by rw [compiled]; rfl)] at compiles
      rw [List.filter_cons_of_neg (by rw [compiled]; simp)] at joins
      obtain ⟨rfl, left⟩ := List.cons.inj compiles
      refine ⟨steps, rfl, .of_filter left ?_ onward⟩
      rw [joins, List.nil_append, List.map_map]
      rfl
    | none =>
      rw [List.filter_cons_of_neg (by rw [compiled]; simp)] at compiles
      rw [List.filter_cons_of_pos (by rw [compiled]; rfl)] at joins
      cases later with
      | nil => cases joins
      | cons group later =>
        obtain ⟨rfl, -⟩ := List.cons.inj joins
        have start : Step.start group.name group.first ∈
            steps.filter (·.clause?.isSome) := by
          rw [compiles]
          simp [NamedGroup.steps]
        exact absurd rfl
          (whole _ (List.mem_filter.mp start).1 group.name group.first rfl)

/-! ## What a schedule comes to -/

/-- What is left of a schedule to compile: clauses of the current group, and whole groups. -/
def compileLeft (setup : Setup) (forms : List ClauseForm) (rest : List NamedGroup) :
    Binder (List Term × List (List Term)) := do
  let terms ← forms.mapM (ClauseForm.compile setup.converter setup.options)
  let groups ← rest.mapM fun group =>
    group.forms.mapM (ClauseForm.compile setup.converter setup.options)
  return (terms, groups)

theorem compileLeft_nil (setup : Setup) : compileLeft setup [] [] = pure ([], []) := by
  simp [compileLeft]

theorem compileLeft_cons (setup : Setup) (form : ClauseForm) (forms : List ClauseForm)
    (rest : List NamedGroup) :
    compileLeft setup (form :: forms) rest = (do
      let term ← form.compile setup.converter setup.options
      (fun left => (term :: left.1, left.2)) <$> compileLeft setup forms rest) := by
  simp [compileLeft]

theorem compileLeft_nil_cons (setup : Setup) (group : NamedGroup) (rest : List NamedGroup) :
    compileLeft setup [] (group :: rest) = (do
      let term ← group.first.compile setup.converter setup.options
      (fun left => ([], (term :: left.1) :: left.2)) <$> compileLeft setup group.others rest) := by
  simp [compileLeft, NamedGroup.forms]

/-- The terms of groups stay what they are when another group takes terms. -/
theorem map_update_of_not_mem {names : List String} {name : String} (outside : name ∉ names)
    (terms : String → List Term) (own : List Term) :
    names.map (Function.update terms name own) = names.map terms := by
  apply List.map_congr_left
  intro other member
  have different : other ≠ name := by
    rintro rfl
    exact outside member
  exact Function.update_of_ne different own terms

/-- What the drafts hold while a schedule is worked through: the terms of the first group, with
what has been joined to it, and the terms of every group that waits to be joined. -/
structure Holds (terms : String → List Term) (base : String) (joined waiting : List String)
    (drafts : Drafts) : Prop where
  base : ∃ draft, drafts.get base = .ok draft ∧ draft.terms = terms base ∧
    draft.alternatives = (joined.map terms).map Draft.conjunctionOf
  waiting : ∀ name ∈ waiting, ∃ draft, drafts.get name = .ok draft ∧ draft.terms = terms name

namespace Holds

variable {terms : String → List Term} {base name : String} {joined waiting : List String}
  {drafts : Drafts}

/-- A group that may take a clause has a draft with its terms. -/
theorem exists_get (holds : Holds terms base joined waiting drafts)
    (inside : name ∈ base :: waiting) :
    ∃ draft, drafts.get name = .ok draft ∧ draft.terms = terms name := by
  rcases List.mem_cons.mp inside with rfl | waits
  · obtain ⟨draft, held, own, -⟩ := holds.base
    exact ⟨draft, held, own⟩
  · exact holds.waiting name waits

/-- The draft of a new group waits to be joined. -/
theorem start (holds : Holds terms base joined waiting drafts)
    (fresh : name ∉ base :: (joined ++ waiting)) (term : Term) :
    Holds (Function.update terms name [term]) base joined (waiting ++ [name])
      (drafts.put name { first := term }) := by
  rw [List.mem_cons, List.mem_append, not_or, not_or] at fresh
  obtain ⟨notBase, notJoined, notWaiting⟩ := fresh
  constructor
  · obtain ⟨draft, held, own, alternatives⟩ := holds.base
    refine ⟨draft, ?_, ?_, ?_⟩
    · rw [Drafts.get_put_of_ne (Ne.symm notBase), held]
    · rw [Function.update_of_ne (Ne.symm notBase), own]
    · rw [map_update_of_not_mem notJoined, alternatives]
  · intro other member
    by_cases same : other = name
    · subst same
      exact ⟨_, Drafts.get_put .., (Function.update_self other [term] terms).symm⟩
    · have earlier : other ∈ waiting := by simpa [same] using member
      obtain ⟨draft, held, own⟩ := holds.waiting other earlier
      refine ⟨draft, ?_, ?_⟩
      · rw [Drafts.get_put_of_ne same, held]
      · rw [Function.update_of_ne same, own]

/-- The draft of a group takes one more term. -/
theorem and {draft : Draft} (holds : Holds terms base joined waiting drafts)
    (held : drafts.get name = .ok draft) (own : draft.terms = terms name)
    (outside : name ∉ joined) (term : Term) :
    Holds (Function.update terms name (terms name ++ [term])) base joined waiting
      (drafts.put name (draft.and term)) := by
  have more : (draft.and term).terms = terms name ++ [term] := by
    rw [← own]
    rfl
  constructor
  · obtain ⟨first, firstHeld, firstOwn, alternatives⟩ := holds.base
    by_cases same : base = name
    · subst same
      rw [held] at firstHeld
      cases firstHeld
      refine ⟨draft.and term, Drafts.get_put .., ?_, ?_⟩
      · rw [Function.update_self, more]
      · rw [map_update_of_not_mem outside, ← alternatives]
        rfl
    · refine ⟨first, ?_, ?_, ?_⟩
      · rw [Drafts.get_put_of_ne same, firstHeld]
      · rw [Function.update_of_ne same, firstOwn]
      · rw [map_update_of_not_mem outside, alternatives]
  · intro other member
    by_cases same : other = name
    · subst same
      exact ⟨_, Drafts.get_put .., by rw [Function.update_self, more]⟩
    · obtain ⟨found, foundHeld, foundOwn⟩ := holds.waiting other member
      refine ⟨found, ?_, ?_⟩
      · rw [Drafts.get_put_of_ne same, foundHeld]
      · rw [Function.update_of_ne same, foundOwn]

/-- The first draft takes the group that waits longest. -/
theorem or {first draft : Draft} (holds : Holds terms base joined (name :: waiting) drafts)
    (isBase : drafts.get base = .ok first) (isOther : drafts.get name = .ok draft) :
    Holds terms base (joined ++ [name]) waiting (drafts.put base (first.or draft)) := by
  obtain ⟨_, firstHeld, firstOwn, alternatives⟩ := holds.base
  rw [isBase] at firstHeld
  cases firstHeld
  obtain ⟨_, held, own⟩ := holds.waiting name List.mem_cons_self
  rw [isOther] at held
  cases held
  constructor
  · refine ⟨first.or draft, Drafts.get_put .., firstOwn, ?_⟩
    rw [List.map_append, List.map_append, ← alternatives, Draft.or, Draft.conjunction, own]
    rfl
  · intro other member
    by_cases same : other = base
    · subst same
      exact ⟨_, Drafts.get_put .., firstOwn⟩
    · obtain ⟨found, foundHeld, foundOwn⟩ := holds.waiting other (List.mem_cons_of_mem _ member)
      refine ⟨found, ?_, foundOwn⟩
      rw [Drafts.get_put_of_ne same, foundHeld]

/-- The filter of the first draft is made of its terms and those of all groups that have been
joined. -/
theorem exists_filter_eq (holds : Holds terms base joined waiting drafts) :
    ∃ draft, drafts.get base = .ok draft ∧
      draft.filter = Draft.disjunctionOf ((base :: joined).map terms) := by
  obtain ⟨⟨first, others, alternatives⟩, held, own, rfl⟩ := holds.base
  refine ⟨_, held, ?_⟩
  rw [Draft.filter_eq_disjunctionOf, List.map_cons, ← own]
  rfl

end Holds

/-- However a schedule goes on, it compiles its clauses in order, and in the end the first draft
has all groups in it. -/
theorem Continues.performs {base current : String} {forms : List ClauseForm}
    {rest : List NamedGroup} {waiting : List String} {steps : List Step} (setup : Setup)
    (continues : Continues base current forms rest waiting steps)
    {terms : String → List Term} {joined : List String} {session : Session}
    (different : (base :: (joined ++ waiting) ++ rest.map NamedGroup.name).Nodup)
    (inside : forms ≠ [] → current ∈ base :: waiting)
    (holds : Holds terms base joined waiting session.drafts) :
    Session.Performs setup steps session (compileLeft setup forms rest) fun left drafts =>
      ∃ draft, drafts.get base = .ok draft ∧
        draft.filter = Draft.disjunctionOf
          ((base :: (joined ++ waiting)).map
            (Function.update terms current (terms current ++ left.1)) ++ left.2) := by
  induction continues generalizing terms joined session with
  | @done current =>
    rw [compileLeft_nil]
    refine ⟨.ok ([], []), session.binding, session.drafts, rfl, rfl, ?_⟩
    rintro left ⟨⟩
    obtain ⟨draft, held, written⟩ := holds.exists_filter_eq
    refine ⟨draft, held, ?_⟩
    rw [written, List.append_nil, List.append_nil, List.append_nil, Function.update_eq_self]
  | @start current group rest waiting steps _ ih =>
    have fresh : group.name ∉ base :: (joined ++ waiting) :=
      fun member => different.disjoint member List.mem_cons_self
    have onward : (base :: (joined ++ (waiting ++ [group.name])) ++
        rest.map NamedGroup.name).Nodup := by
      rw [List.map_cons, List.append_cons] at different
      rwa [← List.append_assoc joined, ← List.cons_append]
    rw [compileLeft_nil_cons]
    refine .cons_of_clause (Session.outcome_start setup group.name group.first session) ?_
    intro term middle
    refine .imp ?_ (ih onward (fun _ => by simp) (holds.start fresh term))
    rintro left drafts ⟨draft, held, written⟩
    refine ⟨draft, held, ?_⟩
    have groups : (base :: (joined ++ (waiting ++ [group.name]))).map
        (Function.update terms group.name (term :: left.1)) =
          (base :: (joined ++ waiting)).map terms ++ [term :: left.1] := by
      rw [← List.append_assoc, ← List.cons_append, List.map_append,
        map_update_of_not_mem fresh, List.map_singleton, Function.update_self]
    rw [written, Function.update_self, Function.update_idem, List.append_nil,
      Function.update_eq_self, List.singleton_append, groups, List.append_assoc,
      List.singleton_append]
  | @and current form forms rest waiting steps _ ih =>
    have mayTake := inside (List.cons_ne_nil _ _)
    obtain ⟨draft, held, own⟩ := holds.exists_get mayTake
    have notJoined : current ∉ joined := by
      obtain ⟨notLater, apart⟩ := List.nodup_cons.mp different.of_append_left
      rcases List.mem_cons.mp mayTake with rfl | waits
      · exact fun member => notLater (List.mem_append_left _ member)
      · exact fun member => apart.disjoint member waits
    rw [compileLeft_cons]
    refine .cons_of_clause (Session.outcome_and setup held form) ?_
    intro term middle
    refine .imp ?_ (ih different (fun _ => mayTake) (holds.and held own notJoined term))
    rintro left drafts ⟨final, finalHeld, written⟩
    refine ⟨final, finalHeld, ?_⟩
    rw [written, Function.update_self, Function.update_idem, List.append_assoc]
    rfl
  | @or current name forms rest waiting steps whole _ ih =>
    obtain ⟨first, isBase, -⟩ := holds.base
    obtain ⟨draft, isOther, -⟩ := holds.waiting name List.mem_cons_self
    have stillInside : forms ≠ [] → current ∈ base :: waiting := by
      intro more
      have different := whole more
      rcases List.mem_cons.mp (inside more) with same | waits
      · exact same ▸ List.mem_cons_self
      · rcases List.mem_cons.mp waits with same | waits
        · exact absurd same.symm different
        · exact List.mem_cons_of_mem _ waits
    rw [List.append_cons joined] at different ⊢
    exact .cons_of_drafts (Session.outcome_or setup isBase isOther)
      (ih different stillInside (holds.or isBase isOther))

/-- A schedule compiles its clauses in order, and in the end the first draft has the groups in it
as criteria have them. -/
theorem IsSchedule.performs {base : NamedGroup} {later : List NamedGroup} {steps : List Step}
    (schedule : IsSchedule base later steps)
    (different : ((base :: later).map NamedGroup.name).Nodup) (setup : Setup)
    (session : Session) :
    Session.Performs setup steps session
      (((base :: later).map NamedGroup.forms).mapM fun forms =>
        forms.mapM (ClauseForm.compile setup.converter setup.options))
      fun groups drafts => ∃ draft, drafts.get base.name = .ok draft ∧
        draft.filter = Draft.disjunctionOf groups := by
  obtain ⟨onward, rfl, continues⟩ := schedule.exists_continues
  have inOrder : (((base :: later).map NamedGroup.forms).mapM fun forms =>
      forms.mapM (ClauseForm.compile setup.converter setup.options)) = (do
        let term ← base.first.compile setup.converter setup.options
        (fun left => (term :: left.1) :: left.2) <$> compileLeft setup base.others later) := by
    simp [compileLeft, NamedGroup.forms, List.mapM_map, Function.comp_def]
  rw [inOrder]
  refine .cons_of_clause (Session.outcome_start setup base.name base.first session) ?_
  intro term middle
  have holds : Holds (fun _ => [term]) base.name [] []
      (session.drafts.put base.name { first := term }) := by
    refine ⟨⟨_, Drafts.get_put .., rfl, rfl⟩, ?_⟩
    intro name member
    cases member
  have names : (base.name :: ([] ++ []) ++ later.map NamedGroup.name).Nodup := different
  refine .imp ?_ (continues.performs setup names (fun _ => List.mem_cons_self) holds)
  rintro left drafts ⟨draft, held, written⟩
  refine ⟨draft, held, ?_⟩
  rw [written, List.nil_append, List.map_singleton, Function.update_self]
  rfl

/-- Working through a schedule and finishing the first draft is the same as compiling the criteria
in one step: the filter is the same, the same values are taken, the converter is asked for the same
values and the same is reported. If the schedule stops with a failure, compiling the criteria fails
in the same way after the same values. -/
theorem Session.complete_eq_create (setup : Setup) (base : NamedGroup) (later : List NamedGroup)
    (criteria : Criteria) (steps : List Step) (session : Session)
    (different : ((base :: later).map NamedGroup.name).Nodup)
    (built : Criteria.ofForms ((base :: later).map NamedGroup.forms) = .ok criteria)
    (schedule : IsSchedule base later steps) :
    (∀ left, outcome (takeAll setup steps) session = (.ok (), left) →
      ∃ filter finished created,
        outcome (step setup (.complete (some base.name))) left = (.ok (.filter filter), finished) ∧
        outcome (step setup (.create ((base :: later).map NamedGroup.forms))) session =
          (.ok (.filter filter), created) ∧
        finished.binding = created.binding ∧ finished.reports = created.reports) ∧
    (∀ fault left, outcome (takeAll setup steps) session = (.error fault, left) →
      ∃ created,
        outcome (step setup (.create ((base :: later).map NamedGroup.forms))) session =
          (.error fault, created) ∧
        left.binding = created.binding ∧ left.reports = created.reports) := by
  obtain ⟨result, final, drafts, compiled, reached, held⟩ :=
    schedule.performs different setup session
  have created := outcome_create setup built session
  have terms := Criteria.compileTerms_of_ofForms built setup.converter setup.options
  rw [Criteria.compile_eq_map_compileTerms, outcome_bound_map_bind, terms] at created
  rw [reached]
  cases result with
  | error fault =>
    refine ⟨?_, ?_⟩
    · rintro left ⟨⟩
    · rintro fault left ⟨⟩
      rw [outcome_bind_of_error (outcome_bound compiled)] at created
      exact ⟨_, created, rfl, rfl⟩
  | ok groups =>
    refine ⟨?_, ?_⟩
    · rintro left ⟨⟩
      obtain ⟨draft, isBase, written⟩ := held groups rfl
      have finished : outcome (step setup (.complete (some base.name)))
          { session with binding := final, drafts := drafts } = _ :=
        outcome_complete setup isBase
      rw [written] at finished
      rw [outcome_bind_of_ok (outcome_bound compiled), outcome_finish] at created
      exact ⟨_, _, _, finished, created, rfl, rfl⟩
    · rintro fault left ⟨⟩

namespace NamedGroup

/-- An age in a range. -/
def ages : NamedGroup :=
  ⟨"ages", ⟨.dotted "age", .text "between"⟩, []⟩

/-- A name like a text, and not a given one. -/
def names : NamedGroup :=
  ⟨"names", ⟨.dotted "name", .text "like"⟩, [⟨.dotted "name", .text "not_equals"⟩]⟩

/-- A young pet without an owner. -/
def pets : NamedGroup :=
  ⟨"pets", ⟨.dotted "pet.owner", .text "is_null"⟩, [⟨.dotted "pet.age", .text "less_than"⟩]⟩

/-- Steps that join the names while the pets are being compiled. -/
def interleaved : List Step :=
  [.start "ages" ages.first, .start "names" names.first,
    .and "names" ⟨.dotted "name", .text "not_equals"⟩, .start "pets" pets.first,
    .or "ages" "names", .and "pets" ⟨.dotted "pet.age", .text "less_than"⟩, .or "ages" "pets"]

theorem isSchedule_interleaved : IsSchedule ages [names, pets] interleaved := by
  refine ⟨rfl, rfl, ?_⟩
  simp [interleaved, ages, names, pets, Step.clause?, Step.joined?]

end NamedGroup

open NamedGroup in
/-- With values for all clauses these steps come to the filter of the criteria. Without one for the
second clause on names they stop there, as compiling the criteria does. -/
theorem Session.complete_eq_create_interleaved :
    (∃ left filter finished created,
      outcome (takeAll {} interleaved)
        (.ofValues [.int 18, .int 65, .text "J*n", .text "Jan", .int 3]) = (.ok (), left) ∧
      outcome (step {} (.complete (some "ages"))) left = (.ok (.filter filter), finished) ∧
      outcome (step {} (.create [ages.forms, names.forms, pets.forms]))
        (.ofValues [.int 18, .int 65, .text "J*n", .text "Jan", .int 3]) =
          (.ok (.filter filter), created) ∧
      finished.binding = created.binding) ∧
    ∃ left created,
      outcome (takeAll {} interleaved) (.ofValues [.int 18, .int 65, .text "J*n"]) =
        (.error (.query (.valuesExhausted 3 (some "name"))), left) ∧
      outcome (step {} (.create [ages.forms, names.forms, pets.forms]))
        (.ofValues [.int 18, .int 65, .text "J*n"]) =
          (.error (.query (.valuesExhausted 3 (some "name"))), created) ∧
      left.binding = created.binding := by
  have same := fun session => complete_eq_create {} ages [names, pets] _ interleaved session
    (by decide) rfl isSchedule_interleaved
  constructor
  · obtain ⟨filter, finished, created, completed, compiled, taken, -⟩ :=
      (same (.ofValues [.int 18, .int 65, .text "J*n", .text "Jan", .int 3])).1 _ rfl
    exact ⟨_, filter, finished, created, rfl, completed, compiled, taken⟩
  · obtain ⟨created, refused, taken, -⟩ :=
      (same (.ofValues [.int 18, .int 65, .text "J*n"])).2
        (.query (.valuesExhausted 3 (some "name"))) _ rfl
    exact ⟨_, created, rfl, refused, taken⟩

end DocFilter
