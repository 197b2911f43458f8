/-
# Steps of sessions

A step of a session is tried on a session: it comes to a result and leaves a session behind. Every
step is known by what it takes from the values, which is one compilation or nothing at all, and by
what it does to drafts and reports after that, which cannot fail.
-/

import DocFilter.Proofs.Compiling
import DocFilter.Proofs.ShortCircuit
import DocFilter.Session

namespace DocFilter

/-- Compiles the clause that a form asks for. -/
def ClauseForm.compile (converter : Converter) (options : Options) (form : ClauseForm) :
    Binder Term := do
  let clause ← ExceptT.mk (pure form.build)
  clause.compile converter options

/-- A form is compiled as the clause that it asks for. -/
theorem ClauseForm.compile_of_built {form : ClauseForm} {clause : Clause}
    (built : form.build = .ok clause) (converter : Converter) (options : Options) :
    form.compile converter options = clause.compile converter options := by
  rw [compile, built]
  rfl

/-- A form that asks for no clause takes nothing. -/
theorem ClauseForm.outcome_compile_of_error {form : ClauseForm} {fault : Fault}
    (refused : form.build = .error fault) (converter : Converter) (options : Options)
    (binding : Binding) :
    Binder.outcome (form.compile converter options) binding = (.error fault, binding) := by
  rw [compile, refused]
  rfl

/-! ## Criteria that forms ask for -/

/-- When results are given for all items, each stands to its item as results do. -/
theorem forall₂_of_mapM_eq_ok {α β : Type} {make : α → Except Fault β} {items : List α}
    {results : List β} (made : items.mapM make = .ok results) :
    List.Forall₂ (fun item result => make item = .ok result) items results := by
  induction items generalizing results with
  | nil =>
    cases made
    exact .nil
  | cons item items ih =>
    rw [List.mapM_cons] at made
    obtain ⟨result, first, made⟩ := bind_eq_ok_iff.mp made
    obtain ⟨others, later, made⟩ := bind_eq_ok_iff.mp made
    cases made
    exact .cons first (ih later)

/-- When results are not given for all items, one of them is refused. -/
theorem exists_of_mapM_eq_error {α β : Type} {make : α → Except Fault β} {items : List α}
    {fault : Fault} (failed : items.mapM make = .error fault) :
    ∃ item ∈ items, make item = .error fault := by
  induction items with
  | nil => cases failed
  | cons item items ih =>
    rw [List.mapM_cons] at failed
    rcases bind_eq_error_iff.mp failed with first | ⟨result, -, failed⟩
    · exact ⟨item, List.mem_cons_self, first⟩
    · rcases bind_eq_error_iff.mp failed with later | ⟨results, -, ⟨⟩⟩
      obtain ⟨other, member, refused⟩ := ih later
      exact ⟨other, List.mem_cons_of_mem _ member, refused⟩

/-- What is done for items in turn can be done for what stands beside them. -/
theorem mapM_eq_of_forall₂ {α β γ : Type} {first : α → Binder γ} {second : β → Binder γ}
    {items : List α} {others : List β}
    (beside : List.Forall₂ (fun item other => first item = second other) items others) :
    items.mapM first = others.mapM second := by
  induction beside with
  | nil => rw [List.mapM_nil, List.mapM_nil]
  | cons same _ ih => rw [List.mapM_cons, List.mapM_cons, same, ih]

namespace Criteria

/-- Groups are made of the lists of their clauses. -/
theorem map_clauses_of_groupsFrom {index : Nat} {lists : List (List Clause)}
    {groups : List ClauseGroup} (made : groupsFrom index lists = .ok groups) :
    groups.map ClauseGroup.clauses = lists := by
  induction lists generalizing index groups with
  | nil =>
    cases made
    rfl
  | cons clauses lists ih =>
    cases clauses with
    | nil => cases made
    | cons first others =>
      obtain ⟨rest, later, made⟩ := bind_eq_ok_iff.mp made
      cases made
      rw [List.map_cons, ih later]
      rfl

/-- The clauses of criteria that can be built are those that the forms ask for. -/
theorem forall₂_of_ofForms {groups : List (List ClauseForm)} {criteria : Criteria}
    (built : ofForms groups = .ok criteria) :
    List.Forall₂ (List.Forall₂ fun form clause => form.build = .ok clause) groups
      (criteria.groups.map ClauseGroup.clauses) := by
  obtain ⟨lists, clauses, built⟩ := bind_eq_ok_iff.mp built
  obtain ⟨own, made, built⟩ := bind_eq_ok_iff.mp built
  cases built
  rw [map_clauses_of_groupsFrom made]
  exact (forall₂_of_mapM_eq_ok clauses).imp fun _ _ => forall₂_of_mapM_eq_ok

/-- Criteria that can be built are compiled form by form. -/
theorem compileTerms_of_ofForms {groups : List (List ClauseForm)} {criteria : Criteria}
    (built : ofForms groups = .ok criteria) (converter : Converter) (options : Options) :
    criteria.compileTerms converter options =
      groups.mapM fun group => group.mapM (ClauseForm.compile converter options) := by
  have beside := List.forall₂_map_right_iff.mp (forall₂_of_ofForms built)
  have same : List.Forall₂ (fun forms group =>
      forms.mapM (ClauseForm.compile converter options) =
        ClauseGroup.compileTerms converter options group) groups criteria.groups :=
    beside.imp fun forms group clauses => mapM_eq_of_forall₂ <|
      clauses.imp fun form clause built => form.compile_of_built built converter options
  exact (mapM_eq_of_forall₂ same).symm

end Criteria

namespace Session

variable {α β γ : Type}

/-- What a step of a session comes to, and the session that it leaves. -/
def outcome (stepper : Stepper α) (session : Session) : Except Fault α × Session :=
  stepper.run.run session

@[simp]
theorem outcome_pure (value : α) (session : Session) :
    outcome (pure value) session = (.ok value, session) := rfl

/-- After a step that succeeds the next one goes on from the session that is left. -/
theorem outcome_bind_of_ok {stepper : Stepper α} {session middle : Session} {value : α}
    (first : outcome stepper session = (.ok value, middle)) (next : α → Stepper β) :
    outcome (stepper >>= next) session = outcome (next value) middle :=
  run_bind_of_ok first next

/-- After a step that fails there is no next one. -/
theorem outcome_bind_of_error {stepper : Stepper α} {session middle : Session} {fault : Fault}
    (first : outcome stepper session = (.error fault, middle)) (next : α → Stepper β) :
    outcome (stepper >>= next) session = (.error fault, middle) :=
  run_bind_of_error first next

/-- What is taken in a session is taken from its values, and nothing else changes. -/
theorem outcome_bound {binder : Binder α} {session : Session} {result : Except Fault α}
    {final : Binding} (taken : Binder.outcome binder session.binding = (result, final)) :
    outcome (bound binder) session = (result, { session with binding := final }) := by
  have ran : outcome (bound binder) session =
      ((Binder.outcome binder session.binding).1,
        { session with binding := (Binder.outcome binder session.binding).2 }) := rfl
  rw [ran, taken]

theorem outcome_bound_map_bind (change : α → β) (binder : Binder α) (next : β → Stepper γ)
    (session : Session) :
    outcome (bound (change <$> binder) >>= next) session =
      outcome (bound binder >>= fun value => next (change value)) session := by
  rcases taken : Binder.outcome binder session.binding with ⟨result, final⟩
  have changed : Binder.outcome (change <$> binder) session.binding =
      (result.map change, final) := by
    rw [Binder.outcome_map, taken]
  cases result with
  | error fault =>
    rw [outcome_bind_of_error (outcome_bound changed), outcome_bind_of_error (outcome_bound taken)]
  | ok value =>
    rw [outcome_bind_of_ok (outcome_bound changed), outcome_bind_of_ok (outcome_bound taken)]

theorem outcome_checked (result : Except Fault α) (session : Session) :
    outcome (checked result) session = (result, session) := rfl

theorem outcome_draft {name : String} {session : Session} {result : Except Fault Draft}
    (looked : session.drafts.get name = result) :
    outcome (draft name) session = (result, session) := by
  rw [← looked]
  rfl

theorem outcome_putDraft (name : String) (draft : Draft) (session : Session) :
    outcome (putDraft name draft) session =
      (.ok (.draft draft.filter),
        { session with drafts := session.drafts.put name draft }) := rfl

theorem outcome_finish (setup : Setup) (filter : Filter) (session : Session) :
    outcome (finish setup filter) session =
      (.ok (.filter filter),
        { session with reports := session.reports ++ setup.reportsOf filter }) := rfl

/-! ## Single steps -/

variable (setup : Setup) {name other : String} {session : Session} {base draft : Draft}

/-- A clause is compiled, and a draft is started with its term. -/
theorem outcome_start (name : String) (form : ClauseForm) (session : Session) :
    outcome (step setup (.start name form)) session =
      outcome (do
        let term ← bound (form.compile setup.converter setup.options)
        putDraft name { first := term }) session := by
  cases built : form.build with
  | error fault =>
    have refused := ClauseForm.outcome_compile_of_error built setup.converter setup.options
      session.binding
    rw [step, built, outcome_bind_of_error (outcome_checked _ session),
      outcome_bind_of_error (outcome_bound refused)]
  | ok clause =>
    rw [step, built, outcome_bind_of_ok (outcome_checked _ session),
      ClauseForm.compile_of_built built, Draft.start, ← map_eq_pure_bind, outcome_bound_map_bind]

/-- A clause is compiled, and its term is added to a draft that is there. -/
theorem outcome_and (held : session.drafts.get name = .ok draft) (form : ClauseForm) :
    outcome (step setup (.and name form)) session =
      outcome (do
        let term ← bound (form.compile setup.converter setup.options)
        putDraft name (draft.and term)) session := by
  cases built : form.build with
  | error fault =>
    have refused := ClauseForm.outcome_compile_of_error built setup.converter setup.options
      session.binding
    rw [step, built, outcome_bind_of_error (outcome_checked _ session),
      outcome_bind_of_error (outcome_bound refused)]
  | ok clause =>
    rw [step, built, outcome_bind_of_ok (outcome_checked _ session),
      outcome_bind_of_ok (outcome_draft held), ClauseForm.compile_of_built built,
      Draft.andClause, ← map_eq_pure_bind, outcome_bound_map_bind]

/-- A draft takes the group of another one as an alternative. -/
theorem outcome_or (isBase : session.drafts.get name = .ok base)
    (isOther : session.drafts.get other = .ok draft) :
    outcome (step setup (.or name other)) session =
      (.ok (.draft (base.or draft).filter),
        { session with drafts := session.drafts.put name (base.or draft) }) := by
  rw [step, outcome_bind_of_ok (outcome_draft isBase), outcome_bind_of_ok (outcome_draft isOther),
    outcome_putDraft]

/-- A draft is finished as its filter, which is reported. -/
theorem outcome_complete (held : session.drafts.get name = .ok draft) :
    outcome (step setup (.complete (some name))) session =
      (.ok (.filter (.ofValue draft.filter)),
        { session with
          reports := session.reports ++ setup.reportsOf (.ofValue draft.filter) }) := by
  rw [step, outcome_bind_of_ok (outcome_draft held), outcome_finish]
  rfl

/-- Criteria that can be built are compiled and finished. -/
theorem outcome_create {groups : List (List ClauseForm)} {criteria : Criteria}
    (built : Criteria.ofForms groups = .ok criteria) (session : Session) :
    outcome (step setup (.create groups)) session =
      outcome (do
        let filter ← bound (criteria.compile setup.converter setup.options)
        finish setup filter) session := by
  rw [step, built, outcome_bind_of_ok (outcome_checked _ session)]

/-! ## Steps in turn -/

/-- Takes steps in turn, up to the first one that fails. -/
def takeAll (setup : Setup) : List Step → Stepper Unit
  | [] => return
  | next :: steps => do
    let _ ← step setup next
    takeAll setup steps

theorem outcome_takeAll_of_ok {setup : Setup} {next : Step} {session middle : Session}
    {answer : Answer} (taken : outcome (step setup next) session = (.ok answer, middle))
    (steps : List Step) :
    outcome (takeAll setup (next :: steps)) session = outcome (takeAll setup steps) middle := by
  rw [takeAll, outcome_bind_of_ok taken]

theorem outcome_takeAll_of_error {setup : Setup} {next : Step} {session middle : Session}
    {fault : Fault} (failed : outcome (step setup next) session = (.error fault, middle))
    (steps : List Step) :
    outcome (takeAll setup (next :: steps)) session = (.error fault, middle) := by
  rw [takeAll, outcome_bind_of_error failed]

/-- Whether steps in turn come to what a compilation comes to, taking the same values, and change
nothing else but drafts. What is compiled is kept in the drafts in a way that is told. -/
def Performs {α : Type} (setup : Setup) (steps : List Step) (session : Session)
    (binder : Binder α) (kept : α → Drafts → Prop) : Prop :=
  ∃ result final drafts, Binder.outcome binder session.binding = (result, final) ∧
    outcome (takeAll setup steps) session =
      (result.map fun _ => (), { session with binding := final, drafts := drafts }) ∧
    ∀ value, result = .ok value → kept value drafts

namespace Performs

variable {α β : Type} {setup : Setup} {next : Step} {steps : List Step} {session : Session}
  {binder : Binder α}

theorem imp {kept other : α → Drafts → Prop} (weaker : ∀ value drafts, kept value drafts →
      other value drafts) (performs : Performs setup steps session binder kept) :
    Performs setup steps session binder other := by
  obtain ⟨result, final, drafts, taken, reached, held⟩ := performs
  exact ⟨result, final, drafts, taken, reached,
    fun value same => weaker value drafts (held value same)⟩

/-- A step that changes drafts alone takes no part in the compilation. -/
theorem cons_of_drafts {answer : Answer} {drafts : Drafts} {kept : α → Drafts → Prop}
    (stepped : outcome (step setup next) session = (.ok answer, { session with drafts := drafts }))
    (performs : Performs setup steps { session with drafts := drafts } binder kept) :
    Performs setup (next :: steps) session binder kept := by
  obtain ⟨result, final, others, taken, reached, held⟩ := performs
  refine ⟨result, final, others, taken, ?_, held⟩
  rw [outcome_takeAll_of_ok stepped, reached]

/-- A step that compiles a clause and puts its term into a draft is the first part of the
compilation. -/
theorem cons_of_clause {name : String} {form : ClauseForm} {draftOf : Term → Draft}
    {change : Term → α → β} {kept : β → Drafts → Prop}
    (stepped : outcome (step setup next) session =
      outcome (do
        let term ← bound (form.compile setup.converter setup.options)
        putDraft name (draftOf term)) session)
    (performs : ∀ term middle, Performs setup steps
      { session with binding := middle, drafts := session.drafts.put name (draftOf term) }
      binder fun value => kept (change term value)) :
    Performs setup (next :: steps) session
      (do
        let term ← form.compile setup.converter setup.options
        change term <$> binder) kept := by
  rcases compiled : Binder.outcome (form.compile setup.converter setup.options) session.binding
    with ⟨result, middle⟩
  cases result with
  | error fault =>
    rw [outcome_bind_of_error (outcome_bound compiled)] at stepped
    refine ⟨.error fault, middle, session.drafts, Binder.outcome_bind_of_error compiled _,
      outcome_takeAll_of_error stepped steps, ?_⟩
    rintro value ⟨⟩
  | ok term =>
    rw [outcome_bind_of_ok (outcome_bound compiled), outcome_putDraft] at stepped
    obtain ⟨result, final, drafts, taken, reached, held⟩ := performs term middle
    refine ⟨result.map (change term), final, drafts, ?_, ?_, ?_⟩
    · rw [Binder.outcome_bind_of_ok compiled, Binder.outcome_map, taken]
    · rw [outcome_takeAll_of_ok stepped, reached]
      cases result <;> rfl
    · intro value same
      cases result with
      | error fault => cases same
      | ok own =>
        cases same
        exact held own rfl

end Performs

end Session

end DocFilter
