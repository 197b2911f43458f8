/-
# Sessions

In a session several drafts are worked on under names of their own while all clauses take their
values from one list. A step that fails changes nothing but the values that it has taken.
-/

import DocFilter.Compilation

namespace DocFilter

/-- How much of what happens is reported. -/
inductive LogLevel
  | debug
  | info
  | warning
  deriving DecidableEq, Repr

/-- What stays the same during a session. -/
structure Setup where
  converter : Converter := Converter.document
  options : Options := {}
  level : LogLevel := .info

namespace Setup

/-- Finished filters are reported if that is asked for and everything is reported. -/
def reports (setup : Setup) : Bool :=
  setup.options.traceQueries && setup.level == .debug

/-- The reports of a finished filter. -/
def reportsOf (setup : Setup) (filter : Filter) : List String :=
  if setup.reports then ["Created query " ++ filter.toValue.display] else []

end Setup

/-- Drafts under their names. -/
structure Drafts where
  named : List (String × Draft) := []

namespace Drafts

/-- The draft of a name. -/
def get (drafts : Drafts) (name : String) : Except Fault Draft :=
  match drafts.named.lookup name with
  | some draft => return draft
  | none => throw .missingKey

/-- The drafts with one of them put under a name. -/
def put (drafts : Drafts) (name : String) (draft : Draft) : Drafts :=
  ⟨(name, draft) :: drafts.named.filter (·.1 != name)⟩

theorem get_put (drafts : Drafts) (name : String) (draft : Draft) :
    (drafts.put name draft).get name = .ok draft := by
  simp [get, put]
  rfl

theorem lookup_filter_of_ne {name other : String} (different : other ≠ name)
    (named : List (String × Draft)) :
    (named.filter (·.1 != name)).lookup other = named.lookup other := by
  induction named with
  | nil => rfl
  | cons entry named ih =>
    obtain ⟨key, draft⟩ := entry
    by_cases same : key = name
    · have differs : (other == key) = false := by simpa [same] using different
      rw [List.filter_cons_of_neg (by simpa using same), List.lookup_cons, differs, ih]
    · rw [List.filter_cons_of_pos (by simpa using same), List.lookup_cons, List.lookup_cons, ih]

/-- Drafts under other names stay what they are. -/
theorem get_put_of_ne {name other : String} (different : other ≠ name) (drafts : Drafts)
    (draft : Draft) : (drafts.put name draft).get other = drafts.get other := by
  have differs : (other == name) = false := by simpa using different
  rw [get, put, List.lookup_cons, differs, lookup_filter_of_ne different, get]

end Drafts

/-- The state of a session. -/
structure Session where
  binding : Binding
  drafts : Drafts := {}
  reports : List String := []

/-- A step of a session. -/
inductive Step
  /-- Puts a draft that starts with a clause under a name. -/
  | start (name : String) (clause : ClauseForm)
  /-- Adds a clause to the group of a draft. -/
  | and (name : String) (clause : ClauseForm)
  /-- Adds the group of another draft as an alternative. -/
  | or (name other : String)
  /-- Finishes a draft, or the filter that asks for nothing. -/
  | complete (name : Option String)
  /-- Compiles criteria and finishes them. -/
  | create (groups : List (List ClauseForm))

/-- What a step answers. -/
inductive Answer
  /-- The filter of the draft that the step put under a name. -/
  | draft (filter : Value)
  /-- A finished filter. -/
  | filter (filter : Filter)

namespace Session

/-- A session that starts with values. -/
def ofValues (values : List Value) : Session :=
  { binding := .ofValues values }

/-- What a step does to a session: it answers or fails, and leaves a session behind. -/
abbrev Stepper := ExceptT Fault (StateM Session)

/-- Takes values in a session. -/
def bound {α : Type} (binder : Binder α) : Stepper α := do
  let session ← get
  let (result, binding) := binder.run.run session.binding
  set { session with binding := binding }
  ExceptT.mk (pure result)

/-- Fails if a result is a fault. -/
def checked {α : Type} (result : Except Fault α) : Stepper α :=
  ExceptT.mk (pure result)

/-- The draft of a name. -/
def draft (name : String) : Stepper Draft := do
  checked ((← get).drafts.get name)

/-- Puts a draft under a name. -/
def putDraft (name : String) (draft : Draft) : Stepper Answer := do
  modify fun session => { session with drafts := session.drafts.put name draft }
  return .draft draft.filter

/-- Reports a finished filter. -/
def finish (setup : Setup) (filter : Filter) : Stepper Answer := do
  modify fun session => { session with reports := session.reports ++ setup.reportsOf filter }
  return .filter filter

/-- Takes a step. Clauses are built before drafts are looked up, and drafts are looked up before
values are taken. -/
def step (setup : Setup) : Step → Stepper Answer
  | .start name form => do
    let clause ← checked form.build
    putDraft name (← bound (Draft.start setup.converter setup.options clause))
  | .and name form => do
    let clause ← checked form.build
    let base ← draft name
    putDraft name (← bound (base.andClause setup.converter setup.options clause))
  | .or name other => do
    let base ← draft name
    putDraft name (base.or (← draft other))
  | .complete none => finish setup (.ofDraft none)
  | .complete (some name) => do finish setup (.ofDraft (some (← draft name)))
  | .create groups => do
    let criteria ← checked (Criteria.ofForms groups)
    finish setup (← bound (criteria.compile setup.converter setup.options))

/-- Takes steps in turn, also after one that failed. Every result comes with the session after
it. -/
def run (setup : Setup) : List Step → Session → List (Except Fault Answer × Session)
  | [], _ => []
  | step :: steps, session =>
    let outcome := (Session.step setup step).run.run session
    outcome :: run setup steps outcome.2

end Session

end DocFilter
