/-
# Steps that fail

A step of a session first looks up drafts and takes values, and then changes drafts and reports.
What it does first may fail, but it changes nothing except how many values are taken. What it does
then cannot fail. So a step that fails has skipped some values, and that is all.

A session that goes on from there goes on as if the values had been skipped in another way, because
no later step can tell. A converter may remember the values it was asked for, and those of the step
that failed are among them; a converter that answers by the value alone cannot tell either whether
it was asked.
-/

import DocFilter.Proofs.Sessions

namespace DocFilter

/-! ## Properties of actions -/

section Actions

variable {σ α β : Type} {holds : {α : Type} → ExceptT Fault (StateM σ) α → Prop}
  {reach alike : σ → σ → Prop} {action : ExceptT Fault (StateM σ) α}
  {next : α → ExceptT Fault (StateM σ) β}

/-- Whether a property of actions holds of those that only come to a result, and of actions in turn
if it holds of each. -/
structure IsComposed (holds : {α : Type} → ExceptT Fault (StateM σ) α → Prop) : Prop where
  result : ∀ {α : Type} (result : Except Fault α), holds (ExceptT.mk (pure result))
  bind : ∀ {α β : Type} {action : ExceptT Fault (StateM σ) α}
    {next : α → ExceptT Fault (StateM σ) β},
    holds action → (∀ value, holds (next value)) → holds (action >>= next)

namespace IsComposed

theorem map (composed : IsComposed holds) (change : α → β) (first : holds action) :
    holds (change <$> action) := by
  rw [map_eq_pure_bind]
  exact composed.bind first fun value => composed.result (.ok (change value))

theorem mapM (composed : IsComposed holds) {step : α → ExceptT Fault (StateM σ) β}
    (each : ∀ item, holds (step item)) (items : List α) : holds (items.mapM step) := by
  induction items with
  | nil => exact composed.result (.ok [])
  | cons item items ih =>
    rw [List.mapM_cons]
    exact composed.bind (each item) fun result =>
      composed.bind ih fun results => composed.result (.ok (result :: results))

end IsComposed

/-- Whether what an action leaves can always be reached from where it starts. -/
def LeavesWithin (reach : σ → σ → Prop) (action : ExceptT Fault (StateM σ) α) : Prop :=
  ∀ state, reach state (action.run.run state).2

/-- Whether what an action leaves when it fails can always be reached from where it starts. -/
def FailsWithin (reach : σ → σ → Prop) (action : ExceptT Fault (StateM σ) α) : Prop :=
  ∀ state fault left, action.run.run state = (.error fault, left) → reach state left

/-- Whether an action comes to the same in states that are alike, and leaves states that are. -/
def TreatsAlike (alike : σ → σ → Prop) (action : ExceptT Fault (StateM σ) α) : Prop :=
  ∀ state other, alike state other →
    (action.run.run state).1 = (action.run.run other).1 ∧
      alike (action.run.run state).2 (action.run.run other).2

theorem isComposed_leavesWithin [Std.Refl reach] [IsTrans σ reach] :
    IsComposed (LeavesWithin reach) where
  result _ state := refl_of reach state
  bind := by
    intro α β action next first later state
    have within := first state
    rcases acted : action.run.run state with ⟨result, middle⟩
    rw [acted] at within
    cases result with
    | error fault => rwa [run_bind_of_error acted]
    | ok value =>
      rw [run_bind_of_ok acted]
      exact trans_of reach within (later value middle)

/-- If the first action leaves only what is within reach and the next one fails only within reach,
both in turn fail only within reach. -/
theorem FailsWithin.bind [IsTrans σ reach] (first : LeavesWithin reach action)
    (later : ∀ value, FailsWithin reach (next value)) : FailsWithin reach (action >>= next) := by
  intro state fault left failed
  have within := first state
  rcases acted : action.run.run state with ⟨result, middle⟩
  rw [acted] at within
  cases result with
  | error other =>
    rw [run_bind_of_error acted] at failed
    cases failed
    exact within
  | ok value =>
    rw [run_bind_of_ok acted] at failed
    exact trans_of reach within (later value middle fault left failed)

theorem isComposed_treatsAlike : IsComposed (TreatsAlike alike) where
  result _ _ _ like := ⟨rfl, like⟩
  bind := by
    intro α β action next first later state other like
    obtain ⟨same, middleLike⟩ := first state other like
    rcases acted : action.run.run state with ⟨result, middle⟩
    rcases actedToo : action.run.run other with ⟨otherResult, otherMiddle⟩
    rw [acted, actedToo] at same middleLike
    obtain rfl : result = otherResult := same
    cases result with
    | error fault =>
      rw [run_bind_of_error acted, run_bind_of_error actedToo]
      exact ⟨rfl, middleLike⟩
    | ok value =>
      rw [run_bind_of_ok acted, run_bind_of_ok actedToo]
      exact later value middle otherMiddle middleLike

end Actions

/-! ## Compiling -/

section Compiling

variable {holds : {α : Type} → Binder α → Prop} {converter : Converter}

/-- What holds of taking one value and of all that is put together from that holds of compiling a
clause. -/
theorem IsComposed.clause (composed : IsComposed holds)
    (one : ∀ field, holds (Binder.nextConverted converter field)) (options : Options)
    (clause : Clause) : holds (clause.compile converter options) := by
  have several (field : String) (count : Nat) : holds (Binder.take converter field count) := by
    induction count with
    | zero => exact composed.result (.ok [])
    | succ count ih =>
      exact composed.bind (one field) fun value =>
        composed.bind ih fun values => composed.result (.ok (value :: values))
  cases shape : clause.comparison with
  | known keyword =>
    rw [Clause.compile_of_known converter options shape]
    exact composed.map _ (several clause.field keyword.arity)
  | unknown tag =>
    rw [Clause.compile_of_unknown converter options shape]
    exact composed.result (.error _)

theorem IsComposed.start (composed : IsComposed holds)
    (one : ∀ field, holds (Binder.nextConverted converter field)) (options : Options)
    (clause : Clause) : holds (Draft.start converter options clause) :=
  composed.bind (composed.clause one options clause) fun _ => composed.result (.ok _)

theorem IsComposed.andClause (composed : IsComposed holds)
    (one : ∀ field, holds (Binder.nextConverted converter field)) (options : Options)
    (draft : Draft) (clause : Clause) : holds (draft.andClause converter options clause) :=
  composed.bind (composed.clause one options clause) fun _ => composed.result (.ok _)

theorem IsComposed.criteria (composed : IsComposed holds)
    (one : ∀ field, holds (Binder.nextConverted converter field)) (options : Options)
    (criteria : Criteria) : holds (criteria.compile converter options) := by
  have group (group : ClauseGroup) : holds (group.compileTerms converter options) :=
    composed.mapM (composed.clause one options) group.clauses
  rw [Criteria.compile_eq_map_compileTerms]
  exact composed.map _ (composed.mapM group criteria.groups)

end Compiling

/-! ## Skipping values -/

/-- The values without the first ones, which count as taken. -/
def Arguments.skip (arguments : Arguments) (count : Nat) : Arguments :=
  ⟨arguments.consumed + count, arguments.rest.drop count⟩

namespace Binding

/-- The binding after values have been taken and asked for. -/
def advance (binding : Binding) (count : Nat) : Binding :=
  ⟨binding.arguments.skip count, binding.calls ++ binding.arguments.rest.take count⟩

theorem advance_zero (binding : Binding) : binding.advance 0 = binding := by
  simp [advance, Arguments.skip]

theorem advance_advance (binding : Binding) (first second : Nat) :
    (binding.advance first).advance second = binding.advance (first + second) := by
  simp [advance, Arguments.skip, List.take_add, Nat.add_assoc]

/-- Whether a binding is left when values that were there have been taken. -/
def Reaches (binding later : Binding) : Prop :=
  ∃ count ≤ binding.arguments.remaining, later = binding.advance count

instance : Std.Refl Reaches where
  refl binding := ⟨0, Nat.zero_le _, binding.advance_zero.symm⟩

instance : IsTrans Binding Reaches where
  trans := by
    rintro binding _ _ ⟨first, enough, rfl⟩ ⟨second, more, rfl⟩
    have left : (binding.advance first).arguments.remaining =
        binding.arguments.remaining - first := List.length_drop
    exact ⟨first + second, by omega, binding.advance_advance first second⟩

/-- Taking a value and asking for it leaves what is within reach. -/
theorem leavesWithin_nextConverted (converter : Converter) (field : String) :
    LeavesWithin Reaches (Binder.nextConverted converter field) := by
  rintro ⟨⟨consumed, values⟩, calls⟩
  cases values with
  | nil =>
    rw [Binder.nextConverted_nil]
    exact refl_of Reaches _
  | cons value rest =>
    rw [Binder.nextConverted_cons]
    exact ⟨1, Nat.succ_le_succ (Nat.zero_le _), rfl⟩

/-- Whether two bindings have the same values left. -/
def IsLike (binding other : Binding) : Prop :=
  binding.arguments = other.arguments

/-- A converter that answers by the value alone does not care what it was asked for. -/
theorem treatsAlike_nextConverted (convert : Value → Except Fault Value) (field : String) :
    TreatsAlike IsLike (Binder.nextConverted (.stateless convert) field) := by
  rintro ⟨⟨consumed, values⟩, calls⟩ ⟨_, otherCalls⟩ rfl
  cases values with
  | nil => exact ⟨rfl, rfl⟩
  | cons value rest => exact ⟨rfl, rfl⟩

end Binding

namespace Session

variable {session other : Session}

/-- The session in which values have been taken and asked for, and nothing else has happened. -/
def advance (session : Session) (count : Nat) : Session :=
  { session with binding := session.binding.advance count }

/-- The session in which values are skipped: they count as taken, but were not asked for. -/
def skip (session : Session) (count : Nat) : Session :=
  { session with binding :=
      { session.binding with arguments := session.binding.arguments.skip count } }

/-- Whether a session is left when values have been taken, and nothing else has happened. -/
def Reaches (session later : Session) : Prop :=
  ∃ binding, session.binding.Reaches binding ∧ later = { session with binding := binding }

instance : Std.Refl Reaches where
  refl session := ⟨session.binding, refl_of Binding.Reaches _, rfl⟩

instance : IsTrans Session Reaches where
  trans := by
    rintro session _ _ ⟨middle, first, rfl⟩ ⟨last, second, rfl⟩
    exact ⟨last, trans_of Binding.Reaches first second, rfl⟩

/-- Whether two sessions have the same values left, the same drafts and the same reports. -/
structure IsLike (session other : Session) : Prop where
  binding : session.binding.IsLike other.binding
  drafts : session.drafts = other.drafts
  reports : session.reports = other.reports

theorem isLike_skip (session : Session) (count : Nat) :
    (session.advance count).IsLike (session.skip count) :=
  ⟨rfl, rfl, rfl⟩

/-! ## What steps do to sessions -/

/-- What has to be known of two properties of actions so that the second one holds of every step:
the first one holds of all that a step does at first, the second one of what it does at last, and of
both in turn. What is compiled at first is put together from the values it takes. -/
structure StepRules (setup : Setup) (taken : {α : Type} → Binder α → Prop)
    (early late : {α : Type} → Stepper α → Prop) : Prop where
  composed : IsComposed taken
  one : ∀ field, taken (Binder.nextConverted setup.converter field)
  bounds : ∀ {α : Type} {binder : Binder α}, taken binder → early (bound binder)
  checks : ∀ {α : Type} (result : Except Fault α), early (checked result)
  looks : ∀ name, early (draft name)
  puts : ∀ name draft, late (putDraft name draft)
  finishes : ∀ filter, late (finish setup filter)
  bind : ∀ {α β : Type} {action : Stepper α} {next : α → Stepper β},
    early action → (∀ value, late (next value)) → late (action >>= next)

/-- Every step follows the rules: it checks, looks up and compiles before it puts or finishes. -/
theorem StepRules.step {setup : Setup} {taken : {α : Type} → Binder α → Prop}
    {early late : {α : Type} → Stepper α → Prop} (rules : StepRules setup taken early late)
    (next : Step) : late (Session.step setup next) := by
  cases next with
  | start name form =>
    refine rules.bind (rules.checks form.build) fun clause => ?_
    have started := rules.composed.start rules.one setup.options clause
    exact rules.bind (rules.bounds started) fun draft => rules.puts name draft
  | and name form =>
    refine rules.bind (rules.checks form.build) fun clause => ?_
    refine rules.bind (rules.looks name) fun base => ?_
    have added := rules.composed.andClause rules.one setup.options base clause
    exact rules.bind (rules.bounds added) fun draft => rules.puts name draft
  | or name other =>
    refine rules.bind (rules.looks name) fun base => ?_
    exact rules.bind (rules.looks other) fun draft => rules.puts name (base.or draft)
  | complete name =>
    cases name with
    | none => exact rules.finishes (.ofDraft none)
    | some name =>
      exact rules.bind (rules.looks name) fun draft => rules.finishes (.ofDraft (some draft))
  | create groups =>
    refine rules.bind (rules.checks (Criteria.ofForms groups)) fun criteria => ?_
    have compiled := rules.composed.criteria rules.one setup.options criteria
    exact rules.bind (rules.bounds compiled) fun filter => rules.finishes filter

theorem stepRules_failsWithin (setup : Setup) :
    StepRules setup (LeavesWithin Binding.Reaches) (LeavesWithin Reaches)
      (FailsWithin Reaches) where
  composed := isComposed_leavesWithin
  one := Binding.leavesWithin_nextConverted setup.converter
  bounds within session := ⟨_, within session.binding, rfl⟩
  checks := isComposed_leavesWithin.result
  looks _ session := refl_of Reaches session
  -- What is done last never fails.
  puts := by rintro name draft session fault left ⟨⟩
  finishes := by rintro filter session fault left ⟨⟩
  bind := .bind

/-- A step that fails has taken values, and nothing else has happened. -/
theorem failsWithin_step (setup : Setup) (next : Step) :
    FailsWithin Reaches (step setup next) :=
  (stepRules_failsWithin setup).step next

theorem stepRules_treatsAlike {setup : Setup} {convert : Value → Except Fault Value}
    (stateless : setup.converter = .stateless convert) :
    StepRules setup (TreatsAlike Binding.IsLike) (TreatsAlike IsLike) (TreatsAlike IsLike) where
  composed := isComposed_treatsAlike
  one field := by
    rw [stateless]
    exact Binding.treatsAlike_nextConverted convert field
  bounds := by
    rintro α binder same session other ⟨binding, drafts, reports⟩
    obtain ⟨results, finals⟩ := same session.binding other.binding binding
    exact ⟨results, finals, drafts, reports⟩
  checks := isComposed_treatsAlike.result
  looks name _ _ like := ⟨congrArg (Drafts.get · name) like.drafts, like⟩
  puts name draft _ _ like :=
    ⟨rfl, like.binding, congrArg (Drafts.put · name draft) like.drafts, like.reports⟩
  finishes filter _ _ like :=
    ⟨rfl, like.binding, like.drafts, congrArg (· ++ setup.reportsOf filter) like.reports⟩
  bind := isComposed_treatsAlike.bind

/-- No step can tell what a converter was asked for if the converter cannot. -/
theorem treatsAlike_step {setup : Setup} {convert : Value → Except Fault Value}
    (stateless : setup.converter = .stateless convert) (next : Step) :
    TreatsAlike IsLike (step setup next) :=
  (stepRules_treatsAlike stateless).step next

/-! ## Runs -/

/-- The session that steps reach in turn, also after one that failed. -/
def reached (setup : Setup) (steps : List Step) (session : Session) : Session :=
  steps.foldl (fun session next => (outcome (step setup next) session).2) session

/-- A run of steps and further ones goes on from the session that the first ones reach. -/
theorem run_append (setup : Setup) (before after : List Step) (session : Session) :
    run setup (before ++ after) session =
      run setup before session ++ run setup after (reached setup before session) := by
  induction before generalizing session with
  | nil => rfl
  | cons next before ih => exact congrArg (_ :: ·) (ih _)

/-- Runs from sessions that are alike come to the same, step by step. -/
theorem forall₂_run {setup : Setup} {convert : Value → Except Fault Value}
    (stateless : setup.converter = .stateless convert) (steps : List Step)
    (like : session.IsLike other) :
    List.Forall₂ (fun left right => left.1 = right.1 ∧ left.2.IsLike right.2)
      (run setup steps session) (run setup steps other) := by
  induction steps generalizing session other with
  | nil => exact .nil
  | cons next steps ih =>
    have both := treatsAlike_step stateless next session other like
    exact .cons both (ih both.2)

/-- A step that fails changes nothing. Whatever steps were taken before, it leaves all drafts and
reports as they were, and no more happens than that some values are taken. The run goes on as it
would without the step from the session in which the converter was asked for these values. If the
converter answers by the value alone, each later step comes to the same, with the same drafts and
reports, as in the run without the step that skips the values. -/
theorem failing_step_changes_nothing (setup : Setup) (start : Session) (before : List Step)
    (next : Step) (after : List Step) (fault : Fault) (left : Session)
    (failed : outcome (step setup next) (reached setup before start) = (.error fault, left)) :
    left.drafts = (reached setup before start).drafts ∧
    left.reports = (reached setup before start).reports ∧
    ∃ count ≤ (reached setup before start).binding.arguments.remaining,
      left = (reached setup before start).advance count ∧
      run setup (before ++ next :: after) start =
        run setup before start ++
          (.error fault, left) :: run setup after ((reached setup before start).advance count) ∧
      ∀ convert, setup.converter = .stateless convert →
        List.Forall₂ (fun result other => result.1 = other.1 ∧ result.2.IsLike other.2)
          (run setup after left)
          (run setup after ((reached setup before start).skip count)) := by
  obtain ⟨_, ⟨count, enough, rfl⟩, rfl⟩ := failsWithin_step setup next _ fault left failed
  refine ⟨rfl, rfl, count, enough, rfl, ?_, ?_⟩
  · rw [run_append, run, ← outcome, failed]
    rfl
  · intro convert stateless
    exact forall₂_run stateless after (isLike_skip _ count)

/-- A draft is started with the age. -/
def ageStarted : List Step :=
  [.start "ages" ⟨.dotted "age", .text "equals"⟩]

/-- A range of sizes is asked for as well. -/
def sizeAsked : Step :=
  .and "ages" ⟨.dotted "size", .text "between"⟩

/-- What is asked for has no name, and that is all. -/
def nameAsked : List Step :=
  [.and "ages" ⟨.dotted "name", .text "is_null"⟩, .complete (some "ages")]

/-- A range takes its lower bound, and there is no value left for the upper one. The draft is still
about the age alone, and it is finished as if the bound had been skipped. -/
theorem failing_step_changes_nothing_underflow :
    ∃ left,
      outcome (step {} sizeAsked) (reached {} ageStarted (ofValues [.int 1, .int 2])) =
        (.error (.query (.valuesExhausted 2 (some "size"))), left) ∧
      left.drafts = (reached {} ageStarted (ofValues [.int 1, .int 2])).drafts ∧
      left = (reached {} ageStarted (ofValues [.int 1, .int 2])).advance 1 ∧
      List.Forall₂ (fun result other => result.1 = other.1 ∧ result.2.IsLike other.2)
        (run {} nameAsked left)
        (run {} nameAsked ((reached {} ageStarted (ofValues [.int 1, .int 2])).skip 1)) ∧
      (run {} nameAsked left).map (·.2.binding.arguments.consumed) = [2, 2] := by
  obtain ⟨drafts, -, count, -, advanced, -, later⟩ :=
    failing_step_changes_nothing {} (ofValues [.int 1, .int 2]) ageStarted sizeAsked nameAsked
      (.query (.valuesExhausted 2 (some "size"))) _ rfl
  have consumed : 2 = 1 + count :=
    congrArg (fun session : Session => session.binding.arguments.consumed) advanced
  obtain rfl : count = 1 := by omega
  exact ⟨_, rfl, drafts, advanced, later _ rfl, rfl⟩

end Session

end DocFilter
