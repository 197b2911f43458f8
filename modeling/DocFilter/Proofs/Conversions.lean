/-
# Conversions over whole sessions

A session answers requests in any order, and goes on after requests that fail. Whatever has been
asked of it, the converter has been asked for exactly the values that have been taken, in their
order and each once. Every request is known by the clauses that it compiles: it either fails before
it takes a value, or takes what these clauses take, one after the other. So the invariant is one of
compiling clauses from any position on, and how a request ends is how its clauses end.
-/

import DocFilter.Proofs.FirstFailure
import DocFilter.Proofs.Positions
import DocFilter.Proofs.Sessions

namespace DocFilter

/-! ## Requests -/

/-- What can be asked of a session: that a clause is compiled alone, or that a step is taken. -/
inductive Request
  | compile (form : ClauseForm)
  | step (step : Step)

/-- The clauses that a request compiles if it is served, unless they cannot be built. -/
def Request.clauses? : Request → Except Fault (List Clause)
  | .compile form | .step (.start _ form) | .step (.and _ form) => do return [← form.build]
  | .step (.or _ _) | .step (.complete _) => return []
  | .step (.create groups) => do return (← Criteria.ofForms groups).clauses

/-- Whether a fault is that of a clause without a keyword. -/
def Fault.IsUnsupported (fault : Fault) : Prop :=
  ∃ operator supported, fault = .query (.unsupportedOperator operator supported)

/-- A clause that cannot be built has no fault of a clause without a keyword. -/
theorem ClauseForm.not_isUnsupported_of_build {form : ClauseForm} {fault : Fault}
    (refused : form.build = .error fault) : ¬ fault.IsUnsupported := by
  obtain ⟨-, rfl⟩ := build_eq_error_iff.mp refused
  rintro ⟨operator, supported, ⟨⟩⟩

theorem Criteria.not_isUnsupported_of_groupsFrom {index : Nat} {lists : List (List Clause)}
    {fault : Fault} (refused : groupsFrom index lists = .error fault) :
    ¬ fault.IsUnsupported := by
  induction lists generalizing index with
  | nil => cases refused
  | cons clauses lists ih =>
    cases clauses with
    | nil =>
      cases refused
      rintro ⟨operator, supported, ⟨⟩⟩
    | cons first others =>
      rcases bind_eq_error_iff.mp refused with failed | ⟨groups, -, ⟨⟩⟩
      exact ih failed

/-- Criteria that cannot be built have no fault of a clause without a keyword. -/
theorem Criteria.not_isUnsupported_of_ofForms {groups : List (List ClauseForm)} {fault : Fault}
    (refused : ofForms groups = .error fault) : ¬ fault.IsUnsupported := by
  rcases bind_eq_error_iff.mp refused with failed | ⟨lists, -, refused⟩
  · obtain ⟨group, -, failed⟩ := exists_of_mapM_eq_error failed
    obtain ⟨form, -, failed⟩ := exists_of_mapM_eq_error failed
    exact form.not_isUnsupported_of_build failed
  · rcases bind_eq_error_iff.mp refused with failed | ⟨own, -, ⟨⟩⟩
    exact not_isUnsupported_of_groupsFrom failed

theorem Drafts.not_isUnsupported_of_get {drafts : Drafts} {name : String} {fault : Fault}
    (missing : drafts.get name = .error fault) : ¬ fault.IsUnsupported := by
  rintro ⟨operator, supported, rfl⟩
  rw [get] at missing
  split at missing <;> cases missing

namespace Session

variable {α β : Type} (setup : Setup)

/-- Serves a request. What it comes to is only whether it succeeds. -/
def serve : Request → Stepper Unit
  | .compile form => do
    let _ ← bound (form.compile setup.converter setup.options)
  | .step next => do
    let _ ← step setup next

/-- The session after requests have been served in turn, those after a failure as well. -/
def after (requests : List Request) (session : Session) : Session :=
  requests.foldl (fun session request => (outcome (serve setup request) session).2) session

/-- Whether a step of a session on values comes to what compiling clauses comes to, and takes the
same values. -/
def Compiles (stepper : Stepper α) (session : Session) (clauses : List Clause) : Prop :=
  let compiled :=
    Binder.outcome (clauses.mapM (Clause.compile setup.converter setup.options)) session.binding
  (outcome stepper session).1.map (fun _ => ()) = compiled.1.map (fun _ => ()) ∧
    (outcome stepper session).2.binding = compiled.2

/-- Whether a step of a session fails before a value is taken, and with no fault of a clause
without a keyword. -/
def Refuses (stepper : Stepper α) (session : Session) : Prop :=
  ∃ fault, outcome stepper session = (.error fault, session) ∧ ¬ fault.IsUnsupported

/-- Whether a step that goes on from a result neither fails nor takes a value. -/
def IsHarmless (next : α → Stepper β) : Prop :=
  ∀ value session, ∃ answer final,
    outcome (next value) session = (.ok answer, final) ∧ final.binding = session.binding

theorem isHarmless_putDraft (name : String) (draftOf : Term → Draft) :
    IsHarmless fun term => putDraft name (draftOf term) :=
  fun _ _ => ⟨_, _, outcome_putDraft .., rfl⟩

theorem isHarmless_finish : IsHarmless (finish setup) :=
  fun _ _ => ⟨_, _, outcome_finish .., rfl⟩

/-- A harmless step after a compilation does not change what the compilation comes to. -/
theorem IsHarmless.outcome_bound_bind {next : α → Stepper β} (harmless : IsHarmless next)
    (binder : Binder α) (session : Session) :
    (outcome (bound binder >>= next) session).1.map (fun _ => ()) =
        (Binder.outcome binder session.binding).1.map (fun _ => ()) ∧
      (outcome (bound binder >>= next) session).2.binding =
        (Binder.outcome binder session.binding).2 := by
  rcases taken : Binder.outcome binder session.binding with ⟨result, final⟩
  cases result with
  | error fault =>
    rw [outcome_bind_of_error (outcome_bound taken)]
    exact ⟨rfl, rfl⟩
  | ok value =>
    obtain ⟨answer, left, done, same⟩ := harmless value { session with binding := final }
    rw [outcome_bind_of_ok (outcome_bound taken), done]
    exact ⟨rfl, same⟩

/-- A clause that is compiled with a harmless step after it is refused, or is all that is
compiled. -/
theorem IsHarmless.refuses_or_compiles {next : Term → Stepper α} (harmless : IsHarmless next)
    (form : ClauseForm) (session : Session) :
    Refuses (bound (form.compile setup.converter setup.options) >>= next) session ∨
      ∃ clause, form.build = .ok clause ∧
        Compiles setup (bound (form.compile setup.converter setup.options) >>= next) session
          [clause] := by
  cases built : form.build with
  | error fault =>
    have refused := ClauseForm.outcome_compile_of_error built setup.converter setup.options
      session.binding
    refine .inl ⟨fault, ?_, form.not_isUnsupported_of_build built⟩
    rw [outcome_bind_of_error (outcome_bound refused)]
  | ok clause =>
    refine .inr ⟨clause, rfl, ?_⟩
    have alone : [clause].mapM (Clause.compile setup.converter setup.options) =
        (fun term => [term]) <$> clause.compile setup.converter setup.options := by
      simp
    obtain ⟨comes, leaves⟩ :=
      harmless.outcome_bound_bind (form.compile setup.converter setup.options) session
    rw [Compiles, comes, leaves, alone, Binder.outcome_map, ClauseForm.compile_of_built built]
    rcases Binder.outcome (clause.compile setup.converter setup.options) session.binding with
      ⟨result, final⟩
    cases result <;> exact ⟨rfl, rfl⟩

/-- A step is refused before it takes a value, or comes to what its clauses come to. -/
theorem refuses_or_compiles_step (next : Step) (session : Session) :
    Refuses (step setup next) session ∨
      ∃ clauses, (Request.step next).clauses? = .ok clauses ∧
        Compiles setup (step setup next) session clauses := by
  cases next with
  | start name form =>
    have harmless := isHarmless_putDraft name fun term => { first := term }
    rcases harmless.refuses_or_compiles setup form session with
      refused | ⟨clause, built, compiles⟩
    · rw [Refuses, ← outcome_start] at refused
      exact .inl refused
    · rw [Compiles, ← outcome_start] at compiles
      refine .inr ⟨[clause], ?_, compiles⟩
      rw [Request.clauses?, built]
      rfl
  | and name form =>
    cases held : session.drafts.get name with
    | error missing =>
      -- The draft is looked up only after the clause has been built.
      cases built : form.build with
      | error fault =>
        refine .inl ⟨fault, ?_, form.not_isUnsupported_of_build built⟩
        rw [step, built, outcome_bind_of_error (outcome_checked _ session)]
      | ok clause =>
        refine .inl ⟨missing, ?_, Drafts.not_isUnsupported_of_get held⟩
        rw [step, built, outcome_bind_of_ok (outcome_checked _ session),
          outcome_bind_of_error (outcome_draft held)]
    | ok draft =>
      have harmless := isHarmless_putDraft name draft.and
      rcases harmless.refuses_or_compiles setup form session with
        refused | ⟨clause, built, compiles⟩
      · rw [Refuses, ← outcome_and setup held] at refused
        exact .inl refused
      · rw [Compiles, ← outcome_and setup held] at compiles
        refine .inr ⟨[clause], ?_, compiles⟩
        rw [Request.clauses?, built]
        rfl
  | or name other =>
    cases isBase : session.drafts.get name with
    | error missing =>
      refine .inl ⟨missing, ?_, Drafts.not_isUnsupported_of_get isBase⟩
      rw [step, outcome_bind_of_error (outcome_draft isBase)]
    | ok base =>
      cases isOther : session.drafts.get other with
      | error missing =>
        refine .inl ⟨missing, ?_, Drafts.not_isUnsupported_of_get isOther⟩
        rw [step, outcome_bind_of_ok (outcome_draft isBase),
          outcome_bind_of_error (outcome_draft isOther)]
      | ok draft =>
        refine .inr ⟨[], rfl, ?_⟩
        rw [Compiles, outcome_or setup isBase isOther]
        exact ⟨rfl, rfl⟩
  | complete name =>
    cases name with
    | none => exact .inr ⟨[], rfl, rfl, rfl⟩
    | some name =>
      cases held : session.drafts.get name with
      | error missing =>
        refine .inl ⟨missing, ?_, Drafts.not_isUnsupported_of_get held⟩
        rw [step, outcome_bind_of_error (outcome_draft held)]
      | ok draft =>
        refine .inr ⟨[], rfl, ?_⟩
        rw [Compiles, outcome_complete setup held]
        exact ⟨rfl, rfl⟩
  | create groups =>
    cases built : Criteria.ofForms groups with
    | error fault =>
      refine .inl ⟨fault, ?_, Criteria.not_isUnsupported_of_ofForms built⟩
      rw [step, built, outcome_bind_of_error (outcome_checked _ session)]
    | ok criteria =>
      refine .inr ⟨criteria.clauses, ?_, ?_⟩
      · rw [Request.clauses?, built]
        rfl
      · obtain ⟨comes, leaves⟩ := (isHarmless_finish setup).outcome_bound_bind
          (criteria.compile setup.converter setup.options) session
        obtain ⟨sameResult, sameBinding⟩ := Criteria.outcome_compile_eq_mapM_clauses
          setup.converter setup.options criteria session.binding
        rw [Compiles, outcome_create setup built, comes, leaves, sameResult, sameBinding]
        exact ⟨rfl, rfl⟩

/-- A request is refused before a value is taken, or comes to what its clauses come to. -/
theorem refuses_or_compiles (request : Request) (session : Session) :
    Refuses (serve setup request) session ∨
      ∃ clauses, request.clauses? = .ok clauses ∧
        Compiles setup (serve setup request) session clauses := by
  cases request with
  | compile form =>
    have harmless : IsHarmless fun _ : Term => (pure () : Stepper Unit) :=
      fun _ session => ⟨(), session, outcome_pure () session, rfl⟩
    rcases harmless.refuses_or_compiles setup form session with
      refused | ⟨clause, built, compiles⟩
    · exact .inl refused
    · refine .inr ⟨[clause], ?_, compiles⟩
      rw [Request.clauses?, built]
      rfl
  | step next =>
    rcases refuses_or_compiles_step setup next session with
      ⟨fault, failed, other⟩ | ⟨clauses, known, comes, leaves⟩
    · exact .inl ⟨fault, outcome_bind_of_error failed _, other⟩
    · refine .inr ⟨clauses, known, ?_⟩
      rcases taken : outcome (step setup next) session with ⟨result, final⟩
      rw [taken] at comes leaves
      cases result with
      | error fault =>
        rw [Compiles, serve, outcome_bind_of_error taken]
        exact ⟨comes, leaves⟩
      | ok answer =>
        rw [Compiles, serve, outcome_bind_of_ok taken]
        exact ⟨comes, leaves⟩

/-! ## Whole runs -/

/-- When clauses come to something in a session that has taken values, they end in one of the ways
in which compiling clauses ends. -/
theorem Compiles.endsFrom {stepper : Stepper α} {session : Session} {clauses : List Clause}
    {values : List Value} {start : Nat} (compiles : Compiles setup stepper session clauses)
    (position : session.binding = .after values start) (inside : start ≤ values.length) :
    ∃ result, (outcome stepper session).1.map (fun _ => ()) = result.map (fun _ => ()) ∧
      Clause.EndsFrom setup.converter setup.options values start clauses result
        (outcome stepper session).2.binding := by
  obtain ⟨comes, leaves⟩ := compiles
  have ends := Clause.endsFrom_outcome_mapM setup.converter setup.options clauses inside
  rw [← position, ← leaves] at ends
  exact ⟨_, comes, ends⟩

/-- After a request, the converter has been asked for the values that are taken, if it was so
before. -/
theorem exists_binding_serve_eq {session : Session} {values : List Value} {start : Nat}
    (position : session.binding = .after values start) (inside : start ≤ values.length)
    (request : Request) :
    ∃ count ≤ values.length,
      (outcome (serve setup request) session).2.binding = .after values count := by
  rcases refuses_or_compiles setup request session with
    ⟨fault, failed, -⟩ | ⟨clauses, -, compiles⟩
  · rw [failed]
    exact ⟨start, inside, position⟩
  · obtain ⟨result, -, ends⟩ := compiles.endsFrom setup position inside
    exact ends.exists_final_eq

/-- After any requests, the converter has been asked for the values that are taken. -/
theorem exists_binding_after_eq {session : Session} {values : List Value} {start : Nat}
    (position : session.binding = .after values start) (inside : start ≤ values.length)
    (requests : List Request) :
    ∃ count ≤ values.length, (after setup requests session).binding = .after values count := by
  induction requests generalizing session start with
  | nil => exact ⟨start, inside, position⟩
  | cons request requests ih =>
    obtain ⟨count, within, reached⟩ := exists_binding_serve_eq setup position inside request
    exact ih reached within

/-- A request that compiles clauses with success takes as many values as their arities say. -/
theorem binding_serve_of_ok {session : Session} {values : List Value} {start : Nat}
    {request : Request} {clauses : List Clause}
    (position : session.binding = .after values start) (inside : start ≤ values.length)
    (known : request.clauses? = .ok clauses)
    (succeeded : (outcome (serve setup request) session).1 = .ok ()) :
    (outcome (serve setup request) session).2.binding =
      .after values (start + Clause.totalArity clauses) := by
  rcases refuses_or_compiles setup request session with
    ⟨fault, failed, -⟩ | ⟨own, ownKnown, compiles⟩
  · rw [failed] at succeeded
    cases succeeded
  · cases ownKnown.symm.trans known
    obtain ⟨result, comes, ends⟩ := compiles.endsFrom setup position inside
    rw [succeeded] at comes
    generalize (outcome (serve setup request) session).2.binding = final at ends ⊢
    cases ends with
    | compiled enough => rfl
    | unknownTag => cases comes
    | stopped => cases comes

/-- A request that fails for a clause without a keyword leaves all as the clauses before it have
left it, unless the converter came up with such a failure. -/
theorem binding_serve_of_unsupported {session : Session} {values : List Value} {start : Nat}
    {request : Request} {fault : Fault} (position : session.binding = .after values start)
    (inside : start ≤ values.length)
    (failed : (outcome (serve setup request) session).1 = .error fault)
    (unsupported : fault.IsUnsupported) :
    (∃ before clause after tag terms,
      request.clauses? = .ok (before ++ clause :: after) ∧ clause.comparison = .unknown tag ∧
      Binder.outcome (before.mapM (Clause.compile setup.converter setup.options))
        session.binding = (.ok terms, (outcome (serve setup request) session).2.binding)) ∨
    ∃ index value, start ≤ index ∧ values[index]? = some value ∧
      setup.converter (values.take index) value = .error fault := by
  rcases refuses_or_compiles setup request session with
    ⟨other, refused, harmless⟩ | ⟨clauses, known, compiles⟩
  · rw [refused] at failed
    cases failed
    exact absurd unsupported harmless
  · obtain ⟨result, comes, ends⟩ := compiles.endsFrom setup position inside
    rw [failed] at comes
    rw [position]
    generalize (outcome (serve setup request) session).2.binding = final at ends
    cases ends with
    | compiled => cases comes
    | unknownTag place unknown enough supplied =>
      exact .inl ⟨_, _, _, _, _, place ▸ known, unknown, supplied⟩
    | stopped stops =>
      cases comes
      cases stops with
      | exhausted field =>
        obtain ⟨operator, supported, same⟩ := unsupported
        cases same
      | refused reached given refusal => exact .inr ⟨_, _, reached, given, refusal⟩

/-- Whatever has been asked of a session, and whatever has failed: the converter has been asked for
exactly the values that have been taken, each once and in order, and the others are still there.
From there on, a request that compiles one clause with a keyword takes as many values as its arity
says if it succeeds. A request that fails for a clause without a keyword leaves all as the clauses
before it have left it, unless it was the converter that came up with such a failure. -/
theorem calls_after_eq_take (setup : Setup) (values : List Value) (requests : List Request) :
    let session := after setup requests (ofValues values)
    let consumed := session.binding.arguments.consumed
    session.binding.calls = values.take consumed ∧
    session.binding.arguments.rest = values.drop consumed ∧
    consumed + session.binding.arguments.remaining = values.length ∧
    ∀ request,
      (∀ clause arity, request.clauses? = .ok [clause] → clause.arity? = some arity →
        (outcome (serve setup request) session).1 = .ok () →
        (outcome (serve setup request) session).2.binding.arguments.consumed =
          consumed + arity) ∧
      ∀ operator supported,
        (outcome (serve setup request) session).1 =
          .error (.query (.unsupportedOperator operator supported)) →
        (∃ before clause after tag terms,
          request.clauses? = .ok (before ++ clause :: after) ∧
          clause.comparison = .unknown tag ∧
          Binder.outcome (before.mapM (Clause.compile setup.converter setup.options))
            session.binding = (.ok terms, (outcome (serve setup request) session).2.binding)) ∨
        ∃ index value, consumed ≤ index ∧ values[index]? = some value ∧
          setup.converter (values.take index) value =
            .error (.query (.unsupportedOperator operator supported)) := by
  intro session consumed
  have fresh : (ofValues values).binding = .after values 0 := rfl
  obtain ⟨count, inside, position⟩ :=
    exists_binding_after_eq setup fresh (Nat.zero_le _) requests
  have counted : consumed = count := congrArg (fun binding => binding.arguments.consumed) position
  refine ⟨?_, ?_, ?_, ?_⟩
  · rw [counted]
    exact congrArg Binding.calls position
  · rw [counted]
    exact congrArg (fun binding => binding.arguments.rest) position
  · have left : session.binding.arguments.remaining = (values.drop count).length :=
      congrArg (fun binding => binding.arguments.remaining) position
    rw [counted, left, List.length_drop]
    omega
  · intro request
    rw [counted]
    refine ⟨?_, ?_⟩
    · intro clause arity alone known succeeded
      have took := binding_serve_of_ok setup position inside alone succeeded
      rw [took, Clause.totalArity_cons, known]
      rfl
    · intro operator supported failed
      exact binding_serve_of_unsupported setup position inside failed ⟨_, _, rfl⟩

/-- A session whose converter refuses texts. -/
def refusingTexts : Setup where
  converter := .stateless fun value =>
    if value.text?.isSome then .error (.refusedValue "text")
    else .ok (.mapping [(.text Converter.slot, value)])

/-- Requests three of which fail: for a tag that is no keyword, for a text, and for a draft that is
not there. -/
def failing : List Request :=
  [.compile ⟨.dotted "age", .text "above"⟩, .step (.start "ages" ⟨.dotted "age", .text "between"⟩),
    .step (.and "ages" ⟨.dotted "name", .text "equals"⟩),
    .compile ⟨.dotted "name", .text "equals"⟩]

/-- Of four values a range takes two, the second of which is refused, and a later clause takes the
third one, so that one is left. A further clause takes that. -/
theorem calls_after_eq_take_failing :
    (after refusingTexts failing
      (ofValues [.int 1, .text "two", .int 3, .int 4])).binding.calls =
        [.int 1, .text "two", .int 3] ∧
    (outcome (serve refusingTexts (.compile ⟨.dotted "age", .text "equals"⟩))
      (after refusingTexts failing
        (ofValues [.int 1, .text "two", .int 3, .int 4]))).2.binding.arguments.consumed = 4 := by
  obtain ⟨calls, -, -, next⟩ :=
    calls_after_eq_take refusingTexts [.int 1, .text "two", .int 3, .int 4] failing
  have consumed : (after refusingTexts failing
      (ofValues [.int 1, .text "two", .int 3, .int 4])).binding.arguments.consumed = 3 := rfl
  rw [consumed] at calls next
  refine ⟨calls, ?_⟩
  exact (next (.compile ⟨.dotted "age", .text "equals"⟩)).1 _ 1 rfl rfl rfl

end Session

end DocFilter
