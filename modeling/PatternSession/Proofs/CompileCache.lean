import PatternSession.Proofs.Watching

/-!
# The compile cache against the history of a session

A session passes pattern, options and template only when its record says that the engine does not
hold them already. Here the record is measured by the history of the session alone: by the last
substitution call it made, what that was made for, and how the engine answered.

**Theorem (`substitutions_pass_what_is_due`).** For every engine and every run of a session, an
operation makes at most one call, a search passes nothing to compile, and a substitution passes
exactly what is due after the last substitution (`Due`). So after every substitution call the
options and the template that the engine was given last are the ones asked for.

The invariant (`Kept`) is that the record is what the last substitution left (`recordAfter`), and
that what was passed last is what the last substitution was made for. A call that is rejected before
the engine and a search, whatever its status, move neither side.
-/

namespace PatternSession

variable {S H : Type}

/-! ## Histories -/

/-- An operation of a run, with the calls it made. -/
structure Deed where
  op : Operation
  calls : List EngineCall

/-- A run of operations on a session, each with the supply that it finds: other sessions may have
taken from it in between. -/
def deeds : List (Operation × Supply) → Session S H → List Deed × Session S H
  | [], s => ([], s)
  | (op, supply) :: ops, s =>
    let rest := deeds ops (op.run s supply).session
    (⟨op, op.calls s supply⟩ :: rest.1, rest.2)

/-- A substitution call that was made: what for, and how it was answered. -/
structure Substituted where
  code : String
  template : String
  status : Int

/-- The substitution call of a deed, if it made one. -/
def Deed.substituted? (options : String) (d : Deed) : Option Substituted :=
  d.calls.findSome? fun
    | .substituting _ status => (d.op.substitution options).map fun r => ⟨r.1, r.2, status⟩
    | _ => none

/-- The last substitution call of a history. -/
def lastSubstitution (options : String) (done : List Deed) : Option Substituted :=
  (done.filterMap (Deed.substituted? options)).getLast?

/-- What a substitution call for an option code and a template has to pass, after the last
substitution call of the session. -/
def Due (pattern options : String) (last : Option Substituted) (code template : String)
    (call : SubstituteCall) : Prop :=
  let everything :=
    call.pattern = some pattern ∧ call.options = some code ∧ call.template = some template
  match last with
  | none =>
    if code = options then
      call.pattern = none ∧ call.options = none ∧ call.template = some template
    else everything
  | some l =>
    if l.status < 0 then everything
    else if l.code = code then
      call.pattern = none ∧ call.options = none ∧
        call.template = if l.template = template then none else some template
    else everything

/-- What an engine was given last. -/
structure Given where
  /-- The options that came with the last pattern. -/
  options : String
  template : Option String

/-- What it was given last after one more call. -/
def Given.after (g : Given) : EngineCall → Given
  | .substituting call _ =>
    ⟨if call.pattern.isSome then call.options.getD "" else g.options,
      if call.template.isSome then call.template else g.template⟩
  | _ => g

/-- What was given last, in a session that was opened with these options. -/
def givenAfter (options : String) (done : List Deed) : Given :=
  (done.flatMap (·.calls)).foldl Given.after ⟨options, none⟩

/-! ## What one operation does -/

/-- The record that the last substitution leaves. -/
def recordAfter (options : String) : Option Substituted → CompileRecord
  | none => .initial options
  | some l => if l.status < 0 then ⟨none, none⟩ else ⟨some l.code, some l.template⟩

/-- The calls of an operation, and the record after it. -/
inductive Effect (s : Session S H) (op : Operation) : List EngineCall → CompileRecord → Prop
  | quiet : Effect s op [] s.record
  | freed : Effect s op [.freeing] s.record
  | searched (range : TextRange) (status : Int) :
    Effect s op [.matching ⟨none, none, range, false⟩ status] s.record
  | substituted {code template : String} (range : TextRange) (status : Int) :
    op.substitution s.options = some (code, template) →
    Effect s op
      [.substituting
        { pattern := if (s.record.plan code template).recompile then some s.pattern else none
          template := (s.record.plan code template).template
          options := (s.record.plan code template).options
          range } status]
      (recordAfter s.options (some ⟨code, template, status⟩))

theorem Request.effect {op : Operation} {r : Request} {s : Session S H} (supply : Supply)
    (h : op.substitution s.options = r.substitution) :
    Effect s op (r.calls s supply) (r.attempt s supply).session.record := by
  cases hd : s.disposed with
  | true =>
    rw [calls_of_disposed hd, attempt_of_disposed hd]
    exact .quiet
  | false =>
    cases hbind : (s.bind supply r.text r.start r.len).answer with
    | error e =>
      rw [calls_of_rejected hd hbind, attempt_of_rejected hd hbind]
      exact .quiet
    | ok bounds =>
      rw [calls_of_bounds hd hbind, attempt_of_bounds hd hbind]
      obtain ⟨text, start, len, _ | ⟨code, template⟩⟩ := r
      · exact .searched _ _
      · exact .substituted _ _ h

theorem Operation.effect (op : Operation) (s : Session S H) (supply : Supply) :
    Effect s op (op.calls s supply) (op.run s supply).session.record := by
  rcases op.run_cases s supply with rfl | ⟨r, hr, hrun⟩ | ⟨hr, hop, hrun⟩
  · rw [calls_dispose, run, s.dispose_record, Session.freeings]
    split
    · exact .quiet
    · exact .freed
  · rw [calls_of_request supply hr, hrun]
    refine r.effect supply ?_
    rw [substitution_eq, hr]
    rfl
  · rw [calls_of_no_request supply hr hop, hrun]
    exact .quiet

/-! ## The plan is what is due -/

/-- A plan made from the record that the last substitution left passes what is due. -/
theorem due_plan (pattern options : String) (last : Option Substituted) (code template : String)
    (range : TextRange) :
    Due pattern options last code template
      { pattern :=
          if ((recordAfter options last).plan code template).recompile then some pattern else none
        template := ((recordAfter options last).plan code template).template
        options := ((recordAfter options last).plan code template).options
        range } := by
  cases last with
  | none =>
    by_cases hcode : code = options
    · simp [Due, recordAfter, CompileRecord.initial, CompileRecord.plan, hcode]
    · simp [Due, recordAfter, CompileRecord.initial, CompileRecord.plan, hcode, Ne.symm hcode]
  | some l =>
    by_cases hstatus : l.status < 0
    · simp [Due, recordAfter, CompileRecord.plan, hstatus]
    · by_cases hcode : l.code = code
      · simp [Due, recordAfter, CompileRecord.plan, hstatus, hcode]
      · simp [Due, recordAfter, CompileRecord.plan, hstatus, hcode]

/-- What was given last, if it is what the last substitution was made for. -/
def givenFor (options : String) : Option Substituted → Given
  | none => ⟨options, none⟩
  | some l => ⟨l.code, some l.template⟩

/-- After a call that passed what was due, what was given last is what the call was made for. -/
theorem given_after_due {pattern options : String} {last : Option Substituted}
    {code template : String} {call : SubstituteCall} (status : Int)
    (h : Due pattern options last code template call) :
    (givenFor options last).after (.substituting call status) = ⟨code, some template⟩ := by
  cases last with
  | none =>
    by_cases hcode : code = options
    · simp only [Due, if_pos hcode] at h
      simp [givenFor, Given.after, h, hcode]
    · simp only [Due, if_neg hcode] at h
      simp [Given.after, h]
  | some l =>
    by_cases hstatus : l.status < 0
    · simp only [Due, if_pos hstatus] at h
      simp [Given.after, h]
    · by_cases hcode : l.code = code
      · simp only [Due, if_neg hstatus, if_pos hcode] at h
        by_cases ht : l.template = template <;> simp [givenFor, Given.after, h, hcode, ht]
      · simp only [Due, if_neg hstatus, if_neg hcode] at h
        simp [Given.after, h]

/-! ## The invariant -/

/-- The session's record, and what its engine was given last, are those of the history. -/
structure Kept (pattern options : String) (done : List Deed) (s : Session S H) : Prop where
  pattern_eq : s.pattern = pattern
  options_eq : s.options = options
  record_eq : s.record = recordAfter options (lastSubstitution options done)
  given_eq : givenAfter options done = givenFor options (lastSubstitution options done)

theorem lastSubstitution_snoc (options : String) (done : List Deed) (d : Deed) :
    lastSubstitution options (done ++ [d]) =
      (d.substituted? options).or (lastSubstitution options done) := by
  rw [lastSubstitution, List.filterMap_append, List.getLast?_append]
  cases h : d.substituted? options <;> simp [h, lastSubstitution]

theorem givenAfter_snoc (options : String) (done : List Deed) (d : Deed) :
    givenAfter options (done ++ [d]) = d.calls.foldl Given.after (givenAfter options done) := by
  simp [givenAfter, List.flatMap_append, List.foldl_append]

/-- The substitution that a substitution call adds to the history. -/
theorem substituted?_eq {options code template : String} {op : Operation} (call : SubstituteCall)
    (status : Int) (h : op.substitution options = some (code, template)) :
    Deed.substituted? options ⟨op, [.substituting call status]⟩ =
      some ⟨code, template, status⟩ := by
  simp [Deed.substituted?, h]

/-- Only a substitution call moves the history and the record, and it moves both alike. -/
theorem Effect.keeps {pattern options : String} {done : List Deed} {s : Session S H}
    {op : Operation} {calls : List EngineCall} {record : CompileRecord}
    (e : Effect s op calls record) (h : Kept pattern options done s) :
    record = recordAfter options (lastSubstitution options (done ++ [⟨op, calls⟩])) ∧
      givenAfter options (done ++ [⟨op, calls⟩]) =
        givenFor options (lastSubstitution options (done ++ [⟨op, calls⟩])) := by
  rw [lastSubstitution_snoc, givenAfter_snoc, h.given_eq]
  cases e with
  | quiet => exact ⟨h.record_eq, rfl⟩
  | freed => exact ⟨h.record_eq, rfl⟩
  | searched range status => exact ⟨h.record_eq, rfl⟩
  | @substituted code template range status hop =>
    -- one call moves the record, by its status, and what the engine was given
    rw [h.options_eq] at hop
    rw [substituted?_eq _ status hop, Option.some_or, h.record_eq, h.pattern_eq]
    exact ⟨rfl, given_after_due status (due_plan pattern options _ code template range)⟩

theorem Kept.step {pattern options : String} {done : List Deed} {s : Session S H}
    (h : Kept pattern options done s) (op : Operation) (supply : Supply) :
    Kept pattern options (done ++ [⟨op, op.calls s supply⟩]) (op.run s supply).session := by
  have hsetup := op.run_sameSetup s supply
  obtain ⟨hrecord, hgiven⟩ := (op.effect s supply).keeps h
  exact ⟨hsetup.pattern.trans h.pattern_eq, hsetup.options.trans h.options_eq, hrecord, hgiven⟩

theorem Kept.deeds {pattern options : String} {done : List Deed} {s : Session S H}
    (h : Kept pattern options done s) (ops : List (Operation × Supply)) :
    Kept pattern options (done ++ (deeds ops s).1) (deeds ops s).2 := by
  induction ops generalizing done s with
  | nil => simpa [PatternSession.deeds] using h
  | cons next ops ih =>
    obtain ⟨op, supply⟩ := next
    have hrest := ih (h.step op supply)
    rw [List.append_assoc] at hrest
    exact hrest

theorem kept_create (engine : Engine S H) (state : S) (supply : Supply) (pattern options : String) :
    Kept pattern options [] (Session.create engine state supply pattern options).session := by
  unfold Session.create
  dsimp only
  split
  · exact ⟨(Session.dispose_sameSetup _).pattern, (Session.dispose_sameSetup _).options,
      Session.dispose_record _, rfl⟩
  · exact ⟨rfl, rfl, rfl, rfl⟩

/-- What the calls of an operation pass. -/
theorem Effect.passes {pattern options : String} {done : List Deed} {s : Session S H}
    {op : Operation} {calls : List EngineCall} {record : CompileRecord}
    (e : Effect s op calls record) (h : Kept pattern options done s) :
    calls.length ≤ 1 ∧
      (∀ call status, .matching call status ∈ calls →
        call.pattern = none ∧ call.options = none ∧ call.oneShot = false) ∧
      ∀ call status, .substituting call status ∈ calls →
        ∃ code template, op.substitution options = some (code, template) ∧
          Due pattern options (lastSubstitution options done) code template call ∧
          givenAfter options (done ++ [⟨op, calls⟩]) = ⟨code, some template⟩ := by
  have hgiven := (e.keeps h).2
  cases e with
  | quiet => simp
  | freed => simp
  | searched range status => simp
  | @substituted code template range status hop =>
    rw [h.options_eq] at hop
    refine ⟨Nat.le_refl 1, by simp, ?_⟩
    intro call status' hcall
    refine ⟨code, template, hop, ?_, ?_⟩
    · obtain ⟨rfl, -⟩ : call = _ ∧ status' = status := by simpa using hcall
      rw [h.record_eq, h.pattern_eq]
      exact due_plan pattern options _ code template range
    · rw [hgiven, lastSubstitution_snoc, substituted?_eq _ status hop]
      rfl

/-! ## The protocol -/

/-- **The compile cache follows the history.** Whatever the engine answers: after any operations on
a session, an operation makes at most one call; a search passes no pattern and no options and is not
for compiling only; and a substitution call passes what is due after the last one, so that it always
works with the options and the template it is made for. -/
theorem substitutions_pass_what_is_due (engine : Engine S H) (state : S) (supply : Supply)
    (pattern options : String) (ops : List (Operation × Supply)) (op : Operation)
    (now : Supply) :
    let past := deeds ops (Session.create engine state supply pattern options).session
    let calls := op.calls past.2 now
    calls.length ≤ 1 ∧
      (∀ call status, .matching call status ∈ calls →
        call.pattern = none ∧ call.options = none ∧ call.oneShot = false) ∧
      ∀ call status, .substituting call status ∈ calls →
        ∃ code template, op.substitution options = some (code, template) ∧
          Due pattern options (lastSubstitution options past.1) code template call ∧
          givenAfter options (past.1 ++ [⟨op, calls⟩]) = ⟨code, some template⟩ := by
  intro past calls
  have h : Kept pattern options past.1 past.2 :=
    (kept_create engine state supply pattern options).deeds ops
  exact (op.effect past.2 now).passes h

end PatternSession
