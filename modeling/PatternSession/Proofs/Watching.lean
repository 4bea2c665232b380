import PatternSession.Proofs.Operation

/-!
# Watching what a session asks of its engine

`watching inner` answers as `inner` does and writes down every call with the status that it was
answered with. The calls of an operation (`Operation.calls`) are those written down when the
operation is run on the session with its engine watched.

**Theorem (`Operation.run_watched`).** Watching changes nothing: the operation gives the same reply,
leaves the same session behind and takes the same generations. So whatever holds of the calls of
watched sessions holds of every session, with every engine.
-/

namespace PatternSession

variable {S H : Type}

/-- A call to an engine, with the status of the answer. -/
inductive EngineCall where
  | matching (call : MatchCall) (status : Int)
  | substituting (call : SubstituteCall) (status : Int)
  | freeing

/-- The range that the engine is shown in a call. -/
def EngineCall.range? : EngineCall → Option TextRange
  | matching call _ => some call.range
  | substituting call _ => some call.range
  | freeing => none

/-- The engine with a log of its calls, the first one first. -/
def watching (inner : Engine S H) : Engine (S × List EngineCall) H where
  compileAndMatch s call slot :=
    let (state, a) := inner.compileAndMatch s.1 call slot
    ((state, s.2 ++ [.matching call a.status]), a)
  compileAndSubstitute s call slot :=
    let (state, a) := inner.compileAndSubstitute s.1 call slot
    ((state, s.2 ++ [.substituting call a.status]), a)
  region := inner.region
  free s h := (inner.free s.1 h, s.2 ++ [.freeing])

namespace Session

/-- The calls so far. -/
def log (s : Session (S × List EngineCall) H) : List EngineCall := s.state.2

/-- The session with its engine watched, after the calls in the log. -/
def watched (s : Session S H) (log : List EngineCall) : Session (S × List EngineCall) H :=
  { s with engine := watching s.engine, state := (s.state, log) }

/-- The calls that a disposal makes. -/
def freeings (s : Session S H) : List EngineCall :=
  if s.disposed ∨ s.handle = none then [] else [.freeing]

theorem dispose_watched (s : Session S H) (log : List EngineCall) :
    (s.watched log).dispose = s.dispose.watched (log ++ s.freeings) := by
  obtain ⟨engine, pattern, options, state, handle, buffer, record, disposed⟩ := s
  cases disposed <;> cases handle <;>
    simp [dispose, release, watched, freeings, watching]

end Session

namespace Request

/-- The call of a request whose bounds are resolved, as the engine sees it. -/
def engineCall (r : Request) (s : Session S H) (bounds : Bounds) : EngineCall :=
  match r.substitution with
  | none =>
    .matching
      { pattern := none, options := none, range := s.buffer.range bounds, oneShot := false }
      (s.searchCall bounds).2.status
  | some (code, template) =>
    let plan := s.record.plan code template
    .substituting
      { pattern := if plan.recompile then some s.pattern else none
        template := plan.template
        options := plan.options
        range := s.buffer.range bounds }
      (s.substituteCall code template bounds).2.status

/-- A request shows the engine the copy that is held. -/
theorem range?_engineCall (r : Request) (s : Session S H) (bounds : Bounds) :
    (r.engineCall s bounds).range? = some (s.buffer.range bounds) := by
  obtain ⟨text, start, len, _ | ⟨code, template⟩⟩ := r <;> rfl

/-- The calls of a request: one, unless it is rejected before. -/
def calls (r : Request) (s : Session S H) (supply : Supply) : List EngineCall :=
  if s.disposed then []
  else
    let bound := s.bind supply r.text r.start r.len
    match bound.answer with
    | .error _ => []
    | .ok bounds => [r.engineCall bound.session bounds]

section Calls

variable {r : Request} {s : Session S H} {supply : Supply}

theorem calls_of_disposed (hd : s.disposed = true) : r.calls s supply = [] := by
  rw [calls, if_pos hd]

theorem calls_of_rejected (hd : s.disposed = false) {e : Error}
    (h : (s.bind supply r.text r.start r.len).answer = .error e) : r.calls s supply = [] := by
  simp only [calls, hd, h, Bool.false_eq_true, if_false]

theorem calls_of_bounds (hd : s.disposed = false) {bounds : Bounds}
    (h : (s.bind supply r.text r.start r.len).answer = .ok bounds) :
    r.calls s supply =
      [r.engineCall (s.bind supply r.text r.start r.len).session bounds] := by
  simp only [calls, hd, h, Bool.false_eq_true, if_false]

/-- A request makes a call only if the session lives and the bounds are resolved. -/
theorem exists_bounds_of_calls (h : r.calls s supply ≠ []) :
    s.disposed = false ∧ ∃ bounds, (s.bind supply r.text r.start r.len).answer = .ok bounds := by
  cases hd : s.disposed with
  | true => exact absurd (calls_of_disposed hd) h
  | false =>
    cases hbind : (s.bind supply r.text r.start r.len).answer with
    | error e => exact absurd (calls_of_rejected hd hbind) h
    | ok bounds => exact ⟨rfl, bounds, rfl⟩

end Calls

theorem call_watched (r : Request) (s : Session S H) (log : List EngineCall) (bounds : Bounds) :
    r.call (s.watched log) bounds =
      ((r.call s bounds).1.watched (log ++ [r.engineCall s bounds]), (r.call s bounds).2) := by
  obtain ⟨text, start, len, _ | ⟨code, template⟩⟩ := r <;> rfl

theorem attempt_watched (r : Request) (s : Session S H) (log : List EngineCall)
    (supply : Supply) :
    r.attempt (s.watched log) supply =
      ⟨(r.attempt s supply).answer, (r.attempt s supply).session.watched (log ++ r.calls s supply),
        (r.attempt s supply).supply⟩ := by
  have hbind : (s.watched log).bind supply r.text r.start r.len =
      ⟨(s.bind supply r.text r.start r.len).answer,
        (s.bind supply r.text r.start r.len).session.watched log,
        (s.bind supply r.text r.start r.len).supply⟩ := rfl
  have hdisposed : (s.watched log).disposed = s.disposed := rfl
  simp only [attempt, calls, hbind, hdisposed]
  by_cases hd : s.disposed
  · simp [hd]
  · simp only [hd, if_false, Bool.false_eq_true]
    rcases (s.bind supply r.text r.start r.len).answer with e | bounds
    · simp only [List.append_nil]
    · simp only [call_watched]
      rfl

end Request

namespace Operation

/-- The calls that an operation makes. -/
def calls (op : Operation) (s : Session S H) (supply : Supply) : List EngineCall :=
  (op.run (s.watched []) supply).session.state.2

theorem calls_of_request {op : Operation} {s : Session S H} {r : Request} (supply : Supply)
    (h : op.request s.options = some r) : op.calls s supply = r.calls s supply := by
  rw [calls, run_of_request supply (s := s.watched []) h, Turn.map, Request.attempt_watched,
    List.nil_append]
  rfl

theorem calls_of_no_request {op : Operation} {s : Session S H} (supply : Supply)
    (h : op.request s.options = none) (hop : op ≠ dispose) : op.calls s supply = [] := by
  rw [calls, run_of_no_request supply (s := s.watched []) h hop]
  rfl

theorem calls_dispose (s : Session S H) (supply : Supply) :
    dispose.calls s supply = s.freeings := by
  rw [calls, run, Session.dispose_watched, List.nil_append]
  rfl

/-- **Watching changes nothing.** -/
theorem run_watched (op : Operation) (s : Session S H) (log : List EngineCall) (supply : Supply) :
    op.run (s.watched log) supply =
      ⟨(op.run s supply).answer, (op.run s supply).session.watched (log ++ op.calls s supply),
        (op.run s supply).supply⟩ := by
  rcases op.run_cases s supply with rfl | ⟨r, hr, hrun⟩ | ⟨hr, hop, hrun⟩
  · rw [calls_dispose, run, run, Session.dispose_watched]
  · rw [calls_of_request supply hr, hrun, run_of_request supply (s := s.watched log) hr,
      Request.attempt_watched]
    rfl
  · rw [calls_of_no_request supply hr hop, hrun,
      run_of_no_request supply (s := s.watched log) hr hop, List.append_nil]

end Operation

/-! ## Opening -/

/-- The call that opens a session. -/
def openingCall (supply : Supply) (pattern options : String) : MatchCall where
  pattern := some pattern
  options := some options
  range := (({} : TextBuffer).ensure supply emptyText).1.range ⟨0, 0⟩
  oneShot := true

end PatternSession
