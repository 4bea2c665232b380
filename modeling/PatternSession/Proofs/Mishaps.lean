import PatternSession.Recorder
import PatternSession.Proofs.Watching

/-!
# An engine that misbehaves

`unreliable strategy inner` stands between a session and an engine. What the session passes reaches
the inner engine unchanged. But the handle may be lost before a call or after it, and any status,
message, groups and output may be reported in place of the true ones (`Mishap`). The strategy
chooses what goes wrong from all the calls so far, so it covers every course of events. The call
that opens a session is answered truly.

**The plain session** (`Session.plain`) is what the session would be if the inner engine were in the
place of the unreliable one from now on.

**Theorem (`Operation.run_plain`).** At a call where nothing goes wrong, an operation is answered as
in the plain session, and the plain session moves on alike.

**Theorem (`Operation.run_log`).** The log is the history of the calls.
-/

namespace PatternSession

variable {S H : Type}

/-! ## Mishaps -/

/-- What goes wrong at one call; by default nothing does. -/
structure Mishap where
  /-- The handle is lost before the call. -/
  lostBefore : Bool := false
  /-- The handle is lost after the call. -/
  lostAfter : Bool := false
  /-- The status that is reported for the true one. -/
  status : Int → Int := id
  message : Option String → Option String := id
  /-- The groups and the output that are reported for the true ones. -/
  region : Region → Region := id

namespace Mishap

/-- The handle that the inner engine finds. -/
def found (f : Mishap) (slot : Option (Recorder.Handle H)) : Option H :=
  if f.lostBefore then none else slot.map (·.inner)

/-- The answer as it is reported. -/
def falsify (f : Mishap) (a : Answer (Recorder.Handle H)) : Answer (Recorder.Handle H) where
  status := f.status a.status
  message := f.message a.message
  handle :=
    if f.lostAfter then none else a.handle.map fun h => { h with region := f.region h.region }

/-- The handle of the inner engine after the call. -/
theorem inner_falsify (f : Mishap) (inner : Engine S H) (a : Answer H) :
    (f.falsify (Recorder.copyResult inner a)).handle.map (·.inner) =
      if f.lostAfter then none else a.handle := by
  rw [falsify, Recorder.copyResult]
  cases f.lostAfter with
  | true => rfl
  | false => cases a.handle <;> rfl

theorem falsify_nothing (a : Answer (Recorder.Handle H)) : ({} : Mishap).falsify a = a := by
  obtain ⟨status, message, handle⟩ := a
  cases handle <;> rfl

end Mishap

/-- Chooses what goes wrong at a call from the calls before it. -/
abbrev Strategy := List EngineCall → Mishap

/-- What goes wrong after these calls. The first call is spared. -/
def Strategy.next (strategy : Strategy) : List EngineCall → Mishap
  | [] => {}
  | call :: calls => strategy (call :: calls)

/-- The engine as it misbehaves, with a log of its calls and the statuses it reported. -/
def unreliable (strategy : Strategy) (inner : Engine S H) :
    Engine (S × List EngineCall) (Recorder.Handle H) where
  compileAndMatch s call slot :=
    let f := strategy.next s.2
    let (state, a) := inner.compileAndMatch s.1 call (f.found slot)
    let a := f.falsify (Recorder.copyResult inner a)
    ((state, s.2 ++ [.matching call a.status]), a)
  compileAndSubstitute s call slot :=
    let f := strategy.next s.2
    let (state, a) := inner.compileAndSubstitute s.1 call (f.found slot)
    let a := f.falsify (Recorder.copyResult inner a)
    ((state, s.2 ++ [.substituting call a.status]), a)
  region h := h.region
  free s h := (inner.free s.1 h.inner, s.2 ++ [.freeing])

/-! ## The plain session -/

namespace Session

/-- The session with the inner engine in the place of the unreliable one. -/
def plain (inner : Engine S H) (s : Session (S × List EngineCall) (Recorder.Handle H)) :
    Session S H :=
  { s with engine := inner, state := s.state.1, handle := s.handle.map (·.inner) }

end Session

/-- The turn with the plain session. -/
def Turn.plain {α : Type} (inner : Engine S H)
    (t : Turn (S × List EngineCall) (Recorder.Handle H) α) : Turn S H α :=
  ⟨t.answer, t.session.plain inner, t.supply⟩

section Plain

variable {strategy : Strategy} {inner : Engine S H}
  {s : Session (S × List EngineCall) (Recorder.Handle H)}

/-- What is seen of an answer that is reported truly. -/
theorem report_copyResult (a : Answer H) :
    (Recorder.copyResult inner a).report (unreliable strategy inner) = a.report inner := by
  obtain ⟨status, message, handle⟩ := a
  cases handle <;> rfl

theorem Request.call_plain (he : s.engine = unreliable strategy inner)
    (hnothing : strategy.next s.log = {}) (r : Request) (bounds : Bounds) :
    (r.call s bounds).1.plain inner = (r.call (s.plain inner) bounds).1 ∧
      (r.call s bounds).2.report (unreliable strategy inner) =
        (r.call (s.plain inner) bounds).2.report inner := by
  obtain ⟨_, pattern, options, ⟨state, log⟩, handle, buffer, record, disposed⟩ := s
  obtain rfl : _ = unreliable strategy inner := he
  have hnothing' : strategy.next log = {} := hnothing
  have hinner : ∀ a : Answer H, (Recorder.copyResult inner a).handle.map (·.inner) = a.handle := by
    intro a
    have := ({} : Mishap).inner_falsify inner a
    rwa [Mishap.falsify_nothing] at this
  obtain ⟨text, start, len, _ | ⟨code, template⟩⟩ := r
  · constructor
    · simp only [call, Session.searchCall, unreliable, hnothing', Mishap.falsify_nothing,
        Session.plain, hinner]
      rfl
    · simp only [call, Session.searchCall, unreliable, hnothing', Mishap.falsify_nothing]
      exact report_copyResult _
  · constructor
    · simp only [call, Session.substituteCall, unreliable, hnothing', Mishap.falsify_nothing,
        Session.plain, hinner]
      rfl
    · simp only [call, Session.substituteCall, unreliable, hnothing', Mishap.falsify_nothing]
      exact report_copyResult _

/-- **Where nothing goes wrong, a request is attempted as in the plain session.** -/
theorem Request.attempt_plain (he : s.engine = unreliable strategy inner)
    (hnothing : strategy.next s.log = {}) (r : Request) (supply : Supply) :
    (r.attempt s supply).plain inner = r.attempt (s.plain inner) supply := by
  cases hd : s.disposed with
  | true =>
    have hd' : (s.plain inner).disposed = true := hd
    rw [attempt_of_disposed hd, attempt_of_disposed hd']
    rfl
  | false =>
    have hd' : (s.plain inner).disposed = false := hd
    cases hbind : (s.bind supply r.text r.start r.len).answer with
    | error e =>
      have hbind' : ((s.plain inner).bind supply r.text r.start r.len).answer = .error e := hbind
      rw [attempt_of_rejected hd hbind, attempt_of_rejected hd' hbind']
      rfl
    | ok bounds =>
      have hbind' : ((s.plain inner).bind supply r.text r.start r.len).answer = .ok bounds := hbind
      have hbound : (s.bind supply r.text r.start r.len).session.engine =
          unreliable strategy inner := he
      obtain ⟨hsession, hreport⟩ := r.call_plain hbound hnothing bounds
      rw [attempt_of_bounds hd hbind, attempt_of_bounds hd' hbind', he]
      simp only [Turn.plain, hsession, hreport]
      rfl

theorem Session.dispose_plain (he : s.engine = unreliable strategy inner) :
    s.dispose.plain inner = (s.plain inner).dispose := by
  obtain ⟨_, pattern, options, state, handle, buffer, record, disposed⟩ := s
  obtain rfl : _ = unreliable strategy inner := he
  cases disposed <;> cases handle <;> rfl

/-- **Where nothing goes wrong, an operation is answered as in the plain session.** -/
theorem Operation.run_plain (he : s.engine = unreliable strategy inner)
    (hnothing : strategy.next s.log = {}) (op : Operation) (supply : Supply) :
    (op.run s supply).plain inner = op.run (s.plain inner) supply := by
  have hoptions : (s.plain inner).options = s.options := rfl
  rcases op.run_cases s supply with rfl | ⟨r, hr, hrun⟩ | ⟨hr, hop, hrun⟩
  · rw [run, run, ← s.dispose_plain he]
    rfl
  · have hattempt := r.attempt_plain he hnothing supply
    rw [hrun, run_of_request supply (hoptions ▸ hr), ← hattempt]
    rfl
  · rw [hrun, run_of_no_request supply (hoptions ▸ hr) hop]
    rfl

end Plain

/-! ## The log -/

section Log

variable {strategy : Strategy} {inner : Engine S H}
  {s : Session (S × List EngineCall) (Recorder.Handle H)}

theorem Request.call_log (he : s.engine = unreliable strategy inner) (r : Request)
    (bounds : Bounds) :
    (r.call s bounds).1.log = s.log ++ [r.engineCall s bounds] := by
  obtain ⟨_, pattern, options, ⟨state, log⟩, handle, buffer, record, disposed⟩ := s
  obtain rfl : _ = unreliable strategy inner := he
  obtain ⟨text, start, len, _ | ⟨code, template⟩⟩ := r <;> rfl

theorem Request.attempt_log (he : s.engine = unreliable strategy inner) (r : Request)
    (supply : Supply) :
    (r.attempt s supply).session.log = s.log ++ r.calls s supply := by
  cases hd : s.disposed with
  | true => rw [attempt_of_disposed hd, calls_of_disposed hd, List.append_nil]
  | false =>
    cases hbind : (s.bind supply r.text r.start r.len).answer with
    | error e =>
      rw [attempt_of_rejected hd hbind, calls_of_rejected hd hbind, List.append_nil]
      rfl
    | ok bounds =>
      have hbound : (s.bind supply r.text r.start r.len).session.engine =
          unreliable strategy inner := he
      rw [attempt_of_bounds hd hbind, calls_of_bounds hd hbind]
      exact r.call_log hbound bounds

theorem Session.dispose_log (he : s.engine = unreliable strategy inner) :
    s.dispose.log = s.log ++ s.freeings := by
  obtain ⟨_, pattern, options, ⟨state, log⟩, handle, buffer, record, disposed⟩ := s
  obtain rfl : _ = unreliable strategy inner := he
  cases disposed <;> cases handle <;>
    simp [dispose, release, freeings, unreliable, Session.log]

/-- **The log is the history of the calls.** -/
theorem Operation.run_log (he : s.engine = unreliable strategy inner) (op : Operation)
    (supply : Supply) : (op.run s supply).session.log = s.log ++ op.calls s supply := by
  rcases op.run_cases s supply with rfl | ⟨r, hr, hrun⟩ | ⟨hr, hop, hrun⟩
  · rw [calls_dispose]
    exact s.dispose_log he
  · rw [calls_of_request supply hr, hrun]
    exact r.attempt_log he supply
  · rw [calls_of_no_request supply hr hop, hrun, List.append_nil]

end Log

/-! ## Opening -/

section Opening

variable (strategy : Strategy) (inner : Engine S H) (state : S)

end Opening

end PatternSession
