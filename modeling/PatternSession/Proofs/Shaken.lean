import PatternSession.Proofs.Soundness

/-!
# Sessions whose handle or template is missing

A session is `Shaken` when its handle may be lost, and the template on it missing, though the
session does not know of it. Nothing else is wrong: the handle, if it is there, is the one that the
session takes it for.

**Theorem (`Operation.run_shaken`).** An operation of a shaken session fails or is answered as if
nothing had happened. What is missing is noticed before it is used: a search needs the handle, and
a substitution that passes less than everything needs what it does not pass.

**Theorem (`Operation.run_renewed`).** With nothing on record, a substitution passes everything, so
it is answered as if nothing had happened, and leaves a sound session.
-/

namespace PatternSession

open Bundled

variable {m : Matcher} {p : m.Pattern}

/-! ## Failing replies -/

/-- The reply is an error. -/
def Reply.Fails : Reply → Prop
  | found (.error _) => True
  | verdict (.error _) => True
  | written (.error _) => True
  | item (some (.error _)) _ => True
  | _ => False

/-- A negative status is an error in every reading. -/
theorem Operation.read_fails {op : Operation} {options : String} {r : Request}
    (hr : op.request options = some r) (bounds : Bounds) {report : Report}
    (hneg : report.status < 0) : (op.read (.ok (bounds, report))).Fails := by
  have hmatch : ∀ text, report.readMatch text bounds = .error report.error := fun _ => if_pos hneg
  have hreplaced : ∀ text, report.readReplaced text bounds = .error report.error :=
    fun _ => if_pos hneg
  have hpatch : ∀ found, report.readPatch found = .error report.error := fun _ => if_pos hneg
  cases op with
  | dispose => cases hr
  | nextItem it =>
    simp only [read, Except.bind, hmatch]
    trivial
  | _ =>
    simp only [read, Except.bind, hmatch, hreplaced, hpatch]
    trivial

/-! ## Shaken sessions -/

/-- A session that was opened with the setup, whose pattern compiles to `p`, with nothing else than
it believes in the place for the handle. -/
structure Session.Shaken (m : Matcher) (setup : Setup Limits) (p : m.Pattern)
    (s : Session Unit (Handle m)) (supply : Supply) : Prop where
  engine_eq : s.engine = bundled m setup.config
  pattern_eq : s.pattern = setup.pattern
  options_eq : s.options = setup.options
  compiles : CompilesTo m setup.config setup.pattern setup.options p
  holding : s.disposed = false → Holding p s.record s.buffer supply s.handle

section Shaken

variable {setup : Setup Limits} {s : Session Unit (Handle m)} {supply supply' : Supply}

theorem Session.Sound.shaken (hs : s.Sound m setup p supply) : s.Shaken m setup p supply where
  engine_eq := hs.engine_eq
  pattern_eq := hs.pattern_eq
  options_eq := hs.options_eq
  compiles := hs.compiles
  holding hd := by
    obtain ⟨h, hl⟩ := hs.live hd
    rw [hl.handle_eq]
    exact hl.holding

theorem Session.Shaken.mono (hs : s.Shaken m setup p supply) (hle : supply.next ≤ supply'.next) :
    s.Shaken m setup p supply' :=
  { hs with holding := fun hd => (hs.holding hd).mono hle }

theorem Session.Shaken.bind (hs : s.Shaken m setup p supply) (text : Text) (start : Nat)
    (len : Option Nat) :
    (s.bind supply text start len).session.Shaken m setup p (s.bind supply text start len).supply :=
  ⟨hs.engine_eq, hs.pattern_eq, hs.options_eq, hs.compiles, fun hd => (hs.holding hd).ensure text⟩

/-- Bounds are resolved against the text that is bound. -/
theorem Session.Shaken.bind_answer (hs : s.Shaken m setup p supply) (hd : s.disposed = false)
    (text : Text) (start : Nat) (len : Option Nat) :
    (s.bind supply text start len).answer = Session.resolveBounds text.chars.length start len :=
  (hs.holding hd).coherent.resolveBounds_eq text start len

/-- The codes that a session substitutes under compile to its pattern. -/
theorem Session.Shaken.compiles_usual (hs : s.Shaken m setup p supply) {r : Request}
    (hr : r.Usual setup.options) {code template : String}
    (hsub : r.substitution = some (code, template)) :
    CompilesTo m setup.config s.pattern code p := by
  rw [hs.pattern_eq]
  exact hr.compilesTo hs.compiles hsub

/-- A call is answered with its outcome, or fails. -/
theorem Request.call_shaken (hs : s.Shaken m setup p supply) (hd : s.disposed = false)
    {r : Request} (hr : r.Usual setup.options) (hchars : s.buffer.chars = r.text.chars)
    (bounds : Bounds) :
    (r.call s bounds).2.report s.engine = (r.outcome m p bounds).report ∨
      (r.call s bounds).2.status < 0 := by
  have he := hs.engine_eq
  have hh := hs.holding hd
  rw [call, outcome, ← hchars]
  cases hsub : r.substitution with
  | none =>
    have hcall := Session.searchCall_eq he bounds
    cases hheld : s.handle with
    | none =>
      right
      rw [hheld] at hcall
      show (s.searchCall bounds).2.status < 0
      rw [hcall]
      exact Int.negSucc_lt_zero 0
    | some h =>
      left
      rw [hheld] at hh hcall
      rw [hh.match_eq bounds] at hcall
      show (s.searchCall bounds).2.report s.engine = _
      rw [hcall, he, Outcome.report_answer]
  | some sub =>
    obtain ⟨code, template⟩ := sub
    have hcompiles := hs.compiles_usual hr hsub
    rcases hh.planned hcompiles template (s.buffer.range bounds) with
      ⟨h, hw⟩ | ⟨text, left, hfailed, -⟩
    · left
      exact (hw.substituteCall he).1
    · right
      show (s.substituteCall code template bounds).2.status < 0
      rw [Session.substituteCall_eq he, hfailed]
      exact Int.negSucc_lt_zero 0

/-- A request is answered as if nothing had happened, or fails. -/
theorem Request.attempt_shaken (hs : s.Shaken m setup p supply) {r : Request}
    (hr : r.Usual setup.options) (hd : s.disposed = false) :
    (r.attempt s supply).answer = r.answerOn m p ∨
      ∃ bounds report, (r.attempt s supply).answer = .ok (bounds, report) ∧ report.status < 0 := by
  have hbound := hs.bind r.text r.start r.len
  have hanswer := hs.bind_answer hd r.text r.start r.len
  cases hbounds : Session.resolveBounds r.text.chars.length r.start r.len with
  | error e =>
    left
    rw [attempt_of_rejected hd (hanswer.trans hbounds), answerOn, hbounds]
    rfl
  | ok bounds =>
    rcases r.call_shaken hbound hd hr (s.buffer.chars_ensure supply r.text) bounds with
      hreport | hneg
    · exact .inl (answer_of_report hd (hanswer.trans hbounds) hbounds hreport)
    · right
      rw [attempt_of_bounds hd (hanswer.trans hbounds)]
      exact ⟨_, _, rfl, hneg⟩

/-- **An operation is answered as if nothing had happened, or fails.** -/
theorem Operation.run_shaken (hs : s.Shaken m setup p supply) (hd : s.disposed = false)
    (op : Operation) :
    (op.run s supply).answer = op.answerOn m setup.options p ∨ (op.run s supply).answer.Fails := by
  unfold answerOn
  rw [← hs.options_eq]
  cases h : op.request s.options with
  | none =>
    left
    by_cases hop : op = .dispose
    · subst hop
      rfl
    · rw [run_of_no_request supply h hop]
  | some r =>
    have hr := request_usual h
    rw [hs.options_eq] at hr
    rw [run_of_request supply h, Turn.map]
    rcases Request.attempt_shaken hs hr hd with hanswer | ⟨bounds, report, hanswer, hneg⟩
    · left
      rw [hanswer]
    · right
      rw [hanswer]
      exact read_fails h bounds hneg

/-- A call with nothing on record is answered with its outcome, and leaves a live handle. -/
theorem Request.call_renewed (hs : s.Shaken m setup p supply) (hd : s.disposed = false)
    {r : Request} (hr : r.Usual setup.options) (hchars : s.buffer.chars = r.text.chars)
    (hrecord : s.record.options = none) {code template : String}
    (hsub : r.substitution = some (code, template)) (bounds : Bounds) :
    (r.call s bounds).2.report s.engine = (r.outcome m p bounds).report ∧
      ∃ h, Live m p (r.call s bounds).1 h supply := by
  have hother : s.record.options ≠ some code := by simp [hrecord]
  obtain ⟨h, hw⟩ : ∃ h, WorksOn setup.config p code template s.buffer supply
      (s.record.call s.pattern code template (s.buffer.range bounds)) s.handle h :=
    WorksOn.of_recompile (hs.holding hd).coherent (hs.compiles_usual hr hsub) hother _
  rw [call, outcome, ← hchars, hsub]
  exact hw.substituteCall hs.engine_eq

/-- A request with nothing on record is answered as if nothing had happened. -/
theorem Request.attempt_renewed (hs : s.Shaken m setup p supply) {r : Request}
    (hr : r.Usual setup.options) (hd : s.disposed = false) (hrecord : s.record.options = none)
    {code template : String} (hsub : r.substitution = some (code, template)) :
    (r.attempt s supply).answer = r.answerOn m p ∧
      ∀ bounds, (s.bind supply r.text r.start r.len).answer = .ok bounds →
        (r.attempt s supply).session.Sound m setup p (r.attempt s supply).supply := by
  have hbound := hs.bind r.text r.start r.len
  have hanswer := hs.bind_answer hd r.text r.start r.len
  have hsame := r.attempt_sameSetup s supply
  cases hbounds : Session.resolveBounds r.text.chars.length r.start r.len with
  | error e =>
    rw [attempt_of_rejected hd (hanswer.trans hbounds), hanswer, answerOn, hbounds]
    exact ⟨rfl, by rintro _ ⟨⟩⟩
  | ok bounds =>
    obtain ⟨hreport, hlive⟩ :=
      r.call_renewed hbound hd hr (s.buffer.chars_ensure supply r.text) hrecord hsub bounds
    refine ⟨answer_of_report hd (hanswer.trans hbounds) hbounds hreport, ?_⟩
    intro _ _
    rw [attempt_of_bounds hd (hanswer.trans hbounds)] at hsame ⊢
    exact ⟨hsame.engine.trans hs.engine_eq, hsame.pattern.trans hs.pattern_eq,
      hsame.options.trans hs.options_eq, hs.compiles, fun _ => hlive⟩

/-- **With nothing on record a substitution is answered as if nothing had happened,** and leaves a
sound session if it reaches the engine. -/
theorem Operation.run_renewed (hs : s.Shaken m setup p supply) (hd : s.disposed = false)
    (hrecord : s.record.options = none) {op : Operation} {r : Request}
    (hr : op.request s.options = some r) {code template : String}
    (hsub : r.substitution = some (code, template)) :
    (op.run s supply).answer = op.answerOn m setup.options p ∧
      ∀ bounds, (s.bind supply r.text r.start r.len).answer = .ok bounds →
        (op.run s supply).session.Sound m setup p (op.run s supply).supply := by
  have husual := request_usual hr
  rw [hs.options_eq] at husual
  obtain ⟨hanswer, hsound⟩ := Request.attempt_renewed hs husual hd hrecord hsub
  rw [answerOn, ← hs.options_eq, hr, run_of_request supply hr]
  exact ⟨congrArg op.read hanswer, hsound⟩

end Shaken

end PatternSession
