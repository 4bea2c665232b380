import PatternSession.Proofs.Family
import PatternSession.Proofs.Handles

/-!
# A session answers as if nothing were cached

A session on the bundled engine reuses four things: the copy of the text, the decoding of that copy,
the compiled options and the compiled template. `Request.answerOn` says what a request is answered
when nothing is reused: it is a function of the compiled pattern and of the request.

**Theorem (`Request.attempt_sound`).** A live session answers every request with `answerOn`, and is
sound afterwards, whatever the answer was.

**The invariant** (`Session.Sound`). While the session is not disposed its handle is `Live`: it has
the pattern that the session was opened with, copy and decoding are booked in one ledger, and
options and template are those that the session's record names. The record names less than the
handle holds after a failure, and then everything is passed again.

So the invariant holds throughout every family (`Family.sound_after`).
-/

namespace PatternSession

open Bundled

variable {m : Matcher} {limits : Limits} {p : m.Pattern}

/-! ## Answers with nothing cached -/

namespace Request

/-- What the engine says of a request within its bounds. -/
def outcome (m : Matcher) (p : m.Pattern) (r : Request) (bounds : Bounds) : Outcome :=
  match r.substitution with
  | none => searchOutcome m p r.text.chars bounds
  | some (code, template) =>
    match Template.compile (m.groupNames p) template with
    | .error e => .failed e.message
    | .ok t => substituteOutcome m p r.text.chars bounds t (decide ('g' ∈ code.toList))

/-- What a request is answered. -/
def answerOn (m : Matcher) (p : m.Pattern) (r : Request) : Except Error (Bounds × Report) :=
  (Session.resolveBounds r.text.chars.length r.start r.len).map fun bounds =>
    (bounds, (r.outcome m p bounds).report)

/-- A request is answered so when its bounds are resolved and its call is answered with the
outcome. -/
theorem answer_of_report {S H : Type} {s : Session S H} {supply : Supply} {r : Request}
    {bounds : Bounds} (hd : s.disposed = false)
    (hbind : (s.bind supply r.text r.start r.len).answer = .ok bounds)
    (hbounds : Session.resolveBounds r.text.chars.length r.start r.len = .ok bounds)
    (hreport : (r.call (s.bind supply r.text r.start r.len).session bounds).2.report s.engine =
      (r.outcome m p bounds).report) :
    (r.attempt s supply).answer = r.answerOn m p := by
  rw [attempt_of_bounds hd hbind, answerOn, hbounds, Except.map, ← hreport]

end Request

/-! ## Live handles -/

/-- The handle in the session's place is what the session takes it for. -/
structure Live (m : Matcher) (p : m.Pattern) (s : Session Unit (Handle m)) (h : Handle m)
    (supply : Supply) : Prop where
  handle_eq : s.handle = some h
  pattern_eq : h.pattern = p
  coherent : Coherent h.haystack s.buffer supply
  options : ∀ code, s.record.options = some code → Options.parse code = .ok h.options
  template : ∀ source, s.record.template = some source →
    ∃ t, Template.compile (m.groupNames p) source = .ok t ∧ h.template = some t

section Calls

variable {s : Session Unit (Handle m)}

/-- The call that a search makes. -/
theorem Session.searchCall_eq (he : s.engine = bundled m limits) (bounds : Bounds) :
    (s.searchCall bounds).2 =
      compileAndMatch limits ⟨none, none, s.buffer.range bounds, false⟩ s.handle := by
  rw [Session.searchCall, he]
  rfl

/-- The call that a substitution makes. -/
theorem Session.substituteCall_eq (he : s.engine = bundled m limits) (code template : String)
    (bounds : Bounds) :
    (s.substituteCall code template bounds).2 =
      compileAndSubstitute limits
        (s.record.call s.pattern code template (s.buffer.range bounds)) s.handle := by
  rw [Session.substituteCall, he]
  rfl

end Calls

namespace Live

variable {s : Session Unit (Handle m)} {h : Handle m} {supply supply' : Supply}

theorem mono (hl : Live m p s h supply) (hle : supply.next ≤ supply'.next) :
    Live m p s h supply' :=
  { hl with coherent := hl.coherent.mono hle }

theorem bind (hl : Live m p s h supply) (text : Text) (start : Nat) (len : Option Nat) :
    Live m p (s.bind supply text start len).session h (s.bind supply text start len).supply :=
  { hl with coherent := hl.coherent.ensure text }

/-- Bounds are resolved against the text that is bound. -/
theorem bind_answer (hl : Live m p s h supply) (text : Text) (start : Nat) (len : Option Nat) :
    (s.bind supply text start len).answer =
      Session.resolveBounds text.chars.length start len := by
  exact hl.coherent.resolveBounds_eq text start len

/-- Nothing in the place is other than the session takes it for. -/
theorem holding (hl : Live m p s h supply) : Holding p s.record s.buffer supply (some h) := by
  refine .of_suits hl.coherent ⟨hl.pattern_eq, hl.options, ?_⟩
  intro source t hrecord ht
  obtain ⟨t', ht', hheld⟩ := hl.template source hrecord
  obtain rfl := Option.some.inj (ht.symm.trans hheld)
  exact ht'

/-- A search answers with its outcome, and leaves a live handle. -/
theorem searchCall (hl : Live m p s h supply) (he : s.engine = bundled m limits)
    (bounds : Bounds) :
    (s.searchCall bounds).2.report s.engine =
        (searchOutcome m p s.buffer.chars bounds).report ∧
      ∃ h', Live m p (s.searchCall bounds).1 h' supply := by
  have hcall := Session.searchCall_eq he bounds
  rw [hl.handle_eq, hl.holding.match_eq bounds] at hcall
  have hhandle : (s.searchCall bounds).1.handle = _ := congrArg Answer.handle hcall
  exact ⟨by rw [hcall, he, Outcome.report_answer], _, hhandle, hl.pattern_eq,
    hl.coherent.decoded, hl.options, hl.template⟩

/-- The planned call of a session with a live handle works on a handle. -/
theorem exists_worksOn (hl : Live m p s h supply) {code : String}
    (hcode : CompilesTo m limits s.pattern code p) (template : String) (range : TextRange) :
    ∃ h', WorksOn limits p code template s.buffer supply
      (s.record.call s.pattern code template range) s.handle h' := by
  rw [hl.handle_eq]
  by_cases hrecord : s.record.options = some code
  · exact ⟨h, .of_held hrecord hl.pattern_eq (hl.options code hrecord) hl.coherent
      (hl.template template) range⟩
  · exact WorksOn.of_recompile hl.holding.coherent hcode hrecord range

end Live

/-- **A call that works on a handle answers with its outcome, and leaves a live handle.** -/
theorem WorksOn.substituteCall {s : Session Unit (Handle m)} {supply : Supply}
    (he : s.engine = bundled m limits) {code template : String} {bounds : Bounds} {h : Handle m}
    (hw : WorksOn limits p code template s.buffer supply
      (s.record.call s.pattern code template (s.buffer.range bounds)) s.handle h) :
    (s.substituteCall code template bounds).2.report s.engine =
        (substitutionOutcome m p s.buffer.chars bounds code template).report ∧
      ∃ h', Live m p (s.substituteCall code template bounds).1 h' supply := by
  obtain ⟨h', hanswer, hserves⟩ := hw.answer rfl
  have hcall := Session.substituteCall_eq he code template bounds
  rw [hanswer] at hcall
  let o := substitutionOutcome m p s.buffer.chars bounds code template
  have hhandle : (s.substituteCall code template bounds).1.handle =
      some { h' with region := o.region } := congrArg Answer.handle hcall
  have hstatus : (s.substituteCall code template bounds).2.status = o.status :=
    congrArg Answer.status hcall
  refine ⟨by rw [hcall, he, Outcome.report_answer], { h' with region := o.region }, ?_⟩
  by_cases hneg : (s.substituteCall code template bounds).2.status < 0
  · have hrecord : (s.substituteCall code template bounds).1.record = s.record.failed := if_pos hneg
    -- nothing is recorded after a failure
    refine ⟨hhandle, hserves.pattern_eq, hserves.coherent, ?_, ?_⟩ <;>
      · rw [hrecord]
        rintro _ ⟨⟩
  · have hrecord : (s.substituteCall code template bounds).1.record =
        s.record.accepted code template := if_neg hneg
    rw [hstatus] at hneg
    obtain ⟨t, ht⟩ := exists_template_of_accepted hneg
    refine ⟨hhandle, hserves.pattern_eq, hserves.coherent, ?_, ?_⟩
    · rw [hrecord]
      rintro _ ⟨⟩
      exact hserves.options
    · rw [hrecord]
      rintro _ ⟨⟩
      refine ⟨t, ht, ?_⟩
      show h'.template = some t
      rw [hserves.template, ht]
      rfl

namespace Live

variable {s : Session Unit (Handle m)} {h : Handle m} {supply : Supply}

/-- A substitution answers with its outcome, and leaves a live handle. -/
theorem substituteCall (hl : Live m p s h supply) (he : s.engine = bundled m limits)
    {code : String} (hcode : CompilesTo m limits s.pattern code p) (template : String)
    (bounds : Bounds) :
    (s.substituteCall code template bounds).2.report s.engine =
        (substitutionOutcome m p s.buffer.chars bounds code template).report ∧
      ∃ h', Live m p (s.substituteCall code template bounds).1 h' supply := by
  obtain ⟨h', hw⟩ := hl.exists_worksOn hcode template (s.buffer.range bounds)
  exact hw.substituteCall he

/-- A request that is bound is answered with its outcome, and leaves a live handle. -/
theorem call (hl : Live m p s h supply) (he : s.engine = bundled m limits) {r : Request}
    (hchars : s.buffer.chars = r.text.chars)
    (hcode : ∀ code template, r.substitution = some (code, template) →
      CompilesTo m limits s.pattern code p) (bounds : Bounds) :
    (r.call s bounds).2.report s.engine = (r.outcome m p bounds).report ∧
      ∃ h', Live m p (r.call s bounds).1 h' supply := by
  rw [Request.call, Request.outcome, ← hchars]
  cases hsub : r.substitution with
  | none => exact hl.searchCall he bounds
  | some sub =>
    obtain ⟨code, template⟩ := sub
    exact hl.substituteCall he (hcode code template hsub) template bounds

end Live

/-! ## Sound sessions -/

/-- A session that was opened with the setup, whose pattern compiles to `p`. -/
structure Session.Sound (m : Matcher) (setup : Setup Limits) (p : m.Pattern)
    (s : Session Unit (Handle m)) (supply : Supply) : Prop where
  engine_eq : s.engine = bundled m setup.config
  pattern_eq : s.pattern = setup.pattern
  options_eq : s.options = setup.options
  compiles : CompilesTo m setup.config setup.pattern setup.options p
  live : s.disposed = false → ∃ h, Live m p s h supply

section Sound

variable {setup : Setup Limits} {s t : Session Unit (Handle m)} {supply supply' : Supply}

namespace Session.Sound

theorem mono (hs : s.Sound m setup p supply) (hle : supply.next ≤ supply'.next) :
    s.Sound m setup p supply' := by
  refine { hs with live := ?_ }
  intro hd
  obtain ⟨h, hl⟩ := hs.live hd
  exact ⟨h, hl.mono hle⟩

theorem of_sameSetup (hs : s.Sound m setup p supply) (hsame : s.SameSetup t)
    (hlive : t.disposed = false → ∃ h, Live m p t h supply') : t.Sound m setup p supply' where
  engine_eq := hsame.engine.trans hs.engine_eq
  pattern_eq := hsame.pattern.trans hs.pattern_eq
  options_eq := hsame.options.trans hs.options_eq
  compiles := hs.compiles
  live := hlive

theorem dispose (hs : s.Sound m setup p supply) : s.dispose.Sound m setup p supply := by
  refine hs.of_sameSetup s.dispose_sameSetup ?_
  intro hd
  rw [s.dispose_disposed] at hd
  cases hd

end Session.Sound

/-- The codes that a session substitutes under. -/
def Request.Usual (options : String) (r : Request) : Prop :=
  ∀ code template, r.substitution = some (code, template) →
    code = options ∨ code = withoutGlobal options

theorem Operation.request_usual {op : Operation} {options : String} {r : Request}
    (h : op.request options = some r) : r.Usual options := by
  intro code template hsub
  have hsubst : op.substitution options = some (code, template) := by
    rw [substitution_eq, h]
    exact hsub
  cases op with
  | replace => exact .inl (Prod.mk.inj (Option.some.inj hsubst)).1.symm
  | replaceFrom => exact .inl (Prod.mk.inj (Option.some.inj hsubst)).1.symm
  | result => exact .inr (Prod.mk.inj (Option.some.inj hsubst)).1.symm
  | _ => cases hsubst

/-- The codes that a session substitutes under compile to its pattern. -/
theorem Request.Usual.compilesTo {options pattern : String} {r : Request} (hr : r.Usual options)
    (hp : CompilesTo m limits pattern options p) {code template : String}
    (hsub : r.substitution = some (code, template)) : CompilesTo m limits pattern code p := by
  rcases hr code template hsub with rfl | rfl
  · exact hp
  · exact hp.withoutGlobal

/-- **A live session answers a request as if nothing were cached, and stays sound.** -/
theorem Request.attempt_sound (hs : s.Sound m setup p supply) {r : Request}
    (hr : r.Usual setup.options) (hd : s.disposed = false) :
    (r.attempt s supply).answer = r.answerOn m p ∧
      (r.attempt s supply).session.Sound m setup p (r.attempt s supply).supply := by
  obtain ⟨h, hl⟩ := hs.live hd
  have hbound := hl.bind r.text r.start r.len
  have hanswer := hl.bind_answer r.text r.start r.len
  have hsame := r.attempt_sameSetup s supply
  cases hbounds : Session.resolveBounds r.text.chars.length r.start r.len with
  | error e =>
    rw [attempt_of_rejected hd (hanswer.trans hbounds), answerOn, hbounds]
    exact ⟨rfl, hs.of_sameSetup ⟨rfl, rfl, rfl⟩ fun _ => ⟨h, hbound⟩⟩
  | ok bounds =>
    have hcode : ∀ code template, r.substitution = some (code, template) →
        CompilesTo m setup.config s.pattern code p := by
      intro code template hsub
      rw [hs.pattern_eq]
      exact hr.compilesTo hs.compiles hsub
    obtain ⟨hreport, hlive⟩ :=
      hbound.call hs.engine_eq (s.buffer.chars_ensure supply r.text) hcode bounds
    refine ⟨answer_of_report hd (hanswer.trans hbounds) hbounds hreport, ?_⟩
    rw [attempt_of_bounds hd (hanswer.trans hbounds)] at hsame ⊢
    exact hs.of_sameSetup hsame fun _ => hlive

namespace Operation

/-- What an operation is answered in a session whose pattern is compiled to `p`. -/
def answerOn (m : Matcher) (options : String) (p : m.Pattern) (op : Operation) : Reply :=
  match op.request options with
  | some r => op.read (r.answerOn m p)
  | none => op.idle

/-- **A live session answers an operation as if nothing were cached.** -/
theorem run_answer (hs : s.Sound m setup p supply) (hd : s.disposed = false) (op : Operation) :
    (op.run s supply).answer = op.answerOn m setup.options p := by
  unfold answerOn
  rw [← hs.options_eq]
  rcases op.run_cases s supply with rfl | ⟨r, hr, hrun⟩ | ⟨hr, -, hrun⟩
  · rfl
  · have husual := request_usual hr
    rw [hs.options_eq] at husual
    rw [hr, hrun, Turn.map, (Request.attempt_sound hs husual hd).1]
  · rw [hr, hrun]

/-- Every operation leaves a sound session. -/
theorem run_sound (hs : s.Sound m setup p supply) (op : Operation) :
    (op.run s supply).session.Sound m setup p (op.run s supply).supply := by
  rcases op.run_cases s supply with rfl | ⟨r, hr, hrun⟩ | ⟨-, -, hrun⟩
  · exact hs.dispose
  · have husual := request_usual hr
    rw [hs.options_eq] at husual
    rw [hrun, Turn.map]
    cases hd : s.disposed with
    | false => exact (Request.attempt_sound hs husual hd).2
    | true =>
      rw [Request.attempt_of_disposed hd]
      exact hs
  · rw [hrun]
    exact hs

end Operation

end Sound

/-! ## Opening -/

/-- **A session opens when its pattern compiles,** and is sound then. -/
theorem Setup.open_sound {setup : Setup Limits}
    (h : CompilesTo m setup.config setup.pattern setup.options p) (supply : Supply) :
    (setup.open (bundled m) () supply).answer = .ok () ∧
      (setup.open (bundled m) () supply).session.disposed = false ∧
      (setup.open (bundled m) () supply).session.Sound m setup p
        (setup.open (bundled m) () supply).supply := by
  obtain ⟨o, ho⟩ := h
  obtain ⟨_, _, hparse, -, heq⟩ := compile_eq_ok_iff.1 ho
  cases heq
  have hopen : setup.open (bundled m) () supply =
      { answer := .ok ()
        session :=
          { engine := bundled m setup.config
            pattern := setup.pattern
            options := setup.options
            state := ()
            handle := some { pattern := p, options := o }
            buffer := {}
            record := .initial setup.options
            disposed := false }
        supply := (({} : TextBuffer).ensure supply emptyText).2 } := by
    simp only [Setup.open, Session.create, bundled, compileAndMatch, resolve, Option.getD_some, ho]
    rfl
  rw [hopen]
  refine ⟨rfl, rfl, rfl, rfl, rfl, ⟨o, ho⟩, fun _ => ⟨_, rfl, rfl, ?_, ?_, ?_⟩⟩
  · exact ⟨fun _ => [], .empty, fun hay hhay => by cases hhay⟩
  · intro code hrec
    obtain rfl := Option.some.inj hrec
    exact hparse
  · intro source hrec
    cases hrec

theorem Setup.compilesTo_of_open {setup : Setup Limits} {supply : Supply}
    (h : (setup.open (bundled m) () supply).answer = .ok ()) :
    ∃ p, CompilesTo m setup.config setup.pattern setup.options p := by
  cases hc : Bundled.compile m setup.config setup.pattern setup.options with
  | ok h₀ =>
    obtain ⟨p, o, -, -, rfl⟩ := compile_eq_ok_iff.1 hc
    exact ⟨p, o, hc⟩
  | error e =>
    simp only [Setup.open, Session.create, bundled, compileAndMatch, resolve, Option.getD_some,
      hc, failed] at h
    cases h

/-- **Every session is sound after every interleaving.** -/
theorem Family.sound_after (events : List (Family.Event Limits)) :
    (Family.after (bundled m) () events).Holds fun setup s supply =>
      ∃ p, s.Sound m setup p supply := by
  refine Family.holds_empty.run ?_ ?_ ?_ events
  · rintro setup s supply supply' ⟨p, hs⟩ hle
    exact ⟨p, hs.mono hle⟩
  · intro setup supply hopen
    obtain ⟨p, hp⟩ := Setup.compilesTo_of_open hopen
    exact ⟨p, (Setup.open_sound hp supply).2.2⟩
  · rintro setup s supply op ⟨p, hs⟩
    exact ⟨p, op.run_sound hs⟩

/-! ## The live sessions of a setup -/

/-- The session was opened with the setup and is alive, at a point of an interleaving where the
supply is this one. -/
def Setup.Reaches (m : Matcher) (setup : Setup Limits) (s : Session Unit (Handle m))
    (supply : Supply) : Prop :=
  ∃ (events : List (Family.Event Limits)) (place : Nat),
    (Family.after (bundled m) () events).members[place]? = some (setup, s) ∧
      (Family.after (bundled m) () events).supply = supply ∧ s.disposed = false

namespace Setup.Reaches

variable {setup : Setup Limits} {s : Session Unit (Handle m)} {supply : Supply}

theorem live (h : setup.Reaches m s supply) : s.disposed = false := by
  obtain ⟨_, _, -, -, hlive⟩ := h
  exact hlive

theorem sound (h : setup.Reaches m s supply) : ∃ p, s.Sound m setup p supply := by
  obtain ⟨events, place, hmember, rfl, -⟩ := h
  exact Family.sound_after events _ (List.mem_of_getElem? hmember)

/-- All of them work with the pattern that the setup compiles to. -/
theorem sound_of_compiles (h : setup.Reaches m s supply)
    (hp : CompilesTo m setup.config setup.pattern setup.options p) : s.Sound m setup p supply := by
  obtain ⟨p', hs⟩ := h.sound
  obtain rfl := hp.unique hs.compiles
  exact hs

/-- An operation leads from one to the next. -/
theorem run (h : setup.Reaches m s supply) {op : Operation} (hop : op ≠ .dispose) :
    setup.Reaches m (op.run s supply).session (op.run s supply).supply := by
  obtain ⟨events, place, hmember, rfl, hlive⟩ := h
  have hlt : place < (Family.after (bundled m) () events).members.length :=
    (List.getElem?_eq_some_iff.1 hmember).1
  refine ⟨events ++ [.asked place op], place, ?_, ?_, (Operation.run_disposed hop ..).trans hlive⟩
  · simp only [Family.after_snoc, Family.step, hmember, List.getElem?_set_self hlt]
  · simp only [Family.after_snoc, Family.step, hmember]

end Setup.Reaches

end PatternSession
