import PatternSession.Bundled
import PatternSession.Proofs.Decoding
import PatternSession.Proofs.Operation

/-!
# What the bundled engine answers

An `Outcome` is what a call says of the text: status, message and result. `searchOutcome` and
`substituteOutcome` give it as functions of the compiled pattern, the compiled template, the text
and the bounds, with no handle in sight.

**Theorem (`Bundled.compileAndMatch_eq`, `Bundled.compileAndSubstitute_eq`).** When the decoded text
at hand fits the range, a call answers with that outcome, and leaves a handle that holds the
decoding of the range's text.
-/

namespace PatternSession

/-- What an engine call says of a text. -/
structure Outcome where
  status : Int
  message : Option String := none
  region : Region := {}

namespace Outcome

/-- The outcome of a call that failed. -/
def failed (text : String) : Outcome := { status := -1, message := some (cutMessage text) }

/-- The outcome as the caller sees it. -/
def report (o : Outcome) : Report := ⟨o.status, o.message, some o.region⟩

/-- The outcome as an answer that leaves a handle. -/
def answer {m : Matcher} (o : Outcome) (h : Bundled.Handle m) : Answer (Bundled.Handle m) :=
  ⟨o.status, o.message, some { h with region := o.region }⟩

theorem report_answer {m : Matcher} (o : Outcome) (h : Bundled.Handle m) (limits : Limits) :
    (o.answer h).report (bundled m limits) = o.report := rfl

end Outcome

section Outcomes

variable (m : Matcher) (p : m.Pattern) (cs : List Char) (bounds : Bounds)

/-- What a search says. -/
def searchOutcome : Outcome :=
  match look m p cs bounds.stop bounds.start with
  | .error e => .failed e
  | .ok none => { status := 0 }
  | .ok (some groups) => { status := 1, region := { groups } }

/-- The substitution in the visible text. -/
def substituteWithin (t : Template) (global : Bool) : Except String (Option Substitution) :=
  substitute (m.search p (cs.take bounds.stop)) t (cs.take bounds.stop)
    (bytePosition cs bounds.start) global

/-- What a substitution says. -/
def substituteOutcome (t : Template) (global : Bool) : Outcome :=
  match substituteWithin m p cs bounds t global with
  | .error e => .failed e
  | .ok none => { status := 0 }
  | .ok (some sub) =>
    { status := (min sub.count maxStatus : Nat)
      region := { groups := groupsIn cs sub.first, output := unitsOf sub.rebuilt } }

/-- What a substitution with the source of a template says. -/
def substitutionOutcome (code template : String) : Outcome :=
  match Template.compile (m.groupNames p) template with
  | .error e => .failed e.message
  | .ok t => substituteOutcome m p cs bounds t (decide ('g' ∈ code.toList))

variable {m p cs bounds} in
/-- A substitution is accepted only if its template compiles. -/
theorem exists_template_of_accepted {code template : String}
    (h : ¬ (substitutionOutcome m p cs bounds code template).status < 0) :
    ∃ t, Template.compile (m.groupNames p) template = .ok t := by
  unfold substitutionOutcome at h
  cases ht : Template.compile (m.groupNames p) template with
  | error e =>
    rw [ht] at h
    exact absurd (Int.negSucc_lt_zero 0) h
  | ok t => exact ⟨t, rfl⟩

end Outcomes

namespace Bundled

variable {m : Matcher} {limits : Limits} {h h' : Handle m} {cs : List Char} {r : TextRange}

/-- The handle with the decoding of a range's text. -/
def Handle.decoded (h : Handle m) (r : TextRange) (cs : List Char) : Handle m :=
  { h with haystack := some (.ofChars r.generation cs) }

theorem searchOn_eq (hclear : h.region = {}) (hfits : Haystack.Fits h.haystack r cs) :
    searchOn h r = (searchOutcome m h.pattern cs r.bounds).answer (h.decoded r cs) := by
  rw [searchOn, hfits.prepare?_eq, searchOutcome, look]
  simp only [Haystack.visible_ofChars, Haystack.byte_ofChars, groups_ofChars]
  rcases m.search h.pattern (cs.take r.bounds.stop) (bytePosition cs r.bounds.start) with
    e | (_ | spans)
  · simp only [failed, Outcome.answer, Outcome.failed, Except.map, Handle.decoded, hclear]
  · simp only [Outcome.answer, Except.map, Option.map, Handle.decoded, hclear]
  · rfl

theorem substituteOn_eq (t : Template) (hclear : h.region = {})
    (hfits : Haystack.Fits h.haystack r cs) :
    substituteOn t h r =
      (substituteOutcome m h.pattern cs r.bounds t h.options.global).answer (h.decoded r cs) := by
  rw [substituteOn, hfits.prepare?_eq, substituteOutcome, substituteWithin]
  simp only [Haystack.visible_ofChars, Haystack.byte_ofChars, groups_ofChars]
  rcases substitute (m.search h.pattern (cs.take r.bounds.stop)) t (cs.take r.bounds.stop)
    (bytePosition cs r.bounds.start) h.options.global with e | (_ | sub)
  · simp only [failed, Outcome.answer, Outcome.failed, Handle.decoded, hclear]
  · simp only [Outcome.answer, Handle.decoded, hclear]
  · rfl

/-- **A matching call answers with the outcome of the search.** -/
theorem compileAndMatch_eq {call : MatchCall} {slot : Option (Handle m)}
    (hresolve : resolve limits call.pattern call.options slot = .ok h)
    (hcall : call.oneShot = false) (hfits : Haystack.Fits h.haystack call.range cs) :
    compileAndMatch limits call slot =
      (searchOutcome m h.pattern cs call.range.bounds).answer (h.decoded call.range cs) := by
  rw [compileAndMatch, hresolve]
  simp only [hcall, Bool.false_eq_true, if_false]
  exact searchOn_eq (h := { h with region := {} }) rfl hfits

/-- The template of a call is found before the result is cleared just as after it. -/
theorem withTemplate_clear {template : Option String} {t : Template}
    (hw : withTemplate template h = .ok (t, h')) :
    withTemplate template { h with region := {} } =
      .ok (t, { h with region := {}, template := some t }) := by
  unfold withTemplate at hw ⊢
  cases template with
  | some source =>
    simp only at hw ⊢
    split at hw
    next t' ht =>
      obtain ⟨rfl, -⟩ := Prod.mk.inj (Except.ok.inj hw)
      rfl
    next => cases hw
  | none =>
    simp only at hw ⊢
    split at hw
    next t' ht =>
      obtain ⟨rfl, -⟩ := Prod.mk.inj (Except.ok.inj hw)
      rw [ht]
    next => cases hw

/-- **A substituting call answers with the outcome of the substitution.** -/
theorem compileAndSubstitute_eq {call : SubstituteCall} {slot : Option (Handle m)} {t : Template}
    (hresolve : resolve limits call.pattern call.options slot = .ok h)
    (htemplate : withTemplate call.template h = .ok (t, h'))
    (hfits : Haystack.Fits h.haystack call.range cs) :
    compileAndSubstitute limits call slot =
      (substituteOutcome m h.pattern cs call.range.bounds t h.options.global).answer
        { h.decoded call.range cs with template := some t } := by
  rw [compileAndSubstitute, hresolve]
  simp only [withTemplate_clear htemplate]
  exact substituteOn_eq (h := { h with region := {}, template := some t }) t rfl hfits

/-- A template that does not compile fails the call, and is given up with the old one. -/
theorem compileAndSubstitute_refused {call : SubstituteCall} {slot : Option (Handle m)}
    {source : String} {e : TemplateError}
    (hresolve : resolve limits call.pattern call.options slot = .ok h)
    (htemplate : call.template = some source)
    (he : Template.compile (m.groupNames h.pattern) source = .error e) :
    compileAndSubstitute limits call slot =
      (Outcome.failed e.message).answer { h with template := none } := by
  rw [compileAndSubstitute, hresolve]
  simp only [htemplate, withTemplate, he]
  rfl

/-- A call without a template fails when there is none at hand. -/
theorem compileAndSubstitute_missing {call : SubstituteCall} {slot : Option (Handle m)}
    (hresolve : resolve limits call.pattern call.options slot = .ok h)
    (htemplate : call.template = none) (hmissing : h.template = none) :
    compileAndSubstitute limits call slot =
      (Outcome.failed "no compiled replacement").answer h := by
  rw [compileAndSubstitute, hresolve]
  simp only [htemplate, withTemplate, hmissing, failed, Outcome.answer, Outcome.failed]

end Bundled

end PatternSession
