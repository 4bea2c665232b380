import PatternSession.Recompile
import PatternSession.Proofs.Generations
import PatternSession.Proofs.OptionCodes
import PatternSession.Proofs.Outcomes

/-!
# What is in the place for the handle

A session cannot look into its handle. It plans every substitution from its record, which names the
options and the template that the handle had last. Here the record and the place are set side by
side.

**`Holding`.** Nothing in the place is other than the session takes it for: pattern, options and
decoding are those of the session, and so is the template. But the place may be empty, and the
template may be missing.

**`WorksOn`.** A planned call works on a handle when it finds, or makes, one with the pattern and
the options asked for, and finds the template unless it passes it. Then the answer is a function of
the text and of what was asked for (`WorksOn.answer`).

**Theorem (`Holding.planned`).** Where the place holds nothing else, a planned call works on a
handle or fails, and the place holds nothing else afterwards, whether the session takes the call for
accepted or for failed.
-/

namespace PatternSession

open Bundled

variable {m : Matcher} {limits : Limits} {p : m.Pattern}

/-! ## Decodings -/

/-- A decoding and a copy are booked in one ledger. -/
def Coherent (cached : Option Haystack) (b : TextBuffer) (supply : Supply) : Prop :=
  ∃ ledger : Ledger, b.Booked ledger supply ∧
    ∀ hay, cached = some hay → hay.Booked ledger supply

namespace Coherent

variable {cached : Option Haystack} {b : TextBuffer} {supply supply' : Supply}

theorem mono (h : Coherent cached b supply) (hle : supply.next ≤ supply'.next) :
    Coherent cached b supply' := by
  obtain ⟨ledger, hb, hcached⟩ := h
  have hc : ledger.Continues supply ledger supply' := ⟨hle, fun _ _ => rfl⟩
  exact ⟨ledger, hb.continue hc, fun hay hhay => (hcached hay hhay).continue hc⟩

theorem ensure (h : Coherent cached b supply) (text : Text) :
    Coherent cached (b.ensure supply text).1 (b.ensure supply text).2 := by
  obtain ⟨ledger, hb, hcached⟩ := h
  obtain ⟨ledger', hc, hb'⟩ := hb.ensure text
  exact ⟨ledger', hb', fun hay hhay => (hcached hay hhay).continue hc⟩

theorem fits (h : Coherent cached b supply) (bounds : Bounds) :
    Haystack.Fits cached (b.range bounds) b.chars := by
  obtain ⟨ledger, hb, hcached⟩ := h
  exact hb.fits hcached bounds

/-- What was just decoded goes with the copy. -/
theorem decoded (h : Coherent cached b supply) :
    Coherent (some (.ofChars b.generation b.chars)) b supply := by
  obtain ⟨ledger, hb, -⟩ := h
  refine ⟨ledger, hb, ?_⟩
  intro hay hhay
  obtain rfl := Option.some.inj hhay
  exact hb.decoding

theorem forget (h : Coherent cached b supply) : Coherent none b supply := by
  obtain ⟨ledger, hb, -⟩ := h
  refine ⟨ledger, hb, ?_⟩
  intro hay hhay
  cases hhay

/-- Bounds are resolved against the text that the copy shows. -/
theorem resolveBounds_eq (h : Coherent cached b supply) (text : Text) (start : Nat)
    (len : Option Nat) :
    Session.resolveBounds (b.ensure supply text).1.length start len =
      Session.resolveBounds text.chars.length start len := by
  obtain ⟨ledger, hb, -⟩ := h.ensure text
  rw [hb.length_eq, TextBuffer.chars_ensure]

end Coherent

/-! ## Patterns -/

/-- A pattern under a code compiles to `p`. -/
def CompilesTo (m : Matcher) (limits : Limits) (pattern code : String) (p : m.Pattern) : Prop :=
  ∃ o, Bundled.compile m limits pattern code = .ok { pattern := p, options := o }

theorem CompilesTo.unique {pattern code : String} {p' : m.Pattern}
    (h : CompilesTo m limits pattern code p) (h' : CompilesTo m limits pattern code p') :
    p = p' := by
  obtain ⟨o, ho⟩ := h
  obtain ⟨o', ho'⟩ := h'
  cases Except.ok.inj (ho.symm.trans ho')
  rfl

theorem CompilesTo.withoutGlobal {pattern code : String}
    (h : CompilesTo m limits pattern code p) :
    CompilesTo m limits pattern (withoutGlobal code) p := by
  obtain ⟨o, ho⟩ := h
  exact ⟨o.setGlobal false, compile_withoutGlobal ho⟩

/-! ## Planned calls -/

/-- The call that a session with this record makes for a substitution. -/
def CompileRecord.call (record : CompileRecord) (pattern code template : String)
    (range : TextRange) : SubstituteCall where
  pattern := if (record.plan code template).recompile then some pattern else none
  template := (record.plan code template).template
  options := (record.plan code template).options
  range := range

/-- The call works on the handle `h`: the one at hand, or a new one for the same pattern. It has the
options asked for, and the template asked for unless that is passed. -/
structure WorksOn (limits : Limits) (p : m.Pattern) (code template : String) (b : TextBuffer)
    (supply : Supply) (call : SubstituteCall) (held : Option (Handle m)) (h : Handle m) :
    Prop where
  resolve : resolve limits call.pattern call.options held = .ok h
  pattern_eq : h.pattern = p
  options : Options.parse code = .ok h.options
  coherent : Coherent h.haystack b supply
  template : call.template = some template ∨ call.template = none ∧
    ∃ t, Template.compile (m.groupNames p) template = .ok t ∧ h.template = some t

/-- The handle serves substitutions under the code with the template. A template that does not
compile is not there. -/
structure Serves (p : m.Pattern) (code template : String) (b : TextBuffer) (supply : Supply)
    (h : Handle m) : Prop where
  pattern_eq : h.pattern = p
  options : Options.parse code = .ok h.options
  coherent : Coherent h.haystack b supply
  template : h.template = (Template.compile (m.groupNames p) template).toOption

namespace WorksOn

variable {code template pattern : String} {b : TextBuffer} {supply : Supply}
  {call : SubstituteCall} {held : Option (Handle m)} {h : Handle m} {record : CompileRecord}

/-- Where the record does not name the options, everything is passed. -/
theorem of_recompile (hcoherent : Coherent (held.bind (·.haystack)) b supply)
    (hcode : CompilesTo m limits pattern code p) (hrecord : record.options ≠ some code)
    (range : TextRange) :
    ∃ h, WorksOn limits p code template b supply (record.call pattern code template range) held
      h := by
  obtain ⟨o, ho⟩ := hcode
  obtain ⟨_, _, hparse, -, heq⟩ := compile_eq_ok_iff.1 ho
  cases heq
  rw [CompileRecord.call, CompileRecord.plan, if_neg hrecord]
  exact ⟨_, ho, rfl, hparse, hcoherent.forget, .inl rfl⟩

/-- Where it names them, the handle at hand is used. -/
theorem of_held (hrecord : record.options = some code) (hpattern : h.pattern = p)
    (hoptions : Options.parse code = .ok h.options) (hcoherent : Coherent h.haystack b supply)
    (htemplate : record.template = some template →
      ∃ t, Template.compile (m.groupNames p) template = .ok t ∧ h.template = some t)
    (range : TextRange) :
    WorksOn limits p code template b supply (record.call pattern code template range) (some h)
      h := by
  rw [CompileRecord.call, CompileRecord.plan, if_pos hrecord]
  refine ⟨rfl, hpattern, hoptions, hcoherent, ?_⟩
  by_cases hsame : record.template = some template
  · exact .inr ⟨if_pos hsame, htemplate hsame⟩
  · exact .inl (if_neg hsame)

/-- The template that the call needs is passed, or at hand. -/
theorem exists_withTemplate (hw : WorksOn limits p code template b supply call held h)
    {t : Template} (ht : Template.compile (m.groupNames p) template = .ok t) :
    ∃ h', withTemplate call.template h = .ok (t, h') := by
  obtain rfl := hw.pattern_eq
  rcases hw.template with hpassed | ⟨hpassed, t', ht', hheld⟩
  · exact ⟨{ h with template := some t }, by simp only [hpassed, withTemplate, ht]⟩
  · obtain rfl := Except.ok.inj (ht'.symm.trans ht)
    exact ⟨h, by simp only [hpassed, withTemplate, hheld]⟩

/-- **The answer of a call that works on a handle.** -/
theorem answer {bounds : Bounds} (hw : WorksOn limits p code template b supply call held h)
    (hrange : call.range = b.range bounds) :
    ∃ h', compileAndSubstitute limits call held =
        (substitutionOutcome m p b.chars bounds code template).answer h' ∧
      Serves p code template b supply h' := by
  have hpattern := hw.pattern_eq
  have hoptions := hw.options
  subst hpattern
  unfold substitutionOutcome
  cases ht : Template.compile (m.groupNames h.pattern) template with
  | error e =>
    -- a template at hand was not refused, so this one is passed
    have hpassed : call.template = some template := by
      rcases hw.template with hpassed | ⟨-, t, ht', -⟩
      · exact hpassed
      · rw [ht] at ht'
        cases ht'
    refine ⟨_, compileAndSubstitute_refused hw.resolve hpassed ht, rfl, hoptions, hw.coherent, ?_⟩
    rw [ht]
    rfl
  | ok t =>
    obtain ⟨h', hw'⟩ := hw.exists_withTemplate ht
    have hfits : Haystack.Fits h.haystack call.range b.chars := by
      rw [hrange]
      exact hw.coherent.fits bounds
    have hanswer := compileAndSubstitute_eq hw.resolve hw' hfits
    rw [Options.global_of_parse hoptions, hrange] at hanswer
    refine ⟨_, hanswer, rfl, hoptions, hw.coherent.decoded, ?_⟩
    rw [ht]
    rfl

end WorksOn

/-! ## The place for the handle -/

/-- The handle is none other than a session with this record takes it for, except that a template
may be missing. -/
structure Suits (p : m.Pattern) (record : CompileRecord) (h : Handle m) : Prop where
  pattern_eq : h.pattern = p
  options : ∀ code, record.options = some code → Options.parse code = .ok h.options
  template : ∀ source t, record.template = some source → h.template = some t →
    Template.compile (m.groupNames p) source = .ok t

/-- Nothing in the place is other than a session with this record takes it for. -/
structure Holding (p : m.Pattern) (record : CompileRecord) (b : TextBuffer) (supply : Supply)
    (held : Option (Handle m)) : Prop where
  coherent : Coherent (held.bind (·.haystack)) b supply
  suits : ∀ h, held = some h → Suits p record h

section Suits

variable {record : CompileRecord} {h : Handle m}

/-- After a failure the record names nothing. -/
theorem Suits.failed (hs : Suits p record h) (record' : CompileRecord) :
    Suits p record'.failed h where
  pattern_eq := hs.pattern_eq
  options := by
    rintro _ ⟨⟩
  template := by
    rintro _ _ ⟨⟩

/-- A handle without a template suits every record of its options. -/
theorem Suits.of_missing (hs : Suits p record h) {code : String}
    (hrecord : record.options = some code) (hmissing : h.template = none) (template : String) :
    Suits p (record.accepted code template) h where
  pattern_eq := hs.pattern_eq
  options := by
    rintro _ ⟨⟩
    exact hs.options code hrecord
  template := by
    intro _ t _ ht
    rw [hmissing] at ht
    cases ht

/-- A handle that serves a substitution suits the record of it. -/
theorem Serves.suits {code template : String} {b : TextBuffer} {supply : Supply}
    (hs : Serves p code template b supply h) (record : CompileRecord) :
    Suits p (record.accepted code template) h where
  pattern_eq := hs.pattern_eq
  options := by
    rintro _ ⟨⟩
    exact hs.options
  template := by
    rintro _ t ⟨⟩ ht
    rw [hs.template] at ht
    cases hcompile : Template.compile (m.groupNames p) template with
    | error e =>
      rw [hcompile] at ht
      cases ht
    | ok t' =>
      rw [hcompile] at ht
      exact congrArg Except.ok (Option.some.inj ht)

end Suits

namespace Holding

variable {record : CompileRecord} {b : TextBuffer} {supply supply' : Supply}
  {held : Option (Handle m)} {h : Handle m}

theorem mono (hh : Holding p record b supply held) (hle : supply.next ≤ supply'.next) :
    Holding p record b supply' held :=
  { hh with coherent := hh.coherent.mono hle }

theorem ensure (hh : Holding p record b supply held) (text : Text) :
    Holding p record (b.ensure supply text).1 (b.ensure supply text).2 held :=
  { hh with coherent := hh.coherent.ensure text }

/-- An empty place holds nothing else. -/
theorem empty (hcoherent : Coherent none b supply) : Holding p record b supply none where
  coherent := hcoherent
  suits := by
    rintro _ ⟨⟩

theorem of_suits (hcoherent : Coherent h.haystack b supply) (hsuits : Suits p record h) :
    Holding p record b supply (some h) where
  coherent := hcoherent
  suits := by
    rintro _ ⟨⟩
    exact hsuits

/-- The handle may get lost. -/
theorem lose (hh : Holding p record b supply held) (lost : Bool) :
    Holding p record b supply (if lost then none else held) := by
  cases lost with
  | true => exact .empty hh.coherent.forget
  | false => exact hh

theorem failed (hh : Holding p record b supply held) (record' : CompileRecord) :
    Holding p record'.failed b supply held where
  coherent := hh.coherent
  suits h hheld := (hh.suits h hheld).failed record'

/-- A search on a handle answers with its outcome. -/
theorem match_eq (hh : Holding p record b supply (some h)) (bounds : Bounds) :
    compileAndMatch limits ⟨none, none, b.range bounds, false⟩ (some h) =
      (searchOutcome m p b.chars bounds).answer (h.decoded (b.range bounds) b.chars) := by
  have hresolve : resolve limits none none (some h) = .ok h := rfl
  rw [compileAndMatch_eq hresolve rfl (hh.coherent.fits bounds), (hh.suits h rfl).pattern_eq]
  rfl

/-- **A search leaves nothing else in the place.** -/
theorem searched (hh : Holding p record b supply held) (bounds : Bounds) :
    Holding p record b supply
      (compileAndMatch limits ⟨none, none, b.range bounds, false⟩ held).handle := by
  cases held with
  | none => exact hh
  | some h =>
    obtain ⟨hpattern, hoptions, htemplate⟩ := hh.suits h rfl
    rw [hh.match_eq bounds]
    exact .of_suits hh.coherent.decoded ⟨hpattern, hoptions, htemplate⟩

/-- **A planned call works on a handle, or fails.** -/
theorem planned (hh : Holding p record b supply held) {pattern code : String}
    (hcode : CompilesTo m limits pattern code p) (template : String) (range : TextRange) :
    (∃ h, WorksOn limits p code template b supply (record.call pattern code template range) held
      h) ∨
    ∃ text left, compileAndSubstitute limits (record.call pattern code template range) held =
        Bundled.failed text left ∧
      Holding p (record.accepted code template) b supply left := by
  by_cases hrecord : record.options = some code
  · cases held with
    | none =>
      right
      rw [CompileRecord.call, CompileRecord.plan, if_pos hrecord]
      exact ⟨_, none, rfl, .empty hh.coherent⟩
    | some h =>
      have hsuits := hh.suits h rfl
      by_cases hmissing : record.template = some template ∧ h.template = none
      · -- the record names the template, but it is missing
        right
        obtain ⟨hsame, hnone⟩ := hmissing
        obtain ⟨hpattern, hoptions, htemplate⟩ := hsuits.of_missing hrecord hnone template
        rw [CompileRecord.call, CompileRecord.plan, if_pos hrecord, if_pos hsame]
        refine ⟨"no compiled replacement", some { h with region := {} }, ?_,
          .of_suits hh.coherent ⟨hpattern, hoptions, htemplate⟩⟩
        simp only [compileAndSubstitute, resolve, withTemplate, hnone, if_false,
          Bool.false_eq_true]
      · left
        refine ⟨h, .of_held hrecord hsuits.pattern_eq (hsuits.options code hrecord) hh.coherent ?_
          range⟩
        intro hsame
        cases ht : h.template with
        | none => exact absurd ⟨hsame, ht⟩ hmissing
        | some t => exact ⟨t, hsuits.template template t hsame ht, rfl⟩
  · exact .inl (WorksOn.of_recompile hh.coherent hcode hrecord range)

/-- **A planned call leaves nothing else in the place,** even if it is taken for accepted. -/
theorem substituted (hh : Holding p record b supply held) {pattern code : String}
    (hcode : CompilesTo m limits pattern code p) (template : String) (bounds : Bounds) :
    Holding p (record.accepted code template) b supply
      (compileAndSubstitute limits (record.call pattern code template (b.range bounds))
        held).handle := by
  rcases hh.planned hcode template (b.range bounds) with ⟨h, hw⟩ | ⟨text, left, hfailed, hleft⟩
  · obtain ⟨h', hanswer, hserves⟩ := hw.answer rfl
    obtain ⟨hpattern, hoptions, htemplate⟩ := hserves.suits record
    rw [hanswer]
    exact .of_suits hserves.coherent ⟨hpattern, hoptions, htemplate⟩
  · rw [hfailed]
    exact hleft

end Holding

end PatternSession
