import PatternSession.Proofs.GlobalReplacement
import PatternSession.Proofs.SingleReplacement

/-!
# Direct calls on a handle

What a direct call leaves in the place for the handle is told by its `Contents`: the pattern and the
options accepted last, and the source of the template that was given last since. A handle has them
(`Contents.HeldBy`) when its template is the one compiled from that source against that very
pattern, and missing when the source does not compile.

**Theorem (`Call.answer_of_refused`, `Call.answer_of_accepted`).** A call that is refused leaves the
place as it was. Any other says of its text what follows from the contents, whatever the handle has
seen before, and leaves a handle that has them.

**Theorem (`Call.reports_outcome`).** The result is empty unless something was found. Otherwise it
has an entry for every group of the pattern, and the groups lie in the bounds.
-/

namespace PatternSession

open Bundled

variable {m : Matcher}

/-! ## What is reported -/

/-- Nothing is reported unless something was found; then one entry for every group is, and they lie
in the bounds. -/
structure Outcome.Reports (groups : Nat) (bounds : Bounds) (o : Outcome) : Prop where
  nothing : o.status ≤ 0 → o.region = {}
  found : 0 < o.status →
    o.region.groups.length = groups ∧ GroupsFit bounds.start bounds.stop o.region.groups

namespace Outcome.Reports

variable {groups : Nat} {bounds : Bounds} {o : Outcome}

theorem of_nothing (hstatus : o.status ≤ 0) (hregion : o.region = {}) :
    o.Reports groups bounds where
  nothing _ := hregion
  found hpos := absurd hpos (Int.not_lt.2 hstatus)

theorem of_found (hstatus : 0 < o.status) (hlength : o.region.groups.length = groups)
    (hfit : GroupsFit bounds.start bounds.stop o.region.groups) : o.Reports groups bounds where
  nothing hle := absurd hstatus (Int.not_lt.2 hle)
  found _ := ⟨hlength, hfit⟩

theorem failed (text : String) : (Outcome.failed text).Reports groups bounds :=
  of_nothing (show (-1 : Int) ≤ 0 by decide) rfl

end Outcome.Reports

section Reports

variable {p : m.Pattern} {cs : List Char} {pos stop : Nat}

theorem length_of_look (hm : m.Lawful) {groups : List (Option GroupBounds)}
    (hlook : look m p cs stop pos = .ok (some groups)) :
    groups.length = (m.groupNames p).length := by
  unfold look at hlook
  rcases hs : m.search p (cs.take stop) (bytePosition cs pos) with e | (_ | spans)
  · rw [hs] at hlook
    cases hlook
  · rw [hs] at hlook
    cases hlook
  · rw [hs] at hlook
    obtain rfl := Option.some.inj (Except.ok.inj hlook)
    rw [← hm.length_eq p _ _ spans hs]
    exact List.length_map ..

theorem reports_searchOutcome (hm : m.Lawful) (hpos : pos ≤ stop) (hstop : stop ≤ cs.length) :
    (searchOutcome m p cs ⟨pos, stop⟩).Reports (m.groupNames p).length ⟨pos, stop⟩ := by
  unfold searchOutcome
  rcases hlook : look m p cs stop pos with e | (_ | groups)
  · exact .failed e
  · exact .of_nothing (Int.le_refl 0) rfl
  · exact .of_found Int.one_pos (length_of_look hm hlook) (look_fits hm hstop pos groups hpos hlook)

/-- The first occurrence is always replaced, so a substitution reports what a search does. -/
theorem reports_substituteOutcome (hm : m.Lawful) (hpos : pos ≤ stop) (hstop : stop ≤ cs.length)
    (t : Template) (global : Bool) :
    (substituteOutcome m p cs ⟨pos, stop⟩ t global).Reports (m.groupNames p).length
      ⟨pos, stop⟩ := by
  rcases hlook : look m p cs stop pos with e | (_ | groups)
  · rw [substituteOutcome, substituteWithin, substitute_failed hm hstop hpos hlook]
    exact .failed e
  · rw [substituteOutcome, substituteWithin, substitute_ended hm hstop hpos hlook]
    exact .of_nothing (Int.le_refl 0) rfl
  · have hlength := length_of_look hm hlook
    have hfit := look_fits hm hstop pos groups hpos hlook
    cases global with
    | false =>
      rw [substituteOutcome_first (o := ⟨pos, groups⟩) hm hpos hstop hlook]
      exact .of_found Int.one_pos hlength hfit
    | true =>
      obtain ⟨occs, failure, hrest⟩ := (look_fits (p := p) hm hstop).exists_chain
        (wholeOf groups).resume
      have hchain := Chain.found hpos hlook hrest
      cases failure with
      | some e =>
        rw [substituteOutcome_of_failed hm hstop hpos hchain]
        exact .failed e
      | none =>
        -- no occurrence stands before the first one, so it is not passed over
        have hkept : separated Occurrence.whole none (⟨pos, groups⟩ :: occs) =
            ⟨pos, groups⟩ :: separated Occurrence.whole (some (wholeOf groups).stop) occs :=
          if_neg fun htouch => Option.some_ne_none _ htouch.2.symm
        rw [substituteOutcome_of_ended hm hstop hpos hchain, hkept]
        refine .of_found ?_ hlength hfit
        have hmax : 0 < maxStatus := by decide
        show 0 < ((min _ maxStatus : Nat) : Int)
        rw [List.length_cons]
        omega

end Reports

namespace Bundled

/-! ## Contents -/

/-- What a place should have. -/
structure Contents (m : Matcher) where
  pattern : m.Pattern
  options : Options
  /-- The source of the template that was given last since the pattern was. -/
  template : Option String

/-- The template, if one was given and it compiles against the pattern. -/
def Contents.template? (k : Contents m) : Option Template :=
  k.template.bind fun source => (Template.compile (m.groupNames k.pattern) source).toOption

namespace Contents

variable {k : Contents m} {source : String} {t : Template}

theorem template?_of_compile (hsource : k.template = some source)
    (ht : Template.compile (m.groupNames k.pattern) source = .ok t) : k.template? = some t := by
  rw [template?, hsource, Option.bind_some, ht]
  rfl

theorem template?_of_refused (hsource : k.template = some source) {e : TemplateError}
    (he : Template.compile (m.groupNames k.pattern) source = .error e) : k.template? = none := by
  rw [template?, hsource, Option.bind_some, he]
  rfl

theorem exists_source (ht : k.template? = some t) :
    ∃ source, k.template = some source ∧
      Template.compile (m.groupNames k.pattern) source = .ok t := by
  obtain ⟨source, hsource, hcompiled⟩ := Option.bind_eq_some_iff.1 ht
  cases hcompile : Template.compile (m.groupNames k.pattern) source with
  | error e =>
    rw [hcompile] at hcompiled
    cases hcompiled
  | ok t' =>
    rw [hcompile] at hcompiled
    exact ⟨source, hsource, hcompile.trans (congrArg Except.ok (Option.some.inj hcompiled))⟩

theorem template?_eq_none
    (hbad : ∀ source, k.template = some source →
      ∃ e, Template.compile (m.groupNames k.pattern) source = .error e) : k.template? = none := by
  cases hsource : k.template with
  | none => rw [template?, hsource, Option.bind_none]
  | some source =>
    obtain ⟨e, he⟩ := hbad source hsource
    exact template?_of_refused hsource he

end Contents

/-- What the place should have when the call is made, unless the call is refused. A pattern takes
the place of everything; without one, a template takes the place of the template. -/
def Call.accept (c : Call) (given : Option (Contents m)) : Except String (Contents m) :=
  match c.pattern with
  | some source =>
    (compile m c.limits source (c.options.getD "")).map fun h =>
      ⟨h.pattern, h.options, c.task.template⟩
  | none =>
    match given with
    | some k => .ok { k with template := c.task.template <|> k.template }
    | none => .error "no compiled pattern"

/-- What the place should have after the call. A call that is refused gives nothing, not even its
template. -/
def Call.next (c : Call) (given : Option (Contents m)) : Option (Contents m) :=
  match c.accept given with
  | .ok k => some k
  | .error _ => given

/-- What the call says of a text. -/
def Call.outcome (c : Call) (k : Contents m) (cs : List Char) (bounds : Bounds) : Outcome :=
  match c.task with
  | .search true => { status := 0 }
  | .search false => searchOutcome m k.pattern cs bounds
  | .replace (some source) =>
    match Template.compile (m.groupNames k.pattern) source with
    | .error e => .failed e.message
    | .ok t => substituteOutcome m k.pattern cs bounds t k.options.global
  | .replace none =>
    match k.template? with
    | none => .failed "no compiled replacement"
    | some t => substituteOutcome m k.pattern cs bounds t k.options.global

theorem Call.outcome_of_kept {c : Call} (htask : c.task = .replace none) (k : Contents m)
    (cs : List Char) (bounds : Bounds) :
    c.outcome k cs bounds =
      match k.template? with
      | none => .failed "no compiled replacement"
      | some t => substituteOutcome m k.pattern cs bounds t k.options.global := by
  rw [outcome, htask]

/-- The handle has the contents. -/
structure Contents.HeldBy (k : Contents m) (h : Handle m) : Prop where
  pattern_eq : h.pattern = k.pattern
  options_eq : h.options = k.options
  template_eq : h.template = k.template?

/-- The place has the contents, or is empty when there are none. -/
abbrev Held (given : Option (Contents m)) (slot : Option (Handle m)) : Prop :=
  Option.Rel Contents.HeldBy given slot

section Answers

variable {c : Call} {given : Option (Contents m)} {slot : Option (Handle m)} {k : Contents m}
  {r : TextRange} {cs : List Char}

/-- A call is accepted with a new pattern, or with the one that is there. -/
theorem Call.accept_cases (hc : c.accept given = .ok k) :
    (∃ source, c.pattern = some source ∧
      compile m c.limits source (c.options.getD "") = .ok ⟨k.pattern, k.options, none, {}, none⟩ ∧
      k.template = c.task.template) ∨
    (c.pattern = none ∧ ∃ k', given = some k' ∧
      k = { k' with template := c.task.template <|> k'.template }) := by
  unfold accept at hc
  cases hpattern : c.pattern with
  | some source =>
    simp only [hpattern] at hc
    cases hcompile : compile m c.limits source (c.options.getD "") with
    | error e =>
      rw [hcompile] at hc
      cases hc
    | ok h =>
      rw [hcompile] at hc
      obtain rfl := Except.ok.inj hc
      obtain ⟨p, o, -, -, rfl⟩ := compile_eq_ok_iff.1 hcompile
      exact .inl ⟨source, rfl, hcompile, rfl⟩
  | none =>
    rw [hpattern] at hc
    cases given with
    | none => cases hc
    | some k' => exact .inr ⟨rfl, k', rfl, (Except.ok.inj hc).symm⟩

/-- It is refused for what is wrong with its pattern. -/
theorem Call.resolve_of_refused (hslot : Held given slot) {e : String}
    (hc : c.accept given = .error e) : resolve c.limits c.pattern c.options slot = .error e := by
  unfold accept at hc
  cases hpattern : c.pattern with
  | some source =>
    simp only [hpattern] at hc
    cases hcompile : compile m c.limits source (c.options.getD "") with
    | error e' =>
      rw [hcompile] at hc
      obtain rfl := Except.error.inj hc
      exact hcompile
    | ok h =>
      rw [hcompile] at hc
      cases hc
  | none =>
    rw [hpattern] at hc
    cases hslot with
    | none =>
      obtain rfl := Except.error.inj hc
      rfl
    | some => cases hc

/-- What is given to a call that is accepted is the template, whatever was there. -/
theorem Call.template_of_accept {source : String} (hc : c.accept given = .ok k)
    (hsource : c.task.template = some source) : k.template = some source := by
  rcases c.accept_cases hc with ⟨-, -, -, htemplate⟩ | ⟨-, k', -, rfl⟩
  · exact htemplate.trans hsource
  · rw [hsource]
    rfl

/-- The handle that a call works on, before its template is seen to. -/
structure Call.WorksOn (c : Call) (slot : Option (Handle m)) (k : Contents m) (r : TextRange)
    (cs : List Char) (h : Handle m) : Prop where
  resolve_eq : resolve c.limits c.pattern c.options slot = .ok h
  pattern_eq : h.pattern = k.pattern
  options_eq : h.options = k.options
  /-- Unless the call gives a template, the handle has the one that it should have. -/
  kept : c.task.template = none → h.template = k.template?
  fits : Haystack.Fits h.haystack r cs

theorem Call.exists_worksOn (hslot : Held given slot) (hr : r.units = unitsOf cs)
    (hfits : ∀ h, slot = some h → Haystack.Fits h.haystack r cs) (hc : c.accept given = .ok k) :
    ∃ h, c.WorksOn slot k r cs h := by
  rcases c.accept_cases hc with ⟨source, hpattern, hcompile, htemplate⟩ | ⟨hpattern, k', rfl, rfl⟩
  · refine ⟨⟨k.pattern, k.options, none, {}, none⟩, ?_, rfl, rfl, ?_, hr, ?_⟩
    · rw [hpattern]
      exact hcompile
    · intro hnone
      rw [Contents.template?, htemplate, hnone, Option.bind_none]
    · intro hay hhay
      cases hhay
  · cases hslot with
    | @some _ h hheld =>
      obtain ⟨hp, ho, ht⟩ := hheld
      refine ⟨h, ?_, hp, ho, ?_, hfits h rfl⟩
      · rw [hpattern]
        rfl
      · intro hnone
        rw [ht, hnone]
        rfl

/-- **A call that is refused leaves the place as it was.** -/
theorem Call.answer_of_refused (hslot : Held given slot) {e : String}
    (hc : c.accept given = .error e) (r : TextRange) : c.answer r slot = failed e slot := by
  have hresolve := c.resolve_of_refused hslot hc
  unfold answer
  cases c.task with
  | search oneShot => simp only [compileAndMatch, hresolve]
  | replace template => simp only [compileAndSubstitute, hresolve]

namespace Call.WorksOn

variable {h : Handle m}

/-- A call for compiling only finds nothing, and a search what is in the text. -/
theorem search_answer (hw : c.WorksOn slot k r cs h) {oneShot : Bool}
    (htask : c.task = .search oneShot) :
    ∃ left, compileAndMatch c.limits ⟨c.pattern, c.options, r, oneShot⟩ slot =
        (if oneShot then { status := 0 } else searchOutcome m k.pattern cs r.bounds).answer left ∧
      k.HeldBy left := by
  have hheld : h.template = k.template? := by
    apply hw.kept
    rw [htask]
    rfl
  cases oneShot with
  | true =>
    refine ⟨h, ?_, hw.pattern_eq, hw.options_eq, hheld⟩
    simp only [compileAndMatch, hw.resolve_eq]
    rfl
  | false =>
    refine ⟨h.decoded r cs, ?_, hw.pattern_eq, hw.options_eq, hheld⟩
    rw [if_neg Bool.false_ne_true, ← hw.pattern_eq]
    exact compileAndMatch_eq hw.resolve_eq rfl hw.fits

/-- A substitution uses the template of the contents, be it given or at hand. -/
theorem replace_answer (hw : c.WorksOn slot k r cs h) {template : Option String} {t : Template}
    {h' : Handle m} (hfound : withTemplate template h = .ok (t, h')) (ht : k.template? = some t) :
    ∃ left, compileAndSubstitute c.limits ⟨c.pattern, template, c.options, r⟩ slot =
        (substituteOutcome m k.pattern cs r.bounds t k.options.global).answer left ∧
      k.HeldBy left := by
  refine ⟨{ h.decoded r cs with template := some t }, ?_, hw.pattern_eq, hw.options_eq, ht.symm⟩
  rw [← hw.pattern_eq, ← hw.options_eq]
  exact compileAndSubstitute_eq hw.resolve_eq hfound hw.fits

/-- With a bad template it fails, and none is left. -/
theorem refused_answer (hw : c.WorksOn slot k r cs h) {source : String} {e : TemplateError}
    (hsource : k.template = some source)
    (he : Template.compile (m.groupNames k.pattern) source = .error e) :
    ∃ left, compileAndSubstitute c.limits ⟨c.pattern, some source, c.options, r⟩ slot =
        (Outcome.failed e.message).answer left ∧ k.HeldBy left := by
  refine ⟨{ h with template := none }, ?_, hw.pattern_eq, hw.options_eq,
    (k.template?_of_refused hsource he).symm⟩
  rw [← hw.pattern_eq] at he
  exact compileAndSubstitute_refused hw.resolve_eq rfl he

/-- And without one, when none is there. -/
theorem missing_answer (hw : c.WorksOn slot k r cs h) (hheld : h.template = k.template?)
    (hnone : k.template? = none) :
    ∃ left, compileAndSubstitute c.limits ⟨c.pattern, none, c.options, r⟩ slot =
        (Outcome.failed "no compiled replacement").answer left ∧ k.HeldBy left :=
  ⟨h, compileAndSubstitute_missing hw.resolve_eq rfl (hheld.trans hnone), hw.pattern_eq,
    hw.options_eq, hheld⟩

end Call.WorksOn

/-- **Any other call says what follows from the contents, and leaves them in the place.** -/
theorem Call.answer_of_accepted (hslot : Held given slot) (hr : r.units = unitsOf cs)
    (hfits : ∀ h, slot = some h → Haystack.Fits h.haystack r cs) (hc : c.accept given = .ok k) :
    ∃ left, c.answer r slot = (c.outcome k cs r.bounds).answer left ∧ k.HeldBy left := by
  obtain ⟨h, hw⟩ := c.exists_worksOn hslot hr hfits hc
  unfold answer outcome
  cases htask : c.task with
  | search oneShot =>
    have hanswer := hw.search_answer htask
    cases oneShot <;> exact hanswer
  | replace template =>
    cases template with
    | some source =>
      have hsource : k.template = some source := by
        apply c.template_of_accept hc
        rw [htask]
        rfl
      dsimp only
      cases ht : Template.compile (m.groupNames k.pattern) source with
      | error e => exact hw.refused_answer hsource ht
      | ok t =>
        have hfound : withTemplate (some source) h = .ok (t, { h with template := some t }) := by
          rw [← hw.pattern_eq] at ht
          simp only [withTemplate, ht]
        exact hw.replace_answer hfound (k.template?_of_compile hsource ht)
    | none =>
      have hheld : h.template = k.template? := by
        apply hw.kept
        rw [htask]
        rfl
      dsimp only
      cases ht : k.template? with
      | none => exact hw.missing_answer hheld ht
      | some t =>
        have hfound : withTemplate none h = .ok (t, h) := by
          simp only [withTemplate, hheld.trans ht]
        exact hw.replace_answer hfound ht

/-- What is left has the contents that it should have. -/
theorem Call.held_next (hslot : Held given slot) (hr : r.units = unitsOf cs)
    (hfits : ∀ h, slot = some h → Haystack.Fits h.haystack r cs) :
    Held (c.next given) (c.answer r slot).handle := by
  unfold next
  cases hc : c.accept given with
  | error e =>
    rw [c.answer_of_refused hslot hc]
    exact hslot
  | ok k =>
    obtain ⟨left, hanswer, hheld⟩ := c.answer_of_accepted hslot hr hfits hc
    rw [hanswer]
    obtain ⟨hpattern, hoptions, htemplate⟩ := hheld
    exact .some ⟨hpattern, hoptions, htemplate⟩

end Answers

/-- What a call reports fits the pattern and the bounds. -/
theorem Call.reports_outcome (hm : m.Lawful) (c : Call) (k : Contents m) {cs : List Char}
    {bounds : Bounds} (hle : bounds.start ≤ bounds.stop) (hstop : bounds.stop ≤ cs.length) :
    (c.outcome k cs bounds).Reports (m.groupNames k.pattern).length bounds := by
  unfold outcome
  split
  · exact .of_nothing (Int.le_refl 0) rfl
  · exact reports_searchOutcome hm hle hstop
  · split
    · exact .failed _
    · exact reports_substituteOutcome hm hle hstop _ _
  · split
    · exact .failed _
    · exact reports_substituteOutcome hm hle hstop _ _

end Bundled

end PatternSession
