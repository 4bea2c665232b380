import PatternSession.Proofs.Found
import PatternSession.Proofs.Showing

/-!
# The result of a match against any engine

To give the result of a match, a session has the occurrence replaced anew within the bounds of the
match, and cuts the patch out of what the engine says that it rebuilt. The engine may say anything:
it may fail, lose the handle, report another occurrence or none, and rebuild too little, too much or
what is no text.

**Checks (`Match.Checks`).** What the result is for every report of an engine, in the order in which
the checks are made. Only when the engine reports the very occurrence is its output looked at, and
of the output only the patch (`Match.Cuts`): as much as is left when what stands before the match in
its bounds and what stands after it are taken off.

**Theorem (`result_checks_answer`).** For every engine, every live session and every match inside
its bounds, the result is a substitution call over the units of the text, and what is answered to
that call, checked. The range is never rejected, and the patch always lies inside the output.
-/

namespace PatternSession

variable {S H : Type}

/-! ## What is checked -/

namespace Region

/-- The whole match, if it is reported. -/
def whole? (r : Region) : Option GroupBounds := r.groups.head?.join

/-- Every group that is reported lies in a text of so many characters, its end at or after its
start. -/
def Inside (r : Region) (limit : Nat) : Prop :=
  ∀ g, some g ∈ r.groups → g.start ≤ g.stop ∧ g.stop ≤ limit

variable {r : Region}

theorem captures?_of_unset (h : r.whole? = none) : r.captures? = none := by
  obtain ⟨_ | ⟨_ | g, rest⟩, output⟩ := r
  · rfl
  · rfl
  · cases h

theorem captures?_of_whole {g : GroupBounds} (h : r.whole? = some g) :
    ∃ others, r.captures? = some (⟨0, some ⟨g.start, g.stop - g.start⟩⟩ :: others) := by
  obtain ⟨_ | ⟨_ | g', rest⟩, output⟩ := r
  · cases h
  · cases h
  · obtain rfl := Option.some.inj h
    obtain ⟨others, hcaptures⟩ := capturesOf_cons (some g') rest
    exact ⟨others, congrArg some hcaptures⟩

theorem Inside.whole {limit : Nat} (h : r.Inside limit) {g : GroupBounds}
    (hg : r.whole? = some g) : g.start ≤ g.stop := by
  obtain ⟨_ | ⟨_ | g', rest⟩, output⟩ := r
  · cases hg
  · cases hg
  · obtain rfl := Option.some.inj hg
    exact (h g' List.mem_cons_self).1

end Region

namespace Match

/-- The match lies in its bounds, and these lie in the text. -/
structure InBounds (m : Match) : Prop where
  start_le : m.bounds.start ≤ m.index
  stop_le : m.stop ≤ m.bounds.stop
  bounds_le : m.bounds.stop ≤ m.text.chars.length

/-- The number of characters in the bounds. -/
def width (m : Match) : Nat := m.bounds.stop - m.bounds.start

/-- The units of an output that stand in the place of the match. -/
def patch (m : Match) (output : List CodeUnit) : List CodeUnit :=
  (output.drop (m.index - m.bounds.start)).take (m.length + output.length - m.width)

/-- The answer is what an output gives in the place of the match. -/
structure Cuts (m : Match) (output : List CodeUnit) (answer : Except Error String) : Prop where
  nothing : output = [] → answer = .ok ""
  tooShort : output ≠ [] → m.length + output.length < m.width →
    answer = .error (.occurrenceLost ⟨m.index, m.length⟩)
  /-- The patch lies inside the output. -/
  patch_inside : m.width ≤ m.length + output.length →
    m.index - m.bounds.start + (m.length + output.length - m.width) ≤ output.length
  decoded : output ≠ [] → m.width ≤ m.length + output.length →
    (∀ u ∈ m.patch output, u.isValidChar) →
    ∃ cs, unitsOf cs = m.patch output ∧ answer = .ok (String.ofList cs)
  invalid : output ≠ [] → m.width ≤ m.length + output.length →
    (∃ u ∈ m.patch output, ¬u.isValidChar) →
    answer = .error (.compile "engine produced an invalid character")

/-- The answer is what the engine reported, checked against the match. -/
structure Checks (m : Match) (r : Report) (answer : Except Error String) : Prop where
  /-- The message is not cut. -/
  failed : r.status < 0 → answer = .error (.compile (r.message.getD ""))
  missed : r.status = 0 → answer = .error (.occurrenceLost ⟨m.index, m.length⟩)
  handleLost : 0 < r.status → r.region = none →
    answer = .error (.occurrenceLost ⟨m.index, m.length⟩)
  unset : 0 < r.status → ∀ region, r.region = some region → region.whole? = none →
    answer = .error (.occurrenceLost ⟨m.index, m.length⟩)
  moved : 0 < r.status → ∀ region, r.region = some region → ∀ g, region.whole? = some g →
    ¬(g.start = m.index ∧ g.stop = m.stop) →
    ∃ found : Span, found.start = g.start ∧ found.stop = g.stop ∧
      answer = .error (.spanMismatch ⟨m.index, m.length⟩ found)
  located : 0 < r.status → ∀ region, r.region = some region →
    region.whole? = some ⟨m.index, m.stop⟩ → m.Cuts region.output answer

/-! ## The patch -/

theorem cuts_cutPatch {m : Match} (hm : m.InBounds) (output : List CodeUnit) :
    m.Cuts output (m.cutPatch output) := by
  obtain ⟨hstart, hstop, -⟩ := hm
  have hend : m.stop = m.index + m.length := rfl
  have hwidth : m.width = m.bounds.stop - m.bounds.start := rfl
  -- the end of the match is not past the end of its bounds, so the patch ends inside the output
  have hinside : m.width ≤ m.length + output.length →
      m.index - m.bounds.start + (m.length + output.length - m.width) ≤ output.length := by
    omega
  have hcut : output ≠ [] → m.width ≤ m.length + output.length →
      m.cutPatch output = (Session.decodeOutput (m.patch output)).map String.ofList := by
    intro hne hle
    have := hinside hle
    rw [cutPatch, if_neg hne]
    exact if_neg (by rw [← hwidth]; omega)
  constructor
  · intro hempty
    rw [cutPatch, if_pos hempty]
  · intro hne hlt
    rw [cutPatch, if_neg hne]
    exact if_pos (.inl hlt)
  · exact hinside
  · intro hne hle hvalid
    obtain ⟨cs, hcs⟩ := exists_unitsOf_eq hvalid
    refine ⟨cs, hcs, ?_⟩
    rw [hcut hne hle, Session.decodeOutput, ← hcs, decodeUnits?_unitsOf]
    rfl
  · intro hne hle hinvalid
    rw [hcut hne hle, Session.decodeOutput, decodeUnits?_eq_none hinvalid]
    rfl

/-! ## The report -/

theorem checks_readPatch {m : Match} (hm : m.InBounds) {r : Report}
    (hinside : ∀ region, r.region = some region → region.Inside m.text.chars.length) :
    m.Checks r (r.readPatch m) := by
  have hmatched : 0 < r.status → ¬r.status < 0 ∧ r.status ≠ 0 := by omega
  constructor
  · intro hneg
    rw [Report.readPatch, if_pos hneg]
    rfl
  · intro hzero
    rw [Report.readPatch, if_neg (by omega), if_pos hzero]
    rfl
  · intro hpos hregion
    obtain ⟨hneg, hzero⟩ := hmatched hpos
    rw [Report.readPatch, if_neg hneg, if_neg hzero, hregion]
    rfl
  · intro hpos region hregion hunset
    obtain ⟨hneg, hzero⟩ := hmatched hpos
    rw [Report.readPatch, if_neg hneg, if_neg hzero, hregion, Option.bind_some,
      Region.captures?_of_unset hunset]
    rfl
  · intro hpos region hregion g hg hmoved
    obtain ⟨hneg, hzero⟩ := hmatched hpos
    obtain ⟨others, hcaptures⟩ := Region.captures?_of_whole hg
    have hle := (hinside region hregion).whole hg
    have hspan : (⟨g.start, g.stop - g.start⟩ : Span) ≠ m.span := by
      intro heq
      have hindex : g.start = m.index := congrArg Span.start heq
      have hlength : g.stop - g.start = m.length := congrArg Span.len heq
      have hend : m.stop = m.index + m.length := rfl
      omega
    refine ⟨⟨g.start, g.stop - g.start⟩, rfl, Nat.add_sub_cancel' hle, ?_⟩
    rw [Report.readPatch, if_neg hneg, if_neg hzero, hregion, Option.bind_some, hcaptures]
    exact if_pos hspan
  · intro hpos region hregion hwhole
    obtain ⟨hneg, hzero⟩ := hmatched hpos
    obtain ⟨others, hcaptures⟩ := Region.captures?_of_whole hwhole
    have hspan : (⟨m.index, m.stop - m.index⟩ : Span) = m.span := by
      have hend : m.stop - m.index = m.length := Nat.add_sub_cancel_left ..
      rw [hend]
      rfl
    have hread : r.readPatch m = m.cutPatch region.output := by
      rw [Report.readPatch, if_neg hneg, if_neg hzero, hregion, Option.bind_some, hcaptures]
      exact if_neg (not_not.2 hspan)
    rw [hread]
    exact cuts_cutPatch hm region.output

end Match

/-! ## The theorem -/

section Session

variable {s : Session S H} {m : Match}

/-- What the result of a match asks for. -/
def Match.resultRequest (m : Match) (s : Session S H) (template : String) : Request where
  text := m.text
  start := m.bounds.start
  len := some (m.bounds.stop - m.bounds.start)
  substitution := some (withoutGlobal s.options, template)

/-- The call that the result of a match makes. -/
def Match.resultCall (m : Match) (s : Session S H) (now : Supply) (template : String) :
    SubstituteCall :=
  s.record.call s.pattern (withoutGlobal s.options) template
    ((s.buffer.ensure now m.text).1.range m.bounds)

namespace Match.InBounds

/-- The range of the call is never rejected. -/
theorem bind_answer (hm : m.InBounds) (hshows : s.buffer.Shows) (now : Supply)
    (template : String) :
    let r := m.resultRequest s template
    (s.bind now r.text r.start r.len).answer = .ok m.bounds := by
  obtain ⟨hstart, hstop, hlength⟩ := hm
  have hle : m.bounds.start ≤ m.bounds.stop :=
    Nat.le_trans hstart (Nat.le_trans (Nat.le_add_right _ _) hstop)
  exact (hshows.bind_answer now m.text _ _).trans (resolveBounds_some hle hlength)

theorem calls_result (hm : m.InBounds) (hshows : s.buffer.Shows) (hlive : s.disposed = false)
    (now : Supply) (template : String) :
    (Operation.result m template).calls s now =
      [.substituting (m.resultCall s now template)
        (s.engine.compileAndSubstitute s.state (m.resultCall s now template)
          s.handle).2.status] := by
  have hrequest : (Operation.result m template).request s.options =
      some (m.resultRequest s template) := rfl
  have hcalls := Request.calls_of_bounds hlive (hm.bind_answer hshows now template)
  rw [Operation.calls_of_request now hrequest, hcalls]
  rfl

theorem checks_result (hm : m.InBounds) (hshows : s.buffer.Shows) (hlive : s.disposed = false)
    (now : Supply) (template : String) {a : Answer H}
    (ha : (s.engine.compileAndSubstitute s.state (m.resultCall s now template) s.handle).2 = a)
    (hinside : ∀ region, a.handle.map s.engine.region = some region →
      region.Inside m.text.chars.length) :
    m.Checks (a.report s.engine) (m.result s now template).answer := by
  subst ha
  have hresult : m.result s now template =
      ((m.resultRequest s template).attempt s now).map _ := m.result_eq s now template
  have hattempt := Request.attempt_of_bounds hlive (hm.bind_answer hshows now template)
  rw [hresult, Turn.map, hattempt]
  exact checks_readPatch hm hinside

end Match.InBounds

end Session

/-- **The result of a match is what the engine answers, checked.** In a live session, with any
engine and after any acts, the result of a match inside its bounds takes one substitution call, over
the whole text and the bounds of the match. Whatever is answered, provided that the groups it
reports lie in the text, the result is that answer, checked against the match. -/
theorem result_checks_answer (engine : Engine S H) (state : S) (supply : Supply)
    (pattern options : String) (acts : List Act) (now : Supply) (m : Match) (template : String)
    (hlive : ((Session.create engine state supply pattern options).session.after acts).disposed =
      false)
    (hm : m.InBounds) :
    let s := (Session.create engine state supply pattern options).session.after acts
    ∃ call : SubstituteCall,
      call.range.units = unitsOf m.text.chars ∧ call.range.bounds = m.bounds ∧
      let a := (s.engine.compileAndSubstitute s.state call s.handle).2
      (Operation.result m template).calls s now = [.substituting call a.status] ∧
      ((∀ region, a.handle.map s.engine.region = some region →
          region.Inside m.text.chars.length) →
        m.Checks (a.report s.engine) (m.result s now template).answer) := by
  intro s
  have hshows : s.buffer.Shows :=
    Session.shows_after (Session.shows_create engine state supply pattern options) acts
  exact ⟨m.resultCall s now template, hshows.units_ensure now m.text, rfl,
    hm.calls_result hshows hlive now template, hm.checks_result hshows hlive now template rfl⟩

/-- An engine that opens every session and gives one answer to every substitution. -/
def answering (a : Answer Region) : Engine Unit Region where
  compileAndMatch _ _ _ := ((), ⟨0, none, some {}⟩)
  compileAndSubstitute _ _ _ := ((), a)
  region r := r
  free _ _ := ()

/-- An answer that has the second character of a text of three replaced. Of the output only what
stands in its place needs to be text. -/
def oddAnswer : Answer Region :=
  ⟨1, none, some ⟨[some ⟨1, 2⟩], [0xD800, 0x50, 0x51, 0xDFFF]⟩⟩

/-- The match of the second character gets its patch, and the one of the first character is told
that it is not the one replaced. -/
theorem result_checks_answer_of_odd_output :
    let s := (Session.create (answering oddAnswer) () {} "a" "").session
    let second : Match := ⟨[⟨0, some ⟨1, 1⟩⟩], ⟨1, "xay"⟩, ⟨0, 3⟩⟩
    let first : Match := ⟨[⟨0, some ⟨0, 1⟩⟩], ⟨1, "xay"⟩, ⟨0, 3⟩⟩
    s.disposed = false ∧ second.InBounds ∧ first.InBounds ∧
      (second.result s {} "PQ").answer = .ok "PQ" ∧
      ∃ found : Span, found.start = 1 ∧ found.stop = 2 ∧
        (first.result s {} "PQ").answer = .error (.spanMismatch ⟨0, 1⟩ found) := by
  intro s second first
  have hsecond : second.InBounds := ⟨by decide, by decide, by decide⟩
  have hfirst : first.InBounds := ⟨by decide, by decide, by decide⟩
  have hinside : ∀ m : Match, m.text = ⟨1, "xay"⟩ → ∀ region,
      oddAnswer.handle.map (answering oddAnswer).region = some region →
        region.Inside m.text.chars.length := by
    rintro m hm _ ⟨⟩ g hg
    obtain rfl : g = ⟨1, 2⟩ := Option.some.inj (List.mem_singleton.1 hg)
    rw [hm]
    decide
  have hchecks : ∀ m : Match, m.InBounds → m.text = ⟨1, "xay"⟩ →
      m.Checks ⟨1, none, oddAnswer.handle⟩ (m.result s {} "PQ").answer := by
    intro m hm htext
    obtain ⟨_, -, -, -, hchecks⟩ := result_checks_answer (answering oddAnswer) () {} "a" "" [] {}
      m "PQ" rfl hm
    exact hchecks (hinside m htext)
  have hcuts := (hchecks second hsecond rfl).located (by decide) _ rfl rfl
  have hvalid : ∀ u ∈ second.patch [0xD800, 0x50, 0x51, 0xDFFF], u.isValidChar := by
    show ∀ u ∈ ([0x50, 0x51] : List CodeUnit), u.isValidChar
    rw [List.forall_mem_cons, List.forall_mem_singleton]
    decide
  obtain ⟨cs, hcs, hanswer⟩ := hcuts.decoded (by decide) (by decide) hvalid
  have hpatch : cs = ['P', 'Q'] := by
    have hdecoded := decodeUnits?_unitsOf cs
    rw [hcs] at hdecoded
    exact (Option.some.inj hdecoded).symm
  rw [hpatch] at hanswer
  exact ⟨rfl, hsecond, hfirst, hanswer,
    (hchecks first hfirst rfl).moved (by decide) _ rfl ⟨1, 2⟩ rfl (by decide)⟩

end PatternSession
