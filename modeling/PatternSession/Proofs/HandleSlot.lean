import PatternSession.Proofs.DirectCalls
import PatternSession.Proofs.TemplateGrammar

/-!
# What is in the place for a handle

A handle is used by call after call, each with what arguments it likes. So it might come to hold a
template of a pattern that is gone, or the result of a call before the last.

**Contents.** `contentsAfter` reads from the calls alone what a place should have. It has that
(`held_after`): one event leaves it so (`Sound.held_step`), and a run is an induction on its events.

**Theorem (`slot_follows_calls`).** After any events, with any texts and on any places, a template
in the place belongs to the pattern there, and the next call does what was given until then says.
-/

namespace PatternSession

open Bundled

variable {m : Matcher}

/-! ## Calls on a bench -/

namespace Bench

/-- What a place should have after one more event. To free a handle takes everything from its
place. -/
def Event.contents (slot : Nat) (given : Option (Contents m)) : Event → Option (Contents m)
  | .filled _ _ | .emptied _ => given
  | .matched place _ limits pattern options _ oneShot =>
    if slot = place then Call.next ⟨limits, pattern, options, .search oneShot⟩ given else given
  | .substituted place _ limits pattern template options _ =>
    if slot = place then Call.next ⟨limits, pattern, options, .replace template⟩ given else given
  | .freed place => if slot = place then none else given

/-- What a place should have after the events. -/
def contentsAfter (m : Matcher) (slot : Nat) (events : List Event) : Option (Contents m) :=
  events.foldl (Event.contents slot) none

/-- The answer to a call on a place, with a copy. -/
def answer (B : Bench m) (slot buffer : Nat) (c : Call) (bounds : Bounds) : Answer (Handle m) :=
  c.answer ((B.buffers buffer).range bounds) (B.slots slot)

section Sound

variable {B : Bench m} {slot : Nat} {given : Option (Contents m)}

/-- What a handle of the bench has decoded fits every copy. -/
theorem Sound.fits (hB : B.Sound) (slot buffer : Nat) (bounds : Bounds) :
    ((B.buffers buffer).range bounds).units = unitsOf (B.buffers buffer).chars ∧
      ∀ h, B.slots slot = some h →
        Haystack.Fits h.haystack ((B.buffers buffer).range bounds) (B.buffers buffer).chars := by
  obtain ⟨ledger, hbuffers, hslots⟩ := hB
  exact ⟨(hbuffers buffer).units_eq, fun h hh => (hbuffers buffer).fits (hslots slot h hh) bounds⟩

theorem held_setAt {place : Nat} {left : Option (Handle m)} {next : Option (Contents m)}
    (hslot : Held given (B.slots slot)) (hleft : slot = place → Held next left) :
    Held (if slot = place then next else given) (setAt B.slots place left slot) := by
  unfold setAt
  split
  next hplace => exact hleft hplace
  next => exact hslot

/-- One event leaves in every place what it should have. -/
theorem Sound.held_step (hB : B.Sound) (hslot : Held given (B.slots slot)) (e : Event) :
    Held (e.contents slot given) ((B.step e).slots slot) := by
  cases e with
  | filled | emptied => exact hslot
  | matched place buffer limits pattern options bounds oneShot =>
    refine held_setAt hslot ?_
    rintro rfl
    obtain ⟨hunits, hfits⟩ := hB.fits slot buffer bounds
    exact Call.held_next (c := ⟨limits, pattern, options, .search oneShot⟩) hslot hunits hfits
  | substituted place buffer limits pattern template options bounds =>
    refine held_setAt hslot ?_
    rintro rfl
    obtain ⟨hunits, hfits⟩ := hB.fits slot buffer bounds
    exact Call.held_next (c := ⟨limits, pattern, options, .replace template⟩) hslot hunits hfits
  | freed place => exact held_setAt hslot fun _ => .none

end Sound

/-- **Every place has what it should have.** -/
theorem held_after (slot : Nat) (events : List Event) :
    Held (contentsAfter m slot events) ((after m events).slots slot) := by
  have hrun : ∀ (B : Bench m) (given : Option (Contents m)), B.Sound →
      Held given (B.slots slot) →
      Held (events.foldl (Event.contents slot) given) ((events.foldl step B).slots slot) := by
    induction events with
    | nil => exact fun B given _ hslot => hslot
    | cons e events ih =>
      intro B given hB hslot
      exact ih _ _ (hB.step e) (hB.held_step hslot e)
  exact hrun {} none (sound_after []) .none

/-! ## The theorem -/

/-- What a call does on a place that should have the contents `given`. -/
structure Settles (B : Bench m) (slot buffer : Nat) (given : Option (Contents m)) (c : Call)
    (bounds : Bounds) (a : Answer (Handle m)) : Prop where
  /-- A pattern or options that are refused leave the place exactly as it was. -/
  refused : ∀ e, c.accept given = .error e → a.status = -1 ∧ a.handle = B.slots slot
  /-- Otherwise there is a handle with what was given last, this call included. -/
  accepted : ∀ k, c.accept given = .ok k → ∃ left, a.handle = some left ∧ k.HeldBy left
  /-- A call for compiling only finds nothing. -/
  compiled : c.task = .search true → a.status ≤ 0
  /-- Nothing is left of an earlier result. -/
  cleared : ∀ k left, c.accept given = .ok k → a.status ≤ 0 → a.handle = some left →
    left.region = {}
  /-- Without a template, the one given last is used. -/
  reused : ∀ k source t, c.accept given = .ok k → c.task = .replace none →
    k.template = some source → Template.compile (m.groupNames k.pattern) source = .ok t →
    ∃ left, a =
      (substituteOutcome m k.pattern (B.buffers buffer).chars bounds t k.options.global).answer left
  /-- Where none was given, or the last one was bad, the call fails. -/
  unavailable : ∀ k, c.accept given = .ok k → c.task = .replace none →
    (∀ source, k.template = some source →
      ∃ e, Template.compile (m.groupNames k.pattern) source = .error e) →
    a.status = -1
  /-- A bad template fails the call, and leaves the pattern alone. -/
  badTemplate : ∀ k source e, c.accept given = .ok k → c.task = .replace (some source) →
    Template.compile (m.groupNames k.pattern) source = .error e →
    a.status = -1 ∧ ∃ left, a.handle = some left ∧ left.pattern = k.pattern ∧
      left.options = k.options ∧ left.template = none
  /-- Whatever call it was, a pattern in the place can be searched for, in any text. -/
  usable : ∀ left, a.handle = some left → ∀ (limits : Limits) (buffer' : Nat) (bounds' : Bounds),
    ∃ left', compileAndMatch limits ⟨none, none, (B.buffers buffer').range bounds', false⟩
        a.handle =
      (searchOutcome m left.pattern (B.buffers buffer').chars bounds').answer left'
  /-- There is an entry for every group of the pattern, and the groups lie in the bounds. -/
  found : 0 < a.status → ∃ left, a.handle = some left ∧
    left.region.groups.length = (m.groupNames left.pattern).length ∧
    GroupsFit bounds.start bounds.stop left.region.groups

/-- **One call settles what it should.** All fields follow from what is answered when the call is
refused, and from the outcome when it is not. -/
theorem Sound.settles (hm : m.Lawful) {B : Bench m} (hB : B.Sound) {slot : Nat}
    {given : Option (Contents m)} (hslot : Held given (B.slots slot)) (buffer : Nat) (c : Call)
    {bounds : Bounds} (hle : bounds.start ≤ bounds.stop)
    (hstop : bounds.stop ≤ (B.buffers buffer).length) :
    B.Settles slot buffer given c bounds (B.answer slot buffer c bounds) := by
  obtain ⟨hunits, hfits⟩ := hB.fits slot buffer bounds
  have hrefused : ∀ e, c.accept given = .error e →
      B.answer slot buffer c bounds = failed e (B.slots slot) := by
    intro e hc
    exact c.answer_of_refused hslot hc _
  have haccepted : ∀ k, c.accept given = .ok k → ∃ left, B.answer slot buffer c bounds =
      (c.outcome k (B.buffers buffer).chars bounds).answer left ∧ k.HeldBy left := by
    intro k hc
    exact c.answer_of_accepted hslot hunits hfits hc
  have hreports : ∀ k : Contents m, (c.outcome k (B.buffers buffer).chars bounds).Reports
      (m.groupNames k.pattern).length bounds := by
    intro k
    refine c.reports_outcome hm k hle (hstop.trans_eq ?_)
    exact (congrArg List.length hunits).trans (length_unitsOf _)
  constructor
  · intro e hc
    rw [hrefused e hc]
    exact ⟨rfl, rfl⟩
  · intro k hc
    obtain ⟨left, ha, hpattern, hoptions, htemplate⟩ := haccepted k hc
    rw [ha]
    exact ⟨_, rfl, hpattern, hoptions, htemplate⟩
  · intro htask
    cases hc : c.accept given with
    | error e =>
      rw [hrefused e hc]
      show (-1 : Int) ≤ 0
      decide
    | ok k =>
      obtain ⟨left, ha, -⟩ := haccepted k hc
      rw [ha, Call.outcome, htask]
      exact Int.le_refl 0
  · intro k left hc hstatus hleft
    obtain ⟨left', ha, -⟩ := haccepted k hc
    rw [ha] at hstatus hleft
    obtain rfl := Option.some.inj hleft
    exact (hreports k).nothing hstatus
  · intro k source t hc htask hsource ht
    obtain ⟨left, ha, -⟩ := haccepted k hc
    refine ⟨left, ?_⟩
    rw [ha, c.outcome_of_kept htask, k.template?_of_compile hsource ht]
  · intro k hc htask hbad
    obtain ⟨left, ha, -⟩ := haccepted k hc
    rw [ha, c.outcome_of_kept htask, k.template?_eq_none hbad]
    rfl
  · intro k source e hc htask he
    obtain ⟨left, ha, hpattern, hoptions, htemplate⟩ := haccepted k hc
    have hsource : k.template = some source := by
      apply c.template_of_accept hc
      rw [htask]
      rfl
    rw [ha]
    refine ⟨?_, _, rfl, hpattern, hoptions, htemplate.trans (k.template?_of_refused hsource he)⟩
    rw [Call.outcome, htask]
    simp only [he]
    rfl
  · intro left hleft limits buffer' bounds'
    obtain ⟨ledger, hbuffers, hslots⟩ := hB
    have hbooked := c.answer_booked (hbuffers buffer) (hslots slot) hleft
    rw [hleft]
    exact ⟨_, compileAndMatch_booked_eq (hbuffers buffer') limits hbooked rfl bounds'⟩
  · intro hstatus
    cases hc : c.accept given with
    | error e =>
      rw [hrefused e hc] at hstatus
      have hneg : (0 : Int) < -1 := hstatus
      exact absurd hneg (by decide)
    | ok k =>
      obtain ⟨left, ha, hpattern, -, -⟩ := haccepted k hc
      rw [ha] at hstatus ⊢
      refine ⟨_, rfl, ?_⟩
      show _ = (m.groupNames left.pattern).length ∧ _
      rw [hpattern]
      exact (hreports k).found hstatus

end Bench

/-- **A place follows the calls that are made on it.** After any events, a template in the place was
compiled against the pattern there, from the source that was given last, and stands for groups of
that pattern. The next call, with any text and any range inside it, does what was given until then
says. -/
theorem slot_follows_calls (m : Matcher) (hm : m.Lawful) (events : List Bench.Event) (slot : Nat) :
    let B := Bench.after m events
    let given := Bench.contentsAfter m slot events
    (∀ h t, B.slots slot = some h → h.template = some t →
      (∃ k source, given = some k ∧ k.template = some source ∧
        Template.compile (m.groupNames h.pattern) source = .ok t) ∧
      ∀ i, .group i ∈ t.pieces → i < (m.groupNames h.pattern).length) ∧
    ∀ (buffer : Nat) (c : Call) (bounds : Bounds), bounds.start ≤ bounds.stop →
      bounds.stop ≤ (B.buffers buffer).length →
      B.Settles slot buffer given c bounds (B.answer slot buffer c bounds) := by
  intro B given
  have hslot : Held given (B.slots slot) := Bench.held_after slot events
  constructor
  · intro h t hh ht
    rw [hh] at hslot
    cases hgiven : given with
    | none =>
      rw [hgiven] at hslot
      cases hslot
    | some k =>
      rw [hgiven] at hslot
      obtain ⟨hpattern, -, htemplate⟩ := Option.rel_some_some.1 hslot
      obtain ⟨source, hsource, hcompile⟩ := k.exists_source (htemplate.symm.trans ht)
      rw [← hpattern] at hcompile
      refine ⟨⟨k, source, rfl, hsource, hcompile⟩, ?_⟩
      intro i hi
      exact Template.group_lt_of_compileWith hcompile hi
  · intro buffer c bounds hle hstop
    exact (Bench.sound_after events).settles hm hslot buffer c hle hstop

/-- A template is given with a pattern, and then a pattern is refused. -/
def refusedLater : List Bench.Event :=
  [.filled 0 ⟨1, "aab"⟩, .substituted 0 0 {} (some "a*") (some "<$&>") none ⟨0, 3⟩,
    .matched 0 0 {} (some "(") none ⟨0, 3⟩ false]

/-- The template is used again, and with a bad one the pattern is still there. -/
theorem slot_follows_calls_after_refusal :
    let B := Bench.after starred refusedLater
    let again := B.answer 0 0 ⟨{}, none, none, .replace none⟩ ⟨0, 3⟩
    let bad := B.answer 0 0 ⟨{}, none, none, .replace (some "$7")⟩ ⟨0, 3⟩
    starred.Lawful ∧ 3 ≤ (B.buffers 0).length ∧
      again.status = 1 ∧ again.handle.map (·.region.output) = some (unitsOf "<aa>b".toList) ∧
      bad.status = -1 ∧ ∃ left, bad.handle = some left ∧ left.pattern = 'a' ∧
        left.template = none := by
  intro B again bad
  have hlength : 3 ≤ (B.buffers 0).length := by decide
  have hsettles := fun c => (slot_follows_calls starred starred_lawful refusedLater 0).2 0 c ⟨0, 3⟩
    (by decide) hlength
  obtain ⟨left, hagain⟩ := (hsettles ⟨{}, none, none, .replace none⟩).reused
    ⟨'a', {}, some "<$&>"⟩ "<$&>" bracketed rfl rfl rfl rfl
  obtain ⟨hbad, left', hleft, hpattern, -, htemplate⟩ :=
    (hsettles ⟨{}, none, none, .replace (some "$7")⟩).badTemplate ⟨'a', {}, some "$7"⟩ "$7"
      (.noSuchGroup 7) rfl rfl rfl
  have hstatus : again.status = 1 := congrArg Answer.status hagain
  have houtput : again.handle.map (·.region.output) = some (unitsOf "<aa>b".toList) :=
    congrArg (·.handle.map (·.region.output)) hagain
  exact ⟨starred_lawful, hlength, hstatus, houtput, hbad, left', hleft, hpattern, htemplate⟩

end PatternSession
