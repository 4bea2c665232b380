import PatternSession.Proofs.CallCourses
import PatternSession.Proofs.Generations
import PatternSession.Proofs.Outcomes
import PatternSession.Proofs.Sweep

/-!
# The bundled engine without sessions

A `Bench` is what a caller of the engine itself has before it: text copies, places for handles, and
one supply of generations. Any call may be made with any copy and any handle, so a handle sees many
texts and a text many handles.

**Theorem (`Bench.sound_after`).** Whatever calls are made, copies and decoded texts stay booked in
one ledger. So a call with a copy and a handle of the bench is a call on the text of the copy.

**Chains of calls.** `matchChain` makes matching calls, each from where the match before ended, one
character further after an empty one. On the text of a copy it walks the chain of searches
(`matchChain_eq`), as the iterations of a session do.
-/

namespace PatternSession

open Bundled

variable {m : Matcher}

/-! ## Handles with booked texts -/

/-- What the handle has decoded is booked. -/
def Bundled.Handle.Booked (ledger : Ledger) (supply : Supply) (h : Handle m) : Prop :=
  ∀ hay, h.haystack = some hay → hay.Booked ledger supply

section Booked

variable {ledger ledger' : Ledger} {supply supply' : Supply} {b : TextBuffer}
  {slot : Option (Handle m)} {h : Handle m}

theorem Bundled.Handle.Booked.continue (hh : h.Booked ledger supply)
    (hc : ledger.Continues supply ledger' supply') : h.Booked ledger' supply' :=
  fun hay hhay => (hh hay hhay).continue hc

/-- A handle that has decoded the text of a booked copy is booked. -/
theorem booked_of_decoded (hb : b.Booked ledger supply)
    (hhay : h.haystack = some (.ofChars b.generation b.chars)) : h.Booked ledger supply := by
  intro hay h'
  obtain rfl := Option.some.inj (hhay.symm.trans h')
  exact hb.decoding

/-- So is one that has decoded nothing but what a booked handle in the place has. -/
theorem Bundled.Handle.Keeps.booked (hkeeps : h.Keeps slot)
    (hslot : ∀ h, slot = some h → h.Booked ledger supply) : h.Booked ledger supply := by
  intro hay hhay
  rcases hkeeps with hnone | ⟨held, hheld, heq⟩
  · rw [hnone] at hhay
    cases hhay
  · exact hslot held hheld hay (heq.symm.trans hhay)

/-- **What a call with a booked copy leaves is booked,** whatever is in the place. -/
theorem Bundled.Call.answer_booked (hb : b.Booked ledger supply)
    (hslot : ∀ h, slot = some h → h.Booked ledger supply) {c : Call} {bounds : Bounds}
    (ha : (c.answer (b.range bounds) slot).handle = some h) : h.Booked ledger supply := by
  rcases c.left_cases ha with ⟨-, hkeeps⟩ | ⟨h₁, -, hkeeps, hused⟩
  · exact hkeeps.booked hslot
  · exact booked_of_decoded hb (hused _ (hb.fits (hkeeps.booked hslot) bounds).prepare?_eq)

end Booked

/-! ## Benches -/

/-- The function with another value in one place. -/
def setAt {α : Type} (f : Nat → α) (place : Nat) (value : α) : Nat → α :=
  fun i => if i = place then value else f i

theorem forall_setAt {α : Type} {P : α → Prop} {f : Nat → α} {place : Nat} {value : α}
    (hvalue : P value) (hf : ∀ i, P (f i)) (i : Nat) : P (setAt f place value i) := by
  unfold setAt
  split
  · exact hvalue
  · exact hf i

/-- A value put where it is already changes nothing. -/
theorem setAt_self {α : Type} (f : Nat → α) (place : Nat) : setAt f place (f place) = f := by
  funext i
  unfold setAt
  split
  next hi => rw [hi]
  next => rfl

/-- Text copies, places for handles, and the supply of generations. -/
structure Bench (m : Matcher) where
  buffers : Nat → TextBuffer := fun _ => {}
  slots : Nat → Option (Handle m) := fun _ => none
  supply : Supply := {}

namespace Bench

/-- What a caller may do, always naming the copy and the handle it does it with. -/
inductive Event where
  | filled (buffer : Nat) (text : Text)
  | emptied (buffer : Nat)
  | matched (slot buffer : Nat) (limits : Limits) (pattern options : Option String)
    (bounds : Bounds) (oneShot : Bool)
  | substituted (slot buffer : Nat) (limits : Limits) (pattern template options : Option String)
    (bounds : Bounds)
  | freed (slot : Nat)

def step (B : Bench m) : Event → Bench m
  | .filled buffer text =>
    let filled := (B.buffers buffer).ensure B.supply text
    { B with buffers := setAt B.buffers buffer filled.1, supply := filled.2 }
  | .emptied buffer => { B with buffers := setAt B.buffers buffer (B.buffers buffer).free }
  | .matched slot buffer limits pattern options bounds oneShot =>
    let a := compileAndMatch limits
      ⟨pattern, options, (B.buffers buffer).range bounds, oneShot⟩ (B.slots slot)
    { B with slots := setAt B.slots slot a.handle }
  | .substituted slot buffer limits pattern template options bounds =>
    let a := compileAndSubstitute limits
      ⟨pattern, template, options, (B.buffers buffer).range bounds⟩ (B.slots slot)
    { B with slots := setAt B.slots slot a.handle }
  | .freed slot => { B with slots := setAt B.slots slot none }

/-- The bench after the events, from an empty one. -/
def after (m : Matcher) (events : List Event) : Bench m := events.foldl step {}

/-- All copies and all decoded texts are booked in one ledger. -/
def Sound (B : Bench m) : Prop :=
  ∃ ledger : Ledger, (∀ i, (B.buffers i).Booked ledger B.supply) ∧
    ∀ i h, B.slots i = some h → h.Booked ledger B.supply

theorem Sound.step {B : Bench m} (hB : B.Sound) (e : Event) : (B.step e).Sound := by
  obtain ⟨ledger, hbuffers, hslots⟩ := hB
  -- what a call leaves in its place, the other places being as they were
  have hplaced : ∀ {slot : Nat} {left : Option (Handle m)},
      (∀ h, left = some h → h.Booked ledger B.supply) →
        ∀ i h, setAt B.slots slot left i = some h → h.Booked ledger B.supply := by
    intro slot left hleft
    exact forall_setAt (P := fun held => ∀ h : Handle m, held = some h → h.Booked ledger B.supply)
      hleft hslots
  cases e with
  | filled buffer text =>
    obtain ⟨ledger', hc, hfilled⟩ := (hbuffers buffer).ensure text
    refine ⟨ledger', ?_, ?_⟩
    · exact forall_setAt hfilled fun i => (hbuffers i).continue hc
    · intro i h hi
      exact (hslots i h hi).continue hc
  | emptied buffer =>
    refine ⟨ledger, ?_, hslots⟩
    exact forall_setAt .empty hbuffers
  | matched slot buffer limits pattern options bounds oneShot =>
    refine ⟨ledger, hbuffers, ?_⟩
    apply hplaced
    intro h hi
    exact Call.answer_booked (c := ⟨limits, pattern, options, .search oneShot⟩) (hbuffers buffer)
      (hslots slot) hi
  | substituted slot buffer limits pattern template options bounds =>
    refine ⟨ledger, hbuffers, ?_⟩
    apply hplaced
    intro h hi
    exact Call.answer_booked (c := ⟨limits, pattern, options, .replace template⟩) (hbuffers buffer)
      (hslots slot) hi
  | freed slot =>
    refine ⟨ledger, hbuffers, ?_⟩
    apply hplaced
    intro h hi
    cases hi

/-- **Every bench is sound.** -/
theorem sound_after (events : List Event) : (after m events).Sound := by
  have hrun : ∀ B : Bench m, B.Sound → (events.foldl Bench.step B).Sound := by
    induction events with
    | nil => exact fun B hB => hB
    | cons e events ih => exact fun B hB => ih _ (hB.step e)
  exact hrun {} ⟨fun _ => [], fun _ => .empty, fun i h hi => by cases hi⟩

end Bench

/-! ## Chains of matching calls -/

/-- Matching calls on a handle, from `pos` on: the groups they report, and the message of the one
that failed. `fuel` bounds the number of calls. -/
def matchChain (limits : Limits) (b : TextBuffer) (stop : Nat) :
    (fuel pos : Nat) → Option (Handle m) → List (List (Option GroupBounds)) × Option String
  | 0, _, _ => ([], none)
  | fuel + 1, pos, slot =>
    if stop < pos then ([], none)
    else
      let a := compileAndMatch limits ⟨none, none, b.range ⟨pos, stop⟩, false⟩ slot
      if a.status < 0 then ([], a.message)
      else if a.status = 0 then ([], none)
      else
        let groups := (a.handle.map (·.region.groups)).getD []
        let rest := matchChain limits b stop fuel (wholeOf groups).resume a.handle
        (groups :: rest.1, rest.2)

/-- A matching call is a search of the text of the copy, whatever the handle has seen before. -/
theorem compileAndMatch_booked_eq {ledger : Ledger} {supply : Supply} {b : TextBuffer}
    (hb : b.Booked ledger supply) {p : m.Pattern} (limits : Limits) {h : Handle m}
    (hh : h.Booked ledger supply) (hpattern : h.pattern = p) (bounds : Bounds) :
    compileAndMatch limits ⟨none, none, b.range bounds, false⟩ (some h) =
      (searchOutcome m p b.chars bounds).answer (h.decoded (b.range bounds) b.chars) := by
  have hresolve : resolve limits none none (some h) = .ok h := rfl
  rw [← hpattern]
  exact compileAndMatch_eq hresolve rfl (hb.fits hh bounds)

/-- **The calls walk the chain of searches.** -/
theorem matchChain_eq (hm : m.Lawful) {ledger : Ledger} {supply : Supply} {b : TextBuffer}
    (hb : b.Booked ledger supply) {p : m.Pattern} {stop pos : Nat} (hstop : stop ≤ b.chars.length)
    {occs : List Occurrence} {failure : Option String}
    (hchain : Chain (look m p b.chars stop) stop pos occs failure) (limits : Limits)
    {h : Handle m} (hh : h.Booked ledger supply) (hpattern : h.pattern = p) {fuel : Nat}
    (hfuel : stop + 1 - pos ≤ fuel) :
    matchChain limits b stop fuel pos (some h) =
      (occs.map (·.groups), failure.map cutMessage) := by
  -- along the chain, for every handle that is booked: each call leaves another one
  induction hchain generalizing h fuel with
  | past hpast =>
    cases fuel with
    | zero => rfl
    | succ fuel =>
      rw [matchChain, if_pos hpast]
      rfl
  | failed hpos hlook =>
    obtain ⟨fuel, rfl⟩ : ∃ n, fuel = n + 1 := ⟨fuel - 1, by omega⟩
    rw [matchChain, if_neg (Nat.not_lt.2 hpos), compileAndMatch_booked_eq hb limits hh hpattern]
    simp only [searchOutcome, hlook]
    rfl
  | ended hpos hlook =>
    obtain ⟨fuel, rfl⟩ : ∃ n, fuel = n + 1 := ⟨fuel - 1, by omega⟩
    rw [matchChain, if_neg (Nat.not_lt.2 hpos), compileAndMatch_booked_eq hb limits hh hpattern]
    simp only [searchOutcome, hlook]
    rfl
  | @found pos groups occs failure hpos hlook hrest ih =>
    obtain ⟨fuel, rfl⟩ : ∃ n, fuel = n + 1 := ⟨fuel - 1, by omega⟩
    have hlt := Chain.lt_resume (look_fits hm hstop) hpos hlook
    -- the handle that the call leaves has the decoding of the same text
    have hleft : ({ h.decoded (b.range ⟨pos, stop⟩) b.chars with region := { groups } } :
        Handle m).Booked ledger supply := booked_of_decoded hb rfl
    have hfuel' : stop + 1 - (wholeOf groups).resume ≤ fuel := by omega
    have hmatched : ¬ (1 : Int) < 0 ∧ ¬ (1 : Int) = 0 := by decide
    rw [matchChain, if_neg (Nat.not_lt.2 hpos), compileAndMatch_booked_eq hb limits hh hpattern]
    simp only [searchOutcome, hlook, Outcome.answer, if_neg hmatched.1, if_neg hmatched.2,
      Option.map_some, Option.getD_some, ih hleft hpattern hfuel']
    rfl

end PatternSession
