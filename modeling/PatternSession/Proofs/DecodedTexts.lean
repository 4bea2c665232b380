import PatternSession.Proofs.HandleSlot

/-!
# Which text a handle searches

A handle keeps the decoding of a text for the calls to come and takes it for the text of every range
of the same generation. The decoding outlives the copy that it was made from, and any copy may be
shown to any handle.

**The record.** Beside a bench it is written down which texts have been copied, in order, and which
of these copies every buffer holds (`Copies`), and which of them the handle in every place decoded
last (`Record.origin`). A copy is known by its number in this order; generations do not occur in the
record.

**Theorem (`searched_text_is_held_text`).** A call that comes to its text searches the text that is
held by the buffer of its range, up to the end of the range and from its start on, whatever has
happened on the bench. The text is decoded anew exactly when the handle has nothing decoded, or has
decoded another copy, or no copy at all. Ranges of one generation show the same units, at whatever
times they are taken.

**Proof.** Copy number `n` has generation `n + 1` (`Copies.In`), and what a handle has decoded has
the generation of its origin (`Record.Kept`). So a decoding is reused for the copy that it was made
from and for no other. That it is then the right text is known of every bench (`Sound.fits`).
-/

namespace PatternSession

open Bundled

variable {m : Matcher}

/-! ## Counting decodings -/

namespace Haystack

/-- The haystack for a range, and how many texts are decoded for it. -/
def prepareCounting (cached : Option Haystack) (r : TextRange) : Option Haystack × Nat :=
  match cached with
  | some h => if h.serves r then (some h, 0) else (build? r, 1)
  | none => (build? r, 1)

theorem prepareCounting_fst (cached : Option Haystack) (r : TextRange) :
    (prepareCounting cached r).1 = prepare? cached r := by
  unfold prepareCounting prepare?
  cases cached with
  | none => rfl
  | some h =>
    dsimp only
    split <;> rfl

theorem generation_of_build? {r : TextRange} {hay : Haystack} (h : build? r = some hay) :
    hay.generation = r.generation := by
  obtain ⟨cs, -, rfl⟩ := Option.map_eq_some_iff.1 h
  rfl

/-- What serves the range is used, and nothing is decoded for it; otherwise the text is decoded. -/
theorem prepareCounting_cases (cached : Option Haystack) (r : TextRange) :
    (∃ hay, cached = some hay ∧ hay.serves r = true ∧ prepareCounting cached r = (some hay, 0)) ∨
      ((∀ hay, cached = some hay → hay.serves r = false) ∧
        prepareCounting cached r = (build? r, 1)) := by
  cases cached with
  | none =>
    refine .inr ⟨?_, rfl⟩
    rintro _ ⟨⟩
  | some hay =>
    cases hserves : hay.serves r with
    | true => exact .inl ⟨hay, rfl, hserves, if_pos hserves⟩
    | false =>
      refine .inr ⟨?_, if_neg (Bool.eq_false_iff.1 hserves)⟩
      rintro _ ⟨⟩
      exact hserves

end Haystack

/-! ## What a call decodes -/

namespace Bundled

/-- How many texts a call decodes. -/
def Call.decodings (c : Call) (r : TextRange) (slot : Option (Handle m)) : Nat :=
  match c.opened? slot with
  | some h => (Haystack.prepareCounting h.haystack r).2
  | none => 0

section Calls

variable {c : Call} {slot : Option (Handle m)} {h left : Handle m} {r : TextRange}

theorem Call.decodings_of_opened (ho : c.opened? slot = some h) (r : TextRange) :
    c.decodings r slot = (Haystack.prepareCounting h.haystack r).2 := by
  rw [decodings, ho]

theorem Call.decodings_of_not_opened (ho : c.opened? slot = none) (r : TextRange) :
    c.decodings r slot = 0 := by
  rw [decodings, ho]

/-- What a call decodes is found in the handle that it leaves; otherwise nothing new is. -/
theorem Call.decoded
    (hfits : ∀ h : Handle m, h.Keeps slot → ∃ hay, Haystack.prepare? h.haystack r = some hay)
    (hleft : (c.answer r slot).handle = some left) {hay : Haystack}
    (hhay : left.haystack = some hay) :
    if c.decodings r slot = 0 then ∃ held, slot = some held ∧ held.haystack = some hay
    else hay.generation = r.generation := by
  -- what was at hand is in the place
  have hkept : ∀ h : Handle m, h.Keeps slot → h.haystack = some hay →
      ∃ held, slot = some held ∧ held.haystack = some hay := by
    intro h hkeeps hh
    rcases hkeeps with hnone | ⟨held, hslot, heq⟩
    · rw [hnone] at hh
      cases hh
    · exact ⟨held, hslot, heq.symm.trans hh⟩
  rcases c.left_cases hleft with ⟨ho, hkeeps⟩ | ⟨h, ho, hkeeps, hused⟩
  · rw [c.decodings_of_not_opened ho, if_pos rfl]
    exact hkept left hkeeps hhay
  · rw [c.decodings_of_opened ho]
    obtain ⟨hay', hprepare⟩ := hfits h hkeeps
    obtain rfl := Option.some.inj (hhay.symm.trans (hused hay' hprepare))
    rw [← Haystack.prepareCounting_fst] at hprepare
    rcases Haystack.prepareCounting_cases h.haystack r with ⟨_, hcached, -, heq⟩ | ⟨-, heq⟩
    · rw [heq] at hprepare ⊢
      obtain rfl := Option.some.inj hprepare
      exact hkept h hkeeps hcached
    · rw [heq] at hprepare ⊢
      exact Haystack.generation_of_build? hprepare

end Calls

end Bundled

/-! ## Copies by number -/

namespace Bench

/-- The texts that were copied, in order, and which of the copies every buffer holds. -/
structure Copies where
  made : List Text := []
  held : Nat → Option Nat := fun _ => none

/-- The generation of a copy, or of none. -/
def generationOf (copy : Option Nat) : Nat := copy.elim 0 (· + 1)

theorem generationOf_ne_zero {copy : Option Nat} : generationOf copy ≠ 0 ↔ copy ≠ none := by
  cases copy with
  | none => simp [generationOf]
  | some n => simp [generationOf]

theorem generationOf_inj {copy copy' : Option Nat} :
    generationOf copy = generationOf copy' ↔ copy = copy' := by
  cases copy <;> cases copy' <;> simp [generationOf]

/-- A buffer that has the copy of this number, or nothing. -/
inductive Has (made : List Text) : Option Nat → TextBuffer → Prop
  | nothing : Has made none {}
  | copy {n : Nat} {text : Text} (text_eq : made[n]? = some text) :
      Has made (some n) ⟨some ⟨text, unitsOf text.chars, n + 1⟩⟩

namespace Has

variable {made : List Text} {copy : Option Nat} {b : TextBuffer}

theorem generation_eq (h : Has made copy b) : b.generation = generationOf copy := by
  cases h <;> rfl

theorem source_eq (h : Has made copy b) :
    b.held.map (·.source) = copy.bind fun n => made[n]? := by
  cases h with
  | nothing => rfl
  | copy text_eq => exact text_eq.symm

theorem generation_le (h : Has made copy b) : b.generation ≤ made.length := by
  cases h with
  | nothing => exact Nat.zero_le _
  | copy text_eq => exact (List.getElem?_eq_some_iff.1 text_eq).1

/-- Copies that are made later take nothing away. -/
theorem append (h : Has made copy b) (more : List Text) : Has (made ++ more) copy b := by
  cases h with
  | nothing => exact .nothing
  | copy text_eq =>
    refine .copy ?_
    rw [List.getElem?_append_left (List.getElem?_eq_some_iff.1 text_eq).1]
    exact text_eq

/-- Copies of one generation, the other perhaps made later, show the same. -/
theorem units_eq {more : List Text} {copy' : Option Nat} {b' : TextBuffer} (h : Has made copy b)
    (h' : Has (made ++ more) copy' b') (heq : b.generation = b'.generation) :
    b.units = b'.units := by
  obtain rfl := generationOf_inj.1 (h.generation_eq.symm.trans (heq.trans h'.generation_eq))
  cases h.append more with
  | nothing =>
    cases h'
    rfl
  | copy text_eq =>
    cases h' with
    | copy text_eq' =>
      obtain rfl := Option.some.inj (text_eq.symm.trans text_eq')
      rfl

end Has

namespace Copies

/-- The text of the copy that a buffer holds. -/
def text? (K : Copies) (buffer : Nat) : Option Text := (K.held buffer).bind fun n => K.made[n]?

/-- The characters of this text. -/
def chars (K : Copies) (buffer : Nat) : List Char := ((K.text? buffer).map Text.chars).getD []

/-- A copy is made of every text that the buffer does not hold already. -/
def step (K : Copies) : Event → Copies
  | .filled buffer text =>
    if K.text? buffer = some text then K
    else ⟨K.made ++ [text], setAt K.held buffer (some K.made.length)⟩
  | .emptied buffer => { K with held := setAt K.held buffer none }
  | .matched .. | .substituted .. | .freed _ => K

/-- The buffers of the bench hold the copies that are written down, and the supply is past them. -/
structure In (K : Copies) (B : Bench m) : Prop where
  next_eq : B.supply.next = K.made.length + 1
  has : ∀ i, Has K.made (K.held i) (B.buffers i)

namespace In

variable {K : Copies} {B : Bench m}

theorem text?_eq (hK : K.In B) (i : Nat) : (B.buffers i).held.map (·.source) = K.text? i :=
  (hK.has i).source_eq

theorem chars_eq (hK : K.In B) (i : Nat) : (B.buffers i).chars = K.chars i := by
  rw [chars, ← hK.text?_eq, TextBuffer.chars]
  cases (B.buffers i).held <;> rfl

end In

/-- Texts are only added. -/
theorem made_step (K : Copies) (e : Event) : ∃ more, (K.step e).made = K.made ++ more := by
  have hnone : ∃ more, K.made = K.made ++ more := ⟨[], (List.append_nil _).symm⟩
  cases e with
  | filled buffer text =>
    unfold step
    dsimp only
    split
    · exact hnone
    · exact ⟨[text], rfl⟩
  | emptied | matched | substituted | freed => exact hnone

end Copies

/-- A buffer in another place, or the one put there. -/
theorem has_setAt {made : List Text} {held : Nat → Option Nat} {buffers : Nat → TextBuffer}
    {place : Nat} {copy : Option Nat} {b : TextBuffer} (hput : Has made copy b)
    (hothers : ∀ i, Has made (held i) (buffers i)) (i : Nat) :
    Has made (setAt held place copy i) (setAt buffers place b i) := by
  unfold setAt
  split
  · exact hput
  · exact hothers i

theorem Copies.In.step {K : Copies} {B : Bench m} (hK : K.In B) (e : Event) :
    (K.step e).In (B.step e) := by
  cases e with
  | filled buffer text =>
    unfold Copies.step Bench.step
    dsimp only
    rcases (B.buffers buffer).ensure_cases B.supply text with ⟨hheld, heq⟩ | ⟨hheld, heq⟩
    · rw [hK.text?_eq] at hheld
      rw [if_pos hheld, heq, setAt_self]
      exact ⟨hK.next_eq, hK.has⟩
    · rw [hK.text?_eq] at hheld
      rw [if_neg hheld, heq, TextBuffer.fill, hK.next_eq]
      refine ⟨?_, has_setAt (.copy List.getElem?_concat_length) fun i => (hK.has i).append [text]⟩
      rw [List.length_append]
      rfl
  | emptied buffer => exact ⟨hK.next_eq, has_setAt .nothing hK.has⟩
  | matched | substituted | freed => exact ⟨hK.next_eq, hK.has⟩

/-! ## The record -/

/-- A call on a place, with a range of a copy. -/
structure Use where
  slot : Nat
  buffer : Nat
  call : Call
  bounds : Bounds

/-- The call that an event makes. -/
def Event.use? : Event → Option Use
  | .filled _ _ | .emptied _ | .freed _ => none
  | .matched slot buffer limits pattern options bounds oneShot =>
    some ⟨slot, buffer, ⟨limits, pattern, options, .search oneShot⟩, bounds⟩
  | .substituted slot buffer limits pattern template options bounds =>
    some ⟨slot, buffer, ⟨limits, pattern, options, .replace template⟩, bounds⟩

/-- How many texts are decoded for a call. -/
def decodings (B : Bench m) (u : Use) : Nat :=
  u.call.decodings ((B.buffers u.buffer).range u.bounds) (B.slots u.slot)

/-- A bench, with what is written down beside it. -/
structure Record (m : Matcher) where
  bench : Bench m := {}
  copies : Copies := {}
  /-- The copy that was decoded last in every place, if it was one. -/
  origin : Nat → Option Nat := fun _ => none

namespace Record

/-- The copy of a call is written down when the call decodes. -/
def step (R : Record m) (e : Event) : Record m where
  bench := R.bench.step e
  copies := R.copies.step e
  origin :=
    match e.use? with
    | some u =>
      if R.bench.decodings u = 0 then R.origin
      else setAt R.origin u.slot (R.copies.held u.buffer)
    | none => R.origin

/-- The record of the events, on an empty bench. -/
def after (m : Matcher) (events : List Event) : Record m := events.foldl step {}

/-- Copies and decoded texts have the generations of the numbers that are written down. -/
structure Kept (R : Record m) : Prop where
  sound : R.bench.Sound
  copies : R.copies.In R.bench
  origins : ∀ slot h hay, R.bench.slots slot = some h → h.haystack = some hay →
    hay.generation = generationOf (R.origin slot)

theorem bench_foldl (events : List Event) (R : Record m) :
    (events.foldl step R).bench = events.foldl Bench.step R.bench := by
  induction events generalizing R with
  | nil => rfl
  | cons e events ih => exact ih (R.step e)

theorem bench_after (m : Matcher) (events : List Event) :
    (after m events).bench = Bench.after m events :=
  bench_foldl events {}

theorem made_foldl (events : List Event) (R : Record m) :
    ∃ more, (events.foldl step R).copies.made = R.copies.made ++ more := by
  induction events generalizing R with
  | nil => exact ⟨[], (List.append_nil _).symm⟩
  | cons e events ih =>
    obtain ⟨more, hmore⟩ := R.copies.made_step e
    obtain ⟨later, hlater⟩ := ih (R.step e)
    refine ⟨more ++ later, hlater.trans ?_⟩
    rw [← List.append_assoc, ← hmore]
    rfl

theorem made_after (m : Matcher) (events later : List Event) :
    ∃ more, (after m (events ++ later)).copies.made = (after m events).copies.made ++ more := by
  rw [after, List.foldl_append]
  exact made_foldl later (after m events)

namespace Kept

variable {R : Record m}

/-- What a handle has at hand fits every copy of the bench. -/
theorem fits (hR : R.Kept) {slot : Nat} {h : Handle m} (hkeeps : h.Keeps (R.bench.slots slot))
    (buffer : Nat) (bounds : Bounds) :
    Haystack.Fits h.haystack ((R.bench.buffers buffer).range bounds) (R.copies.chars buffer) := by
  obtain ⟨hunits, hfits⟩ := hR.sound.fits slot buffer bounds
  rw [hR.copies.chars_eq] at hunits hfits
  rcases hkeeps with hnone | ⟨held, hslot, heq⟩
  · rw [hnone]
    refine ⟨hunits, ?_⟩
    rintro _ ⟨⟩
  · rw [heq]
    exact hfits held hslot

/-- What is decoded serves the ranges of its origin, and no others. -/
theorem serves_iff (hR : R.Kept) {slot : Nat} {h : Handle m} {hay : Haystack}
    (hkeeps : h.Keeps (R.bench.slots slot)) (hhay : h.haystack = some hay) (buffer : Nat)
    (bounds : Bounds) :
    hay.serves ((R.bench.buffers buffer).range bounds) = true ↔
      R.origin slot ≠ none ∧ R.origin slot = R.copies.held buffer := by
  obtain ⟨held, hslot, heq⟩ : ∃ held, R.bench.slots slot = some held ∧
      h.haystack = held.haystack := by
    rcases hkeeps with hnone | hheld
    · rw [hnone] at hhay
      cases hhay
    · exact hheld
  rw [heq] at hhay
  have hrange : ((R.bench.buffers buffer).range bounds).generation =
      generationOf (R.copies.held buffer) := (hR.copies.has buffer).generation_eq
  simp only [Haystack.serves, Bool.and_eq_true, decide_eq_true_eq, hrange,
    hR.origins slot held hay hslot hhay, generationOf_ne_zero, generationOf_inj]

/-- A call leaves a decoding of the origin that is written down then. -/
theorem call (hR : R.Kept) {u : Use} {slot : Nat} {h : Handle m} {hay : Haystack}
    (hleft : setAt R.bench.slots u.slot (R.bench.answer u.slot u.buffer u.call u.bounds).handle
      slot = some h) (hhay : h.haystack = some hay) :
    hay.generation = generationOf ((if R.bench.decodings u = 0 then R.origin
      else setAt R.origin u.slot (R.copies.held u.buffer)) slot) := by
  unfold setAt at hleft
  split at hleft
  next hslot =>
    subst hslot
    have hdecoded : if R.bench.decodings u = 0 then
          ∃ held, R.bench.slots u.slot = some held ∧ held.haystack = some hay
        else hay.generation = (R.bench.buffers u.buffer).generation :=
      u.call.decoded (fun h hkeeps => ⟨_, (hR.fits hkeeps u.buffer u.bounds).prepare?_eq⟩)
        hleft hhay
    by_cases hnone : R.bench.decodings u = 0
    · rw [if_pos hnone]
      rw [if_pos hnone] at hdecoded
      obtain ⟨held, hheld, hhay'⟩ := hdecoded
      exact hR.origins _ held hay hheld hhay'
    · rw [if_neg hnone, setAt, if_pos rfl]
      rw [if_neg hnone] at hdecoded
      exact hdecoded.trans (hR.copies.has u.buffer).generation_eq
  next hslot =>
    have horigin : (if R.bench.decodings u = 0 then R.origin
        else setAt R.origin u.slot (R.copies.held u.buffer)) slot = R.origin slot := by
      split
      · rfl
      · exact if_neg hslot
    rw [horigin]
    exact hR.origins slot h hay hleft hhay

theorem step (hR : R.Kept) (e : Event) : (R.step e).Kept := by
  refine ⟨hR.sound.step e, hR.copies.step e, ?_⟩
  intro slot h hay hh hhay
  cases e with
  | filled | emptied => exact hR.origins slot h hay hh hhay
  | matched => exact hR.call hh hhay
  | substituted => exact hR.call hh hhay
  | freed place =>
    have hslots : setAt R.bench.slots place none slot = some h := hh
    unfold setAt at hslots
    split at hslots
    · cases hslots
    · exact hR.origins slot h hay hslots hhay

theorem foldl (hR : R.Kept) (events : List Event) : (events.foldl Record.step R).Kept := by
  induction events generalizing R with
  | nil => exact hR
  | cons e events ih => exact ih (hR.step e)

/-- **A record is right at all times.** -/
theorem after (events : List Event) : (Record.after m events).Kept := by
  have hempty : Kept ({} : Record m) := by
    refine ⟨Bench.sound_after [], ⟨rfl, fun _ => .nothing⟩, ?_⟩
    intro slot h hay hh
    cases hh
  exact hempty.foldl events

end Kept

/-! ## The theorem -/

/-- What a call looks at when it comes to its text with the handle `h`. -/
structure Reads (R : Record m) (u : Use) (h : Handle m) : Prop where
  /-- The decoding that is used shows the text that the buffer holds, up to the end of the range,
  and the search begins at the start of the range. -/
  shown : ∃ hay,
    Haystack.prepare? h.haystack ((R.bench.buffers u.buffer).range u.bounds) = some hay ∧
      hay.visible ((R.bench.buffers u.buffer).range u.bounds) =
        (R.copies.chars u.buffer).take u.bounds.stop ∧
      hay.byte u.bounds.start = byteLength ((R.copies.chars u.buffer).take u.bounds.start)
  /-- So the answer is about that text. -/
  answered : ∃ left,
    match u.call.task with
    | .search _ => R.bench.answer u.slot u.buffer u.call u.bounds =
        (searchOutcome m h.pattern (R.copies.chars u.buffer) u.bounds).answer left
    | .replace _ => ∃ t, h.template = some t ∧ R.bench.answer u.slot u.buffer u.call u.bounds =
        (substituteOutcome m h.pattern (R.copies.chars u.buffer) u.bounds t
          h.options.global).answer left
  /-- One text is decoded at the most. -/
  decoded_le : R.bench.decodings u ≤ 1
  /-- It is when nothing is decoded yet, or when it was another copy, or none. -/
  decoded_iff : R.bench.decodings u = 1 ↔
    h.haystack = none ∨ R.origin u.slot = none ∨ R.origin u.slot ≠ R.copies.held u.buffer

theorem Kept.decodings_eq {R : Record m} (hR : R.Kept) (u : Use) {h : Handle m}
    (ho : u.call.opened? (R.bench.slots u.slot) = some h)
    (hkeeps : h.Keeps (R.bench.slots u.slot)) :
    R.bench.decodings u ≤ 1 ∧ (R.bench.decodings u = 1 ↔
      h.haystack = none ∨ R.origin u.slot = none ∨
        R.origin u.slot ≠ R.copies.held u.buffer) := by
  rw [Bench.decodings, u.call.decodings_of_opened ho]
  rcases Haystack.prepareCounting_cases h.haystack ((R.bench.buffers u.buffer).range u.bounds) with
    ⟨hay, hhay, hserves, heq⟩ | ⟨hothers, heq⟩
  · obtain ⟨hsome, hsame⟩ := (hR.serves_iff hkeeps hhay u.buffer u.bounds).1 hserves
    rw [heq, hhay]
    refine ⟨Nat.zero_le 1, iff_of_false Nat.zero_ne_one ?_⟩
    rintro (hnone | hnone | hother)
    · cases hnone
    · exact hsome hnone
    · exact hother hsame
  · rw [heq]
    refine ⟨Nat.le_refl 1, iff_of_true rfl ?_⟩
    cases hhay : h.haystack with
    | none => exact .inl rfl
    | some hay =>
      by_cases hnone : R.origin u.slot = none
      · exact .inr (.inl hnone)
      · refine .inr (.inr fun hsame => ?_)
        have hserves := (hR.serves_iff hkeeps hhay u.buffer u.bounds).2 ⟨hnone, hsame⟩
        rw [hothers hay hhay] at hserves
        cases hserves

/-- **A call that comes to its text reads what the buffer holds.** -/
theorem Kept.reads {R : Record m} (hR : R.Kept) (u : Use) {h : Handle m}
    (ho : u.call.opened? (R.bench.slots u.slot) = some h) : R.Reads u h := by
  have hcourse := u.call.course (R.bench.slots u.slot)
  rw [ho] at hcourse
  have hkeeps : h.Keeps (R.bench.slots u.slot) := by
    cases hcourse with
    | searched keeps => exact keeps
    | substituted keeps => exact keeps
  have hfits := hR.fits hkeeps u.buffer u.bounds
  obtain ⟨hle, hiff⟩ := hR.decodings_eq u ho hkeeps
  refine ⟨⟨_, hfits.prepare?_eq, ?_, ?_⟩, ?_, hle, hiff⟩
  · exact Haystack.visible_ofChars _ _ _
  · exact Haystack.byte_ofChars _ _ _
  · unfold answer
    cases hcourse with
    | searched keeps clear task answer =>
      rw [task, answer, searchOn_eq clear hfits]
      exact ⟨_, rfl⟩
    | substituted keeps clear task template answer =>
      rw [task, answer, substituteOn_eq _ clear hfits]
      exact ⟨_, _, template, rfl⟩

end Record

end Bench

/-- **What a call searches is the text that the buffer of its range holds.** Whatever has happened
on the bench: a call that comes to its text reads what the buffer holds (`Reads`), and one that does
not would answer the same for any range. Ranges of one generation show the same units, now and
later. Every copy is given a generation of its own, and nothing else is, so none is larger than the
number of copies. -/
theorem searched_text_is_held_text (m : Matcher) (events later : List Bench.Event) :
    let R := Bench.Record.after m events
    let B := Bench.after m events
    let B' := Bench.after m (events ++ later)
    R.bench = B ∧
    (∀ i, (B.buffers i).held.map (·.source) = R.copies.text? i) ∧
    (∀ (u : Bench.Use) (h : Handle m), u.call.opened? (B.slots u.slot) = some h → R.Reads u h) ∧
    (∀ (u : Bench.Use), u.call.opened? (B.slots u.slot) = none → ∀ r r' : TextRange,
      u.call.answer r (B.slots u.slot) = u.call.answer r' (B.slots u.slot)) ∧
    (∀ (i j : Nat) (bounds bounds' : Bounds),
      ((B.buffers i).range bounds).generation = ((B'.buffers j).range bounds').generation →
      ((B.buffers i).range bounds).units = ((B'.buffers j).range bounds').units) ∧
    B.supply.next = R.copies.made.length + 1 ∧
    ∀ (i : Nat) (bounds : Bounds),
      ((B.buffers i).range bounds).generation ≤ R.copies.made.length := by
  intro R B B'
  have hR : R.Kept := .after events
  have hlater : (Bench.Record.after m (events ++ later)).Kept := .after (events ++ later)
  have hbench : R.bench = B := Bench.Record.bench_after m events
  rw [← hbench]
  refine ⟨rfl, hR.copies.text?_eq, fun u h => hR.reads u, ?_, ?_, hR.copies.next_eq, ?_⟩
  · intro u hnone r r'
    have hcourse := u.call.course (R.bench.slots u.slot)
    rw [hnone] at hcourse
    cases hcourse with
    | ended answer keeps => rw [answer, answer]
  · intro i j bounds bounds' hsame
    have hhas := hlater.copies.has j
    obtain ⟨more, hmore⟩ := Bench.Record.made_after m events later
    rw [hmore, Bench.Record.bench_after] at hhas
    exact (hR.copies.has i).units_eq hhas hsame
  · intro i bounds
    exact (hR.copies.has i).generation_le

/-- Two copies of equal texts, the first decoded. -/
def equalTexts : List Bench.Event :=
  [.filled 0 ⟨1, "ébb"⟩, .filled 1 ⟨2, "ébb"⟩, .matched 0 0 {} (some "b*") none ⟨0, 3⟩ false]

/-- The first copy is not decoded again, the second one is. -/
theorem searched_text_is_held_text_of_equal_texts :
    let R := Bench.Record.after starred equalTexts
    let B := Bench.after starred equalTexts
    let first : Bench.Use := ⟨0, 0, ⟨{}, none, none, .search false⟩, ⟨1, 2⟩⟩
    let second : Bench.Use := { first with buffer := 1 }
    ∃ h, first.call.opened? (B.slots 0) = some h ∧ R.Reads first h ∧ R.Reads second h ∧
      R.bench.decodings first = 0 ∧ R.bench.decodings second = 1 := by
  intro R B first second
  obtain ⟨-, -, hreads, -⟩ := searched_text_is_held_text starred equalTexts []
  obtain ⟨h, hopened⟩ : ∃ h, first.call.opened? (B.slots 0) = some h :=
    Option.isSome_iff_exists.1 rfl
  have hfirst := hreads first h hopened
  have hsecond := hreads second h hopened
  have horigin : R.origin 0 = some 0 := rfl
  have hheld : R.copies.held 1 = some 1 := rfl
  have hother : R.origin 0 ≠ R.copies.held 1 := by
    rw [horigin, hheld]
    decide
  exact ⟨h, hopened, hfirst, hsecond, rfl, hsecond.decoded_iff.2 (.inr (.inr hother))⟩

end PatternSession
