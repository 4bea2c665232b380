import PatternSession.Proofs.Decoding

/-!
# Generations tell texts apart

An engine reuses a decoded text for every range of the same generation, whoever shows it. This is
sound because a generation is given to one copy only.

**The ledger.** A `Ledger` names the text of every generation. A copy is `Booked` when it shows the
text of its generation, and a decoded text when it is the decoding of it. A new copy takes a new
generation, so the ledger is only ever continued (`Ledger.Continues`): what is booked stays booked.

**Theorem (`TextBuffer.Booked.fits`).** A decoded text that is booked and serves a range is the
decoding of the text that the range shows.

Generation 0 is never reused, so nothing is asked of what carries it.
-/

namespace PatternSession

/-- The text of every generation. -/
abbrev Ledger := Nat → List Char

/-- The second ledger, read up to the second supply, has everything that the first one has. -/
structure Ledger.Continues (ledger : Ledger) (supply : Supply) (ledger' : Ledger)
    (supply' : Supply) : Prop where
  le : supply.next ≤ supply'.next
  same : ∀ g, g < supply.next → ledger' g = ledger g

theorem Ledger.Continues.refl (ledger : Ledger) (supply : Supply) :
    ledger.Continues supply ledger supply :=
  ⟨Nat.le_refl _, fun _ _ => rfl⟩

/-! ## Copies -/

/-- The characters held. -/
def TextBuffer.chars (b : TextBuffer) : List Char :=
  match b.held with
  | some copy => copy.source.chars
  | none => []

/-- The copy shows its source, which is the text of its generation. -/
structure TextCopy.Booked (ledger : Ledger) (supply : Supply) (copy : TextCopy) : Prop where
  given : copy.generation < supply.next
  units_eq : copy.units = unitsOf copy.source.chars
  text_eq : ledger copy.generation = copy.source.chars

/-- The copy that is held, if there is one, is booked. -/
def TextBuffer.Booked (ledger : Ledger) (supply : Supply) (b : TextBuffer) : Prop :=
  ∀ copy, b.held = some copy → copy.Booked ledger supply

namespace TextBuffer

variable {ledger ledger' : Ledger} {supply supply' : Supply} {b : TextBuffer}

theorem Booked.empty : Booked ledger supply {} := by
  intro copy h
  cases h

theorem Booked.continue (h : b.Booked ledger supply)
    (hc : ledger.Continues supply ledger' supply') : b.Booked ledger' supply' := by
  intro copy hheld
  obtain ⟨hgiven, hunits, htext⟩ := h copy hheld
  exact ⟨Nat.lt_of_lt_of_le hgiven hc.le, hunits, (hc.same _ hgiven).trans htext⟩

theorem Booked.units_eq (h : b.Booked ledger supply) : b.units = unitsOf b.chars := by
  unfold units chars
  cases hheld : b.held with
  | none => rfl
  | some copy => exact (h copy hheld).units_eq

theorem Booked.length_eq (h : b.Booked ledger supply) : b.length = b.chars.length := by
  rw [length, h.units_eq, length_unitsOf]

/-- A copy of the same text object is kept; otherwise a new copy is made. -/
theorem ensure_cases (b : TextBuffer) (supply : Supply) (text : Text) :
    (b.held.map (·.source) = some text ∧ b.ensure supply text = (b, supply)) ∨
      (b.held.map (·.source) ≠ some text ∧ b.ensure supply text = fill supply text) := by
  unfold ensure
  cases b.held with
  | none => exact .inr ⟨nofun, rfl⟩
  | some copy =>
    by_cases hsource : copy.source = text
    · exact .inl ⟨congrArg some hsource, if_pos hsource⟩
    · exact .inr ⟨fun h => hsource (Option.some.inj h), if_neg hsource⟩

/-- A text that is bound is held. -/
theorem source_ensure (b : TextBuffer) (supply : Supply) (text : Text) :
    (b.ensure supply text).1.held.map (·.source) = some text := by
  rcases b.ensure_cases supply text with ⟨hsource, heq⟩ | ⟨-, heq⟩
  · rw [heq]
    exact hsource
  · rw [heq]
    rfl

@[simp] theorem chars_ensure (b : TextBuffer) (supply : Supply) (text : Text) :
    (b.ensure supply text).1.chars = text.chars := by
  obtain ⟨copy, hheld, hsource⟩ := Option.map_eq_some_iff.1 (b.source_ensure supply text)
  rw [chars, hheld, ← hsource]

/-- A new copy is entered under a generation that nothing carries yet. -/
theorem Booked.fill (ledger : Ledger) (supply : Supply) (text : Text) :
    ∃ ledger' : Ledger, ledger.Continues supply ledger' (TextBuffer.fill supply text).2 ∧
      (TextBuffer.fill supply text).1.Booked ledger' (TextBuffer.fill supply text).2 := by
  refine ⟨fun g => if g = supply.next then text.chars else ledger g,
    ⟨Nat.le_succ _, fun g hg => if_neg (Nat.ne_of_lt hg)⟩, ?_⟩
  intro copy hheld
  obtain rfl := Option.some.inj hheld
  exact ⟨Nat.lt_succ_self _, rfl, if_pos rfl⟩

theorem Booked.ensure (h : b.Booked ledger supply) (text : Text) :
    ∃ ledger' : Ledger, ledger.Continues supply ledger' (b.ensure supply text).2 ∧
      (b.ensure supply text).1.Booked ledger' (b.ensure supply text).2 := by
  rcases b.ensure_cases supply text with ⟨-, heq⟩ | ⟨-, heq⟩
  · rw [heq]
    exact ⟨ledger, .refl ledger supply, h⟩
  · rw [heq]
    exact Booked.fill ledger supply text

end TextBuffer

/-! ## Decoded texts -/

/-- What was decoded is the text of the generation. -/
def Haystack.Booked (ledger : Ledger) (supply : Supply) (hay : Haystack) : Prop :=
  hay.generation ≠ 0 →
    hay.generation < supply.next ∧ hay = .ofChars hay.generation (ledger hay.generation)

theorem Haystack.Booked.continue {ledger ledger' : Ledger} {supply supply' : Supply}
    {hay : Haystack} (h : hay.Booked ledger supply)
    (hc : ledger.Continues supply ledger' supply') : hay.Booked ledger' supply' := by
  intro hne
  obtain ⟨hgiven, hdecoded⟩ := h hne
  exact ⟨Nat.lt_of_lt_of_le hgiven hc.le, by rwa [hc.same _ hgiven]⟩

namespace TextBuffer

variable {ledger : Ledger} {supply : Supply} {b : TextBuffer}

/-- **What serves a range is the decoding of the text it shows.** -/
theorem Booked.fits (h : b.Booked ledger supply) {cached : Option Haystack}
    (hcached : ∀ hay, cached = some hay → hay.Booked ledger supply) (bounds : Bounds) :
    Haystack.Fits cached (b.range bounds) b.chars := by
  refine ⟨h.units_eq, ?_⟩
  intro hay hhay hserves
  simp only [Haystack.serves, Bool.and_eq_true, decide_eq_true_eq] at hserves
  obtain ⟨hne, heq⟩ := hserves
  have hdecoded := (hcached hay hhay hne).2
  rw [heq] at hdecoded hne
  cases hheld : b.held with
  | none => exact absurd (by rw [range, generation, hheld]) hne
  | some copy =>
    have hgen : (b.range bounds).generation = copy.generation := by
      rw [range, generation, hheld]
    rw [hdecoded, hgen, (h copy hheld).text_eq, chars, hheld]

/-- The decoding of a booked copy is booked. -/
theorem Booked.decoding (h : b.Booked ledger supply) :
    (Haystack.ofChars b.generation b.chars).Booked ledger supply := by
  intro hne
  cases hheld : b.held with
  | none => exact absurd (by rw [Haystack.ofChars, generation, hheld]) hne
  | some copy =>
    have hgen : b.generation = copy.generation := by rw [generation, hheld]
    have hchars : b.chars = ledger copy.generation := by
      rw [chars, hheld, (h copy hheld).text_eq]
    rw [hgen, hchars]
    exact ⟨(h copy hheld).given, rfl⟩

end TextBuffer

end PatternSession
