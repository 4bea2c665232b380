import PatternSession.Proofs.Starred
import PatternSession.Proofs.Sweep

/-!
# The loop of a substitution

A substitution can be written as a loop over a position, with the end of the occurrence replaced
last, the text rebuilt so far and a counter. The sweep has none of these and makes a bounded number
of searches. Here the loop is set beside it, with no bound.

**Theorem (`substitution_loop_ends`).** The matcher may answer every search as it likes, as long as
the whole match lies between characters of the text and at or after the start of the search. Then
the loop ends after at most one round more than there are characters, and `substitute` is what it
ends with. Every position is between two characters and beyond the one before, and nothing is cut
out of the text elsewhere or backwards. The occurrences replaced stand in order, apart from each
other, and are as many as the counter says.

**Proof.** A round stops at an occurrence or nowhere (`Replacing.stop?`), and all that it does
follows from this: the state after it (`after`), and whether and where the loop goes on (`going?`).
The invariant (`Sane`) is that the position is that of a character and nothing beyond it is dealt
with; `Sane.next` says that a round keeps it, and goes on at a later character. The rest is by
induction along the run (`Run.along`): the bound on the rounds, what is replaced and what is written
down (`Logs`), and that the sweep stops where the rounds stop (`Run.sweepFrom_eq`).
-/

namespace PatternSession

/-! ## The loop -/

/-- What a substitution works with. -/
structure Replacing where
  /-- The search from a byte position. -/
  search : Nat → Except String (Option ByteSpans)
  template : Template
  text : List Char
  /-- Is every occurrence replaced? -/
  global : Bool

/-- Where the loop stands before a round. -/
structure Pass where
  pos : Nat
  /-- The end of the occurrence replaced last: the text up to here is dealt with. -/
  last : Nat
  prevStop : Option Nat := none
  rebuilt : List Char := []
  count : Nat := 0
  /-- The groups of the first occurrence. -/
  first : Option ByteSpans := none

/-- What comes of a round. -/
inductive Round where
  | next (s : Pass)
  | finished (s : Pass)
  | failed (e : String)

/-- The loop goes on at a position, if there is one to go on at. -/
def Pass.goOn (s : Pass) : Option Nat → Round
  | some pos => .next { s with pos }
  | none => .finished s

/-- Before the first round. -/
def Pass.startingAt (start : Nat) : Pass := { pos := start, last := start }

namespace Replacing

variable (r : Replacing)

/-- What an occurrence adds to the text rebuilt: the text before it, and the expansion. -/
def addition (s : Pass) (spans : ByteSpans) (whole : ByteSpan) : List Char :=
  (sliceBytes? r.text s.last whole.start).getD [] ++ r.template.expand (groupText? r.text spans)

/-- Replaces an occurrence. -/
def replace (s : Pass) (spans : ByteSpans) (whole : ByteSpan) : Pass where
  pos := s.pos
  last := whole.stop
  prevStop := some whole.stop
  rebuilt := s.rebuilt ++ r.addition s spans whole
  count := s.count + 1
  first := s.first.or (some spans)

/-- Where the search goes on after an occurrence: one character further after an empty one. -/
def following? (whole : ByteSpan) : Option Nat :=
  if whole.start = whole.stop then nextBoundary? r.text whole.stop else some whole.stop

/-- One round of the loop. -/
def round (s : Pass) : Round :=
  if byteLength r.text < s.pos then .finished s
  else
    match r.search s.pos with
    | .error e => .failed e
    | .ok none => .finished s
    | .ok (some spans) =>
      match wholeMatch? spans with
      | none => .finished s
      | some whole =>
        if whole.start = whole.stop ∧ s.prevStop = some whole.stop then
          s.goOn (nextBoundary? r.text whole.stop)
        else if r.global then (r.replace s spans whole).goOn (r.following? whole)
        else .finished (r.replace s spans whole)

/-- The loop from a state on: the states before its rounds, and the state that it ends in or the
error that ends it. -/
inductive Run : Pass → List Pass → Except String Pass → Prop
  | finished {s s' : Pass} : r.round s = .finished s' → Run s [s] (.ok s')
  | failed {s : Pass} {e : String} : r.round s = .failed e → Run s [s] (.error e)
  | next {s s' : Pass} {rounds : List Pass} {ending : Except String Pass} :
    r.round s = .next s' → Run s' rounds ending → Run s (s :: rounds) ending

/-- What the loop gives: the text rebuilt with the rest of the text, the counter and the groups of
the first occurrence, if there was one. -/
def outcome (ending : Except String Pass) : Except String (Option Substitution) :=
  ending.map fun s => s.first.map fun first =>
    { rebuilt := s.rebuilt ++ (dropBytes? r.text s.last).getD [], count := s.count, first }

/-- A search from between two characters is answered with an error, nothing, or groups whose whole
match, if it took part, lies between characters of the text, at or after the start of the search. -/
def Fits : Prop :=
  ∀ pos spans whole, (dropBytes? r.text pos).isSome → r.search pos = .ok (some spans) →
    wholeMatch? spans = some whole → pos ≤ whole.start ∧ whole.Within r.text

/-! ## What a round does -/

/-- The occurrence that a round stops at. -/
def stop? (s : Pass) : Option Stop :=
  match r.search s.pos with
  | .ok (some spans) => (wholeMatch? spans).map fun whole =>
    { pos := s.pos, spans, whole
      taken := !decide (whole.start = whole.stop ∧ s.prevStop = some whole.stop) }
  | _ => none

/-- The occurrence that a round replaces. -/
def replaced? (s : Pass) : Option Stop := (r.stop? s).filter (·.taken)

/-- What a round adds to the text rebuilt. -/
def added (s : Pass) : List Char :=
  match r.replaced? s with
  | some t => r.addition s t.spans t.whole
  | none => []

/-- The state after a round, before the position is moved. -/
def after (s : Pass) : Pass :=
  match r.replaced? s with
  | some t => r.replace s t.spans t.whole
  | none => s

/-- Where the loop goes on after a round. -/
def going? (s : Pass) : Option Nat :=
  (r.stop? s).bind fun t => if t.taken && !r.global then none else r.following? t.whole

variable {r : Replacing} {s : Pass}

section Stop

variable {spans : ByteSpans} {whole : ByteSpan} {t : Stop}

/-- A round is stopped where a search finds a whole match, and that is replaced unless it is empty
and right where the one before ended. -/
theorem stop?_of_whole (hsearch : r.search s.pos = .ok (some spans))
    (hwhole : wholeMatch? spans = some whole) :
    r.stop? s = some ⟨s.pos, spans, whole,
      !decide (whole.start = whole.stop ∧ s.prevStop = some whole.stop)⟩ := by
  rw [stop?, hsearch]
  simp only [hwhole, Option.map_some]

theorem exists_of_stop? (h : r.stop? s = some t) :
    t.pos = s.pos ∧ r.search s.pos = .ok (some t.spans) ∧ wholeMatch? t.spans = some t.whole := by
  unfold stop? at h
  split at h
  next spans hsearch =>
    obtain ⟨whole, hwhole, rfl⟩ := Option.map_eq_some_iff.1 h
    exact ⟨rfl, hsearch, hwhole⟩
  next => cases h

theorem replaced?_of_taken (h : r.stop? s = some t) (ht : t.taken = true) :
    r.replaced? s = some t := by
  rw [replaced?, h, Option.filter_some_pos ht]

theorem replaced?_of_passed (h : r.stop? s = some t) (ht : t.taken = false) :
    r.replaced? s = none := by
  rw [replaced?, h, Option.filter_some_neg (by simp [ht])]

theorem replaced?_of_no_stop (h : r.stop? s = none) : r.replaced? s = none := by
  rw [replaced?, h]
  rfl

theorem going?_of_taken (h : r.stop? s = some t) (ht : t.taken = true) :
    r.going? s = if r.global then r.following? t.whole else none := by
  rw [going?, h, Option.bind_some, ht]
  cases r.global <;> rfl

theorem going?_of_passed (h : r.stop? s = some t) (ht : t.taken = false) :
    r.going? s = r.following? t.whole := by
  rw [going?, h, Option.bind_some, ht]
  rfl

theorem going?_of_no_stop (h : r.stop? s = none) : r.going? s = none := by
  rw [going?, h]
  rfl

theorem stop?_of_replaced? (h : r.replaced? s = some t) : r.stop? s = some t :=
  (Option.filter_eq_some_iff.1 h).1

theorem added_of_replaced (h : r.replaced? s = some t) :
    r.added s = r.addition s t.spans t.whole := by
  rw [added, h]

theorem added_of_not_replaced (h : r.replaced? s = none) : r.added s = [] := by
  rw [added, h]

/-- Without `global`, a round that goes on has replaced nothing. -/
theorem replaced?_of_going? (hglobal : r.global = false) {pos : Nat}
    (hgoing : r.going? s = some pos) : r.replaced? s = none := by
  obtain ⟨t, hstop, hfollowing⟩ := Option.bind_eq_some_iff.1 hgoing
  refine replaced?_of_passed hstop ?_
  cases htaken : t.taken with
  | false => rfl
  | true =>
    rw [htaken, hglobal] at hfollowing
    cases hfollowing

theorem after_of_replaced (h : r.replaced? s = some t) :
    r.after s = r.replace s t.spans t.whole := by
  rw [after, h]

theorem after_of_not_replaced (h : r.replaced? s = none) : r.after s = s := by
  rw [after, h]

end Stop

/-- What is left of the sweep after a round. -/
def sweepRest (r : Replacing) (s : Pass) (fuel : Nat) : Sweep :=
  match r.going? s with
  | some next => sweepFrom r.search r.text r.global fuel next (r.after s).prevStop
  | none => {}

/-! A round of the loop and a step of the sweep are told by where they stop. -/

section Step

variable {e : String}

theorem round_of_error (hpos : s.pos ≤ byteLength r.text) (h : r.search s.pos = .error e) :
    r.round s = .failed e := by
  rw [round, if_neg (Nat.not_lt.2 hpos), h]

theorem sweepFrom_of_error (hpos : s.pos ≤ byteLength r.text) (h : r.search s.pos = .error e)
    (fuel : Nat) :
    sweepFrom r.search r.text r.global (fuel + 1) s.pos s.prevStop = { failure := some e } := by
  rw [sweepFrom, if_neg (Nat.not_lt.2 hpos), h]

/-- A round that is not stopped leaves the state alone and ends the loop. -/
theorem goOn_of_no_stop (h : r.stop? s = none) :
    (r.after s).goOn (r.going? s) = .finished s := by
  rw [going?_of_no_stop h, after_of_not_replaced (replaced?_of_no_stop h)]
  rfl

theorem round_of_ok (hpos : s.pos ≤ byteLength r.text) (hok : ∀ e, r.search s.pos ≠ .error e) :
    r.round s = (r.after s).goOn (r.going? s) := by
  rw [round, if_neg (Nat.not_lt.2 hpos)]
  rcases hsearch : r.search s.pos with e | (_ | spans)
  · exact absurd hsearch (hok e)
  · exact (goOn_of_no_stop (by rw [stop?, hsearch])).symm
  · cases hwhole : wholeMatch? spans with
    | none =>
      have hstop : r.stop? s = none := by
        rw [stop?, hsearch]
        simp only [hwhole, Option.map_none]
      simpa only [hwhole] using (goOn_of_no_stop hstop).symm
    | some whole =>
      have hstop := stop?_of_whole hsearch hwhole
      by_cases hskip : whole.start = whole.stop ∧ s.prevStop = some whole.stop
      · rw [decide_eq_true hskip] at hstop
        simp only [hwhole, if_pos hskip]
        rw [going?_of_passed hstop rfl, after_of_not_replaced (replaced?_of_passed hstop rfl),
          following?, if_pos hskip.1]
      · rw [decide_eq_false hskip] at hstop
        simp only [hwhole, if_neg hskip]
        rw [going?_of_taken hstop rfl, after_of_replaced (replaced?_of_taken hstop rfl)]
        split <;> rfl

/-- A round fails, ends the loop, or goes on. -/
theorem round_cases (hpos : s.pos ≤ byteLength r.text) :
    (∃ e, r.search s.pos = .error e ∧ r.round s = .failed e) ∨
    (∀ e, r.search s.pos ≠ .error e) ∧
      (r.going? s = none ∧ r.round s = .finished (r.after s) ∨
        ∃ pos, r.going? s = some pos ∧ r.round s = .next { r.after s with pos }) := by
  by_cases herror : ∃ e, r.search s.pos = .error e
  · obtain ⟨e, he⟩ := herror
    exact .inl ⟨e, he, round_of_error hpos he⟩
  · have hok : ∀ e, r.search s.pos ≠ .error e := fun e he => herror ⟨e, he⟩
    have hround := round_of_ok hpos hok
    refine .inr ⟨hok, ?_⟩
    cases hgoing : r.going? s with
    | none =>
      rw [hgoing] at hround
      exact .inl ⟨rfl, hround⟩
    | some pos =>
      rw [hgoing] at hround
      exact .inr ⟨pos, rfl, hround⟩

theorem sweepFrom_of_ok (hpos : s.pos ≤ byteLength r.text)
    (hok : ∀ e, r.search s.pos ≠ .error e) (fuel : Nat) :
    sweepFrom r.search r.text r.global (fuel + 1) s.pos s.prevStop =
      { stops := (r.stop? s).toList ++ (r.sweepRest s fuel).stops
        failure := (r.sweepRest s fuel).failure } := by
  have hnothing : r.stop? s = none →
      ({ stops := (r.stop? s).toList ++ (r.sweepRest s fuel).stops
         failure := (r.sweepRest s fuel).failure } : Sweep) = {} := by
    intro hstop
    rw [sweepRest, going?_of_no_stop hstop, hstop]
    rfl
  rw [sweepFrom, if_neg (Nat.not_lt.2 hpos)]
  rcases hsearch : r.search s.pos with e | (_ | spans)
  · exact absurd hsearch (hok e)
  · exact (hnothing (by rw [stop?, hsearch])).symm
  · cases hwhole : wholeMatch? spans with
    | none =>
      have hstop : r.stop? s = none := by
        rw [stop?, hsearch]
        simp only [hwhole, Option.map_none]
      simpa only [hwhole] using (hnothing hstop).symm
    | some whole =>
      have hstop := stop?_of_whole hsearch hwhole
      by_cases hskip : whole.start = whole.stop ∧ s.prevStop = some whole.stop
      · rw [decide_eq_true hskip] at hstop
        simp only [hwhole, if_pos hskip]
        rw [sweepRest, going?_of_passed hstop rfl,
          after_of_not_replaced (replaced?_of_passed hstop rfl), hstop, following?]
        rfl
      · rw [decide_eq_false hskip] at hstop
        simp only [hwhole, if_neg hskip]
        rw [sweepRest, going?_of_taken hstop rfl,
          after_of_replaced (replaced?_of_taken hstop rfl), hstop]
        cases r.global
        · simp only [Bool.false_eq_true, if_false]
          split <;> rfl
        · rfl

end Step

/-! ## The invariant -/

/-- The position is that of character `i`, and nothing beyond it is dealt with. -/
structure Sane (r : Replacing) (s : Pass) (i : Nat) : Prop where
  le : i ≤ r.text.length
  pos_eq : s.pos = bytePosition r.text i
  last : ∃ j, j ≤ i ∧ s.last = bytePosition r.text j

namespace Sane

variable {i : Nat} {t : Stop}

theorem pos_le (h : r.Sane s i) : s.pos ≤ byteLength r.text := by
  rw [h.pos_eq]
  exact bytePosition_le_byteLength r.text i

theorem last_le (h : r.Sane s i) : s.last ≤ s.pos := by
  obtain ⟨j, hj, hlast⟩ := h.last
  rw [hlast, h.pos_eq]
  exact bytePosition_mono r.text hj

theorem cuts (h : r.Sane s i) :
    (dropBytes? r.text s.pos).isSome ∧ (dropBytes? r.text s.last).isSome := by
  obtain ⟨j, -, hlast⟩ := h.last
  rw [hlast, h.pos_eq, dropBytes?_bytePosition, dropBytes?_bytePosition]
  exact ⟨rfl, rfl⟩

/-- A round stops between two characters at or after its position. -/
theorem exists_of_stop? (hfits : r.Fits) (h : r.Sane s i) (hstop : r.stop? s = some t) :
    ∃ w : GroupBounds, i ≤ w.start ∧ w.start ≤ w.stop ∧ w.stop ≤ r.text.length ∧
      t.whole = byteSpan r.text w := by
  obtain ⟨-, hsearch, hwhole⟩ := Replacing.exists_of_stop? hstop
  obtain ⟨hle, hwithin⟩ := hfits s.pos t.spans t.whole h.cuts.1 hsearch hwhole
  rw [← List.take_length (l := r.text)] at hwithin
  obtain ⟨w, hw, hstop', heq⟩ := hwithin.exists_byteSpan (Nat.le_refl _)
  refine ⟨w, ?_, hw, hstop', heq⟩
  rw [heq, h.pos_eq] at hle
  exact (bytePosition_le_iff h.le).1 hle

/-- What a round cuts out of the text can be cut out. -/
theorem slices (hfits : r.Fits) (h : r.Sane s i) (hstop : r.stop? s = some t) :
    s.pos ≤ t.whole.start ∧ t.whole.Within r.text ∧
      (sliceBytes? r.text s.last t.whole.start).isSome := by
  obtain ⟨w, hstart, horder, hend, hwhole⟩ := h.exists_of_stop? hfits hstop
  obtain ⟨j, hj, hlast⟩ := h.last
  rw [hwhole, h.pos_eq, hlast]
  exact ⟨bytePosition_mono r.text hstart,
    sliceBytes?_isSome_iff.2 ⟨_, _, horder, hend, rfl, rfl⟩,
    sliceBytes?_isSome_iff.2 ⟨_, _, by omega, by omega, rfl, rfl⟩⟩

/-- **A round keeps the invariant,** and goes on at a character beyond the occurrence that it
stopped at. -/
theorem next (hfits : r.Fits) (h : r.Sane s i) {pos : Nat} (hgoing : r.going? s = some pos) :
    ∃ t w i', r.stop? s = some t ∧ t.whole = byteSpan r.text w ∧ i ≤ w.start ∧
      w.start ≤ w.stop ∧ w.start < i' ∧ w.stop ≤ i' ∧ r.Sane { r.after s with pos } i' := by
  obtain ⟨t, hstop, hfollowing⟩ := Option.bind_eq_some_iff.1 hgoing
  obtain ⟨w, hstart, hw, hend, hwhole⟩ := h.exists_of_stop? hfits hstop
  have hfollowing : r.following? t.whole = some pos := by
    split at hfollowing
    · cases hfollowing
    · exact hfollowing
  have hresume := following_eq hw hend (Nat.le_refl r.text.length)
  rw [List.take_length] at hresume
  rw [hwhole, following?] at hfollowing
  have hnext := hresume.symm.trans hfollowing
  split at hnext
  next hle =>
    obtain rfl := Option.some.inj hnext
    have hlt : w.start < w.resume := by
      unfold GroupBounds.resume
      omega
    refine ⟨t, w, w.resume, hstop, hwhole, hstart, hw, hlt, w.stop_le_resume, hle, rfl, ?_⟩
    -- what is replaced ends where the loop goes on, at the latest
    cases hreplaced : r.replaced? s with
    | none =>
      obtain ⟨j, hj, hlast⟩ := h.last
      refine ⟨j, by omega, ?_⟩
      rw [after_of_not_replaced hreplaced]
      exact hlast
    | some t' =>
      obtain ⟨hsame, -⟩ := Option.filter_eq_some_iff.1 hreplaced
      obtain rfl := Option.some.inj (hstop.symm.trans hsame)
      refine ⟨w.stop, w.stop_le_resume, ?_⟩
      rw [after_of_replaced hreplaced]
      exact congrArg ByteSpan.stop hwhole
  next => cases hnext

end Sane

/-! ## Runs -/

/-- **Runs are followed round by round,** with the invariant at hand: a round ends the loop with an
error, or ends it, or goes on. -/
theorem Run.along (hfits : r.Fits) {P : Nat → Pass → List Pass → Except String Pass → Prop}
    (failed : ∀ {i s e}, r.Sane s i → r.search s.pos = .error e → P i s [s] (.error e))
    (finished : ∀ {i s}, r.Sane s i → (∀ e, r.search s.pos ≠ .error e) → r.going? s = none →
      P i s [s] (.ok (r.after s)))
    (next : ∀ {i s pos i' rounds ending}, r.Sane s i → (∀ e, r.search s.pos ≠ .error e) →
      r.going? s = some pos → i < i' → r.Sane { r.after s with pos } i' →
      r.Run { r.after s with pos } rounds ending → P i' { r.after s with pos } rounds ending →
      P i s (s :: rounds) ending)
    {i : Nat} {rounds : List Pass} {ending : Except String Pass} (h : r.Run s rounds ending)
    (hs : r.Sane s i) : P i s rounds ending := by
  induction h generalizing i with
  | @finished s s' hround =>
    rcases round_cases hs.pos_le with ⟨e, -, hr⟩ | ⟨hok, ⟨hgoing, hr⟩ | ⟨pos, -, hr⟩⟩
    · cases hround.symm.trans hr
    · cases hround.symm.trans hr
      exact finished hs hok hgoing
    · cases hround.symm.trans hr
  | @failed s e hround =>
    rcases round_cases hs.pos_le with ⟨e', he, hr⟩ | ⟨-, ⟨-, hr⟩ | ⟨pos, -, hr⟩⟩
    · cases hround.symm.trans hr
      exact failed hs he
    · cases hround.symm.trans hr
    · cases hround.symm.trans hr
  | @next s s' rounds ending hround hrest ih =>
    rcases round_cases hs.pos_le with ⟨e, -, hr⟩ | ⟨hok, ⟨-, hr⟩ | ⟨pos, hgoing, hr⟩⟩
    · cases hround.symm.trans hr
    · cases hround.symm.trans hr
    · cases hround.symm.trans hr
      obtain ⟨t, w, i', -, -, hi, -, hlt, -, hsane⟩ := hs.next hfits hgoing
      exact next hs hok hgoing (Nat.lt_of_le_of_lt hi hlt) hsane hrest (ih hsane)

/-- There is a run from every sane state: a round goes on at a later character or not at all. -/
theorem Sane.exists_run (hfits : r.Fits) {i : Nat} (hs : r.Sane s i) :
    ∃ rounds ending, r.Run s rounds ending := by
  induction hleft : r.text.length - i using Nat.strongRecOn generalizing i s with
  | ind left ih =>
    subst hleft
    rcases round_cases hs.pos_le with ⟨e, -, hr⟩ | ⟨-, ⟨-, hr⟩ | ⟨pos, hgoing, hr⟩⟩
    · exact ⟨_, _, .failed hr⟩
    · exact ⟨_, _, .finished hr⟩
    · obtain ⟨t, w, i', -, -, hi, -, hlt, -, hsane⟩ := hs.next hfits hgoing
      have hle := hsane.le
      obtain ⟨rounds, ending, hrun⟩ := ih (r.text.length - i') (by omega) hsane rfl
      exact ⟨_, _, .next hr hrun⟩

namespace Run

variable {i : Nat} {rounds : List Pass} {ending : Except String Pass}

/-- There is no other run. -/
theorem unique (h : r.Run s rounds ending) {rounds' : List Pass} {ending' : Except String Pass}
    (h' : r.Run s rounds' ending') : rounds' = rounds ∧ ending' = ending := by
  induction h generalizing rounds' ending' with
  | finished hround =>
    cases h' with
    | finished hround' =>
      cases hround.symm.trans hround'
      exact ⟨rfl, rfl⟩
    | failed hround' => cases hround.symm.trans hround'
    | next hround' => cases hround.symm.trans hround'
  | failed hround =>
    cases h' with
    | finished hround' => cases hround.symm.trans hround'
    | failed hround' =>
      cases hround.symm.trans hround'
      exact ⟨rfl, rfl⟩
    | next hround' => cases hround.symm.trans hround'
  | next hround _ ih =>
    cases h' with
    | finished hround' => cases hround.symm.trans hround'
    | failed hround' => cases hround.symm.trans hround'
    | next hround' hrest' =>
      cases hround.symm.trans hround'
      obtain ⟨rfl, rfl⟩ := ih hrest'
      exact ⟨rfl, rfl⟩

/-- What is said of the rounds alone takes two cases: the last round, and a round before others. -/
theorem along_rounds (hfits : r.Fits) {P : Nat → Pass → List Pass → Prop}
    (last : ∀ {i s}, r.Sane s i → P i s [s])
    (next : ∀ {i s pos i' rounds ending}, r.Sane s i → r.going? s = some pos → i < i' →
      r.Sane { r.after s with pos } i' → r.Run { r.after s with pos } rounds ending →
      P i' { r.after s with pos } rounds → P i s (s :: rounds))
    (h : r.Run s rounds ending) (hs : r.Sane s i) : P i s rounds := by
  refine h.along hfits (P := fun i s rounds _ => P i s rounds) ?_ ?_ ?_ hs
  · intro i s e hs _
    exact last hs
  · intro i s hs _ _
    exact last hs
  · intro i s pos i' rounds ending hs _ hgoing hlt hnext hrest ih
    exact next hs hgoing hlt hnext hrest ih

/-- A run has no more rounds than there are characters left, and one. -/
theorem length_le (hfits : r.Fits) (h : r.Run s rounds ending) (hs : r.Sane s i) :
    rounds.length ≤ r.text.length - i + 1 := by
  refine h.along_rounds hfits (P := fun i _ rounds => rounds.length ≤ r.text.length - i + 1)
    ?_ ?_ hs
  · intro i s _
    exact Nat.le_add_left 1 _
  · intro i s pos i' rounds ending _ _ hlt hnext _ ih
    have hle := hnext.le
    rw [List.length_cons]
    omega

/-- The invariant holds before every round, and never further back. -/
theorem sane (hfits : r.Fits) (h : r.Run s rounds ending) (hs : r.Sane s i) :
    ∀ t ∈ rounds, ∃ k, i ≤ k ∧ r.Sane t k := by
  refine h.along_rounds hfits (P := fun i _ rounds => ∀ t ∈ rounds, ∃ k, i ≤ k ∧ r.Sane t k)
    ?_ ?_ hs
  · intro i s hs t ht
    obtain rfl := List.mem_singleton.1 ht
    exact ⟨i, Nat.le_refl i, hs⟩
  · intro i s pos i' rounds ending hs _ hlt _ _ ih t ht
    rcases List.mem_cons.1 ht with rfl | ht
    · exact ⟨i, Nat.le_refl i, hs⟩
    · obtain ⟨k, hk, hsane⟩ := ih t ht
      exact ⟨k, by omega, hsane⟩

/-- The positions of a run increase. -/
theorem increasing (hfits : r.Fits) (h : r.Run s rounds ending) (hs : r.Sane s i) :
    rounds.Pairwise (·.pos < ·.pos) := by
  refine h.along_rounds hfits (P := fun _ _ rounds => rounds.Pairwise (·.pos < ·.pos)) ?_ ?_ hs
  · intro i s _
    exact List.pairwise_singleton _ s
  · intro i s pos i' rounds ending hs _ hlt hnext hrest ih
    refine List.pairwise_cons.2 ⟨?_, ih⟩
    intro t ht
    obtain ⟨k, hk, hsane⟩ := hrest.sane hfits hnext t ht
    rw [hs.pos_eq, hsane.pos_eq]
    exact bytePosition_strictMono (Nat.lt_of_lt_of_le hlt hk) hsane.le

/-- What a run replaces stands in order and apart. -/
theorem ascending (hfits : r.Fits) (h : r.Run s rounds ending) (hs : r.Sane s i) :
    (rounds.filterMap r.replaced?).Pairwise fun a b =>
      a.whole.start < b.whole.start ∧ a.whole.stop ≤ b.whole.start := by
  refine h.along_rounds hfits (P := fun _ _ rounds => (rounds.filterMap r.replaced?).Pairwise
    fun a b => a.whole.start < b.whole.start ∧ a.whole.stop ≤ b.whole.start) ?_ ?_ hs
  · intro i s _
    rw [List.filterMap_cons]
    cases r.replaced? s with
    | none => exact List.Pairwise.nil
    | some t => exact List.pairwise_singleton _ t
  · intro i s pos _ rounds ending hs hgoing _ _ hrest ih
    rw [List.filterMap_cons]
    cases hreplaced : r.replaced? s with
    | none => exact ih
    | some t =>
      refine List.pairwise_cons.2 ⟨?_, ih⟩
      intro t' ht'
      -- every later round stands at or beyond the character that this one goes on at
      obtain ⟨t₀, w, i', hstop₀, hwhole, -, -, hlt, hle, hnext⟩ := hs.next hfits hgoing
      obtain rfl := Option.some.inj (hstop₀.symm.trans (stop?_of_replaced? hreplaced))
      obtain ⟨u, hu, hreplaced'⟩ := List.mem_filterMap.1 ht'
      obtain ⟨k, hk, hsane⟩ := hrest.sane hfits hnext u hu
      obtain ⟨w', hstart', horder', hend', hwhole'⟩ :=
        hsane.exists_of_stop? hfits (stop?_of_replaced? hreplaced')
      rw [hwhole, hwhole']
      exact ⟨bytePosition_strictMono (by omega) (by omega), bytePosition_mono r.text (by omega)⟩

/-- Without `global`, at most one occurrence is replaced. -/
theorem single (hfits : r.Fits) (h : r.Run s rounds ending) (hs : r.Sane s i)
    (hglobal : r.global = false) : (rounds.filterMap r.replaced?).length ≤ 1 := by
  refine h.along_rounds hfits (P := fun _ _ rounds => (rounds.filterMap r.replaced?).length ≤ 1)
    ?_ ?_ hs
  · intro i s _
    exact List.length_filterMap_le _ [s]
  · intro i s pos i' rounds ending _ hgoing _ _ _ ih
    -- a round that goes on has passed over what it stopped at
    rw [List.filterMap_cons, replaced?_of_going? hglobal hgoing]
    exact ih

/-- The text can be cut where a run has replaced last. -/
theorem last_isSome (hfits : r.Fits) (h : r.Run s rounds ending) (hs : r.Sane s i) :
    ∀ s', ending = .ok s' → (dropBytes? r.text s'.last).isSome := by
  refine h.along hfits (P := fun _ _ _ ending => ∀ s', ending = .ok s' →
    (dropBytes? r.text s'.last).isSome) ?_ ?_ ?_ hs
  · intro i s e _ _ s' hs'
    cases hs'
  · intro i s hs _ _ s' hs'
    obtain rfl := Except.ok.inj hs'
    cases hreplaced : r.replaced? s with
    | none =>
      rw [after_of_not_replaced hreplaced]
      exact hs.cuts.2
    | some t =>
      obtain ⟨w, -, -, -, hwhole⟩ := hs.exists_of_stop? hfits (stop?_of_replaced? hreplaced)
      rw [after_of_replaced hreplaced]
      show (dropBytes? r.text t.whole.stop).isSome
      rw [hwhole, byteSpan, dropBytes?_bytePosition]
      rfl
  · intro i s pos i' rounds ending _ _ _ _ _ _ ih
    exact ih

end Run

/-! ## What a run writes down -/

/-- What is written down from one state to another is what the rounds between them have replaced. -/
structure Logs (r : Replacing) (s : Pass) (rounds : List Pass) (s' : Pass) : Prop where
  count : s'.count = s.count + (rounds.filterMap r.replaced?).length
  rebuilt : s'.rebuilt = s.rebuilt ++ rounds.flatMap r.added
  first : s'.first = s.first.or ((rounds.filterMap r.replaced?).head?.map (·.spans))

namespace Logs

theorem refl (s : Pass) : r.Logs s [] s where
  count := rfl
  rebuilt := (List.append_nil _).symm
  first := Option.or_none.symm

/-- One round, wherever it goes on. -/
theorem after (s : Pass) (pos : Nat) : r.Logs s [s] { r.after s with pos } := by
  cases hreplaced : r.replaced? s with
  | none =>
    have hadded := added_of_not_replaced hreplaced
    rw [after_of_not_replaced hreplaced]
    refine ⟨?_, ?_, ?_⟩
    · rw [List.filterMap_cons, hreplaced]
      rfl
    · rw [List.flatMap_singleton, hadded, List.append_nil]
    · rw [List.filterMap_cons, hreplaced]
      exact Option.or_none.symm
  | some t =>
    have hadded := added_of_replaced hreplaced
    rw [after_of_replaced hreplaced]
    refine ⟨?_, ?_, ?_⟩
    · rw [List.filterMap_cons, hreplaced]
      rfl
    · rw [List.flatMap_singleton, hadded]
      rfl
    · rw [List.filterMap_cons, hreplaced]
      rfl

theorem trans {s₁ s₂ s₃ : Pass} {before later : List Pass} (h : r.Logs s₁ before s₂)
    (h' : r.Logs s₂ later s₃) : r.Logs s₁ (before ++ later) s₃ where
  count := by
    rw [h'.count, h.count, List.filterMap_append, List.length_append, Nat.add_assoc]
  rebuilt := by rw [h'.rebuilt, h.rebuilt, List.flatMap_append, List.append_assoc]
  first := by
    rw [h'.first, h.first, List.filterMap_append, List.head?_append, Option.or_assoc,
      Option.map_or]

end Logs

namespace Run

variable {i : Nat} {rounds : List Pass} {ending : Except String Pass}

/-- Before every round, the rounds before it are written down. -/
theorem logs (hfits : r.Fits) (h : r.Run s rounds ending) (hs : r.Sane s i)
    {before later : List Pass} {t : Pass} (hrounds : rounds = before ++ t :: later) :
    r.Logs s before t := by
  refine h.along_rounds hfits (P := fun _ s rounds => ∀ before t later,
    rounds = before ++ t :: later → r.Logs s before t) ?_ ?_ hs before t later hrounds
  · intro i s _ before t later hrounds
    cases before with
    | nil =>
      obtain rfl := List.head_eq_of_cons_eq hrounds
      exact .refl s
    | cons u before =>
      have := congrArg List.length hrounds
      simp at this
  · intro i s pos i' rounds ending _ _ _ _ _ ih before t later hrounds
    cases before with
    | nil =>
      obtain rfl := List.head_eq_of_cons_eq hrounds
      exact .refl s
    | cons u before =>
      obtain ⟨rfl, hlater⟩ := List.cons.inj hrounds
      exact (Logs.after s pos).trans (ih before t later hlater)

/-- At the end, all rounds are. -/
theorem logs_ending (hfits : r.Fits) (h : r.Run s rounds ending) (hs : r.Sane s i) :
    ∀ s', ending = .ok s' → r.Logs s rounds s' := by
  refine h.along hfits (P := fun _ s rounds ending => ∀ s', ending = .ok s' → r.Logs s rounds s')
    ?_ ?_ ?_ hs
  · intro i s e _ _ s' hs'
    cases hs'
  · intro i s _ _ _ s' hs'
    obtain rfl := Except.ok.inj hs'
    exact .after s (r.after s).pos
  · intro i s pos i' rounds ending _ _ _ _ _ _ ih s' hs'
    exact (Logs.after s pos).trans (ih s' hs')

/-! ## The sweep of a run -/

/-- The error that a run ends with. -/
def failureOf : Except String Pass → Option String
  | .error e => some e
  | .ok _ => none

/-- **The sweep stops where the rounds of a run stop,** if it may search as often. -/
theorem sweepFrom_eq (hfits : r.Fits) (h : r.Run s rounds ending) (hs : r.Sane s i) {fuel : Nat}
    (hfuel : rounds.length ≤ fuel) :
    sweepFrom r.search r.text r.global fuel s.pos s.prevStop =
      { stops := rounds.filterMap r.stop?, failure := failureOf ending } := by
  refine h.along hfits (P := fun _ s rounds ending => ∀ fuel, rounds.length ≤ fuel →
    sweepFrom r.search r.text r.global fuel s.pos s.prevStop =
      { stops := rounds.filterMap r.stop?, failure := failureOf ending }) ?_ ?_ ?_ hs fuel hfuel
  · intro i s e hs herror fuel hfuel
    obtain ⟨fuel, rfl⟩ := Nat.exists_eq_add_of_le' hfuel
    have hstop : r.stop? s = none := by rw [stop?, herror]
    rw [List.length_singleton, sweepFrom_of_error hs.pos_le herror, List.filterMap_cons, hstop]
    rfl
  · intro i s hs hok hgoing fuel hfuel
    obtain ⟨fuel, rfl⟩ := Nat.exists_eq_add_of_le' hfuel
    have hrest : r.sweepRest s fuel = {} := by rw [Replacing.sweepRest, hgoing]
    rw [List.length_singleton, sweepFrom_of_ok hs.pos_le hok, hrest, List.filterMap_cons]
    cases r.stop? s <;> rfl
  · intro i s pos i' rounds ending hs hok hgoing _ _ _ ih fuel hfuel
    obtain ⟨fuel, rfl⟩ := Nat.exists_eq_add_of_le' hfuel
    rw [List.length_cons, ← Nat.add_assoc, sweepFrom_of_ok hs.pos_le hok]
    have hrest : r.sweepRest s (fuel + rounds.length) =
        { stops := rounds.filterMap r.stop?, failure := failureOf ending } := by
      rw [Replacing.sweepRest, hgoing]
      exact ih _ (Nat.le_add_left _ _)
    rw [hrest, List.filterMap_cons]
    cases r.stop? s <;> rfl

/-- What rebuilding does with the occurrence of a round. -/
theorem rebuild_round (s : Pass) (rounds : List Pass) :
    rebuild r.text (fun spans => r.template.expand (groupText? r.text spans)) s.last
        ((s :: rounds).filterMap r.replaced?) =
      r.added s ++ rebuild r.text (fun spans => r.template.expand (groupText? r.text spans))
        (r.after s).last (rounds.filterMap r.replaced?) := by
  rw [List.filterMap_cons]
  cases hreplaced : r.replaced? s with
  | none =>
    rw [added_of_not_replaced hreplaced, after_of_not_replaced hreplaced]
    rfl
  | some t =>
    rw [added_of_replaced hreplaced, after_of_replaced hreplaced]
    exact (List.append_assoc ..).symm

/-- **Rebuilding puts together what the rounds add,** and the rest of the text. -/
theorem rebuild_eq (hfits : r.Fits) (h : r.Run s rounds ending) (hs : r.Sane s i) :
    ∀ s', ending = .ok s' →
      rebuild r.text (fun spans => r.template.expand (groupText? r.text spans)) s.last
          (rounds.filterMap r.replaced?) =
        rounds.flatMap r.added ++ (dropBytes? r.text s'.last).getD [] := by
  refine h.along hfits (P := fun _ s rounds ending => ∀ s', ending = .ok s' →
      rebuild r.text (fun spans => r.template.expand (groupText? r.text spans)) s.last
          (rounds.filterMap r.replaced?) =
        rounds.flatMap r.added ++ (dropBytes? r.text s'.last).getD []) ?_ ?_ ?_ hs
  · intro i s e _ _ s' hs'
    cases hs'
  · intro i s _ _ _ s' hs'
    obtain rfl := Except.ok.inj hs'
    rw [rebuild_round, List.flatMap_singleton]
    rfl
  · intro i s pos i' rounds ending _ _ _ _ _ _ ih s' hs'
    rw [rebuild_round, List.flatMap_cons, List.append_assoc]
    exact congrArg (r.added s ++ ·) (ih s' hs')

/-- The occurrences to replace are those that rounds have replaced. -/
theorem filter_taken (rounds : List Pass) :
    (rounds.filterMap r.stop?).filter (·.taken) = rounds.filterMap r.replaced? :=
  List.filter_filterMap ..

end Run

/-! ## The theorem -/

/-- Before the first round, everything up to the start is dealt with. -/
theorem sane_startingAt {start : Nat} (hstart : (dropBytes? r.text start).isSome) :
    ∃ i, r.Sane (.startingAt start) i ∧
      r.text.length - i = ((dropBytes? r.text start).getD []).length := by
  obtain ⟨rest, hrest⟩ := Option.isSome_iff_exists.1 hstart
  obtain ⟨i, hi, rfl, rfl⟩ := exists_of_dropBytes? hrest
  refine ⟨i, ⟨hi, rfl, i, Nat.le_refl i, rfl⟩, ?_⟩
  rw [hrest, Option.getD_some, List.length_drop]

/-- What is said of a run of the loop from a position on. -/
structure Orderly (r : Replacing) (start : Nat) (rounds : List Pass)
    (ending : Except String Pass) : Prop where
  /-- The loop computes the substitution. -/
  computes : substitute r.search r.template r.text start r.global = r.outcome ending
  /-- There is at most one round more than there are characters. -/
  length_le : rounds.length ≤ ((dropBytes? r.text start).getD []).length + 1
  increasing : rounds.Pairwise (·.pos < ·.pos)
  /-- The position and the end of what is dealt with lie between characters. -/
  boundary : ∀ s ∈ rounds, s.last ≤ s.pos ∧ (dropBytes? r.text s.pos).isSome ∧
    (dropBytes? r.text s.last).isSome
  /-- An occurrence lies at or after the position, and the text before it can be cut out. -/
  slices : ∀ s ∈ rounds, ∀ t, r.stop? s = some t → s.pos ≤ t.whole.start ∧
    t.whole.Within r.text ∧ (sliceBytes? r.text s.last t.whole.start).isSome
  /-- So can the rest of the text. -/
  rest : ∀ s, ending = .ok s → (dropBytes? r.text s.last).isSome
  /-- What is replaced stands in order, and apart. -/
  ascending : (rounds.filterMap r.replaced?).Pairwise fun a b =>
    a.whole.start < b.whole.start ∧ a.whole.stop ≤ b.whole.start
  /-- Before every round, the counter is the number of occurrences replaced, and the text rebuilt
  is what they have added. -/
  logs : ∀ before s later, rounds = before ++ s :: later →
    s.count = (before.filterMap r.replaced?).length ∧ s.rebuilt = before.flatMap r.added
  /-- So it is at the end. -/
  logs_ending : ∀ s, ending = .ok s →
    s.count = (rounds.filterMap r.replaced?).length ∧ s.rebuilt = rounds.flatMap r.added
  /-- Without `global`, the counter is at most one. -/
  single : r.global = false → (rounds.filterMap r.replaced?).length ≤ 1
  /-- There is a result exactly when the counter is not zero. -/
  returned : ∀ s, ending = .ok s →
    ((∃ result, substitute r.search r.template r.text start r.global = .ok (some result)) ↔
      1 ≤ s.count)

theorem Run.outcome_eq (hfits : r.Fits) {start : Nat} {rounds : List Pass}
    {ending : Except String Pass} (h : r.Run (.startingAt start) rounds ending)
    (hstart : (dropBytes? r.text start).isSome) :
    substitute r.search r.template r.text start r.global = r.outcome ending := by
  obtain ⟨i, hs, hleft⟩ := sane_startingAt hstart
  have hlength := h.length_le hfits hs
  rw [hleft] at hlength
  have hsweep : sweep r.search r.text start r.global =
      { stops := rounds.filterMap r.stop?, failure := Run.failureOf ending } :=
    h.sweepFrom_eq hfits hs hlength
  rw [substitute, hsweep]
  cases ending with
  | error e => rfl
  | ok s' =>
    have hlogs := h.logs_ending hfits hs s' rfl
    have hrebuild := h.rebuild_eq hfits hs s' rfl
    simp only [Run.failureOf, Sweep.taken, Run.filter_taken, outcome, Except.map, hlogs.first,
      hlogs.rebuilt, hlogs.count]
    cases hreplaced : rounds.filterMap r.replaced? with
    | nil => rfl
    | cons t rest =>
      rw [hreplaced] at hrebuild
      have hcount : (Pass.startingAt start).count + (t :: rest).length = (t :: rest).length :=
        Nat.zero_add _
      rw [hcount]
      exact congrArg (fun rebuilt =>
        Except.ok (some (Substitution.mk rebuilt (t :: rest).length t.spans))) hrebuild

/-- The groups of a first occurrence are at hand exactly when the counter is not zero. -/
theorem returned_iff {start : Nat} {rounds : List Pass} {s' : Pass}
    (h : r.Logs (.startingAt start) rounds s') :
    (∃ result, r.outcome (.ok s') = .ok (some result)) ↔ 1 ≤ s'.count := by
  have hcount : s'.count = (rounds.filterMap r.replaced?).length :=
    h.count.trans (Nat.zero_add _)
  have hfirst : s'.first = (rounds.filterMap r.replaced?).head?.map (·.spans) := h.first
  rw [hcount, outcome, Except.map, hfirst]
  cases rounds.filterMap r.replaced? with
  | nil => simp
  | cons t rest => simp

/-- **The loop of a substitution ends,** computes the substitution, and keeps to the text. -/
theorem substitution_loop_ends (r : Replacing) (start : Nat) (hfits : r.Fits)
    (hstart : (dropBytes? r.text start).isSome) :
    ∃ rounds ending, r.Run (.startingAt start) rounds ending ∧
      r.Orderly start rounds ending ∧
      ∀ rounds' ending', r.Run (.startingAt start) rounds' ending' →
        rounds' = rounds ∧ ending' = ending := by
  obtain ⟨i, hs, hleft⟩ := sane_startingAt hstart
  obtain ⟨rounds, ending, hrun⟩ := hs.exists_run hfits
  refine ⟨rounds, ending, hrun, ?_, fun _ _ => hrun.unique⟩
  have hcomputes := hrun.outcome_eq hfits hstart
  exact {
    computes := hcomputes
    length_le := hleft ▸ hrun.length_le hfits hs
    increasing := hrun.increasing hfits hs
    boundary := by
      intro s hmem
      obtain ⟨k, -, hsane⟩ := hrun.sane hfits hs s hmem
      exact ⟨hsane.last_le, hsane.cuts⟩
    slices := by
      intro s hmem t hstop
      obtain ⟨k, -, hsane⟩ := hrun.sane hfits hs s hmem
      exact hsane.slices hfits hstop
    rest := hrun.last_isSome hfits hs
    ascending := hrun.ascending hfits hs
    logs := by
      intro before s later hrounds
      have hlogs := hrun.logs hfits hs hrounds
      exact ⟨hlogs.count.trans (Nat.zero_add _), hlogs.rebuilt⟩
    logs_ending := by
      intro s hending
      have hlogs := hrun.logs_ending hfits hs s hending
      exact ⟨hlogs.count.trans (Nat.zero_add _), hlogs.rebuilt⟩
    single := hrun.single hfits hs
    returned := by
      intro s hending
      have hlogs := hrun.logs_ending hfits hs s hending
      rw [hcomputes, hending]
      exact returned_iff hlogs }

/-- A lawful matcher answers every search so. -/
theorem fits_of_lawful {m : Matcher} (hm : m.Lawful) (p : m.Pattern) (template : Template)
    (text : List Char) (global : Bool) : Fits ⟨m.search p text, template, text, global⟩ := by
  intro pos spans whole hpos hsearch hwhole
  obtain ⟨b, rest, rfl, hstart⟩ := hm.start_le p text pos spans hpos hsearch
  obtain rfl := Option.some.inj hwhole
  exact ⟨hstart, hm.within p text pos _ hpos hsearch _ List.mem_cons_self b rfl⟩

/-- The runs of `b` in `aébbc`, each in angle brackets. -/
def bracketing : Replacing where
  search := starred.search 'b' ['a', 'é', 'b', 'b', 'c']
  template := ⟨[.literal ['<'], .group 0, .literal ['>']]⟩
  text := ['a', 'é', 'b', 'b', 'c']
  global := true

/-- From `é` on there are four rounds. The third passes over the empty match at the end of `bb`, and
goes on with nothing more dealt with. -/
theorem substitution_loop_ends_past_touching_match :
    bracketing.Fits ∧ (dropBytes? bracketing.text 1).isSome ∧
      ∃ rounds ending, bracketing.Run (.startingAt 1) rounds ending ∧
        bracketing.Orderly 1 rounds ending ∧
        rounds.map (fun s => (s.pos, s.last, s.count)) =
          [(1, 1, 0), (3, 1, 1), (5, 5, 2), (6, 5, 2)] ∧
        substitute bracketing.search bracketing.template bracketing.text 1 bracketing.global =
          .ok (some ⟨['<', '>', 'é', '<', 'b', 'b', '>', 'c', '<', '>'], 3, [some ⟨1, 1⟩]⟩) := by
  have hfits : bracketing.Fits := fits_of_lawful starred_lawful 'b' _ _ true
  have hrun : bracketing.Run (.startingAt 1)
      [⟨1, 1, none, [], 0, none⟩, ⟨3, 1, some 1, ['<', '>'], 1, some [some ⟨1, 1⟩]⟩,
        ⟨5, 5, some 5, ['<', '>', 'é', '<', 'b', 'b', '>'], 2, some [some ⟨1, 1⟩]⟩,
        ⟨6, 5, some 5, ['<', '>', 'é', '<', 'b', 'b', '>'], 2, some [some ⟨1, 1⟩]⟩]
      (.ok ⟨6, 6, some 6, ['<', '>', 'é', '<', 'b', 'b', '>', 'c', '<', '>'], 3,
        some [some ⟨1, 1⟩]⟩) :=
    .next rfl (.next rfl (.next rfl (.finished rfl)))
  obtain ⟨rounds, ending, -, horderly, hunique⟩ :=
    substitution_loop_ends bracketing 1 hfits rfl
  obtain ⟨rfl, rfl⟩ := hunique _ _ hrun
  exact ⟨hfits, rfl, _, _, hrun, horderly, rfl, horderly.computes⟩

end Replacing

end PatternSession
