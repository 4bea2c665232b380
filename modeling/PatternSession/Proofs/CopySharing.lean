import PatternSession.Proofs.Family
import PatternSession.Proofs.Showing

/-!
# Which calls see the same copy

Every operation binds its text before anything else, those that are then rejected included, and so
do the next match and the result of a match found long ago. The generation in a call tells the
engine which copy it is shown, so it has to be taken anew whenever another text object is bound, and
should not be otherwise.

**Theorem (`generation_follows_bound_text`).** For any engines, in every interleaving of any number
of sessions: a call that an operation makes is shown the units of the text that the operation is
about, with the bounds that it resolves. Two calls have the same generation exactly when they are
made in one session for one text object, and in between that session binds no other. No call shares
the generation of a call that opens a session.

**Proof.** A copy that is held after an event was held before it, or is new and of the text that the
event binds (`HasCopy.of_step`). So a generation is held from the call on only where the event of
the call binds its text (`Confined`), and nowhere once another text is bound there. The other
direction is `Keeps`: a copy is kept as long as nothing else is bound.
-/

namespace PatternSession

variable {C S H : Type}

/-! ## Copies in a buffer -/

namespace TextBuffer

/-- There is a copy of the text, of this generation. -/
def Holds (b : TextBuffer) (text : Text) (g : Nat) : Prop :=
  ∃ copy, b.held = some copy ∧ copy.source = text ∧ copy.generation = g

variable {b : TextBuffer} {supply : Supply} {text t : Text} {g : Nat}

theorem not_holds_empty : ¬({} : TextBuffer).Holds text g := by
  rintro ⟨copy, hheld, -⟩
  cases hheld

theorem Holds.generation_eq (h : b.Holds text g) : b.generation = g := by
  obtain ⟨copy, hheld, -, rfl⟩ := h
  rw [generation, hheld]

/-- A text that is held already is bound at no cost. -/
theorem Holds.ensure_eq (h : b.Holds text g) (supply : Supply) :
    b.ensure supply text = (b, supply) := by
  obtain ⟨copy, hheld, rfl, -⟩ := h
  rw [ensure, hheld]
  exact if_pos rfl

theorem holds_ensure (b : TextBuffer) (supply : Supply) (text : Text) :
    (b.ensure supply text).1.Holds text (b.ensure supply text).1.generation := by
  obtain ⟨copy, hheld, hsource⟩ := Option.map_eq_some_iff.1 (b.source_ensure supply text)
  refine ⟨copy, hheld, hsource, ?_⟩
  rw [generation, hheld]

/-- What is held then is of the text that is bound, and was held before or has a new generation. -/
theorem Holds.of_ensure (h : (b.ensure supply text).1.Holds t g) :
    t = text ∧ (b.Holds t g ∨ (g = supply.next ∧ g < (b.ensure supply text).2.next)) := by
  rcases b.ensure_cases supply text with ⟨hsource, heq⟩ | ⟨-, heq⟩
  · rw [heq] at h
    refine ⟨?_, .inl h⟩
    obtain ⟨copy, hheld, rfl, -⟩ := h
    rw [hheld] at hsource
    exact Option.some.inj hsource
  · rw [heq] at h ⊢
    obtain ⟨copy, hheld, rfl, rfl⟩ := h
    obtain rfl := Option.some.inj hheld
    exact ⟨rfl, .inr ⟨rfl, Nat.lt_succ_self _⟩⟩

end TextBuffer

/-! ## Binding -/

namespace Operation

/-- The text that the operation binds in a session that lives. -/
def text? : Operation → Option Text
  | find text | findAt text _ | findIn text _ _ | isMatchAt text _ => some text
  | replace text _ | replaceFrom text _ _ => some text
  | nextItem it => if it.cursor = .done then none else some it.text
  | nextMatch m => if m.bounds.stop < m.resumeAt then none else some m.text
  | result m _ => some m.text
  | dispose => none

theorem text?_eq (op : Operation) (options : String) :
    op.text? = (op.request options).map (·.text) := by
  cases op with
  | nextItem it =>
    obtain ⟨text, cursor⟩ := it
    cases cursor <;> rfl
  | nextMatch m =>
    simp only [text?, request]
    split <;> rfl
  | _ => rfl

/-- An operation leaves the session alone, ends it, or binds its text. -/
theorem buffer_cases (op : Operation) (s : Session S H) (supply : Supply) :
    ((op.run s supply).session = s ∧ (op.text? = none ∨ s.disposed = true)) ∨
    ((op.run s supply).session.disposed = true ∧ (op.run s supply).session.buffer = {}) ∨
    ∃ text, op.text? = some text ∧ s.disposed = false ∧
      (op.run s supply).session.disposed = false ∧
      (op.run s supply).session.buffer = (s.buffer.ensure supply text).1 ∧
      (op.run s supply).supply = (s.buffer.ensure supply text).2 := by
  cases hd : s.disposed with
  | true => exact .inl ⟨(op.run_of_disposed hd supply).1, .inr rfl⟩
  | false =>
    rcases op.run_cases s supply with rfl | ⟨r, hr, hrun⟩ | ⟨hr, -, hrun⟩
    · exact .inr (.inl ⟨s.dispose_disposed, Session.dispose_buffer hd⟩)
    · obtain ⟨hbuffer, hsupply⟩ := r.attempt_buffer hd supply
      have hlive := (r.attempt_disposed s supply).trans hd
      rw [hrun, Turn.map]
      refine .inr (.inr ⟨r.text, ?_, rfl, hlive, hbuffer, hsupply⟩)
      rw [op.text?_eq s.options, hr, Option.map_some]
    · rw [hrun, op.text?_eq s.options, hr]
      exact .inl ⟨rfl, .inl rfl⟩

end Operation

/-- A session is opened without a copy. -/
theorem Session.create_buffer (engine : Engine S H) (state : S) (supply : Supply)
    (pattern options : String) :
    (create engine state supply pattern options).session.buffer = {} := by
  unfold create
  dsimp only
  split
  · exact dispose_buffer rfl
  · rfl

/-! ## Ranges -/

theorem Session.ranges_freeings (s : Session S H) :
    s.freeings.filterMap EngineCall.range? = [] := by
  unfold freeings
  split <;> rfl

/-- An operation shows the engine nothing, or the copy that its text is bound to. -/
theorem Operation.ranges_cases (op : Operation) (s : Session S H) (supply : Supply) :
    (op.calls s supply).filterMap EngineCall.range? = [] ∨
    ∃ r bounds, s.disposed = false ∧ op.request s.options = some r ∧
      (s.bind supply r.text r.start r.len).answer = .ok bounds ∧
      (op.calls s supply).filterMap EngineCall.range? =
        [(s.buffer.ensure supply r.text).1.range bounds] := by
  rcases op.run_cases s supply with rfl | ⟨r, hr, -⟩ | ⟨hr, hop, -⟩
  · rw [calls_dispose]
    exact .inl s.ranges_freeings
  · rw [calls_of_request supply hr]
    cases hd : s.disposed with
    | true =>
      rw [Request.calls_of_disposed hd]
      exact .inl rfl
    | false =>
      cases hbind : (s.bind supply r.text r.start r.len).answer with
      | error e =>
        rw [Request.calls_of_rejected hd hbind]
        exact .inl rfl
      | ok bounds =>
        rw [Request.calls_of_bounds hd hbind]
        refine .inr ⟨r, bounds, rfl, hr, hbind, ?_⟩
        rw [List.filterMap_cons_some (r.range?_engineCall _ bounds)]
        rfl
  · rw [calls_of_no_request supply hr hop]
    exact .inl rfl

/-- Opening a session shows the engine the copy of the empty text. -/
theorem Session.ranges_create (engine : Engine S H) (state : S) (supply : Supply)
    (pattern options : String) :
    (create (watching engine) (state, []) supply pattern options).session.log.filterMap
        EngineCall.range? = [(openingCall supply pattern options).range] := by
  obtain ⟨s, -, -, -, hcreate⟩ := Session.create_watched engine state supply pattern options
  rw [hcreate]
  split
  · rw [Session.dispose_watched]
    show ([EngineCall.matching _ _] ++ s.freeings).filterMap EngineCall.range? = _
    rw [List.filterMap_append, s.ranges_freeings]
    rfl
  · rfl

/-! ## Events -/

namespace Family

/-- The text that an event binds in the session in this place, if it lives. -/
def Event.bound? (place : Nat) : Event C → Option Text
  | opened _ => none
  | asked i op => if i = place then op.text? else none

/-- The engine calls of an event. -/
def Event.calls (engine : C → Engine S H) (state : S) (F : Family C S H) :
    Event C → List EngineCall
  | opened setup => (Session.create (watching (engine setup.config)) (state, []) F.supply
      setup.pattern setup.options).session.log
  | asked place op =>
    match F.members[place]? with
    | some (_, s) => op.calls s F.supply
    | none => []

/-- What the engine is shown in these calls. -/
def Event.ranges (engine : C → Engine S H) (state : S) (F : Family C S H) (e : Event C) :
    List TextRange :=
  (e.calls engine state F).filterMap EngineCall.range?

theorem Event.bound?_inj {e : Event C} {i j : Nat} {t t' : Text} (h : e.bound? i = some t)
    (h' : e.bound? j = some t') : i = j ∧ t = t' := by
  cases e with
  | opened setup => cases h
  | asked place op =>
    simp only [bound?, Option.ite_none_right_eq_some] at h h'
    obtain ⟨rfl, ht⟩ := h
    obtain ⟨rfl, ht'⟩ := h'
    exact ⟨rfl, Option.some.inj (ht.symm.trans ht')⟩

/-- The member in this place holds a copy of the text, of this generation. -/
def HasCopy (F : Family C S H) (place : Nat) (text : Text) (g : Nat) : Prop :=
  ∃ setup s, F.members[place]? = some (setup, s) ∧ s.buffer.Holds text g

variable {engine : C → Engine S H} {state : S} {F : Family C S H}

theorem step_asked {place : Nat} {setup : Setup C} {s : Session S H}
    (h : F.members[place]? = some (setup, s)) (op : Operation) :
    F.step engine state (.asked place op) =
      ⟨F.members.set place (setup, (op.run s F.supply).session), (op.run s F.supply).supply⟩ := by
  simp only [step, h]

theorem next_le_step (F : Family C S H) (e : Event C) :
    F.supply.next ≤ (F.step engine state e).supply.next := by
  cases e with
  | opened setup =>
    have hle := setup.next_le_open engine state F.supply
    unfold step
    dsimp only
    split <;> exact hle
  | asked place op =>
    cases hplace : F.members[place]? with
    | none =>
      simp only [step, hplace]
      exact Nat.le_refl _
    | some member =>
      rw [step_asked hplace]
      exact op.next_le_run _ _

theorem next_step_opened (F : Family C S H) (setup : Setup C) :
    (F.step engine state (.opened setup)).supply.next = F.supply.next + 1 := by
  have hopen : (setup.open engine state F.supply).supply.next = F.supply.next + 1 := by
    unfold Setup.open Session.create
    dsimp only
    split <;> rfl
  unfold step
  dsimp only
  split <;> exact hopen

/-- A member is left alone, or has run the operation of the event, or was not there before. -/
theorem member_cases {e : Event C} {place : Nat} {setup : Setup C} {s' : Session S H}
    (h : (F.step engine state e).members[place]? = some (setup, s')) :
    (F.members[place]? = some (setup, s') ∧ e.bound? place = none) ∨
    (∃ (op : Operation) (s : Session S H), F.members[place]? = some (setup, s) ∧
      e.bound? place = op.text? ∧
      s' = (op.run s F.supply).session ∧
      (F.step engine state e).supply = (op.run s F.supply).supply) ∨
    (F.members[place]? = none ∧ s'.buffer = {}) := by
  cases e with
  | opened new =>
    unfold step at h
    dsimp only at h
    split at h
    · rw [List.getElem?_append] at h
      split at h
      · exact .inl ⟨h, rfl⟩
      next hlt =>
        obtain rfl := (Prod.mk.inj (List.mem_singleton.1 (List.mem_of_getElem? h))).2
        exact .inr (.inr ⟨List.getElem?_eq_none (Nat.not_lt.1 hlt), Session.create_buffer ..⟩)
    · exact .inl ⟨h, rfl⟩
  | asked other op =>
    rw [Event.bound?]
    cases hother : F.members[other]? with
    | none =>
      simp only [step, hother] at h
      have hne : other ≠ place := by
        rintro rfl
        rw [hother] at h
        cases h
      exact .inl ⟨h, if_neg hne⟩
    | some member =>
      rw [step_asked hother] at h ⊢
      by_cases hne : other = place
      · subst hne
        rw [List.getElem?_set_self (List.getElem?_eq_some_iff.1 hother).1] at h
        obtain ⟨rfl, rfl⟩ := Prod.mk.inj (Option.some.inj h)
        exact .inr (.inl ⟨op, member.2, hother, if_pos rfl, rfl, rfl⟩)
      · rw [List.getElem?_set_ne hne] at h
        exact .inl ⟨h, if_neg hne⟩

/-- **A copy that is held was held before, or is new** and of the text that the event binds. -/
theorem HasCopy.of_step {e : Event C} {place : Nat} {text : Text} {g : Nat}
    (h : (F.step engine state e).HasCopy place text g) :
    F.HasCopy place text g ∨
      (g = F.supply.next ∧ g < (F.step engine state e).supply.next ∧
        e.bound? place = some text) := by
  obtain ⟨setup, s', hplace', hholds⟩ := h
  rcases member_cases hplace' with ⟨hplace, -⟩ | ⟨op, s, hplace, hbound, rfl, hsupply⟩ |
    ⟨-, hempty⟩
  · exact .inl ⟨setup, s', hplace, hholds⟩
  · rw [hsupply, hbound]
    rcases op.buffer_cases s F.supply with ⟨hsame, -⟩ | ⟨-, hempty⟩ |
      ⟨t, htext, -, -, hbuffer, hsupply⟩
    · rw [hsame] at hholds
      exact .inl ⟨setup, s, hplace, hholds⟩
    · rw [hempty] at hholds
      exact absurd hholds TextBuffer.not_holds_empty
    · rw [hbuffer] at hholds
      obtain ⟨rfl, hheld | ⟨hnew, hlt⟩⟩ := hholds.of_ensure
      · exact .inl ⟨setup, s, hplace, hheld⟩
      · rw [hsupply]
        exact .inr ⟨hnew, hlt, htext⟩
  · rw [hempty] at hholds
    exact absurd hholds TextBuffer.not_holds_empty

/-- The generation has been given out, and is held in such places and of such texts only. -/
structure Confined (P : Nat → Text → Prop) (g : Nat) (F : Family C S H) : Prop where
  given : g < F.supply.next
  only : ∀ {place text}, F.HasCopy place text g → P place text

theorem Confined.step {P : Nat → Text → Prop} {g : Nat} (h : Confined P g F) (e : Event C) :
    Confined P g (F.step engine state e) where
  given := Nat.lt_of_lt_of_le h.given (F.next_le_step e)
  only hhas := by
    rcases hhas.of_step with hold | ⟨rfl, -⟩
    · exact h.only hold
    · exact absurd h.given (Nat.lt_irrefl _)

/-- **What is confined stays so.** -/
theorem Confined.run {P : Nat → Text → Prop} {g : Nat} (h : Confined P g F)
    (events : List (Event C)) : Confined P g (F.run engine state events) := by
  induction events generalizing F with
  | nil => exact h
  | cons e events ih => exact ih (h.step e)

/-- Every generation that is held is held by one member, of one text. -/
def Apart (F : Family C S H) : Prop :=
  ∀ place text g, F.HasCopy place text g → Confined (fun i t => i = place ∧ t = text) g F

theorem Apart.step (h : F.Apart) (e : Event C) : (F.step engine state e).Apart := by
  intro place text g hhas
  rcases hhas.of_step with hold | ⟨hnew, hlt, hbound⟩
  · exact (h place text g hold).step e
  · refine ⟨hlt, ?_⟩
    intro i t hi
    rcases hi.of_step with hold | ⟨-, -, hbound'⟩
    · exact absurd (hnew ▸ (h i t g hold).given) (Nat.lt_irrefl _)
    · exact Event.bound?_inj hbound' hbound

theorem Apart.run (h : F.Apart) (events : List (Event C)) :
    (F.run engine state events).Apart := by
  induction events generalizing F with
  | nil => exact h
  | cons e events ih => exact ih (h.step e)

/-- **No generation is held twice.** -/
theorem Apart.after (events : List (Event C)) : (after engine state events).Apart := by
  have hempty : Apart ({} : Family C S H) := by
    rintro place text g ⟨setup, s, hplace, -⟩
    cases hplace
  exact hempty.run events

/-! ## What members keep -/

/-- A copy shows its text, and a disposed session has none. -/
def InOrder (_ : Setup C) (s : Session S H) (_ : Supply) : Prop :=
  s.buffer.Shows ∧ (s.disposed = true → s.buffer = {})

theorem inOrder_run (h : F.Holds InOrder) (events : List (Event C)) :
    (F.run engine state events).Holds InOrder := by
  refine h.run (fun h _ => h) ?_ ?_ events
  · intro setup supply hok
    have hbuffer : (setup.open engine state supply).session.buffer = {} :=
      Session.create_buffer ..
    rw [InOrder, hbuffer]
    exact ⟨.empty, fun _ => rfl⟩
  · intro setup s supply op ⟨hshows, hdisposed⟩
    refine ⟨op.shows_run hshows supply, ?_⟩
    rcases op.buffer_cases s supply with ⟨hsame, -⟩ | ⟨-, hempty⟩ | ⟨t, -, -, hlive, -⟩
    · rw [hsame]
      exact hdisposed
    · exact fun _ => hempty
    · intro hd
      rw [hlive] at hd
      cases hd

/-- After an event that binds a text there, the member has no copy of another one. -/
theorem HasCopy.eq_of_bound (hF : F.Holds InOrder) {e : Event C} {place : Nat} {text t : Text}
    {g : Nat} (h : (F.step engine state e).HasCopy place text g)
    (hbound : e.bound? place = some t) : text = t := by
  obtain ⟨setup, s', hplace', hholds⟩ := h
  rcases member_cases hplace' with ⟨-, hnone⟩ | ⟨op, s, hplace, hop, rfl, -⟩ | ⟨-, hempty⟩
  · rw [hnone] at hbound
    cases hbound
  · rw [hop] at hbound
    rcases op.buffer_cases s F.supply with ⟨hsame, hnone | hd⟩ | ⟨-, hempty⟩ |
      ⟨t', htext, -, -, hbuffer, -⟩
    · rw [hnone] at hbound
      cases hbound
    · rw [hsame, (hF _ (List.mem_of_getElem? hplace)).2 hd] at hholds
      exact absurd hholds TextBuffer.not_holds_empty
    · rw [hempty] at hholds
      exact absurd hholds TextBuffer.not_holds_empty
    · rw [hbuffer] at hholds
      exact hholds.of_ensure.1.trans (Option.some.inj (htext.symm.trans hbound))
  · rw [hempty] at hholds
    exact absurd hholds TextBuffer.not_holds_empty

/-- The generation of a copy is nowhere once another text is bound in its place. -/
theorem Confined.lost {P : Nat → Text → Prop} {g place : Nat} {text t : Text}
    (h : Confined P g F) (hP : ∀ {i t'}, P i t' → i = place ∧ t' = text) (hF : F.Holds InOrder)
    {e : Event C} (hbound : e.bound? place = some t) (hne : t ≠ text) :
    Confined (fun _ _ => False) g (F.step engine state e) := by
  have hstep : Confined P g (F.step engine state e) := h.step e
  refine ⟨hstep.given, ?_⟩
  intro i t' hi
  obtain ⟨rfl, rfl⟩ := hP (hstep.only hi)
  exact hne (hi.eq_of_bound hF hbound).symm

/-- So if it is held in the end, only the text of its copy was bound there. -/
theorem Confined.eq_of_bound {P : Nat → Text → Prop} {g place : Nat} {text : Text}
    (h : Confined P g F) (hP : ∀ {i t}, P i t → i = place ∧ t = text) (hF : F.Holds InOrder)
    {events : List (Event C)} (hhas : (F.run engine state events).HasCopy place text g)
    {e : Event C} (he : e ∈ events) {t : Text} (hbound : e.bound? place = some t) : t = text := by
  by_contra hne
  -- the event that binds another text, after which the generation is nowhere
  obtain ⟨left, right, rfl⟩ := List.append_of_mem he
  have hleft : Confined P g (F.run engine state left) := h.run left
  have hlost : Confined (fun _ _ => False) g ((F.run engine state left).step engine state e) :=
    hleft.lost hP (inOrder_run hF left) hbound hne
  rw [run_append] at hhas
  exact (hlost.run right).only hhas

/-- The member in this place holds the copy as long as it lives. -/
def Keeps (F : Family C S H) (place : Nat) (text : Text) (g : Nat) : Prop :=
  ∃ setup s, F.members[place]? = some (setup, s) ∧ (s.disposed = false → s.buffer.Holds text g)

theorem Keeps.step {place : Nat} {text : Text} {g : Nat} (h : F.Keeps place text g) {e : Event C}
    (he : ∀ t, e.bound? place = some t → t = text) :
    (F.step engine state e).Keeps place text g := by
  obtain ⟨setup, s, hplace, hholds⟩ := h
  obtain ⟨s', hplace'⟩ : ∃ s', (F.step engine state e).members[place]? = some (setup, s') :=
    exists_member_run hplace [e]
  refine ⟨setup, s', hplace', ?_⟩
  rcases member_cases hplace' with ⟨hsame, -⟩ | ⟨op, s₁, hsame, hop, rfl, -⟩ | ⟨hnone, -⟩
  · obtain ⟨-, rfl⟩ := Prod.mk.inj (Option.some.inj (hplace.symm.trans hsame))
    exact hholds
  · obtain ⟨-, rfl⟩ := Prod.mk.inj (Option.some.inj (hplace.symm.trans hsame))
    rcases op.buffer_cases s F.supply with ⟨hsame, -⟩ | ⟨hd, -⟩ |
      ⟨t, htext, hlive, -, hbuffer, -⟩
    · rw [hsame]
      exact hholds
    · intro hlive
      rw [hd] at hlive
      cases hlive
    · obtain rfl := he t (hop.trans htext)
      rw [hbuffer, (hholds hlive).ensure_eq]
      exact fun _ => hholds hlive
  · rw [hplace] at hnone
    cases hnone

theorem Keeps.run {place : Nat} {text : Text} {g : Nat} (h : F.Keeps place text g)
    {events : List (Event C)} (hall : ∀ e ∈ events, ∀ t, e.bound? place = some t → t = text) :
    (F.run engine state events).Keeps place text g := by
  induction events generalizing F with
  | nil => exact h
  | cons e events ih =>
    rw [List.forall_mem_cons] at hall
    exact ih (h.step hall.1) hall.2

/-! ## The calls of an event -/

/-- An operation on a member that is there shows nothing, or the copy that its text is bound to. -/
theorem ranges_asked_cases (place : Nat) (op : Operation) (F : Family C S H) :
    (Event.asked place op).ranges engine state F = [] ∨
    ∃ setup s q bounds, F.members[place]? = some (setup, s) ∧ s.disposed = false ∧
      op.request s.options = some q ∧
      (s.bind F.supply q.text q.start q.len).answer = .ok bounds ∧
      (Event.asked place op).ranges engine state F =
        [(s.buffer.ensure F.supply q.text).1.range bounds] := by
  cases hplace : F.members[place]? with
  | none =>
    simp only [Event.ranges, Event.calls, hplace]
    exact .inl rfl
  | some member =>
    obtain ⟨setup, s⟩ := member
    simp only [Event.ranges, Event.calls, hplace]
    rcases op.ranges_cases s F.supply with hnone | ⟨q, bounds, hd, hq, hbind, heq⟩
    · exact .inl hnone
    · exact .inr ⟨setup, s, q, bounds, rfl, hd, hq, hbind, heq⟩

theorem ranges_opened (setup : Setup C) (F : Family C S H) :
    (Event.opened setup).ranges engine state F =
      [(openingCall F.supply setup.pattern setup.options).range] :=
  Session.ranges_create ..

/-- An event makes at most one call with a range. -/
theorem length_ranges_le (e : Event C) (F : Family C S H) :
    (e.ranges engine state F).length ≤ 1 := by
  cases e with
  | opened setup => rw [ranges_opened, List.length_singleton]
  | asked place op =>
    rcases ranges_asked_cases place op F with hnone | ⟨_, _, _, _, -, -, -, -, heq⟩
    · rw [hnone]
      exact Nat.zero_le 1
    · rw [heq, List.length_singleton]

/-- What is shown in an operation is the text that it is about, with the bounds that it resolves. -/
theorem exists_request_of_mem_ranges (hF : F.Holds InOrder) {place : Nat} {op : Operation}
    {r : TextRange} (hr : r ∈ (Event.asked place op).ranges engine state F) :
    ∃ setup s q, F.members[place]? = some (setup, s) ∧ op.request s.options = some q ∧
      op.text? = some q.text ∧ r.units = unitsOf q.text.chars ∧
      Session.resolveBounds q.text.chars.length q.start q.len = .ok r.bounds := by
  rcases ranges_asked_cases place op F with hnone | ⟨setup, s, q, bounds, hplace, -, hq, hbind, heq⟩
  · rw [hnone] at hr
    cases hr
  · rw [heq] at hr
    obtain rfl := List.mem_singleton.1 hr
    have hshows := (hF _ (List.mem_of_getElem? hplace)).1
    rw [hshows.bind_answer] at hbind
    refine ⟨setup, s, q, hplace, hq, ?_, hshows.units_ensure F.supply q.text, hbind⟩
    rw [op.text?_eq s.options, hq, Option.map_some]

/-- What is shown in an operation is held by the session after it. -/
theorem hasCopy_of_mem_ranges {place : Nat} {op : Operation} {r : TextRange}
    (hr : r ∈ (Event.asked place op).ranges engine state F) :
    ∃ text, (Event.asked (C := C) place op).bound? place = some text ∧
      (F.step engine state (.asked place op)).HasCopy place text r.generation := by
  rcases ranges_asked_cases place op F with hnone | ⟨setup, s, q, bounds, hplace, hd, hq, -, heq⟩
  · rw [hnone] at hr
    cases hr
  · rw [heq] at hr
    obtain rfl := List.mem_singleton.1 hr
    refine ⟨q.text, ?_, setup, (op.run s F.supply).session, ?_, ?_⟩
    · rw [Event.bound?, if_pos rfl, op.text?_eq s.options, hq, Option.map_some]
    · rw [step_asked hplace]
      exact List.getElem?_set_self (List.getElem?_eq_some_iff.1 hplace).1
    · rw [op.run_of_request F.supply hq, Turn.map, (q.attempt_buffer hd F.supply).1]
      exact s.buffer.holds_ensure F.supply q.text

/-- **After a call, its generation is held where the event of the call binds a text,** and nowhere
else. So the generation of a call that opens a session is not held at all. -/
theorem Apart.confined (hF : F.Apart) {e : Event C} {r : TextRange}
    (hr : r ∈ e.ranges engine state F) :
    Confined (fun place text => e.bound? place = some text) r.generation
      (F.step engine state e) := by
  cases e with
  | opened setup =>
    rw [ranges_opened] at hr
    obtain rfl := List.mem_singleton.1 hr
    refine ⟨?_, ?_⟩
    · rw [next_step_opened]
      exact Nat.lt_succ_self _
    · intro place text hhas
      rcases hhas.of_step with hold | ⟨-, -, hbound⟩
      · exact absurd (hF place text _ hold).given (Nat.lt_irrefl _)
      · exact hbound
  | asked place op =>
    obtain ⟨text, hbound, hhas⟩ := hasCopy_of_mem_ranges hr
    obtain ⟨hgiven, honly⟩ := hF.step _ place text _ hhas
    refine ⟨hgiven, ?_⟩
    intro i t hi
    obtain ⟨rfl, rfl⟩ := honly hi
    exact hbound

/-- A generation that was given out before is shown again for a text that is bound. -/
theorem exists_bound_of_given {e : Event C} {r : TextRange} (hr : r ∈ e.ranges engine state F)
    (hgiven : r.generation < F.supply.next) :
    ∃ place text, e.bound? place = some text ∧
      (F.step engine state e).HasCopy place text r.generation := by
  cases e with
  | opened setup =>
    rw [ranges_opened] at hr
    obtain rfl := List.mem_singleton.1 hr
    exact absurd hgiven (Nat.lt_irrefl _)
  | asked place op =>
    obtain ⟨text, hbound, hhas⟩ := hasCopy_of_mem_ranges hr
    exact ⟨place, text, hbound, hhas⟩

/-- A call for the text of a copy that is kept shows this copy. -/
theorem Keeps.generation_eq {place : Nat} {text : Text} {g : Nat} (h : F.Keeps place text g)
    {e : Event C} (hbound : e.bound? place = some text) {r : TextRange}
    (hr : r ∈ e.ranges engine state F) : r.generation = g := by
  cases e with
  | opened setup => cases hbound
  | asked other op =>
    rw [Event.bound?, Option.ite_none_right_eq_some] at hbound
    obtain ⟨rfl, htext⟩ := hbound
    obtain ⟨setup, s, hplace, hholds⟩ := h
    rcases ranges_asked_cases other op F with hnone | ⟨_, s', q, bounds, hplace', hd, hq, -, heq⟩
    · rw [hnone] at hr
      cases hr
    · obtain ⟨-, rfl⟩ := Prod.mk.inj (Option.some.inj (hplace.symm.trans hplace'))
      rw [op.text?_eq s.options, hq] at htext
      obtain rfl := Option.some.inj htext
      rw [heq, (hholds hd).ensure_eq] at hr
      obtain rfl := List.mem_singleton.1 hr
      exact (hholds hd).generation_eq

end Family

/-! ## The theorem -/

/-- **Calls share a generation exactly when they share a text object with no other bound in
between.** An event makes one call at the most. The call of an operation is shown the text that the
operation is about, with the bounds that it resolves. Two calls have one generation when both events
bind the same text object in the same session, and so do all in between that bind any there, those
included that are rejected after that. The event that opens a session binds nothing. -/
theorem generation_follows_bound_text (engine : C → Engine S H) (state : S)
    (before between : List (Family.Event C)) (first second : Family.Event C) :
    let F := Family.after engine state before
    let G := Family.after engine state (before ++ first :: between)
    (first.ranges engine state F).length ≤ 1 ∧
    (∀ place op, first = .asked place op → ∀ r ∈ first.ranges engine state F,
      ∃ setup s q, F.members[place]? = some (setup, s) ∧ op.request s.options = some q ∧
        op.text? = some q.text ∧ r.units = unitsOf q.text.chars ∧
        Session.resolveBounds q.text.chars.length q.start q.len = .ok r.bounds) ∧
    ∀ r ∈ first.ranges engine state F, ∀ r' ∈ second.ranges engine state G,
      (r.generation = r'.generation ↔
        ∃ place text, first.bound? place = some text ∧ second.bound? place = some text ∧
          ∀ e ∈ between, ∀ t, e.bound? place = some t → t = text) := by
  intro F G
  have hG : G = (F.step engine state first).run engine state between :=
    Family.run_append engine state {} before (first :: between)
  have hF : F.Holds Family.InOrder := Family.inOrder_run Family.holds_empty before
  refine ⟨Family.length_ranges_le first F, ?_, ?_⟩
  · rintro place op rfl r hr
    exact Family.exists_request_of_mem_ranges hF hr
  · intro r hr r' hr'
    have hconfined := (Family.Apart.after before).confined hr
    rw [hG] at hr'
    constructor
    · intro hsame
      rw [hsame] at hconfined
      obtain ⟨place, text, hbound', hhas⟩ :=
        Family.exists_bound_of_given hr' (hconfined.run between).given
      have hbound : first.bound? place = some text :=
        ((hconfined.run between).step second).only hhas
      refine ⟨place, text, hbound, hbound', ?_⟩
      intro e he t ht
      have hheld : ((F.step engine state first).run engine state (between ++ [second])).HasCopy
          place text r'.generation := by
        rw [Family.run_append]
        exact hhas
      exact hconfined.eq_of_bound (fun hi => Family.Event.bound?_inj hi hbound)
        (Family.inOrder_run hF [first]) hheld (List.mem_append_left _ he) ht
    · rintro ⟨place, text, hbound, hbound', hall⟩
      cases first with
      | opened setup => cases hbound
      | asked other op =>
        obtain ⟨t, ht, setup, s, hplace, hholds⟩ := Family.hasCopy_of_mem_ranges hr
        obtain ⟨rfl, rfl⟩ := Family.Event.bound?_inj ht hbound
        have hkeeps : (F.step engine state (.asked other op)).Keeps other t r.generation :=
          ⟨setup, s, hplace, fun _ => hholds⟩
        exact ((hkeeps.run hall).generation_eq hbound' hr').symm

/-- Two sessions; the second one searches a text that the first one has too. -/
def searchedInBoth : List (Family.Event Limits) :=
  [.opened ⟨{}, "b*", ""⟩, .opened ⟨{}, "b*", ""⟩, .asked 1 (.find ⟨1, "ébb"⟩)]

/-- Another text of equal content is rejected in between, and so the copy is made anew. Without it,
or with the same text, it is not. -/
theorem generation_follows_bound_text_of_rejected_range :
    let engine := bundled starred
    let search : Family.Event Limits := .asked 0 (.find ⟨1, "ébb"⟩)
    let other : Family.Event Limits := .asked 0 (.findAt ⟨2, "ébb"⟩ 9)
    let same : Family.Event Limits := .asked 0 (.findAt ⟨1, "ébb"⟩ 9)
    ∃ r r' r'',
      search.ranges engine () (.after engine () searchedInBoth) = [r] ∧
      search.ranges engine () (.after engine () (searchedInBoth ++ [search, other])) = [r'] ∧
      search.ranges engine () (.after engine () (searchedInBoth ++ [search, same])) = [r''] ∧
      r.generation ≠ r'.generation ∧ r.generation = r''.generation := by
  intro engine search other same
  obtain ⟨r, hr⟩ : ∃ r, search.ranges engine () (.after engine () searchedInBoth) = [r] :=
    List.length_eq_one_iff.1 (by decide +kernel)
  obtain ⟨r', hr'⟩ : ∃ r', search.ranges engine ()
      (.after engine () (searchedInBoth ++ [search, other])) = [r'] :=
    List.length_eq_one_iff.1 (by decide +kernel)
  obtain ⟨r'', hr''⟩ : ∃ r'', search.ranges engine ()
      (.after engine () (searchedInBoth ++ [search, same])) = [r''] :=
    List.length_eq_one_iff.1 (by decide +kernel)
  refine ⟨r, r', r'', hr, hr', hr'', ?_, ?_⟩
  · intro heq
    obtain ⟨place, text, hfirst, -, hall⟩ :=
      ((generation_follows_bound_text engine () searchedInBoth [other] search search).2.2
        r (hr ▸ List.mem_singleton_self r) r' (hr' ▸ List.mem_singleton_self r')).1 heq
    obtain ⟨rfl, rfl⟩ := Family.Event.bound?_inj (i := 0) (t := ⟨1, "ébb"⟩) rfl hfirst
    exact absurd (hall other (List.mem_singleton_self other) ⟨2, "ébb"⟩ rfl) (by decide)
  · refine ((generation_follows_bound_text engine () searchedInBoth [same] search search).2.2
      r (hr ▸ List.mem_singleton_self r) r'' (hr'' ▸ List.mem_singleton_self r'')).2
      ⟨0, ⟨1, "ébb"⟩, rfl, rfl, ?_⟩
    intro e he t ht
    obtain rfl := List.mem_singleton.1 he
    exact (Option.some.inj ht).symm

end PatternSession
