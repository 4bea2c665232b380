import PatternSession.Proofs.Operation

/-!
# Sessions side by side

Any number of sessions live next to each other and share nothing but the supply of generations. A
`Family` is such a set of sessions, each with what it was opened with; it moves by `Event`s, which
open a session or run an operation on one of those there. A list of events is one interleaving of
the sessions' histories.

**Theorem (`Family.Holds.run`).** A property of a session and the supply that holds when a session
is opened, is kept by its own operations, and is not disturbed when the supply moves on, holds of
every session after every interleaving.
-/

namespace PatternSession

variable {C S H : Type}

/-! ## The supply only moves on -/

theorem TextBuffer.next_le_ensure (b : TextBuffer) (supply : Supply) (text : Text) :
    supply.next ≤ (b.ensure supply text).2.next := by
  unfold ensure
  split
  · split
    · exact Nat.le_refl _
    · exact Nat.le_succ _
  · exact Nat.le_succ _

theorem Request.next_le_attempt (r : Request) (s : Session S H) (supply : Supply) :
    supply.next ≤ (r.attempt s supply).supply.next := by
  unfold attempt
  split
  · exact Nat.le_refl _
  · dsimp only
    split <;> exact s.buffer.next_le_ensure supply r.text

theorem Operation.next_le_run (op : Operation) (s : Session S H) (supply : Supply) :
    supply.next ≤ (op.run s supply).supply.next := by
  rcases op.run_cases s supply with rfl | ⟨r, -, hrun⟩ | ⟨-, -, hrun⟩
  · exact Nat.le_refl _
  · rw [hrun]
    exact r.next_le_attempt s supply
  · exact Nat.le_of_eq (congrArg (fun t => t.supply.next) hrun).symm

/-! ## Families -/

/-- What a session is opened with. -/
structure Setup (C : Type) where
  config : C
  pattern : String
  options : String

/-- Opens a session on the engine of the configuration. -/
def Setup.open (engine : C → Engine S H) (state : S) (setup : Setup C) (supply : Supply) :
    Turn S H (Except Error Unit) :=
  Session.create (engine setup.config) state supply setup.pattern setup.options

theorem Setup.next_le_open (engine : C → Engine S H) (state : S) (setup : Setup C)
    (supply : Supply) : supply.next ≤ (setup.open engine state supply).supply.next := by
  unfold Setup.open Session.create
  dsimp only
  split <;> exact TextBuffer.next_le_ensure {} supply emptyText

/-- Sessions, each with what it was opened with, and the supply that they share. -/
structure Family (C S H : Type) where
  members : List (Setup C × Session S H) := []
  supply : Supply := {}

namespace Family

/-- One thing that happens to a family. -/
inductive Event (C : Type) where
  | opened (setup : Setup C)
  /-- An operation on the session that was opened in this place. -/
  | asked (place : Nat) (op : Operation)

section Run

variable (engine : C → Engine S H) (state : S)

def step (F : Family C S H) : Event C → Family C S H
  | .opened setup =>
    let t := setup.open engine state F.supply
    match t.answer with
    | .ok () => ⟨F.members ++ [(setup, t.session)], t.supply⟩
    | .error _ => ⟨F.members, t.supply⟩
  | .asked place op =>
    match F.members[place]? with
    | some (setup, s) =>
      let t := op.run s F.supply
      ⟨F.members.set place (setup, t.session), t.supply⟩
    | none => F

def run (F : Family C S H) (events : List (Event C)) : Family C S H :=
  events.foldl (step engine state) F

/-- The family after an interleaving, from no sessions at all. -/
def after (events : List (Event C)) : Family C S H := run engine state {} events

theorem run_append (F : Family C S H) (as bs : List (Event C)) :
    F.run engine state (as ++ bs) = (F.run engine state as).run engine state bs :=
  List.foldl_append ..

theorem after_snoc (events : List (Event C)) (e : Event C) :
    after engine state (events ++ [e]) = (after engine state events).step engine state e :=
  run_append engine state {} events [e]

/-- A property that every session of a family has, together with the supply. -/
def Holds (P : Setup C → Session S H → Supply → Prop) (F : Family C S H) : Prop :=
  ∀ member ∈ F.members, P member.1 member.2 F.supply

variable {engine state} {P : Setup C → Session S H → Supply → Prop}

theorem Holds.step {F : Family C S H} (h : F.Holds P)
    (mono : ∀ {setup s supply supply'}, P setup s supply → supply.next ≤ supply'.next →
      P setup s supply')
    (opens : ∀ {setup supply}, (setup.open engine state supply).answer = .ok () →
      P setup (setup.open engine state supply).session (setup.open engine state supply).supply)
    (keeps : ∀ {setup s supply} (op : Operation), P setup s supply →
      P setup (op.run s supply).session (op.run s supply).supply)
    (e : Event C) : (F.step engine state e).Holds P := by
  cases e with
  | opened setup =>
    have hle := setup.next_le_open engine state F.supply
    unfold Family.step
    dsimp only
    split
    next hok =>
      intro member hmem
      -- the supply has moved on for the sessions before it too
      rcases List.mem_append.1 hmem with hmem | hmem
      · exact mono (h member hmem) hle
      · obtain rfl := List.mem_singleton.1 hmem
        exact opens hok
    next => exact fun member hmem => mono (h member hmem) hle
  | asked place op =>
    unfold Family.step
    dsimp only
    split
    next setup s hplace =>
      intro member hmem
      rcases List.mem_or_eq_of_mem_set hmem with hmem | rfl
      · exact mono (h member hmem) (op.next_le_run s F.supply)
      · exact keeps op (h _ (List.mem_of_getElem? hplace))
    next => exact h

/-- **What a session keeps holds after every interleaving.** -/
theorem Holds.run {F : Family C S H} (h : F.Holds P)
    (mono : ∀ {setup s supply supply'}, P setup s supply → supply.next ≤ supply'.next →
      P setup s supply')
    (opens : ∀ {setup supply}, (setup.open engine state supply).answer = .ok () →
      P setup (setup.open engine state supply).session (setup.open engine state supply).supply)
    (keeps : ∀ {setup s supply} (op : Operation), P setup s supply →
      P setup (op.run s supply).session (op.run s supply).supply)
    (events : List (Event C)) : (F.run engine state events).Holds P := by
  induction events generalizing F with
  | nil => exact h
  | cons e events ih => exact ih (h.step mono opens keeps e)

section Member

variable {Q : Session S H → Supply → Prop}

/-- A member stays in its place, with what it was opened with, and with what its own operations
keep. -/
theorem exists_member_step
    (mono : ∀ {s supply supply'}, Q s supply → supply.next ≤ supply'.next → Q s supply')
    (keeps : ∀ {s supply} (op : Operation), Q s supply →
      Q (op.run s supply).session (op.run s supply).supply)
    {F : Family C S H} {place : Nat} {setup : Setup C} {s : Session S H}
    (h : F.members[place]? = some (setup, s)) (hs : Q s F.supply) (e : Event C) :
    ∃ s', (F.step engine state e).members[place]? = some (setup, s') ∧
      Q s' (F.step engine state e).supply := by
  have hlt : place < F.members.length := (List.getElem?_eq_some_iff.1 h).1
  cases e with
  | opened new =>
    have hle := new.next_le_open engine state F.supply
    unfold step
    dsimp only
    split
    · exact ⟨s, by rw [List.getElem?_append_left hlt, h], mono hs hle⟩
    · exact ⟨s, h, mono hs hle⟩
  | asked other op =>
    unfold step
    dsimp only
    split
    next setup' s₁ hother =>
      by_cases hplace : other = place
      · subst hplace
        obtain ⟨rfl, rfl⟩ := Prod.mk.inj (Option.some.inj (h.symm.trans hother))
        exact ⟨_, List.getElem?_set_self hlt, keeps op hs⟩
      · exact ⟨s, by rw [List.getElem?_set_ne hplace, h], mono hs (op.next_le_run s₁ F.supply)⟩
    next => exact ⟨s, h, hs⟩

/-- **What a member keeps holds of it after every further interleaving.** -/
theorem exists_member_run_keeping
    (mono : ∀ {s supply supply'}, Q s supply → supply.next ≤ supply'.next → Q s supply')
    (keeps : ∀ {s supply} (op : Operation), Q s supply →
      Q (op.run s supply).session (op.run s supply).supply)
    {F : Family C S H} {place : Nat} {setup : Setup C} {s : Session S H}
    (h : F.members[place]? = some (setup, s)) (hs : Q s F.supply) (events : List (Event C)) :
    ∃ s', (F.run engine state events).members[place]? = some (setup, s') ∧
      Q s' (F.run engine state events).supply := by
  induction events generalizing F s with
  | nil => exact ⟨s, h, hs⟩
  | cons e events ih =>
    obtain ⟨s', h', hs'⟩ := exists_member_step (Q := Q) mono keeps h hs e
    exact ih h' hs'

end Member

theorem exists_member_run {F : Family C S H} {place : Nat} {setup : Setup C} {s : Session S H}
    (h : F.members[place]? = some (setup, s)) (events : List (Event C)) :
    ∃ s', (F.run engine state events).members[place]? = some (setup, s') := by
  obtain ⟨s', h', -⟩ := exists_member_run_keeping (Q := fun _ _ => True) (fun _ _ => trivial)
    (fun _ _ => trivial) h trivial events
  exact ⟨s', h'⟩

theorem holds_empty : Holds P ({} : Family C S H) := by
  intro member hmem
  cases hmem

/-- The match was reported, at some point of the interleaving, by an operation on the session in
this place. -/
def Obtained (engine : C → Engine S H) (state : S) (events : List (Event C)) (place : Nat)
    (found : Match) : Prop :=
  ∃ before op later setup s, events = before ++ .asked place op :: later ∧
    (after engine state before).members[place]? = some (setup, s) ∧
    (op.run s (after engine state before).supply).answer.match? = some found

end Run

end Family

end PatternSession
