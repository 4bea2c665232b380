import PatternSession.Proofs.Generations
import PatternSession.Proofs.Lifecycle

/-!
# What a session's copy shows

A copy shows its text, whatever the engine does: an engine is handed ranges and cannot write to
them.

**Theorem (`Session.shows_after`).** For every engine and every course of acts, the units of the
copy that is held are those of its text.

So bounds are resolved against the text itself (`TextBuffer.Shows.bind_answer`).
-/

namespace PatternSession

variable {S H : Type}

namespace TextBuffer

/-- The units held are those of the characters held. -/
def Shows (b : TextBuffer) : Prop := b.units = unitsOf b.chars

theorem Shows.empty : Shows {} := rfl

theorem Shows.ensure {b : TextBuffer} (h : b.Shows) (supply : Supply) (text : Text) :
    (b.ensure supply text).1.Shows := by
  rcases b.ensure_cases supply text with ⟨-, heq⟩ | ⟨-, heq⟩
  · rwa [heq]
  · rw [heq]
    rfl

theorem Shows.units_ensure {b : TextBuffer} (h : b.Shows) (supply : Supply) (text : Text) :
    (b.ensure supply text).1.units = unitsOf text.chars := by
  have hshows : (b.ensure supply text).1.units = unitsOf (b.ensure supply text).1.chars :=
    h.ensure supply text
  rwa [chars_ensure] at hshows

theorem Shows.length_ensure {b : TextBuffer} (h : b.Shows) (supply : Supply) (text : Text) :
    (b.ensure supply text).1.length = text.chars.length := by
  rw [length, h.units_ensure, length_unitsOf]

variable {s : Session S H}

/-- Bounds are resolved against the text. -/
theorem Shows.bind_answer (h : s.buffer.Shows) (supply : Supply) (text : Text) (start : Nat)
    (len : Option Nat) :
    (s.bind supply text start len).answer =
      Session.resolveBounds text.chars.length start len := by
  rw [← h.length_ensure supply text]
  rfl

end TextBuffer

/-! ## Over any course of acts -/

theorem Session.shows_dispose {s : Session S H} (h : s.buffer.Shows) : s.dispose.buffer.Shows := by
  cases hd : s.disposed with
  | true => rwa [dispose_of_disposed hd]
  | false => rw [dispose_buffer hd]; exact .empty

theorem Session.shows_create (engine : Engine S H) (state : S) (supply : Supply)
    (pattern options : String) :
    (create engine state supply pattern options).session.buffer.Shows := by
  unfold create
  dsimp only
  split
  · exact shows_dispose .empty
  · exact .empty

theorem Request.shows_attempt (r : Request) {s : Session S H} (h : s.buffer.Shows)
    (supply : Supply) : (r.attempt s supply).session.buffer.Shows := by
  cases hd : s.disposed with
  | true => rwa [attempt_of_disposed hd]
  | false =>
    rw [(r.attempt_buffer hd supply).1]
    exact h.ensure supply r.text

theorem Operation.shows_run (op : Operation) {s : Session S H} (h : s.buffer.Shows)
    (supply : Supply) : (op.run s supply).session.buffer.Shows := by
  rcases op.run_cases s supply with rfl | ⟨r, -, hrun⟩ | ⟨-, -, hrun⟩
  · exact Session.shows_dispose h
  · rw [hrun]
    exact r.shows_attempt h supply
  · rwa [hrun]

/-- **The copy that a session holds shows its text,** whatever the engine does. -/
theorem Session.shows_after {s : Session S H} (h : s.buffer.Shows) (acts : List Act) :
    (s.after acts).buffer.Shows := by
  induction acts generalizing s with
  | nil => exact h
  | cons a acts ih =>
    have hstep : (a.run s).buffer.Shows := by
      cases a with
      | operate op supply => exact op.shows_run h supply
      | drop => exact shows_dispose h
    exact ih hstep

end PatternSession
