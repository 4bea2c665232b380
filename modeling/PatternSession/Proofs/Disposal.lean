import PatternSession.Proofs.Progress

/-!
# An ended session stays closed

A session ends when it is disposed, or when its caller lets go of it. The matches and sequences
obtained from it live on, and every one of them keeps a way back in: the next match, the result of a
template, the next item.

**Theorem (`ended_session_is_closed`).** For every engine and every course of acts, once the session
has ended it refuses every operation with `Error.disposed`, whatever its arguments, and stays as it
is. A sequence that was not done yields that error once and then nothing.

**The way that is left open.** A match after which no room is left in its bounds says that there is
no next match without looking at the session, so it says so even after the end
(`exhausted_match_is_answered`). All other matches are refused.

An act that ends the session disposes it (`Act.run_of_ends`), and from then on no act changes
anything (`Session.after_of_disposed`), so the theorem is about disposed sessions alone.
-/

namespace PatternSession

variable {S H : Type}

/-! ## Acts -/

/-- One thing that is done to a session, or to a match or a sequence obtained from it. -/
inductive Act where
  /-- An operation, with the supply that it finds: other sessions may have taken from it. -/
  | operate (op : Operation) (supply : Supply)
  /-- The caller lets go of the session. -/
  | drop

namespace Act

/-- Does a session end with the act? -/
def ends : Act → Bool
  | operate .dispose _ => true
  | operate _ _ => false
  | drop => true

/-- The session after the act. -/
def run (s : Session S H) : Act → Session S H
  | operate op supply => (op.run s supply).session
  | drop => s.dispose

theorem run_of_ends {a : Act} (h : a.ends = true) (s : Session S H) : a.run s = s.dispose := by
  cases a with
  | operate op supply =>
    cases op with
    | dispose => rfl
    | _ => cases h
  | drop => rfl

/-- An act with which no session ends is an operation other than the disposal. -/
theorem exists_operation {a : Act} (h : a.ends = false) :
    ∃ op supply, op ≠ .dispose ∧ a = operate op supply := by
  cases a with
  | operate op supply =>
    refine ⟨op, supply, ?_, rfl⟩
    rintro rfl
    cases h
  | drop => cases h

end Act

namespace Session

/-- The session after the acts, one after the other. -/
def after (s : Session S H) (acts : List Act) : Session S H := acts.foldl Act.run s

theorem after_append (s : Session S H) (first second : List Act) :
    s.after (first ++ second) = (s.after first).after second :=
  List.foldl_append ..

/-! ## What a disposed session answers -/

section Disposed

variable {s : Session S H}

theorem dispose_of_disposed (hd : s.disposed = true) : s.dispose = s := by
  rw [dispose, if_pos hd]

theorem search_of_disposed (hd : s.disposed = true) (supply : Supply) (text : Text) (start : Nat)
    (len : Option Nat) : s.search supply text start len = ⟨.error .disposed, s, supply⟩ := by
  rw [search, if_pos hd]

theorem replaceFrom_of_disposed (hd : s.disposed = true) (supply : Supply) (text : Text)
    (template : String) (start : Nat) :
    s.replaceFrom supply text template start = ⟨.error .disposed, s, supply⟩ := by
  rw [replaceFrom, if_pos hd]

end Disposed

end Session

theorem Match.result_of_disposed {s : Session S H} (hd : s.disposed = true) (supply : Supply)
    (m : Match) (template : String) :
    m.result s supply template = ⟨.error .disposed, s, supply⟩ := by
  rw [Match.result, if_pos hd]

/-- A match with room left in its bounds goes back in, and is refused. -/
theorem Match.next_of_disposed {s : Session S H} (hd : s.disposed = true) (supply : Supply)
    {m : Match} (hroom : m.resumeAt ≤ m.bounds.stop) :
    m.next s supply = ⟨.error .disposed, s, supply⟩ := by
  rw [Match.next, if_neg (Nat.not_lt.2 hroom), Session.search_of_disposed hd]

/-- A match without room left in its bounds answers on its own, in any session. -/
theorem Match.next_of_exhausted (s : Session S H) (supply : Supply) {m : Match}
    (hroom : m.bounds.stop < m.resumeAt) : m.next s supply = ⟨.ok none, s, supply⟩ := by
  rw [Match.next, if_pos hroom]

namespace Matches

/-- A sequence that is done yields nothing, in any session. -/
theorem steps_of_done {s : Session S H} {supply : Supply} {it : Matches}
    (hdone : it.cursor = .done) (count : Nat) :
    steps s supply count it = ⟨yields [] count, s, supply⟩ := by
  have hnext : it.next s supply = ⟨(none, it), s, supply⟩ := by
    rw [next, step?, hdone]
  induction count with
  | zero => rfl
  | succ count ih =>
    rw [steps, hnext, yields_succ]
    simp only [ih]
    rfl

/-- A sequence that is not done goes back in once. -/
theorem next_of_disposed {s : Session S H} (hd : s.disposed = true) (supply : Supply)
    {it : Matches} (hdone : it.cursor ≠ .done) :
    it.next s supply = ⟨(some (.error .disposed), ⟨it.text, .done⟩), s, supply⟩ := by
  obtain ⟨text, cursor⟩ := it
  cases cursor with
  | done => exact absurd rfl hdone
  | _ => simp only [next, step?, Session.search_of_disposed hd]

theorem steps_of_disposed {s : Session S H} (hd : s.disposed = true) (supply : Supply)
    {it : Matches} (hdone : it.cursor ≠ .done) (count : Nat) :
    steps s supply count it = ⟨yields [.error .disposed] count, s, supply⟩ := by
  cases count with
  | zero => rfl
  | succ count =>
    rw [steps, next_of_disposed hd supply hdone, yields_succ]
    simp only [steps_of_done]
    rfl

end Matches

/-! ## Nothing changes a disposed session -/

/-- Whatever is asked of a disposed session, it stays as it is. -/
theorem Operation.run_of_disposed {s : Session S H} (hd : s.disposed = true) (op : Operation)
    (supply : Supply) : (op.run s supply).session = s ∧ (op.run s supply).supply = supply := by
  rcases op.run_cases s supply with rfl | ⟨r, -, hrun⟩ | ⟨-, -, hrun⟩
  · exact ⟨Session.dispose_of_disposed hd, rfl⟩
  · rw [hrun, Request.attempt_of_disposed hd]
    exact ⟨rfl, rfl⟩
  · rw [hrun]
    exact ⟨rfl, rfl⟩

theorem Act.run_of_disposed {s : Session S H} (hd : s.disposed = true) (a : Act) : a.run s = s := by
  cases a with
  | operate op supply => exact (op.run_of_disposed hd supply).1
  | drop => exact Session.dispose_of_disposed hd

namespace Session

/-- **From its end on, a session stays as it is.** -/
theorem after_of_disposed {s : Session S H} (hd : s.disposed = true) (acts : List Act) :
    s.after acts = s := by
  induction acts with
  | nil => rfl
  | cons a acts ih =>
    rw [after, List.foldl_cons, a.run_of_disposed hd]
    exact ih

/-- With an act that ends it, a session is disposed for good. -/
theorem disposed_after {acts : List Act} (h : ∃ a ∈ acts, a.ends = true) (s : Session S H) :
    (s.after acts).disposed = true := by
  obtain ⟨a, hmem, hends⟩ := h
  obtain ⟨first, second, rfl⟩ := List.append_of_mem hmem
  have hd : (a.run (s.after first)).disposed = true := by
    rw [a.run_of_ends hends]
    exact dispose_disposed _
  rw [after_append, after, List.foldl_cons]
  exact (congrArg Session.disposed (after_of_disposed hd second)).trans hd

/-! ## The theorem -/

/-- Nothing gets into the session: every way in is refused, and leaves the session as it is. -/
structure Closed (s : Session S H) : Prop where
  disposed : s.disposed = true
  unchanged : ∀ acts, s.after acts = s
  find : ∀ supply text, s.find supply text = ⟨.error .disposed, s, supply⟩
  findAt : ∀ supply text start, s.findAt supply text start = ⟨.error .disposed, s, supply⟩
  findIn : ∀ supply text start len,
    s.findIn supply text start len = ⟨.error .disposed, s, supply⟩
  isMatchAt : ∀ supply text start,
    s.isMatchAt supply text start = ⟨.error .disposed, s, supply⟩
  replace : ∀ supply text template,
    s.replace supply text template = ⟨.error .disposed, s, supply⟩
  replaceFrom : ∀ supply text template start,
    s.replaceFrom supply text template start = ⟨.error .disposed, s, supply⟩
  result : ∀ supply (m : Match) template,
    m.result s supply template = ⟨.error .disposed, s, supply⟩
  /-- A match with room left in its bounds. -/
  next : ∀ supply (m : Match), m.resumeAt ≤ m.bounds.stop →
    m.next s supply = ⟨.error .disposed, s, supply⟩
  /-- A match without room does not come to the session. -/
  next_exhausted : ∀ supply (m : Match), m.bounds.stop < m.resumeAt →
    m.next s supply = ⟨.ok none, s, supply⟩
  /-- A sequence that is not done: the error, and then nothing. -/
  steps : ∀ supply (it : Matches) count, it.cursor ≠ .done →
    it.steps s supply count = ⟨yields [.error .disposed] count, s, supply⟩
  /-- A sequence that is done: nothing. -/
  steps_done : ∀ supply (it : Matches) count, it.cursor = .done →
    it.steps s supply count = ⟨yields [] count, s, supply⟩

theorem closed_of_disposed {s : Session S H} (hd : s.disposed = true) : s.Closed where
  disposed := hd
  unchanged := after_of_disposed hd
  find supply text := search_of_disposed hd supply text 0 none
  findAt supply text start := search_of_disposed hd supply text start none
  findIn supply text start len := search_of_disposed hd supply text start (some len)
  isMatchAt supply text start := by
    rw [Session.isMatchAt, Session.findAt, search_of_disposed hd]
    rfl
  replace supply text template := replaceFrom_of_disposed hd supply text template 0
  replaceFrom := replaceFrom_of_disposed hd
  result := Match.result_of_disposed hd
  next supply _ := Match.next_of_disposed hd supply
  next_exhausted supply _ := Match.next_of_exhausted s supply
  steps supply _ count hdone := Matches.steps_of_disposed hd supply hdone count
  steps_done _ _ count hdone := Matches.steps_of_done hdone count

end Session

/-- **An ended session is closed,** for every engine and after every course of acts. -/
theorem ended_session_is_closed (engine : Engine S H) (state : S) (supply : Supply)
    (pattern options : String) {acts : List Act} (h : ∃ a ∈ acts, a.ends = true) :
    ((Session.create engine state supply pattern options).session.after acts).Closed :=
  Session.closed_of_disposed (Session.disposed_after h _)

/-! ## In one session -/

/-- A session for the runs of a letter. -/
def openedForRuns : Session Unit (Bundled.Handle starred) :=
  (Session.create (bundled starred {}) () {} "x*" "").session

/-- Finds a match in the text, and lets go of the session. -/
def findAndDrop (text : Text) : List Act := [.operate (.find text) ⟨2⟩, .drop]

/-- In `xa` the run `x` is found, with room after it. After the end neither the match nor a new
sequence gets back in, nor a search in a range outside the text. -/
theorem ended_session_is_closed_to_its_match :
    let ended := openedForRuns.after (findAndDrop ⟨1, "xa"⟩)
    let found : Match := ⟨[⟨0, some ⟨0, 1⟩⟩], ⟨1, "xa"⟩, ⟨0, 2⟩⟩
    (openedForRuns.find ⟨2⟩ ⟨1, "xa"⟩).answer = .ok (some found) ∧
      (found.next ended ⟨3⟩).answer = .error .disposed ∧
      (found.result ended ⟨3⟩ "$&").answer = .error .disposed ∧
      (ended.findIn ⟨3⟩ ⟨1, "xa"⟩ 7 9).answer = .error .disposed ∧
      (Matches.steps ended ⟨3⟩ 3 (Matches.startingAt ⟨1, "xa"⟩ 0)).answer =
        [some (.error .disposed), none, none] := by
  intro ended found
  have hends : ∃ a ∈ findAndDrop ⟨1, "xa"⟩, a.ends = true :=
    ⟨.drop, List.mem_cons_of_mem _ (List.mem_singleton.2 rfl), rfl⟩
  have hclosed : ended.Closed :=
    ended_session_is_closed (bundled starred {}) () {} "x*" "" hends
  refine ⟨rfl, ?_, ?_, ?_, ?_⟩
  · rw [hclosed.next ⟨3⟩ found (by decide)]
  · rw [hclosed.result]
  · rw [hclosed.findIn]
  · rw [hclosed.steps ⟨3⟩ _ 3 (by decide)]
    rfl

/-- **The way that is left open.** The empty match in the empty text has no room after it. It was
found in the session, the session has ended, and it is answered all the same. -/
theorem exhausted_match_is_answered :
    let ended := openedForRuns.after (findAndDrop ⟨1, ""⟩)
    let found : Match := ⟨[⟨0, some ⟨0, 0⟩⟩], ⟨1, ""⟩, ⟨0, 0⟩⟩
    (openedForRuns.find ⟨2⟩ ⟨1, ""⟩).answer = .ok (some found) ∧ ended.disposed = true ∧
      (found.next ended ⟨3⟩).answer = .ok none :=
  ⟨rfl, rfl, rfl⟩

end PatternSession
