import Mathlib.Data.List.TakeWhile
import PatternSession.Proofs.Disposal
import PatternSession.Proofs.Watching

/-!
# What a session holds is released once

A session holds two things that have to be released: the engine's handle, which any call may set,
replace or discard, and a copy of a text. Three ways lead to the release: a disposal, the caller
letting go of the session, and the last holder of a match or a sequence letting go of what is left
(`Session.abandon`). A session that could not be opened is released on the spot.

**Theorem (`handle_and_copy_are_released_once`).** For every engine and every course of acts, the
handle is freed at most once over the whole life: exactly once if there is one in its place when the
session ends for the first time, and never otherwise. After that no call is made any more. Copies
are made one at a time: the one before is given up first. None is left after the opening, and none
from the first end on.

**Proof.** Before the first end no act frees anything (`Session.after_watched`). With the first end
the session is disposed, and from then on it stays as it is (`Session.after_of_disposed`), so that
the ways taken later find nothing left. For the copies, the events of an act lead from the copy held
before it to the one held after it (`Act.oneAtATime`), and the events of a life are put together
from these.
-/

namespace PatternSession

variable {S H : Type}

/-! ## Calls -/

def EngineCall.isFreeing : EngineCall → Bool
  | freeing => true
  | _ => false

/-- How often a handle was freed. -/
def frees (log : List EngineCall) : Nat := log.countP EngineCall.isFreeing

/-- The call that frees what is in the place for the handle, if there is something. -/
def freeingOf (slot : Option H) : List EngineCall := if slot.isSome then [.freeing] else []

theorem frees_append (first second : List EngineCall) :
    frees (first ++ second) = frees first + frees second :=
  List.countP_append

theorem frees_freeingOf (slot : Option H) :
    frees (freeingOf slot) = if slot.isSome then 1 else 0 := by
  cases slot <;> rfl

theorem Request.frees_calls (r : Request) (s : Session S H) (supply : Supply) :
    frees (r.calls s supply) = 0 := by
  cases hd : s.disposed with
  | true => rw [calls_of_disposed hd]; rfl
  | false =>
    cases hbind : (s.bind supply r.text r.start r.len).answer with
    | error e => rw [calls_of_rejected hd hbind]; rfl
    | ok bounds =>
      rw [calls_of_bounds hd hbind, engineCall]
      split <;> rfl

/-- Only a disposal frees. -/
theorem Operation.frees_calls {op : Operation} (hop : op ≠ .dispose) (s : Session S H)
    (supply : Supply) : frees (op.calls s supply) = 0 := by
  cases h : op.request s.options with
  | some r =>
    rw [calls_of_request supply h]
    exact r.frees_calls s supply
  | none => rw [calls_of_no_request supply h hop]; rfl

namespace Session

/-- **As long as no act ends it,** a session lives and nothing is freed. -/
theorem after_watched {acts : List Act} (h : ∀ a ∈ acts, a.ends = false) {s : Session S H}
    (hd : s.disposed = false) (log : List EngineCall) :
    (s.after acts).disposed = false ∧
      ∃ calls, frees calls = 0 ∧
        (s.watched log).after acts = (s.after acts).watched (log ++ calls) := by
  induction acts generalizing s log with
  | nil => exact ⟨hd, [], rfl, by rw [List.append_nil]; rfl⟩
  | cons a acts ih =>
    obtain ⟨op, supply, hop, rfl⟩ := Act.exists_operation (h a List.mem_cons_self)
    have hlive : (op.run s supply).session.disposed = false :=
      (Operation.run_disposed hop s supply).trans hd
    obtain ⟨hd', calls, hcalls, hafter⟩ :=
      ih (fun b hb => h b (List.mem_cons_of_mem _ hb)) hlive (log ++ op.calls s supply)
    refine ⟨hd', op.calls s supply ++ calls, ?_, ?_⟩
    · rw [frees_append, Operation.frees_calls hop, hcalls]
    · rw [after, List.foldl_cons, Act.run, Operation.run_watched, ← List.append_assoc]
      exact hafter

theorem freeings_of_live {s : Session S H} (hd : s.disposed = false) :
    s.freeings = freeingOf s.handle := by
  rw [freeings, freeingOf, hd]
  cases s.handle <;> simp

theorem release_handle (s : Session S H) : s.release.handle = none := by
  unfold release
  split
  · rfl
  next hnone => exact hnone

theorem release_buffer (s : Session S H) : s.release.buffer = {} := by
  unfold release
  split <;> rfl

theorem release_of_empty {s : Session S H} (hhandle : s.handle = none) (hbuffer : s.buffer = {}) :
    s.release = s := by
  obtain ⟨engine, pattern, options, state, handle, buffer, record, disposed⟩ := s
  subst hhandle hbuffer
  rfl

theorem dispose_of_live {s : Session S H} (hd : s.disposed = false) :
    s.dispose = { s.release with disposed := true } := by
  rw [dispose, if_neg (Bool.eq_false_iff.1 hd)]

theorem dispose_handle {s : Session S H} (hd : s.disposed = false) : s.dispose.handle = none := by
  rw [dispose_of_live hd]
  exact s.release_handle

theorem dispose_buffer {s : Session S H} (hd : s.disposed = false) : s.dispose.buffer = {} := by
  rw [dispose_of_live hd]
  exact s.release_buffer

/-- **The last release finds nothing left** of a session that was disposed. -/
theorem abandon_dispose {s : Session S H} (hd : s.disposed = false) :
    s.dispose.abandon = s.dispose :=
  release_of_empty (dispose_handle hd) (dispose_buffer hd)

/-- Where no act ended the session, the last release frees the handle. -/
theorem abandon_watched (s : Session S H) (log : List EngineCall) :
    (s.watched log).abandon.log = log ++ freeingOf s.handle := by
  obtain ⟨engine, pattern, options, state, handle, buffer, record, disposed⟩ := s
  cases handle with
  | none => exact (List.append_nil log).symm
  | some h => rfl

end Session

/-! ## Copies -/

/-- What happens to copies of texts, each named by its generation. -/
inductive CopyEvent where
  | made (generation : Nat)
  | givenUp (generation : Nat)

/-- The generation of a copy that is made. -/
def CopyEvent.made? : CopyEvent → Option Nat
  | made generation => some generation
  | givenUp _ => none

/-- The events lead from one copy held to another, and there is never more than one: a copy is made
when none is held, and the one that is held is given up. -/
inductive OneAtATime : Option Nat → List CopyEvent → Option Nat → Prop
  | nil (held : Option Nat) : OneAtATime held [] held
  | made {generation : Nat} {events : List CopyEvent} {last : Option Nat} :
    OneAtATime (some generation) events last →
      OneAtATime none (.made generation :: events) last
  | givenUp {generation : Nat} {events : List CopyEvent} {last : Option Nat} :
    OneAtATime none events last →
      OneAtATime (some generation) (.givenUp generation :: events) last

theorem OneAtATime.append {first second : List CopyEvent} {a b c : Option Nat}
    (h : OneAtATime a first b) (h' : OneAtATime b second c) : OneAtATime a (first ++ second) c := by
  induction h with
  | nil => exact h'
  | made _ ih => exact .made (ih h')
  | givenUp _ ih => exact .givenUp (ih h')

namespace TextBuffer

/-- The generation of the copy held, if there is one. -/
def copy? (b : TextBuffer) : Option Nat := b.held.map (·.generation)

/-- Whatever is held is given up. -/
def givingUp (b : TextBuffer) : List CopyEvent := (b.copy?.map .givenUp).toList

/-- What happens when the buffer is made to hold a copy of the text. -/
def ensuring (b : TextBuffer) (supply : Supply) (text : Text) : List CopyEvent :=
  match b.held with
  | some copy => if copy.source = text then [] else b.givingUp ++ [.made supply.next]
  | none => [.made supply.next]

variable (b : TextBuffer) (supply : Supply) (text : Text)

theorem givingUp_oneAtATime : OneAtATime b.copy? b.givingUp none := by
  unfold givingUp
  cases b.copy? with
  | none => exact .nil none
  | some generation => exact .givenUp (.nil none)

theorem ensuring_oneAtATime :
    OneAtATime b.copy? (b.ensuring supply text) (b.ensure supply text).1.copy? := by
  unfold ensuring ensure
  cases hheld : b.held with
  | none =>
    have hcopy : b.copy? = none := by rw [copy?, hheld]; rfl
    rw [hcopy]
    exact .made (.nil _)
  | some copy =>
    dsimp only
    split
    · exact .nil _
    · exact b.givingUp_oneAtATime.append (.made (.nil _))

theorem made_givingUp : b.givingUp.filterMap CopyEvent.made? = [] := by
  unfold givingUp
  cases b.copy? <;> rfl

/-- A copy is made of every generation that is taken, and of no other. -/
theorem made_ensuring :
    (b.ensuring supply text).filterMap CopyEvent.made? =
      List.range' supply.next ((b.ensure supply text).2.next - supply.next) := by
  have hfill : List.range' supply.next ((fill supply text).2.next - supply.next) =
      [supply.next] := by
    rw [fill, Nat.add_sub_cancel_left]
    rfl
  have hkeep : List.range' supply.next (supply.next - supply.next) = [] := by
    rw [Nat.sub_self]
    rfl
  unfold ensuring ensure
  cases b.held with
  | none => exact hfill.symm
  | some copy =>
    dsimp only
    split
    · exact hkeep.symm
    · rw [List.filterMap_append, made_givingUp, hfill]
      rfl

end TextBuffer

/-- What happens to copies when a session is opened. -/
def openingCopies (supply : Supply) : List CopyEvent :=
  ({} : TextBuffer).ensuring supply emptyText ++
    (({} : TextBuffer).ensure supply emptyText).1.givingUp

/-- What happens to copies when the session is disposed. -/
def Session.givingUp (s : Session S H) : List CopyEvent :=
  if s.disposed then [] else s.buffer.givingUp

/-- What happens to copies in an operation. A request binds its text, even if its range is rejected
then. -/
def Operation.copies (op : Operation) (s : Session S H) (supply : Supply) : List CopyEvent :=
  match op with
  | dispose => s.givingUp
  | op =>
    match op.request s.options with
    | some r => if s.disposed then [] else s.buffer.ensuring supply r.text
    | none => []

/-- The generations that an operation takes from the supply. -/
def Operation.taken (op : Operation) (s : Session S H) (supply : Supply) : List Nat :=
  List.range' supply.next ((op.run s supply).supply.next - supply.next)

namespace Act

def copies (s : Session S H) : Act → List CopyEvent
  | operate op supply => op.copies s supply
  | drop => s.givingUp

def taken (s : Session S H) : Act → List Nat
  | operate op supply => op.taken s supply
  | drop => []

end Act

namespace Session

def copies (s : Session S H) : List Act → List CopyEvent
  | [] => []
  | a :: acts => a.copies s ++ copies (a.run s) acts

def taken (s : Session S H) : List Act → List Nat
  | [] => []
  | a :: acts => a.taken s ++ taken (a.run s) acts

theorem givingUp_oneAtATime (s : Session S H) :
    OneAtATime s.buffer.copy? s.givingUp s.dispose.buffer.copy? := by
  unfold givingUp
  cases hd : s.disposed with
  | true =>
    rw [dispose_of_disposed hd]
    exact .nil _
  | false =>
    rw [dispose_buffer hd]
    exact s.buffer.givingUp_oneAtATime

theorem made_givingUp (s : Session S H) : s.givingUp.filterMap CopyEvent.made? = [] := by
  unfold givingUp
  split
  · rfl
  · exact s.buffer.made_givingUp

end Session

/-- A request on a live session binds its text, whatever becomes of it after that. -/
theorem Request.attempt_buffer (r : Request) {s : Session S H} (hd : s.disposed = false)
    (supply : Supply) :
    (r.attempt s supply).session.buffer = (s.buffer.ensure supply r.text).1 ∧
      (r.attempt s supply).supply = (s.buffer.ensure supply r.text).2 := by
  cases hbind : (s.bind supply r.text r.start r.len).answer with
  | error e =>
    rw [attempt_of_rejected hd hbind]
    exact ⟨rfl, rfl⟩
  | ok bounds =>
    simp only [attempt_of_bounds hd hbind, call_buffer]
    exact ⟨rfl, rfl⟩

namespace Operation

theorem copies_of_request {op : Operation} {s : Session S H} {r : Request} (supply : Supply)
    (h : op.request s.options = some r) :
    op.copies s supply = if s.disposed then [] else s.buffer.ensuring supply r.text := by
  cases op with
  | dispose => cases h
  | _ => simp only [copies, h]

theorem copies_of_no_request {op : Operation} {s : Session S H} (supply : Supply)
    (h : op.request s.options = none) (hop : op ≠ dispose) : op.copies s supply = [] := by
  cases op with
  | dispose => exact absurd rfl hop
  | _ => simp only [copies, h]

/-- An operation leads from the copy held before it to the one held after it, and makes a copy for
every generation that it takes. -/
theorem copies_spec (op : Operation) (s : Session S H) (supply : Supply) :
    OneAtATime s.buffer.copy? (op.copies s supply) (op.run s supply).session.buffer.copy? ∧
      (op.copies s supply).filterMap CopyEvent.made? = op.taken s supply := by
  have hnothing : List.range' supply.next (supply.next - supply.next) = [] := by
    rw [Nat.sub_self]
    rfl
  unfold taken
  rcases op.run_cases s supply with rfl | ⟨r, hr, hrun⟩ | ⟨hr, hop, hrun⟩
  · exact ⟨s.givingUp_oneAtATime, s.made_givingUp.trans hnothing.symm⟩
  · rw [copies_of_request supply hr, hrun, Turn.map]
    cases hd : s.disposed with
    | true =>
      rw [Request.attempt_of_disposed hd]
      exact ⟨.nil _, hnothing.symm⟩
    | false =>
      obtain ⟨hbuffer, hsupply⟩ := r.attempt_buffer hd supply
      dsimp only
      rw [hbuffer, hsupply, if_neg Bool.false_ne_true]
      exact ⟨s.buffer.ensuring_oneAtATime supply r.text, s.buffer.made_ensuring supply r.text⟩
  · rw [copies_of_no_request supply hr hop, hrun]
    exact ⟨.nil _, hnothing.symm⟩

end Operation

theorem Act.copies_spec (a : Act) (s : Session S H) :
    OneAtATime s.buffer.copy? (a.copies s) (a.run s).buffer.copy? ∧
      (a.copies s).filterMap CopyEvent.made? = a.taken s := by
  cases a with
  | operate op supply => exact op.copies_spec s supply
  | drop => exact ⟨s.givingUp_oneAtATime, s.made_givingUp⟩

/-- **Over any course of acts, copies are made one at a time.** -/
theorem Session.copies_spec (s : Session S H) (acts : List Act) :
    OneAtATime s.buffer.copy? (s.copies acts) (s.after acts).buffer.copy? ∧
      (s.copies acts).filterMap CopyEvent.made? = s.taken acts := by
  induction acts generalizing s with
  | nil => exact ⟨.nil _, rfl⟩
  | cons a acts ih =>
    obtain ⟨hone, hmade⟩ := a.copies_spec s
    obtain ⟨hrest, hmade'⟩ := ih (a.run s)
    refine ⟨hone.append hrest, ?_⟩
    rw [copies, taken, List.filterMap_append, hmade, hmade']

/-! ## Opening -/

theorem openingCopies_spec (supply : Supply) :
    OneAtATime none (openingCopies supply) none ∧
      (openingCopies supply).filterMap CopyEvent.made? =
        List.range' supply.next
          ((({} : TextBuffer).ensure supply emptyText).2.next - supply.next) := by
  constructor
  · exact (TextBuffer.ensuring_oneAtATime {} supply emptyText).append
      (TextBuffer.givingUp_oneAtATime _)
  · rw [openingCopies, List.filterMap_append, TextBuffer.made_ensuring, TextBuffer.made_givingUp,
      List.append_nil]

/-- The session after the call that opens it. It is disposed at once if the engine refused. -/
theorem Session.create_watched (engine : Engine S H) (state : S) (supply : Supply)
    (pattern options : String) :
    let call := openingCall supply pattern options
    let answer := (engine.compileAndMatch state call none).2
    let supply' := (({} : TextBuffer).ensure supply emptyText).2
    ∃ s : Session S H, s.disposed = false ∧ s.handle = answer.handle ∧ s.buffer = {} ∧
      create (watching engine) (state, []) supply pattern options =
        if answer.status < 0 then
          ⟨.error answer.error, (s.watched [.matching call answer.status]).dispose, supply'⟩
        else ⟨.ok (), s.watched [.matching call answer.status], supply'⟩ := by
  intro call answer supply'
  exact ⟨{
    engine, pattern, options
    state := (engine.compileAndMatch state call none).1
    handle := answer.handle
    buffer := {}
    record := .initial options
    disposed := false }, rfl, rfl, rfl, rfl⟩

/-! ## The first end -/

/-- The acts before the first one with which the session ends. -/
def untilEnd (acts : List Act) : List Act := acts.takeWhile fun a => !a.ends

theorem ends_of_mem_untilEnd {acts : List Act} {a : Act} (h : a ∈ untilEnd acts) :
    a.ends = false := by
  have hmem := List.mem_takeWhile_imp h
  simpa using hmem

theorem untilEnd_of_no_end {acts : List Act} (h : ∀ a ∈ acts, a.ends = false) :
    untilEnd acts = acts := by
  rw [untilEnd, List.takeWhile_eq_self_iff]
  intro a ha
  rw [h a ha]
  rfl

/-- **With the first end a session is disposed, and nothing comes after.** -/
theorem Session.after_of_ended {acts : List Act} (h : ∃ a ∈ acts, a.ends = true)
    (s : Session S H) : s.after acts = (s.after (untilEnd acts)).dispose := by
  induction acts generalizing s with
  | nil =>
    obtain ⟨a, hmem, -⟩ := h
    cases hmem
  | cons a acts ih =>
    have hstep : s.after (a :: acts) = (a.run s).after acts := rfl
    cases hends : a.ends with
    | true =>
      have huntil : untilEnd (a :: acts) = [] := by simp [untilEnd, hends]
      rw [hstep, huntil, a.run_of_ends hends, after_of_disposed s.dispose_disposed]
      rfl
    | false =>
      have huntil : untilEnd (a :: acts) = a :: untilEnd acts := by simp [untilEnd, hends]
      have hrest : ∃ b ∈ acts, b.ends = true := by
        obtain ⟨b, hmem, hb⟩ := h
        rcases List.mem_cons.1 hmem with rfl | hmem
        · rw [hends] at hb
          cases hb
        · exact ⟨b, hmem, hb⟩
      rw [hstep, huntil, ih hrest]
      rfl

/-- Once an act has ended the session, the last holder finds nothing left to release. -/
theorem Session.abandon_of_ended {acts : List Act} (h : ∃ a ∈ acts, a.ends = true)
    {s : Session S H} (hlive : (s.after (untilEnd acts)).disposed = false) :
    (s.after acts).abandon = s.after acts := by
  rw [after_of_ended h]
  exact abandon_dispose hlive

/-! ## The theorem -/

/-- A session with a log releases what it holds once, over these acts and when the last holder lets
go in the end. -/
structure Session.ReleasesOnce (opened : Session (S × List EngineCall) H) (acts : List Act) :
    Prop where
  /-- Nothing is freed before the first end. -/
  frees_before : frees (opened.after (untilEnd acts)).log = 0
  /-- In the whole life the handle is freed that is in its place at the first end, and this is the
  last call. -/
  log_eq : (opened.after acts).abandon.log =
    (opened.after (untilEnd acts)).log ++ freeingOf (opened.after (untilEnd acts)).handle
  /-- So a handle is freed at most once. -/
  frees_eq : frees (opened.after acts).abandon.log =
    if (opened.after (untilEnd acts)).handle.isSome then 1 else 0
  /-- All of this happens with the first end: nothing is left for the last holder. -/
  ended : (∃ a ∈ acts, a.ends = true) → (opened.after acts).abandon = opened.after acts
  handle_eq : (opened.after acts).abandon.handle = none
  buffer_eq : (opened.after acts).abandon.buffer.held = none
  /-- Copies are made one at a time, -/
  one_copy : OneAtATime opened.buffer.copy? (opened.copies acts) (opened.after acts).buffer.copy?
  /-- and one for every generation that is taken. -/
  made_eq : (opened.copies acts).filterMap CopyEvent.made? = opened.taken acts

theorem Session.releasesOnce_watched {s : Session S H} (hd : s.disposed = false)
    {log : List EngineCall} (hlog : frees log = 0) (acts : List Act) :
    (s.watched log).ReleasesOnce acts := by
  obtain ⟨hlive, calls, hcalls, hafter⟩ :=
    after_watched (fun a (ha : a ∈ untilEnd acts) => ends_of_mem_untilEnd ha) hd log
  have hlive' : ((s.watched log).after (untilEnd acts)).disposed = false := by
    rw [hafter]
    exact hlive
  have hbefore : frees ((s.watched log).after (untilEnd acts)).log = 0 := by
    rw [hafter]
    show frees (log ++ calls) = 0
    rw [frees_append, hlog, hcalls]
  have hlast : ((s.watched log).after acts).abandon.log =
      ((s.watched log).after (untilEnd acts)).log ++
        freeingOf ((s.watched log).after (untilEnd acts)).handle := by
    by_cases hends : ∃ a ∈ acts, a.ends = true
    · rw [abandon_of_ended hends hlive', after_of_ended hends, hafter, dispose_watched,
        freeings_of_live hlive]
      rfl
    · have hnone : ∀ a ∈ acts, a.ends = false :=
        fun a ha => Bool.eq_false_iff.2 fun h => hends ⟨a, ha, h⟩
      rw [untilEnd_of_no_end hnone] at hafter ⊢
      rw [hafter, abandon_watched]
      rfl
  obtain ⟨hone, hmade⟩ := (s.watched log).copies_spec acts
  exact {
    frees_before := hbefore
    log_eq := hlast
    frees_eq := by rw [hlast, frees_append, hbefore, Nat.zero_add, frees_freeingOf]
    ended := fun hends => abandon_of_ended hends hlive'
    handle_eq := release_handle _
    buffer_eq := congrArg TextBuffer.held (release_buffer _)
    one_copy := hone
    made_eq := hmade }

/-- **Handle and copy are released once,** for every engine. The opening makes a copy and gives it
up. If the engine refuses, the handle that it left is freed, and that is all. Otherwise everything
is released once over the life of the session, whatever is done to it and to what was obtained from
it. -/
theorem handle_and_copy_are_released_once (engine : Engine S H) (state : S) (supply : Supply)
    (pattern options : String) :
    let call := openingCall supply pattern options
    let answer := (engine.compileAndMatch state call none).2
    let opened := Session.create (watching engine) (state, []) supply pattern options
    opened.session.buffer.held = none ∧
      OneAtATime none (openingCopies supply) opened.session.buffer.copy? ∧
      (openingCopies supply).filterMap CopyEvent.made? =
        List.range' supply.next (opened.supply.next - supply.next) ∧
      (answer.status < 0 →
        opened.answer = .error answer.error ∧ opened.session.handle = none ∧
          opened.session.log = .matching call answer.status :: freeingOf answer.handle) ∧
      (0 ≤ answer.status →
        opened.answer = .ok () ∧ ∀ acts, opened.session.ReleasesOnce acts) := by
  intro call answer opened
  obtain ⟨s, hd, hhandle, hbuffer, hopened⟩ :=
    Session.create_watched engine state supply pattern options
  obtain ⟨hone, hmade⟩ := openingCopies_spec supply
  by_cases hneg : answer.status < 0
  · have hrefused : opened = _ := hopened.trans (if_pos hneg)
    rw [hrefused, Session.dispose_watched, Session.freeings_of_live hd, hhandle]
    have hempty : s.dispose.buffer = {} := Session.dispose_buffer hd
    refine ⟨congrArg TextBuffer.held hempty, ?_, hmade, ?_, fun h => absurd hneg (Int.not_lt.2 h)⟩
    · show OneAtATime none (openingCopies supply) s.dispose.buffer.copy?
      rw [hempty]
      exact hone
    · exact fun _ => ⟨rfl, Session.dispose_handle hd, rfl⟩
  · have haccepted : opened = _ := hopened.trans (if_neg hneg)
    rw [haccepted]
    refine ⟨congrArg TextBuffer.held hbuffer, ?_, hmade, fun h => absurd h hneg, ?_⟩
    · show OneAtATime none (openingCopies supply) s.buffer.copy?
      rw [hbuffer]
      exact hone
    · exact fun _ => ⟨rfl, Session.releasesOnce_watched hd rfl⟩

/-- A search, a disposal, a late search and a late disposal, and the session let go: the calls are
the one of the opening, the one of the search and one that frees. -/
theorem handle_is_freed_once_under_late_acts :
    let opened := Session.create (watching (bundled starred {})) ((), []) {} "x*" ""
    let acts : List Act := [.operate (.find ⟨1, "xa"⟩) ⟨2⟩, .operate .dispose ⟨3⟩,
      .operate (.find ⟨1, "xa"⟩) ⟨3⟩, .operate .dispose ⟨3⟩, .drop]
    opened.session.ReleasesOnce acts ∧ frees (opened.session.after acts).abandon.log = 1 ∧
      (opened.session.after acts).abandon.log.length = 3 := by
  intro opened acts
  have hstatus : 0 ≤ ((bundled starred {}).compileAndMatch ()
      (openingCall {} "x*" "") none).2.status := by decide
  have hreleases : opened.session.ReleasesOnce acts :=
    ((handle_and_copy_are_released_once (bundled starred {}) () {} "x*" "").2.2.2.2 hstatus).2 acts
  refine ⟨hreleases, ?_, ?_⟩
  · rw [hreleases.frees_eq]
    rfl
  · rw [hreleases.log_eq]
    rfl

end PatternSession
