import PatternSession.Session.Replace

/-!
# Operations as data

`Operation` lists what can be asked of a session, with everything that the caller hands in; a match
or a sequence obtained earlier is handed in as its value. `Operation.run` is the session's own
function for it.

**Theorem (`Operation.run_of_request`).** Every operation that reaches for the engine is one
`Request`, attempted in the same way for all of them, and then read in the operation's own way from
what the caller can see of the engine's answer (`Report`).

So what a session keeps is proved once, of `Request.attempt`, and what an operation answers is a
matter of `Operation.read`, in which no session occurs.
-/

namespace PatternSession

variable {S H : Type}

/-- The same turn with another reading of its answer. -/
def Turn.map {α β : Type} (f : α → β) (t : Turn S H α) : Turn S H β :=
  ⟨f t.answer, t.session, t.supply⟩

/-! ## Operations and replies -/

/-- What can be asked of a session. -/
inductive Operation where
  | find (text : Text)
  | findAt (text : Text) (start : Nat)
  | findIn (text : Text) (start len : Nat)
  | isMatchAt (text : Text) (start : Nat)
  | replace (text : Text) (template : String)
  | replaceFrom (text : Text) (template : String) (start : Nat)
  /-- One step of a sequence of matches. -/
  | nextItem (it : Matches)
  | nextMatch (m : Match)
  | result (m : Match) (template : String)
  | dispose

/-- What an operation gives back. -/
inductive Reply where
  | found (answer : Except Error (Option Match))
  | verdict (answer : Except Error Bool)
  | written (answer : Except Error String)
  /-- An item of a sequence, and the sequence after it. -/
  | item (answer : Option (Except Error Match)) (rest : Matches)
  | released

namespace Operation

/-- The session's own function for the operation. -/
def run (op : Operation) (s : Session S H) (supply : Supply) : Turn S H Reply :=
  match op with
  | find text => (s.find supply text).map .found
  | findAt text start => (s.findAt supply text start).map .found
  | findIn text start len => (s.findIn supply text start len).map .found
  | isMatchAt text start => (s.isMatchAt supply text start).map .verdict
  | replace text template => (s.replace supply text template).map .written
  | replaceFrom text template start => (s.replaceFrom supply text template start).map .written
  | nextItem it => (it.next s supply).map fun r => .item r.1 r.2
  | nextMatch m => (m.next s supply).map .found
  | result m template => (m.result s supply template).map .written
  | dispose => ⟨.released, s.dispose, supply⟩

end Operation

/-- The match that a reply reports, if it reports one. -/
def Reply.match? : Reply → Option Match
  | found (.ok m) => m
  | item (some (.ok m)) _ => some m
  | _ => none

/-! ## What a caller can see of an engine's answer -/

/-- Status and message of an answer, and the result on the handle that it leaves. -/
structure Report where
  status : Int
  message : Option String
  region : Option Region

def Answer.report (engine : Engine S H) (a : Answer H) : Report :=
  ⟨a.status, a.message, a.handle.map engine.region⟩

/-- The groups of a result as spans of characters. -/
def capturesOf (groups : List (Option GroupBounds)) : List Capture :=
  groups.mapIdx fun i g => ⟨i, g.map fun b => ⟨b.start, b.stop - b.start⟩⟩

/-- The groups of a result, if the whole match is among them. -/
def Region.captures? (r : Region) : Option (List Capture) :=
  match r.groups with
  | some g :: rest => some (capturesOf (some g :: rest))
  | _ => none

namespace Report

/-- The error of a negative status. -/
def error (r : Report) : Error := .compile (r.message.getD "")

def readMatch (r : Report) (text : Text) (bounds : Bounds) : Except Error (Option Match) :=
  if r.status < 0 then .error r.error
  else if r.status = 0 then .ok none
  else
    match r.region.bind Region.captures? with
    | some captures => .ok (some ⟨captures, text, bounds⟩)
    | none => .error (.compile "engine reported a match without a span")

def readReplaced (r : Report) (text : Text) (bounds : Bounds) : Except Error String :=
  if r.status < 0 then .error r.error
  else if r.status = 0 then .ok text.content
  else
    match r.region with
    | none => .error (.compile "no compiled pattern")
    | some region =>
      (Session.decodeOutput region.output).map fun rebuilt =>
        let before := sliceChars text.chars 0 bounds.start
        let after := (dropBytes? text.chars (byteOffset text.chars bounds.stop)).getD []
        String.ofList (before ++ rebuilt ++ after)

def readPatch (r : Report) (m : Match) : Except Error String :=
  if r.status < 0 then .error r.error
  else if r.status = 0 then .error (.occurrenceLost m.span)
  else
    match r.region.bind Region.captures? with
    | some (⟨_, some found⟩ :: _) =>
      if found ≠ m.span then .error (.spanMismatch m.span found)
      else
        match r.region with
        | some region => m.cutPatch region.output
        | none => .error (.occurrenceLost m.span)
    | _ => .error (.occurrenceLost m.span)

end Report

theorem Session.captures?_eq (s : Session S H) : s.captures? = s.region?.bind Region.captures? := by
  unfold Session.captures? Region.captures?
  rcases s.region? with _ | ⟨_ | ⟨_ | g, rest⟩, output⟩ <;> rfl

/-! A session's readings of an answer are the readings of its report. -/

section Readings

variable {s : Session S H} {a : Answer H}

theorem Session.region?_eq (h : s.handle = a.handle) : s.region? = (a.report s.engine).region := by
  rw [Session.region?, h]
  rfl

theorem Session.readMatch_eq (h : s.handle = a.handle) (text : Text) (bounds : Bounds) :
    s.readMatch text bounds a = (a.report s.engine).readMatch text bounds := by
  rw [Session.readMatch, Report.readMatch, Session.captures?_eq, Session.region?_eq h]
  rfl

theorem Session.readReplaced_eq (h : s.handle = a.handle) (text : Text) (bounds : Bounds) :
    s.readReplaced text bounds a = (a.report s.engine).readReplaced text bounds := by
  rw [Session.readReplaced, Report.readReplaced, Session.region?_eq h]
  rfl

theorem Match.readPatch_eq (h : s.handle = a.handle) (m : Match) :
    m.readPatch s a = (a.report s.engine).readPatch m := by
  rw [Match.readPatch, Report.readPatch, Session.captures?_eq, Session.region?_eq h]
  rfl

end Readings

/-! ## Requests -/

/-- What an operation asks for: bounds in a text, and what to do within them. -/
structure Request where
  text : Text
  start : Nat
  /-- `none` stands for the rest of the text. -/
  len : Option Nat
  /-- The option code and the template of a substitution; `none` for a search. -/
  substitution : Option (String × String)

namespace Request

/-- The engine call of a request whose bounds are resolved. -/
def call (r : Request) (s : Session S H) (bounds : Bounds) : Session S H × Answer H :=
  match r.substitution with
  | none => s.searchCall bounds
  | some (code, template) => s.substituteCall code template bounds

theorem call_engine (r : Request) (s : Session S H) (bounds : Bounds) :
    (r.call s bounds).1.engine = s.engine := by
  unfold call
  split <;> rfl

theorem call_buffer (r : Request) (s : Session S H) (bounds : Bounds) :
    (r.call s bounds).1.buffer = s.buffer := by
  unfold call
  split <;> rfl

/-- Checks that the session lives, binds the text, and makes the call. -/
def attempt (r : Request) (s : Session S H) (supply : Supply) :
    Turn S H (Except Error (Bounds × Report)) :=
  if s.disposed then ⟨.error .disposed, s, supply⟩
  else
    let bound := s.bind supply r.text r.start r.len
    match bound.answer with
    | .error e => ⟨.error e, bound.session, bound.supply⟩
    | .ok bounds =>
      let (s, a) := r.call bound.session bounds
      ⟨.ok (bounds, a.report s.engine), s, bound.supply⟩

/-! An attempt takes one of three courses. -/

section Attempt

variable {r : Request} {s : Session S H} {supply : Supply}

theorem attempt_of_disposed (hd : s.disposed = true) :
    r.attempt s supply = ⟨.error .disposed, s, supply⟩ := by
  rw [attempt, if_pos hd]

theorem attempt_of_rejected (hd : s.disposed = false) {e : Error}
    (h : (s.bind supply r.text r.start r.len).answer = .error e) :
    r.attempt s supply =
      ⟨.error e, (s.bind supply r.text r.start r.len).session,
        (s.bind supply r.text r.start r.len).supply⟩ := by
  simp only [attempt, hd, h, Bool.false_eq_true, if_false]

theorem attempt_of_bounds (hd : s.disposed = false) {bounds : Bounds}
    (h : (s.bind supply r.text r.start r.len).answer = .ok bounds) :
    r.attempt s supply =
      let bound := s.bind supply r.text r.start r.len
      ⟨.ok (bounds, (r.call bound.session bounds).2.report s.engine),
        (r.call bound.session bounds).1, bound.supply⟩ := by
  simp only [attempt, hd, h, Bool.false_eq_true, if_false, call_engine]
  rfl

end Attempt

end Request

namespace Operation

/-- What the operation asks for in a session with these options; `none` when it asks for nothing. -/
def request (options : String) : Operation → Option Request
  | find text => some ⟨text, 0, none, none⟩
  | findAt text start => some ⟨text, start, none, none⟩
  | findIn text start len => some ⟨text, start, some len, none⟩
  | isMatchAt text start => some ⟨text, start, none, none⟩
  | replace text template => some ⟨text, 0, none, some (options, template)⟩
  | replaceFrom text template start => some ⟨text, start, none, some (options, template)⟩
  | nextItem it =>
    match it.cursor with
    | .start start => some ⟨it.text, start, none, none⟩
    | .within pos stop => some ⟨it.text, pos, some (stop - pos), none⟩
    | .done => none
  | nextMatch m =>
    if m.bounds.stop < m.resumeAt then none
    else some ⟨m.text, m.resumeAt, some (m.bounds.stop - m.resumeAt), none⟩
  | result m template =>
    some ⟨m.text, m.bounds.start, some (m.bounds.stop - m.bounds.start),
      some (withoutGlobal options, template)⟩
  | dispose => none

/-- The option code and the template that the operation substitutes with, if it substitutes. -/
def substitution (options : String) : Operation → Option (String × String)
  | replace _ template | replaceFrom _ template _ => some (options, template)
  | result _ template => some (withoutGlobal options, template)
  | _ => none

/-- The reply of an operation, from the outcome of its request. -/
def read (op : Operation) (outcome : Except Error (Bounds × Report)) : Reply :=
  match op with
  | find text | findAt text _ | findIn text _ _ =>
    .found (outcome.bind fun r => r.2.readMatch text r.1)
  | isMatchAt text _ => .verdict ((outcome.bind fun r => r.2.readMatch text r.1).map (·.isSome))
  | replace text _ | replaceFrom text _ _ =>
    .written (outcome.bind fun r => r.2.readReplaced text r.1)
  | nextItem it =>
    match outcome.bind fun r => r.2.readMatch it.text r.1 with
    | .ok (some m) => .item (some (.ok m)) ⟨it.text, Matches.Cursor.after m⟩
    | .ok none => .item none ⟨it.text, .done⟩
    | .error e => .item (some (.error e)) ⟨it.text, .done⟩
  | nextMatch m => .found (outcome.bind fun r => r.2.readMatch m.text r.1)
  | result m _ => .written (outcome.bind fun r => r.2.readPatch m)
  | dispose => .released

/-- The reply of an operation that asks for nothing. -/
def idle : Operation → Reply
  | nextItem it => .item none it
  | nextMatch _ => .found (.ok none)
  | _ => .released

end Operation

/-! ## Every operation is one request -/

theorem Session.search_eq (s : Session S H) (supply : Supply) (text : Text) (start : Nat)
    (len : Option Nat) :
    s.search supply text start len =
      ((Request.mk text start len none).attempt s supply).map fun outcome =>
        outcome.bind fun r => r.2.readMatch text r.1 := by
  rw [Session.search, Request.attempt]
  by_cases hd : s.disposed
  · simp [hd, Turn.map, Except.bind]
  · simp only [hd, if_false, Bool.false_eq_true]
    rcases (s.bind supply text start len).answer with e | bounds
    · rfl
    · simp only [Request.call, Turn.map, Except.bind]
      rw [Session.readMatch_eq]
      rfl

theorem Session.replaceFrom_eq (s : Session S H) (supply : Supply) (text : Text)
    (template : String) (start : Nat) :
    s.replaceFrom supply text template start =
      ((Request.mk text start none (some (s.options, template))).attempt s supply).map
        fun outcome => outcome.bind fun r => r.2.readReplaced text r.1 := by
  rw [Session.replaceFrom, Request.attempt]
  by_cases hd : s.disposed
  · simp [hd, Turn.map, Except.bind]
  · simp only [hd, if_false, Bool.false_eq_true]
    rcases (s.bind supply text start none).answer with e | bounds
    · rfl
    · simp only [Request.call, Turn.map, Except.bind]
      rw [Session.readReplaced_eq]
      rfl

theorem Match.result_eq (m : Match) (s : Session S H) (supply : Supply) (template : String) :
    m.result s supply template =
      ((Request.mk m.text m.bounds.start (some (m.bounds.stop - m.bounds.start))
          (some (withoutGlobal s.options, template))).attempt s supply).map
        fun outcome => outcome.bind fun r => r.2.readPatch m := by
  rw [Match.result, Request.attempt]
  by_cases hd : s.disposed
  · simp [hd, Turn.map, Except.bind]
  · simp only [hd, if_false, Bool.false_eq_true]
    rcases (s.bind supply m.text m.bounds.start _).answer with e | bounds
    · rfl
    · simp only [Request.call, Turn.map, Except.bind]
      rw [Match.readPatch_eq]
      rfl

namespace Operation

theorem substitution_eq (options : String) (op : Operation) :
    op.substitution options = (op.request options).bind (·.substitution) := by
  cases op with
  | nextItem it =>
    obtain ⟨text, cursor⟩ := it
    cases cursor <;> rfl
  | nextMatch m =>
    simp only [substitution, request]
    split <;> rfl
  | _ => rfl

/-- **Every operation that asks for something is its request, attempted and read.** -/
theorem run_of_request {op : Operation} {s : Session S H} {r : Request} (supply : Supply)
    (h : op.request s.options = some r) :
    op.run s supply = (r.attempt s supply).map op.read := by
  cases op with
  | find text =>
    obtain rfl := Option.some.inj h
    simp only [run, read, Session.find, Session.findAt, Session.search_eq, Turn.map]
  | findAt text start =>
    obtain rfl := Option.some.inj h
    simp only [run, read, Session.findAt, Session.search_eq, Turn.map]
  | findIn text start len =>
    obtain rfl := Option.some.inj h
    simp only [run, read, Session.findIn, Session.search_eq, Turn.map]
  | isMatchAt text start =>
    obtain rfl := Option.some.inj h
    simp only [run, read, Session.isMatchAt, Session.findAt, Session.search_eq, Turn.map]
  | replace text template =>
    obtain rfl := Option.some.inj h
    simp only [run, read, Session.replace, Session.replaceFrom_eq, Turn.map]
  | replaceFrom text template start =>
    obtain rfl := Option.some.inj h
    simp only [run, read, Session.replaceFrom_eq, Turn.map]
  | nextItem it =>
    obtain ⟨text, cursor⟩ := it
    cases cursor with
    | start start =>
      obtain rfl := Option.some.inj h
      simp only [run, read, Matches.next, Matches.step?, Session.search_eq, Turn.map]
      split <;> simp only [*]
    | within pos stop =>
      obtain rfl := Option.some.inj h
      simp only [run, read, Matches.next, Matches.step?, Session.search_eq, Turn.map]
      split <;> simp only [*]
    | done => cases h
  | nextMatch m =>
    simp only [request] at h
    split at h
    · cases h
    next hb =>
      obtain rfl := Option.some.inj h
      simp only [run, read, Match.next, if_neg hb, Session.search_eq, Turn.map]
  | result m template =>
    obtain rfl := Option.some.inj h
    simp only [run, read, Match.result_eq, Turn.map]
  | dispose => cases h

/-- An operation that asks for nothing leaves the session alone, unless it ends it. -/
theorem run_of_no_request {op : Operation} {s : Session S H} (supply : Supply)
    (h : op.request s.options = none) (hop : op ≠ dispose) :
    op.run s supply = ⟨op.idle, s, supply⟩ := by
  cases op with
  | nextItem it =>
    obtain ⟨text, cursor⟩ := it
    cases cursor with
    | done => rfl
    | _ => cases h
  | nextMatch m =>
    simp only [request] at h
    split at h
    next hb => simp only [run, Match.next, if_pos hb, Turn.map, idle]
    · cases h
  | dispose => exact absurd rfl hop
  | _ => cases h

/-- **An operation ends the session, is a request, or asks for nothing.** -/
theorem run_cases (op : Operation) (s : Session S H) (supply : Supply) :
    op = dispose ∨
    (∃ r, op.request s.options = some r ∧ op.run s supply = (r.attempt s supply).map op.read) ∨
    (op.request s.options = none ∧ op ≠ dispose ∧ op.run s supply = ⟨op.idle, s, supply⟩) := by
  by_cases hop : op = dispose
  · exact .inl hop
  · cases hr : op.request s.options with
    | some r => exact .inr (.inl ⟨r, rfl, run_of_request supply hr⟩)
    | none => exact .inr (.inr ⟨rfl, hop, run_of_no_request supply hr hop⟩)

end Operation

/-! ## What no operation changes -/

/-- Engine, pattern and options are those that the session was opened with. -/
structure Session.SameSetup (s t : Session S H) : Prop where
  engine : t.engine = s.engine
  pattern : t.pattern = s.pattern
  options : t.options = s.options

theorem Session.release_sameSetup (s : Session S H) : s.SameSetup s.release := by
  unfold release
  split <;> exact ⟨rfl, rfl, rfl⟩

theorem Session.dispose_sameSetup (s : Session S H) : s.SameSetup s.dispose := by
  unfold dispose
  split
  · exact ⟨rfl, rfl, rfl⟩
  · obtain ⟨he, hp, ho⟩ := s.release_sameSetup
    exact ⟨he, hp, ho⟩

theorem Session.dispose_disposed (s : Session S H) : s.dispose.disposed = true := by
  unfold dispose
  split
  next hd => exact hd
  next => rfl

theorem Session.dispose_record (s : Session S H) : s.dispose.record = s.record := by
  unfold dispose release
  split
  · rfl
  · split <;> rfl

theorem Request.attempt_sameSetup (r : Request) (s : Session S H) (supply : Supply) :
    s.SameSetup (r.attempt s supply).session := by
  unfold attempt
  split
  · exact ⟨rfl, rfl, rfl⟩
  · dsimp only
    split
    · exact ⟨rfl, rfl, rfl⟩
    · unfold call
      split <;> exact ⟨rfl, rfl, rfl⟩

theorem Operation.run_sameSetup (op : Operation) (s : Session S H) (supply : Supply) :
    s.SameSetup (op.run s supply).session := by
  rcases op.run_cases s supply with rfl | ⟨r, -, hrun⟩ | ⟨-, -, hrun⟩
  · exact s.dispose_sameSetup
  · rw [hrun]
    exact r.attempt_sameSetup s supply
  · rw [hrun]
    exact ⟨rfl, rfl, rfl⟩

theorem Request.attempt_disposed (r : Request) (s : Session S H) (supply : Supply) :
    (r.attempt s supply).session.disposed = s.disposed := by
  unfold attempt
  split
  · rfl
  · dsimp only
    split
    · rfl
    · unfold call
      split <;> rfl

/-- Only a disposal ends a session. -/
theorem Operation.run_disposed {op : Operation} (hop : op ≠ .dispose) (s : Session S H)
    (supply : Supply) : (op.run s supply).session.disposed = s.disposed := by
  rcases op.run_cases s supply with h | ⟨r, -, hrun⟩ | ⟨-, -, hrun⟩
  · exact absurd h hop
  · rw [hrun]
    exact r.attempt_disposed s supply
  · rw [hrun]

end PatternSession
