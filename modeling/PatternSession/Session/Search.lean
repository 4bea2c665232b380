import PatternSession.Session.Basic

/-!
# Searching in a session

A search binds the text and asks the engine for a match within the bounds; it never passes a
pattern, since the session's pattern is compiled already. The bounds are remembered in the match, so
`Match.next` can continue within them.

**Sequences of matches.** A `Matches` is the cursor of a lazy sequence: every step is a fresh search
from where the match before left off. An error is given once and ends the sequence.
-/

namespace PatternSession

namespace Session

variable {S H : Type}

/-- One engine call that searches within the bounds. -/
def searchCall (s : Session S H) (bounds : Bounds) : Session S H × Answer H :=
  let (state, a) := s.engine.compileAndMatch s.state
    { pattern := none, options := none, range := s.buffer.range bounds, oneShot := false } s.handle
  ({ s with state, handle := a.handle }, a)

/-- What a search answers, from the engine's answer and the session after it. -/
def readMatch (s : Session S H) (text : Text) (bounds : Bounds) (a : Answer H) :
    Except Error (Option Match) :=
  if a.status < 0 then .error a.error
  else if a.status = 0 then .ok none
  else
    match s.captures? with
    | some captures => .ok (some ⟨captures, text, bounds⟩)
    | none => .error (.compile "engine reported a match without a span")

/-- Searches `len` characters of the text from `start` on, or to the end. -/
def search (s : Session S H) (supply : Supply) (text : Text) (start : Nat) (len : Option Nat) :
    Turn S H (Except Error (Option Match)) :=
  if s.disposed then ⟨.error .disposed, s, supply⟩
  else
    let bound := s.bind supply text start len
    match bound.answer with
    | .error e => ⟨.error e, bound.session, bound.supply⟩
    | .ok bounds =>
      let (s, a) := bound.session.searchCall bounds
      ⟨s.readMatch text bounds a, s, bound.supply⟩

/-- The first match at or after character `start`. -/
def findAt (s : Session S H) (supply : Supply) (text : Text) (start : Nat) :
    Turn S H (Except Error (Option Match)) :=
  s.search supply text start none

/-- The first match in the text. -/
def find (s : Session S H) (supply : Supply) (text : Text) :
    Turn S H (Except Error (Option Match)) :=
  s.findAt supply text 0

/-- The first match inside the `len` characters from `start` on. -/
def findIn (s : Session S H) (supply : Supply) (text : Text) (start len : Nat) :
    Turn S H (Except Error (Option Match)) :=
  s.search supply text start (some len)

/-- Is there a match at or after character `start`? -/
def isMatchAt (s : Session S H) (supply : Supply) (text : Text) (start : Nat) :
    Turn S H (Except Error Bool) :=
  let found := s.findAt supply text start
  ⟨found.answer.map (·.isSome), found.session, found.supply⟩

end Session

/-- The next match within the bounds of this one, if the bounds reach so far. -/
def Match.next {S H : Type} (m : Match) (s : Session S H) (supply : Supply) :
    Turn S H (Except Error (Option Match)) :=
  if m.bounds.stop < m.resumeAt then ⟨.ok none, s, supply⟩
  else s.search supply m.text m.resumeAt (some (m.bounds.stop - m.resumeAt))

/-- Where a sequence of matches stands. -/
inductive Cursor where
  /-- Nothing was searched yet. -/
  | start (start : Nat)
  /-- The rest of the bounds is to be searched. -/
  | within (pos stop : Nat)
  | done
  deriving DecidableEq

/-- A lazy sequence of matches in one text. -/
structure Matches where
  text : Text
  cursor : Cursor

namespace Matches

variable {S H : Type}

/-- The matches from character `start` on. -/
def startingAt (text : Text) (start : Nat) : Matches := ⟨text, .start start⟩

/-- Where the sequence stands after a match. -/
def Cursor.after (m : Match) : Cursor :=
  if m.bounds.stop < m.resumeAt then .done else .within m.resumeAt m.bounds.stop

/-- The search of the next step, if there is one to make. -/
def step? (it : Matches) (s : Session S H) (supply : Supply) :
    Option (Turn S H (Except Error (Option Match))) :=
  match it.cursor with
  | .start start => some (s.search supply it.text start none)
  | .within pos stop => some (s.search supply it.text pos (some (stop - pos)))
  | .done => none

/-- The next item, and the sequence after it. -/
def next (it : Matches) (s : Session S H) (supply : Supply) :
    Turn S H (Option (Except Error Match) × Matches) :=
  match it.step? s supply with
  | none => ⟨(none, it), s, supply⟩
  | some found =>
    match found.answer with
    | .ok (some m) => ⟨(some (.ok m), ⟨it.text, Cursor.after m⟩), found.session, found.supply⟩
    | .ok none => ⟨(none, ⟨it.text, .done⟩), found.session, found.supply⟩
    | .error e => ⟨(some (.error e), ⟨it.text, .done⟩), found.session, found.supply⟩

/-- The next items, at most `count` of them. -/
def take (s : Session S H) (supply : Supply) :
    (count : Nat) → Matches → Turn S H (List (Except Error Match) × Matches)
  | 0, it => ⟨([], it), s, supply⟩
  | count + 1, it =>
    let t := it.next s supply
    match t.answer with
    | (none, it) => ⟨([], it), t.session, t.supply⟩
    | (some item, it) =>
      let rest := take t.session t.supply count it
      ⟨(item :: rest.answer.1, rest.answer.2), rest.session, rest.supply⟩

/-- All items. Every match but the last leaves fewer characters, so there is at most one item more
than there are characters, and one step to find the end. -/
def drain (it : Matches) (s : Session S H) (supply : Supply) :
    Turn S H (List (Except Error Match)) :=
  let t := take s supply (it.text.chars.length + 2) it
  ⟨t.answer.1, t.session, t.supply⟩

end Matches

end PatternSession
