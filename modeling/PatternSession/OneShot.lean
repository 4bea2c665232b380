import PatternSession.Bundled
import PatternSession.Session.Replace

/-!
# Operations without a session at hand

Each opens a session on the bundled engine for one call and disposes it afterwards. A match found so
keeps its data, but it can no longer search.
-/

namespace PatternSession.OneShot

/-- Opens a session on the bundled engine. -/
def create (m : Matcher) (limits : Limits) (supply : Supply) (pattern options : String) :
    Turn Unit (Bundled.Handle m) (Except Error Unit) :=
  Session.create (bundled m limits) () supply pattern options

/-- Runs an operation on a session that lives for it alone. -/
def within {α : Type} (m : Matcher) (pattern options : String)
    (operation : Session Unit (Bundled.Handle m) → Supply →
      Turn Unit (Bundled.Handle m) (Except Error α)) :
    Turn Unit (Bundled.Handle m) (Except Error α) :=
  let opened := create m {} {} pattern options
  match opened.answer with
  | .error e => ⟨.error e, opened.session, opened.supply⟩
  | .ok () =>
    let t := operation opened.session opened.supply
    ⟨t.answer, t.session.dispose, t.supply⟩

/-- The text object of a single call. -/
def textOf (content : String) : Text := ⟨1, content⟩

/-- The matches, or the first error among the items. -/
def collect : List (Except Error Match) → Except Error (List Match)
  | [] => .ok []
  | .error e :: _ => .error e
  | .ok m :: rest => (collect rest).map (m :: ·)

/-- The first match of the pattern in the text. -/
def find (m : Matcher) (text pattern options : String) :
    Turn Unit (Bundled.Handle m) (Except Error (Option Match)) :=
  within m pattern options fun s supply => s.find supply (textOf text)

/-- Every match of the pattern in the text. -/
def findAll (m : Matcher) (text pattern options : String) : Except Error (List Match) :=
  (within m pattern options fun s supply =>
    let t := (Matches.startingAt (textOf text) 0).drain s supply
    ⟨collect t.answer, t.session, t.supply⟩).answer

/-- Does the pattern match anywhere in the text? -/
def isMatch (m : Matcher) (text pattern options : String) : Except Error Bool :=
  (within m pattern options fun s supply => s.isMatchAt supply (textOf text) 0).answer

/-- Replaces the pattern in the text: every occurrence when the options contain `g`. -/
def replace (m : Matcher) (text pattern template options : String) : Except Error String :=
  (within m pattern options fun s supply => s.replace supply (textOf text) template).answer

end PatternSession.OneShot
