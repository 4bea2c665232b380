import PatternSession.Config.Reader
import PatternSession.Matcher
import PatternSession.Unicode.Derived

/-!
# Settings files

The limits of the bundled engine can be kept in a settings file, one key for each. A key that is
absent leaves the limit alone. The text is read by a `Reader`.

**Strict.** Every key must be one of the three, and a file that the reader refuses gives no limits
at all.

**Nothing to read.** A file that does not exist, or holds white space only, gives the default
limits.
-/

namespace PatternSession

namespace Config

/-- The file that is looked for when no other is named. -/
def defaultPath : String := ".rxsession.yml"

/-- What is found at the path of a settings file. -/
inductive File where
  | absent
  /-- Something that cannot be read as a file. -/
  | unreadable
  | bytes (content : ByteArray)

/-- Why a settings file gives no limits. -/
inductive ConfigError where
  | unreadable (path : String)
  | malformed (path : String)

/-- The text shown to the user. -/
def ConfigError.message : ConfigError → String
  | unreadable path => "failed to read config " ++ path
  | malformed path => "failed to parse " ++ path

/-! ## Keys -/

/-- The keys of a settings file. -/
inductive Key where
  | backtrackLimit
  | delegateSizeLimit
  | delegateDfaSizeLimit
  deriving DecidableEq

namespace Key

/-- The field that the key is for. -/
def field : Key → String
  | backtrackLimit => "backtrack_limit"
  | delegateSizeLimit => "delegate_size_limit"
  | delegateDfaSizeLimit => "delegate_dfa_size_limit"

/-- The key as it is written. -/
def name : Key → String
  | backtrackLimit => "backtrack-limit"
  | delegateSizeLimit => "delegate-size-limit"
  | delegateDfaSizeLimit => "delegate-dfa-size-limit"

def all : List Key := [backtrackLimit, delegateSizeLimit, delegateDfaSizeLimit]

/-- The limit of the key. -/
def get (k : Key) (l : Limits) : Option Nat :=
  match k with
  | backtrackLimit => l.backtrackLimit
  | delegateSizeLimit => l.delegateSizeLimit
  | delegateDfaSizeLimit => l.delegateDfaSizeLimit

end Key

/-! ## Reading -/

/-- The limits as a record: a limit that is absent is left alone, and nothing else may be set. -/
def declaration : Declaration where
  fields := Key.all.map Key.field
  absent _ := none
  kebabCase := true
  denyUnknownFields := true

/-- The limits with these fields. -/
def limitsOf (values : String → Option Nat) : Limits where
  backtrackLimit := values Key.backtrackLimit.field
  delegateSizeLimit := values Key.delegateSizeLimit.field
  delegateDfaSizeLimit := values Key.delegateDfaSizeLimit.field

/-- Is every character white space? -/
def isSpace (cs : List Char) : Bool := cs.all Unicode.space.contains

/-- The limits of a settings text. -/
def Reader.ofText? (r : Reader) (cs : List Char) : Option Limits :=
  if isSpace cs then some {} else ((r.mapping? cs).bind (r.record? declaration)).map limitsOf

/-- The limits of the settings file at a path. -/
def Reader.load (r : Reader) (path : String) : File → Except ConfigError Limits
  | .absent => .ok {}
  | .unreadable => .error (.unreadable path)
  | .bytes content =>
    match String.fromUTF8? content with
    | none => .error (.unreadable path)
    | some text =>
      match r.ofText? text.toList with
      | some limits => .ok limits
      | none => .error (.malformed path)

/-- A settings text with one line for each of the keys that has a value. -/
def text (limits : Limits) (order : List Key) : List Char :=
  order.flatMap fun k =>
    match k.get limits with
    | some n => k.name.toList ++ ':' :: ' ' :: (toString n).toList ++ ['\n']
    | none => []

end Config

end PatternSession
