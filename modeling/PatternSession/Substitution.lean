import PatternSession.Matcher
import PatternSession.Template

/-!
# Replacing occurrences

**The sweep.** `sweep` walks a text from a byte position on and records every place where the
matcher stopped it (`Stop`). Each search begins where the occurrence before it ended, one character
further after an empty one. An empty occurrence right after the end of the one before is passed
over: it is recorded, but not taken. Without `global` the sweep ends at the first occurrence.

**Rebuilding.** `rebuild` puts the text together again, with an expansion in the place of every
occurrence taken.

**Outcome.** `substitute` gives the rebuilt text, the number of occurrences replaced and the groups
of the first one, or nothing when there is no occurrence. If the matcher fails anywhere on the way,
the substitution fails.
-/

namespace PatternSession

/-- A place where the matcher stopped a sweep. -/
structure Stop where
  /-- Where the search began. -/
  pos : Nat
  spans : ByteSpans
  /-- The whole match. -/
  whole : ByteSpan
  /-- Is the occurrence replaced? -/
  taken : Bool

/-- The stops of a sweep in order, and the matcher's error if one ended it. -/
structure Sweep where
  stops : List Stop := []
  failure : Option String := none

/-- A sweep with one more stop in front. -/
def Sweep.cons (s : Stop) (w : Sweep) : Sweep := { w with stops := s :: w.stops }

/-- The occurrences to replace. -/
def Sweep.taken (w : Sweep) : List Stop := w.stops.filter (·.taken)

/-- The byte position after the character at `byte`, if there is a character. -/
def nextBoundary? (text : List Char) (byte : Nat) : Option Nat :=
  match dropBytes? text byte with
  | some (c :: _) => some (byte + c.utf8Size)
  | _ => none

/-- The whole match, if it took part. -/
def wholeMatch? : ByteSpans → Option ByteSpan
  | some whole :: _ => some whole
  | _ => none

/-- The walk from `pos` on, where the last occurrence taken ended at `prevStop`; `fuel` bounds the
number of searches. -/
def sweepFrom (search : Nat → Except String (Option ByteSpans)) (text : List Char) (global : Bool) :
    (fuel : Nat) → (pos : Nat) → (prevStop : Option Nat) → Sweep
  | 0, _, _ => {}
  | fuel + 1, pos, prevStop =>
    if byteLength text < pos then {}
    else
      match search pos with
      | .error e => { failure := some e }
      | .ok none => {}
      | .ok (some spans) =>
        match wholeMatch? spans with
        | none => {}
        | some whole =>
          let following :=
            if whole.start = whole.stop then nextBoundary? text whole.stop else some whole.stop
          if whole.start = whole.stop ∧ prevStop = some whole.stop then
            .cons ⟨pos, spans, whole, false⟩ <|
              match following with
              | some next => sweepFrom search text global fuel next prevStop
              | none => {}
          else
            .cons ⟨pos, spans, whole, true⟩ <|
              match following with
              | some next =>
                if global then sweepFrom search text global fuel next (some whole.stop) else {}
              | none => {}

/-- The walk from a byte position on. Every search begins at least one character after the one
before, so there is at most one more search than there are characters. -/
def sweep (search : Nat → Except String (Option ByteSpans)) (text : List Char) (start : Nat)
    (global : Bool) : Sweep :=
  sweepFrom search text global (((dropBytes? text start).getD []).length + 1) start none

/-- The text from `last` on, with an expansion in the place of every occurrence. -/
def rebuild (text : List Char) (expansion : ByteSpans → List Char) (last : Nat) :
    List Stop → List Char
  | [] => (dropBytes? text last).getD []
  | s :: rest =>
    (sliceBytes? text last s.whole.start).getD [] ++
      (expansion s.spans ++ rebuild text expansion s.whole.stop rest)

/-- The text of a group. -/
def groupText? (text : List Char) (spans : ByteSpans) (i : Nat) : Option (List Char) :=
  spans[i]?.join.map fun s => (sliceBytes? text s.start s.stop).getD []

/-- What a substitution did. -/
structure Substitution where
  /-- The text from the start position on, with the occurrences replaced. -/
  rebuilt : List Char
  /-- The number of occurrences replaced. -/
  count : Nat
  /-- The groups of the first occurrence. -/
  first : ByteSpans

/-- Replaces the first occurrence (or with `global` every one) from a byte position on. -/
def substitute (search : Nat → Except String (Option ByteSpans)) (template : Template)
    (text : List Char) (start : Nat) (global : Bool) : Except String (Option Substitution) :=
  let walk := sweep search text start global
  match walk.failure with
  | some e => .error e
  | none =>
    match walk.taken with
    | [] => .ok none
    | first :: rest =>
      .ok <| some {
        rebuilt := rebuild text (fun spans => template.expand (groupText? text spans)) start
          (first :: rest)
        count := (first :: rest).length
        first := first.spans }

end PatternSession
