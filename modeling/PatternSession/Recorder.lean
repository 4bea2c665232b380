import PatternSession.Engine

/-!
# A recording engine with faults

`recording inner` stands between a session and an engine. It writes down every call, and can be told
to falsify answers: it is how a session is watched, and how it is shown an engine that misbehaves.

**Records.** A `CallRecord` holds what the session passed and the status it saw. Text copies are
numbered by first appearance, whatever their generations.

**Faults.** `Faults` says what to falsify. The handle may be discarded before the call or after it,
the template withheld, the answer replaced; and after a call that matched, the reported spans, the
output and the status may be changed.

**Results.** Each handle keeps its own copy of the inner engine's result, taken after each call, so
that faults touch the copy only.
-/

namespace PatternSession

namespace Recorder

/-- The range of a recorded call. -/
structure RangeRecord where
  bounds : Bounds
  /-- The text that the engine may look at. -/
  visible : List CodeUnit
  /-- The length of the whole text. -/
  units : Nat
  /-- The number of the text copy, by first appearance. -/
  copy : Nat

/-- A recorded call. -/
inductive CallRecord where
  | matching (pattern options : Option String) (oneShot : Bool) (range : RangeRecord)
      (hadHandle : Bool) (status : Int)
  | substituting (pattern template options : Option String) (range : RangeRecord)
      (hadHandle : Bool) (status : Int)
  | freeing

/-- What to falsify. -/
structure Faults where
  /-- Discard the handle before the call. -/
  dropHandle : Bool := false
  /-- Withhold the template of a substitution. -/
  dropTemplate : Bool := false
  /-- Replace the answer by this message and status. -/
  fail : Option (String × Int) := none
  /-- Report no span for the whole match. -/
  unset : Bool := false
  /-- Move the reported start of the whole match in a substitution. -/
  shift : Int := 0
  /-- Move its reported end. -/
  stopShift : Int := 0
  /-- Report no output. -/
  noOutput : Bool := false
  /-- Report an output with a unit that is no character. -/
  badOutput : Bool := false
  /-- Report an output that ends earlier by that many units. -/
  cutOutput : Nat := 0
  /-- Discard the handle after the call. -/
  loseHandle : Bool := false
  /-- Report that a substitution matched nothing. -/
  miss : Bool := false

/-- The state of a recording engine. -/
structure State (S : Type) where
  inner : S
  /-- The calls so far, the last one first. -/
  calls : List CallRecord := []
  /-- The generations of the text copies seen, in order. -/
  copies : List Nat := []
  faults : Faults := {}

/-- A handle of the inner engine, with the result that is reported for it. -/
structure Handle (H : Type) where
  inner : H
  region : Region

variable {S H : Type}

/-- The record of a range, and the generations seen with it. -/
def recordRange (copies : List Nat) (r : TextRange) : RangeRecord × List Nat :=
  let copies := if r.generation ∈ copies then copies else copies ++ [r.generation]
  (⟨r.bounds, r.visible, r.units.length, copies.idxOf r.generation + 1⟩, copies)

/-- A group moved by what the faults say. -/
def moveGroup (f : Faults) (g : GroupBounds) : GroupBounds :=
  ⟨(g.start + f.shift).toNat, (g.stop + f.stopShift).toNat⟩

/-- The groups that are reported after a call that matched. -/
def falsifyGroups (f : Faults) (substituting : Bool) :
    List (Option GroupBounds) → List (Option GroupBounds)
  | [] => []
  | g :: rest =>
    if f.unset then none :: rest
    else if substituting then g.map (moveGroup f) :: rest
    else g :: rest

/-- The output with a unit that is no character. -/
def invalidOutput : List CodeUnit := [0x61, 0xD800, 0x62]

/-- The output that is reported after a call that matched. -/
def falsifyOutput (f : Faults) (output : List CodeUnit) : List CodeUnit :=
  let output := if f.noOutput then [] else output
  let output := if f.badOutput then invalidOutput else output
  output.take (output.length - f.cutOutput)

/-- The answer with the faults applied. -/
def falsify (f : Faults) (substituting : Bool) (a : Answer (Handle H)) : Answer (Handle H) :=
  match f.fail with
  | some (message, status) => ⟨status, some message, a.handle⟩
  | none =>
    if a.status ≤ 0 then a
    else
      { status := if f.miss ∧ substituting then 0 else a.status
        message := a.message
        handle :=
          if f.loseHandle then none
          else a.handle.map fun h => { h with
            region := ⟨falsifyGroups f substituting h.region.groups,
              falsifyOutput f h.region.output⟩ } }

/-- The handle that the inner engine is given. -/
def innerHandle (f : Faults) (slot : Option (Handle H)) : Option H :=
  if f.dropHandle then none else slot.map (·.inner)

/-- The inner engine's answer, with a copy of its result in the handle. -/
def copyResult (inner : Engine S H) (a : Answer H) : Answer (Handle H) :=
  ⟨a.status, a.message, a.handle.map fun h => ⟨h, inner.region h⟩⟩

/-- Makes and records a matching call. -/
def compileAndMatch (inner : Engine S H) (s : State S) (call : MatchCall)
    (slot : Option (Handle H)) : State S × Answer (Handle H) :=
  let (state, a) := inner.compileAndMatch s.inner call (innerHandle s.faults slot)
  let a := falsify s.faults false (copyResult inner a)
  let (range, copies) := recordRange s.copies call.range
  let record :=
    .matching call.pattern call.options call.oneShot range slot.isSome a.status
  ({ s with inner := state, calls := record :: s.calls, copies }, a)

/-- Makes and records a substituting call. -/
def compileAndSubstitute (inner : Engine S H) (s : State S) (call : SubstituteCall)
    (slot : Option (Handle H)) : State S × Answer (Handle H) :=
  let (state, a) := inner.compileAndSubstitute s.inner
    { call with template := if s.faults.dropTemplate then none else call.template }
    (innerHandle s.faults slot)
  let a := falsify s.faults true (copyResult inner a)
  let (range, copies) := recordRange s.copies call.range
  let record :=
    .substituting call.pattern call.template call.options range slot.isSome a.status
  ({ s with inner := state, calls := record :: s.calls, copies }, a)

end Recorder

open Recorder in
/-- The recording engine around another one. -/
def recording {S H : Type} (inner : Engine S H) :
    Engine (Recorder.State S) (Recorder.Handle H) where
  compileAndMatch := Recorder.compileAndMatch inner
  compileAndSubstitute := Recorder.compileAndSubstitute inner
  region h := h.region
  free s h := { s with inner := inner.free s.inner h.inner, calls := .freeing :: s.calls }

end PatternSession
