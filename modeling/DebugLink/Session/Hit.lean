import DebugLink.Session.Policy
import DebugLink.Variable.Evaluate

/-!
# Hits

A hit either reaches the host or the target is resumed. A bound breakpoint that compares values
stops when the value of its expression changed and the pass count allows it; any other one stops
whenever gdb stopped.
-/

namespace DebugLink.Act

open Breakpoint

/-- Whether a hit of a bound breakpoint stops. The value is remembered when it is new. -/
def stopsAt (i : Nat) : Act Bool := do
  let b ← bound i
  if !b.comparesValues then return true
  let evaluation ← query (Variable.evaluate b.condition.expression none)
  let b ← bound i
  if evaluation.valid && b.previousValue ≠ evaluation.value then
    updateBound i fun b => { b with previousValue := evaluation.value }
    return b.passCount.allows b.hits
  else return false

/-- Counts a hit that the session itself counts. The counter has 32 bits. -/
def countHit (i : Nat) : Act Unit := do
  let b ← bound i
  if b.comparesValues then
    if b.hits + 1 < Text.limit32 then updateBound i fun b => { b with hits := b.hits + 1 }
    else throw .assertion

/-- Tells the host of a hit, and has gdb ignore the hits up to the next one that stops. -/
def reportHit (i id thread : Nat) : Act Unit := do
  countHit i
  let b ← bound i
  setRunMode false
  setPhase .stopped
  tell (.breakpointHit thread [b.gdbId])
  if b.stopsOnce then discard <| stopAtHit id ignoreForever
  else if b.stopsEvery ≠ 0 then
    discard <| stopAtHit id (b.stopsEvery - b.hits % b.stopsEvery : Nat)

/-- Decides what becomes of a stop at a breakpoint. A breakpoint that is being edited does not stop,
and one that is not bound is none of the host's business. -/
def judgeHit (id thread : Nat) : Act Unit := do
  match ← findBound? id with
  | none => return
  | some i =>
    if (← bound i).held.meets .both then inRegion resume
    else
      withGates i .both <| inRegion do
        if ← stopsAt i then reportHit i id thread else resume

/-- Handles a hit: the host learns where the thread stands. A hit ends a step. -/
def handleHit (id : Nat) (file : String) (line thread : Nat) : Act Unit := do
  tell .stackFramesOutdated
  tell .threadCachesOutdated
  refreshThreads
  setThreadLocation thread file line
  setThread thread
  if (← session).phase = .stepping then completeStep file line
  else
    publishLocation file line
    judgeHit id thread

end DebugLink.Act
