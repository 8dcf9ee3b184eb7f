import DebugLink.Session.Edit

/-!
# Policies of bound breakpoints

Pass counts, conditions and hit counts of bound breakpoints. A pass count becomes an ignore count of
gdb, unless the session compares values at every hit. gdb cannot set its hit count back, so the
breakpoint is created anew for that.
-/

namespace DebugLink.Act

open Breakpoint

/-- The number of the hit, counted from now on, at which a pass count stops next; `0` when there is
none and a smaller number when it has passed. -/
def nextStop (p : PassCount) (hits : Nat) : Int :=
  match p.style with
  | .atLeast => if hits ≤ p.count then (p.count : Int) - hits else 1
  | .equal => (p.count : Int) - hits
  | .multiple => if 0 < p.count then (p.count : Int) - (hits % p.count : Nat) else 1
  | .always => 1

/-- Whether the target runs, as both the engine and gdb say. -/
def isRunning : Act Bool := do
  let s ← session
  return s.phase = .running && s.runMode

/-- Gives a bound breakpoint a pass count. -/
def setPassCount (i : Nat) (p : PassCount) : Act Unit :=
  withGates i .hitCountOnly <| inRegion do
    let wasRunning ← isRunning
    if wasRunning then pauseForEdit
    updateBound i (·.withPassCount p)
    let b ← bound i
    let outcome ←
      if b.comparesValues then pure (.ok ())
      else attempt (discard <| stopAtHit b.gdbId (nextStop p b.hits))
    if wasRunning then resumeAfterEdit
    settle outcome

/-- Creates the gdb breakpoint of a bound one anew, so that its hit count starts over, and gives it
its pass count again. -/
def recreate (i : Nat) : Act Bool := do
  let b ← bound i
  discard <| delete b.gdbId
  match ← insert b.location with
  | none => return false
  | some snapshot =>
    updateBound i fun b => { b with gdbId := snapshot.id, hits := 0 }
    setPassCount i (← bound i).passCount
    return true

/-- Gives a bound breakpoint a condition for gdb to check, or for the session to compare values. -/
def sendCondition (i : Nat) (c : Condition) : Act Unit := do
  let id := (← bound i).gdbId
  match c.style with
  | .whenTrue | .unconditional =>
    updateBound i (·.withGdbCondition c)
    discard <| setGdbCondition id (if c.style = .unconditional then "" else c.expression)
  | .whenChanged =>
    updateBound i (·.withComparison c)
    discard <| stopAtHit id 1
    discard <| setGdbCondition id ""

/-- Changes the condition of a bound breakpoint: whether the target was running, and whether gdb has
to count hits again because the session compares no longer. -/
def changeCondition (i : Nat) (c : Condition) : Act (Bool × Bool) :=
  withGates i .conditionOnly do
    if (← bound i).hits ≠ 0 then discard <| recreate i
    inRegion do
      let wasRunning ← isRunning
      if wasRunning then
        pauseForEdit
        setPhase .stopped
      let compared := (← bound i).comparesValues
      sendCondition i c
      return (wasRunning, compared && c.style ≠ .whenChanged)

/-- Gives a bound breakpoint a condition while the target is interrupted. -/
def applyCondition (i : Nat) (c : Condition) : Act Unit := do
  let (wasRunning, countsAgain) ← changeCondition i c
  if countsAgain then setPassCount i (← bound i).passCount
  if wasRunning then
    setPhase .running
    resumeAfterEdit

/-- Gives a bound breakpoint a condition. Hits are dropped meanwhile. -/
def setCondition (i : Nat) (c : Condition) : Act Unit := do
  match (← session).conditionUpdate.tryTake with
  | none => applyCondition i c
  | some conditionUpdate =>
    update fun s => { s with conditionUpdate }
    let outcome ← attempt (applyCondition i c)
    update fun s => { s with conditionUpdate := s.conditionUpdate.release }
    settle outcome

/-- Sets the hit count of gdb back, and gives the breakpoint its condition again if asked to. -/
def resetHitCount (i : Nat) (resetCondition : Bool) : Act Bool := do
  if ← recreate i then
    if resetCondition then setCondition i (← bound i).condition
    return true
  else return false

/-- Sets the hit count of a bound breakpoint. Setting it to zero sets that of gdb back as well. -/
def setHitCount (i : Nat) (hits : Nat) : Act Unit := do
  let before := (← bound i).hits
  updateBound i fun b => { b with hits }
  if hits = 0 && before ≠ 0 then discard <| resetHitCount i true

/-- Takes over a hit count that gdb reports, unless the session counts the hits itself. -/
def updateHitCount (id hits : Nat) : Act Unit := do
  match ← findBound? id with
  | some i => if !(← bound i).comparesValues then setHitCount i hits
  | none => return

end DebugLink.Act
