import DebugLink.Session.Control
import DebugLink.Breakpoint.Notice
import DebugLink.Mi.Answer

/-!
# Editing breakpoints

A breakpoint is edited by a command to gdb; the notice in its answer is applied to the session as
if gdb had sent it on its own. A target that runs is interrupted for most edits.
-/

namespace DebugLink.Act

open Text Breakpoint

/-- The ignore count with which a breakpoint never stops. -/
def ignoreForever : Nat := 2147483647

/-- Changes the table of breakpoints. -/
def updateTable (f : Table → Table) : Act Unit := update fun s => { s with table := f s.table }

/-- Applies a notice about breakpoints to the session. A hit is dropped while another one is handled
or a condition is changed. -/
def applyNotice (notice : Notice) : Act Unit := do
  match notice with
  | .inserted snapshot =>
    -- Only a breakpoint without a location says anything about the code at the current frame.
    if snapshot.isPending then setUnknownCode true
    updateTable (·.insert snapshot)
  | .modified snapshot =>
    setUnknownCode (snapshot.function == Record.unknownFunction)
    updateTable (·.insert snapshot)
    (← read).recount snapshot.id snapshot.hits
  | .deleted id => updateTable (·.erase id)
  | .enabled id => updateTable (·.markEnabled id true)
  | .disabled id => updateTable (·.markEnabled id false)
  | .ignoreCount id count => updateTable (·.modify id fun s => { s with ignoreCount := count })
  | .condition id condition => updateTable (·.modify id fun s => { s with condition })
  | .hit id file line thread =>
    match (← session).conditionUpdate.tryTake with
    | none => return
    | some conditionUpdate =>
      update fun s => { s with conditionUpdate }
      let handled ← attempt fun link => link.hit id file line thread
      update fun s => { s with conditionUpdate := s.conditionUpdate.release }
      settle handled
  | .conditionError | .unused => return

/-- Reads a record about breakpoints and applies it. -/
def handleBreakpoint (record : String) : Act Notice := do
  match Notice.read record with
  | .error defect => fail (.record defect)
  | .ok notice =>
    applyNotice notice
    return notice

/-- Runs an edit while the target is interrupted, and resumes the target after it, also when the
edit fails. A failure to resume wins over one of the edit. -/
def whilePaused {α : Type} (edit : Act α) : Act α := do
  pauseForEdit
  let outcome ← attempt edit
  resumeAfterEdit
  settle outcome

/-- Asks for a breakpoint, with a second command when the first leaves it without a location. -/
def requestInsert (command : String) (fallback : Option String) : Act (Option Snapshot) := do
  let first ← request command
  let answer ← match fallback with
    | some fallback =>
      if contains Record.pendingAddress.toList first.toList then request fallback else pure first
    | none => pure first
  if !startsWith "20" answer then
    log .warn (s!"breakpoint not inserted: `{command}` -> " ++ quoted answer)
    return none
  match ← handleBreakpoint answer with
  | .inserted snapshot => return some snapshot
  | _ => return none

/-- Inserts a breakpoint at a place, unless the session has ended. A line is tried with the full
path of its file first, and with the bare name when that leaves the breakpoint without a
location. -/
def insert (location : Location) : Act (Option Snapshot) := do
  if !(← session).alive then return none
  let group := (← read).config.threadGroup
  match location with
  | .line file fullPath line =>
    let command (path : String) := s!"-break-insert --thread-group {group} -f {path}:{line}"
    let fallback := if file = fullPath then none else some (command file)
    whilePaused (requestInsert (command fullPath) fallback)
  | .function name => whilePaused (requestInsert s!"-break-insert {name}" none)

/-- Sends a command whose answer repeats the number of the breakpoint, and tells whether it did. -/
def requestEcho (command : String) (id : Nat) : Act Bool := do
  let answer ← request command
  let startsWithDigit := answer.toList.head?.any Char.isDigit
  if utf8Length answer.toList < 2 || !startsWithDigit then
    log .warn (s!"`{command}` -> " ++ quoted answer)
    return false
  match ← handleBreakpoint answer with
  | .deleted n | .enabled n | .disabled n => return n = id
  | _ => return false

/-- Deletes a breakpoint; after the end of the session there is nothing left to delete. -/
def delete (id : Nat) : Act Bool := do
  if !(← session).alive then return true
  whilePaused (requestEcho s!"-break-delete {id}" id)

/-- Enables or disables a breakpoint. -/
def enable (id : Nat) (enabled : Bool) : Act Bool := do
  let verb := if enabled then "enable" else "disable"
  whilePaused (requestEcho s!"-break-{verb} {id}" id)

/-- Sends a command whose answer is a notice, and tells whether gdb accepted it. -/
def requestNotice (command : String) : Act Bool := do
  let answer ← request command
  if answer.isEmpty || answer = Mi.errorAnswer then return false
  discard <| handleBreakpoint answer
  return true

/-- Sets the condition that gdb checks; an empty one is none. -/
def setGdbCondition (id : Nat) (condition : String) : Act Bool :=
  requestNotice (if condition.isEmpty then s!"-break-condition {id}"
    else s!"-break-condition {id} {condition}")

/-- The ignore count that lets the breakpoint stop at the `n`-th hit from now on; never, when there
is no such hit. -/
def ignoreCountFor (n : Int) : Nat :=
  if n ≤ 0 ∨ (ignoreForever : Int) < n then ignoreForever else (n - 1).toNat

/-- The least number of 64 bits with a sign. -/
def leastInt64 : Int := -9223372036854775808

/-- Lets a breakpoint stop at the `n`-th hit from now on. The number has 64 bits and a sign, and the
least of them has no predecessor. -/
def stopAtHit (id : Nat) (n : Int) : Act Bool := do
  if n = leastInt64 then throw .assertion
  requestNotice s!"-break-after {id} {ignoreCountFor n}"

end DebugLink.Act
