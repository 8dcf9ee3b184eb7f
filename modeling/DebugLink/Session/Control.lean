import DebugLink.Session.World
import DebugLink.Text.Numeral

/-!
# Running and stopping the target

Resuming, stepping and interrupting the target, what is told to the host when it stopped, and the
end of a session.
-/

namespace DebugLink.Act

open Text

/-- Sets the phase. -/
def setPhase (phase : Phase) : Act Unit := update fun s => { s with phase }

/-- Sets whether the target runs. -/
def setRunMode (runMode : Bool) : Act Unit := update fun s => { s with runMode }

/-- Sets whether the target stopped in code without source. -/
def setUnknownCode (unknownCode : Bool) : Act Unit := update fun s => { s with unknownCode }

/-- Remembers that a thread came or went. -/
def markThreadsDirty : Act Unit := update fun s => { s with threadsDirty := true }

/-- Has the host look at the threads again when one came or went. -/
def refreshThreads : Act Unit := do
  let dirty := (← session).threadsDirty
  update fun s => { s with threadsDirty := false }
  if dirty then tell .threadListOutdated

/-- Counts an interrupt of gdb and gives their number. The counter has 32 bits. -/
def countQuit : Act Nat := do
  let quits := (← session).quits + 1
  if quits < limit32 then
    update fun s => { s with quits }
    return quits
  else
    update fun s => { s with quits := 0 }
    throw .assertion

/-- Forgets the interrupts of gdb. -/
def resetQuits : Act Unit := update fun s => { s with quits := 0 }

/-- Makes a thread the current one. -/
def setThread (thread : Nat) : Act Unit := do
  update fun s => { s with thread }
  tell (.threadSelected thread)

/-- Tells where a thread stands. -/
def setThreadLocation (thread : Nat) (file : String) (line : Nat) : Act Unit :=
  tell (.currentLocation thread file line)

/-- Shows a place. gdb counts lines from one and the host from zero. -/
def publishLocation (file : String) (line : Nat) : Act Unit := do
  update fun s => { s with document := some (file, line - 1) }
  tell (.documentContext file (line - 1))

/-- Ends a step; without one nothing happens. -/
def completeStep (file : String) (line : Nat) : Act Unit := do
  if (← session).phase = .stepping then
    setPhase .stopped
    publishLocation file line
    tell .stepCompleted

/-- The target stopped on its own. It must have been running. An interrupt for an edit is not told
to the host. -/
def stopOnInterrupt (thread : Nat) (file : String) (line : Nat) : Act Unit := do
  if (← session).phase ≠ .running then throw .assertion
  setPhase .stopped
  if !file.isEmpty && 0 < line then publishLocation file line
  if !(← session).needsResume then tell (.asyncBreakComplete thread)

/-- Wakes whoever waits for an interrupt. -/
def signalInterrupt : Act Unit :=
  update fun s => if s.waiter = .waiting then { s with waiter := .signalled } else s

/-- Starts the target. -/
def launch : Act Unit := do
  setPhase .running
  setRunMode true
  tell .moduleLoaded
  submit "-exec-run"

/-- Resumes every thread, unless the target is being interrupted. -/
def resume : Act Unit := do
  match (← session).breakAll.tryTake with
  | none => return
  | some breakAll =>
    update fun s => { s with breakAll }
    setPhase .running
    let sent ← attempt (submit (← read).config.continueCommand)
    setRunMode true
    update fun s => { s with breakAll := s.breakAll.release }
    settle sent

/-- What became of waiting for an interrupt. -/
def awaitInterrupt : Act Unit := do
  match (← session).waiter with
  | .signalled => return
  | .dropped => fail .sessionEnded
  | .waiting | .nobody =>
    if (← read).config.waitsForever then throw .blocked else fail .interruptTimeout

/-- Interrupts a target that runs and waits until its stop was handled. Nothing resumes the target
meanwhile. -/
def interrupt : Act Unit := do
  let s ← session
  if s.phase = .running && s.runMode then
    update fun s => { s with waiter := .waiting }
    match (← session).breakAll.tryTake with
    | none => throw .blocked
    | some breakAll => update fun s => { s with breakAll }
    let outcome ← attempt do
      submit "-exec-interrupt"
      awaitInterrupt
    update fun s => { s with breakAll := s.breakAll.release }
    settle outcome

/-- Interrupts the target for an edit, without a word to the host. -/
def pauseForEdit : Act Unit := do
  match (← session).phase with
  | .design | .stopped => return
  | .running | .stepping =>
    update fun s => { s with needsResume := true }
    interrupt

/-- Resumes a target that was interrupted for an edit. -/
def resumeAfterEdit : Act Unit := do
  let paused := (← session).needsResume
  update fun s => { s with needsResume := false }
  if paused then resume

/-- How far a step goes. -/
inductive StepKind
  | into
  | over
  | out
  deriving DecidableEq, Repr

/-- The number of frames of a thread. -/
def stackDepth (thread : Nat) : Act Nat := do
  let command := s!"-stack-info-depth --thread {thread} --frame 0"
  let answer ← request command
  match readTrimmed32 answer.toList with
  | some depth => return depth
  | none => fail (.rejected command answer)

/-- The command of a step. Stepping out of the outermost frame is a step over. -/
def stepCommand (kind : StepKind) (thread : Nat) : Act String := do
  match kind with
  | .into => return s!"-exec-step --thread {thread}"
  | .over => return s!"-exec-next --thread {thread}"
  | .out =>
    if 1 < (← stackDepth thread) then return s!"-exec-finish --thread {thread} --frame 0"
    else return s!"-exec-next --thread {thread}"

/-- Steps the current thread. In code without source the target runs on until something stops it. -/
def step (kind : StepKind) : Act Unit := do
  let s ← session
  if s.unknownCode then
    setPhase .stepping
    resume
  else
    let command ← stepCommand kind s.thread
    setPhase .stepping
    submit command

/-- Selects a thread in gdb. -/
def selectThread (thread : Nat) : Act String := request s!"-thread-select {thread}"

/-- Kills the target. -/
def kill : Act String := request "kill"

/-- Ends the session, once. Whoever waits for an interrupt is released. -/
def finish (code : Nat) : Act Unit := do
  if (← session).alive then
    update fun s => { s with alive := false }
    log .info s!"debug session ended with exit code {code}"
    update fun s => if s.waiter = .waiting then { s with waiter := .dropped } else s
    setPhase .design
    tell (.sessionEnded code)
    match ← attempt close with
    | .ok () => return
    | .error cause => log .warn ("closing gdb: " ++ cause.message)

end DebugLink.Act
