import DebugLink.Session.Hit
import DebugLink.Execution.Notice

/-!
# Receiving records

A delivery holds records with line ends between them. Each is handled for itself: what is wrong
with one is logged and the rest is handled all the same, until the session has ended.

* `within` ties the knot: what the peer delivers during a call is handled one level deeper.
-/

namespace DebugLink.Act

open Text Record

/-- The message of an error that gdb gives when it has nothing to step by. -/
def noFunctionBounds : String := "Cannot find bounds of current function"

/-- The target stopped, with a fault or without. -/
def handleStop (stop : Execution.Stop) (isFault : Bool) : Act Unit := do
  tell .stackFramesOutdated
  setRunMode false
  setUnknownCode stop.unknownCode
  if isFault then
    tell (.message .warning "Segmentation Fault" <|
      "Segmentation Fault: If you continue debugging could take the environment to an " ++
        "unstable state.")
  tell .threadCachesOutdated
  refreshThreads
  if 0 < stop.thread then
    setThreadLocation stop.thread stop.file stop.line
    setThread stop.thread
  stopOnInterrupt stop.thread stop.file stop.line
  signalInterrupt

/-- A step ended. -/
def handleStepEnd (stop : Execution.StepEnd) : Act Unit := do
  tell .stackFramesOutdated
  setRunMode false
  setUnknownCode stop.unknownCode
  tell .threadCachesOutdated
  refreshThreads
  if 0 < stop.thread then
    if !stop.unknownCode && !stop.file.isEmpty then
      setThreadLocation stop.thread stop.file stop.line
    setThread stop.thread
  completeStep stop.file stop.line

/-- The target stopped because it was interrupted. -/
def handleInterrupted (thread : Nat) : Act Unit := do
  tell .stackFramesOutdated
  setRunMode false
  tell .threadCachesOutdated
  refreshThreads
  if 0 < thread then setThread thread
  if (← session).phase ≠ .stopped then stopOnInterrupt thread "" 0
  signalInterrupt

/-- A command that nobody waits for failed. Where there is nothing to step by, the session steps
out of the function. -/
def handleCommandError (text : String) : Act Unit := do
  tell .stackFramesOutdated
  tell .threadCachesOutdated
  refreshThreads
  if text = noFunctionBounds then
    setUnknownCode true
    step .out

/-- The program was ended by a signal. -/
def handleSignal (name meaning : String) : Act Unit := do
  if meaning = "Segmentation fault" then
    tell (.message .error "Segmentation Fault" "Segmentation Fault: Closing debugger.")
  else if meaning = "Aborted" then
    tell (.message .error "Program aborted" "Program aborted: Closing debugger.")
  else log .info s!"program terminated by {name} ({meaning})"
  finish 0

/-- gdb itself was interrupted. Too many of these in a row end the session. -/
def handleQuit : Act Unit := do
  let quits ← countQuit
  if (← read).config.quitLimit < quits then
    finish 0
    tell (.message .error "GDB failure"
      "Lost communication with GDB. Please refer to documentation for more details.")

/-- Applies a notice about execution to the session. -/
def applyExecution (notice : Execution.Notice) : Act Unit := do
  match notice with
  | .threadCreated thread _ =>
    setRunMode true
    markThreadsDirty
    tell (.threadCreated thread)
  | .running _ => setRunMode true
  | .exited code => finish code
  | .interrupted stop => handleStop stop false
  | .segfault stop => handleStop stop true
  | .steppingEnded stop | .functionFinished stop => handleStepEnd stop
  | .execInterrupted thread => handleInterrupted thread
  | .killed => finish 0
  | .commandError text => handleCommandError text
  | .quit => handleQuit
  | .threadExited _ => markThreadsDirty
  | .gdbCrashed assertion =>
    finish 0
    tell (.message .error "GDB failure" assertion.message)
  | .remoteLost =>
    tell (.message .error "Communication lost" "Lost communication with the device/simulator.")
    finish 0
  | .signaled name meaning _ => handleSignal name meaning
  | .unused => return

/-- Reads a record about execution and applies it. -/
def handleExecution (record : String) : Act Execution.Notice := do
  match Execution.Notice.read record with
  | .error defect => fail (.record defect)
  | .ok notice =>
    applyExecution notice
    return notice

/-- Reads a record of output and passes the text on. -/
def handleOutput (record : String) : Act Output.Notice := do
  match Output.Notice.read record with
  | .error defect => fail (.record defect)
  | .ok notice =>
    match notice with
    | .text stream text => tell (.output stream text)
    | .unused => pure ()
    return notice

/-- Handles a record according to its topic. -/
def handleRecord (record : String) : Act Unit := do
  match Topic.ofRecord record with
  | .breakpoint => discard <| handleBreakpoint record
  | .execution => discard <| handleExecution record
  | .output => discard <| handleOutput record
  | .ignored => return

/-- Whether a record leaves the count of interrupts of gdb as it is: another interrupt does, and so
does what gdb prints meanwhile. -/
def keepsQuits (record : String) : Bool :=
  startsWith "50" record || startsWith "80" record

/-- Handles one record; a failure is logged. -/
def receive (record : String) : Act Unit := do
  if 0 < (← session).quits && !keepsQuits record then resetQuits
  match ← attempt (handleRecord record) with
  | .ok () => return
  | .error cause => log .warn ("dropping " ++ quoted record ++ ": " ++ cause.message)

/-- The records of a delivery. -/
def recordsOf (delivery : String) : List String :=
  (splitCrlf delivery.toList).map String.ofList

/-- Handles one record of a delivery, while the session is alive. What has no room for a tag is
passed over. -/
def receiveAlive (record : String) : Act Unit := do
  if (← session).alive && 1 < utf8Length record.toList then receive record

/-- Handles the records of a delivery in order, until the session has ended. -/
def deliver (delivery : String) : Act Unit := (recordsOf delivery).forM receiveAlive

end DebugLink.Act

namespace DebugLink

/-- The link to a peer on which calls are nested up to the given depth. -/
def Link.within (peer : Peer) (config : Config) : Nat → Link
  | 0 => ⟨peer, config, fun _ => throw .overrun, fun _ _ => throw .overrun,
      fun _ _ _ _ => throw .overrun⟩
  | depth + 1 =>
    { peer
      config
      deliver := fun delivery => Act.deliver delivery (within peer config depth)
      recount := fun id hits => Act.updateHitCount id hits (within peer config depth)
      hit := fun id file line thread =>
        Act.handleHit id file line thread (within peer config depth) }

/-- What is found in the queue of deliveries. -/
inductive Pull
  | delivery (delivery : String)
  /-- Nothing arrived in time. -/
  | nothing
  /-- Nothing arrived, and the reader is asked to stop. -/
  | stop
  | failure (cause : Failure)
  deriving DecidableEq, Repr

namespace Act

/-- Handles a failure to read the queue, which ends the session. -/
def pullFailed (cause : Failure) : Act Unit := do
  if cause = .linkClosed then log .warn "gdb went away"
  else log .error ("reading gdb output: " ++ cause.message)
  finish 0

/-- Handles deliveries from the queue until asked to stop or the session has ended, and gives what
is left of the queue. An empty queue is a closed link. -/
def pump : Bool → List Pull → Act (List Pull)
  | true, queue => return queue
  | false, [] => do
    if (← session).alive then pullFailed .linkClosed
    return []
  | false, pull :: queue => do
    if (← session).alive then
      match pull with
      | .delivery delivery =>
        deliver delivery
        pump false queue
      | .nothing => pump false queue
      | .stop => pump true queue
      | .failure cause =>
        pullFailed cause
        return queue
    else return pull :: queue

/-- Handles the queue on a thread of its own; an assertion that fails there is only logged. -/
def supervise (queue : List Pull) : Act Unit := fun link w =>
  match pump false queue link w with
  | .ok _ w => .ok () w
  | .error .assertion w => log .error "dispatcher thread panicked" link w
  | .error halt w => .error halt w

end Act

end DebugLink
