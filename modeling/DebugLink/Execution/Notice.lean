import DebugLink.Record.Cursor

/-!
# Records about execution

What a record of the categories `4` and `5` says: threads, running and stopping, the end of the
program, and what went wrong in gdb. A stop is told from the number of delimiters in its record.
-/

namespace DebugLink.Execution

open Record Reading Text

/-- Internal assertions of gdb that are known to end a session. -/
inductive GdbAssertion
  | frameCleanup
  | inferiorEvent
  deriving DecidableEq, Repr

/-- What the user is told when an assertion of gdb failed. -/
def GdbAssertion.message : GdbAssertion → String
  | frameCleanup =>
    "This is a known issue that can happen when interrupting GDB's execution by " ++
    "hitting \"break all\" or toggling a breakpoint in run mode.\n\n" ++
    "GDB CRASHED. Details: \"../../gdb/frame.c:2374: internal-error: " ++
    "frame_cleanup_after_sniffer: Assertion `frame->prologue_cache == NULL' failed.\"\n\n" ++
    "Please close the app in the device/simulator if you want to debug it again."
  | inferiorEvent =>
    "This is a known issue that can happen while debugging multithreaded programs.\n\n" ++
    "GDB CRASHED. Details: \"../../gdb/infrun.c:3550: internal-error: " ++
    "handle_inferior_event: Assertion `ptid_equal (singlestep_ptid, ecs->ptid)' failed.\"\n\n" ++
    "Please close the app in the device/simulator if you want to debug it again."

/-- Where an interrupted target stopped. -/
structure Stop where
  address : Nat
  function : String
  file : String := ""
  line : Nat := 0
  /-- The thread that stopped; `0` when the record names none. -/
  thread : Nat := 0
  /-- Whether there is no source for the place. -/
  unknownCode : Bool
  deriving DecidableEq, Repr

/-- Where a step ended. -/
structure StepEnd where
  file : String
  line : Nat
  thread : Nat
  unknownCode : Bool
  deriving DecidableEq, Repr

/-- What a record about execution says. -/
inductive Notice
  | threadCreated (thread pid : Nat)
  /-- Thread `0` is every thread. -/
  | running (thread : Nat)
  | exited (code : Nat)
  | interrupted (stop : Stop)
  | segfault (stop : Stop)
  | steppingEnded (stop : StepEnd)
  | functionFinished (stop : StepEnd)
  | execInterrupted (thread : Nat)
  | killed
  | commandError (text : String)
  /-- gdb was interrupted itself. -/
  | quit
  | threadExited (thread : Nat)
  | gdbCrashed (assertion : GdbAssertion)
  | remoteLost
  | signaled (name meaning : String) (thread : Option Nat)
  | unused
  deriving DecidableEq, Repr

namespace Notice

/-- The fields `address;function;thread`, `address;function;file;line` or
`address;function;file;line;thread`. -/
def stop : Reading Stop := do
  let cursor ← get
  let raw ← field "address"
  let address ← Reading.address raw "address"
  let function ← field "function"
  let unknownCode := function == unknownFunction
  match cursor.delimiterCount with
  | 3 =>
    let thread ← numberRest "thread"
    return { address, function, thread, unknownCode := true }
  | 4 =>
    let file ← field "file"
    let line ← numberRest "line"
    return { address, function, file, line, unknownCode }
  | 5 =>
    let file ← field "file"
    let line ← numberField "line"
    let thread ← numberRest "thread"
    return { address, function, file, line, thread, unknownCode }
  | _ => throw cursor.shapeDefect

/-- The fields `file;line;thread`, or the thread alone when there is no source for the place. -/
def stepEnd : Reading StepEnd := do
  if (← get).hasDelimiter then
    let file ← field "file"
    let line ← numberField "line"
    let thread ← numberRest "thread"
    return { file, line, thread, unknownCode := false }
  else
    return { file := "", line := 1, thread := ← numberRest "thread", unknownCode := true }

/-- The number in all that follows, if it is one. -/
def numberRest? : Reading (Option Nat) := do
  return (← rest?).bind fun raw => readTrimmed32 raw.toList

/-- The fields of a record about execution. -/
def reading : Reading Notice := do
  let tag := (← get).tag
  match tag.category, tag.kind with
  | 4, 0 =>
    let raw ← fieldOrRest "thread"
    let thread ← number raw "thread"
    return threadCreated thread ((← numberRest?).getD 0)
  | 4, 1 => return running (← numberRest "thread")
  | 4, 2 => return exited 0
  | 4, 3 =>
    let raw ← fieldOrRest "exit code"
    return exited (← number raw "exit code")
  | 4, 4 => return interrupted (← stop)
  | 5, 4 => return segfault (← stop)
  | 4, 5 => return steppingEnded (← stepEnd)
  | 4, 6 => return functionFinished (← stepEnd)
  | 4, 7 => return execInterrupted (← numberRest "thread")
  | 4, 8 => return killed
  | 4, 9 => return commandError ((← rest?).getD "")
  | 5, 0 => return quit
  | 5, 1 => return threadExited (← numberRest "thread")
  | 5, 2 => return gdbCrashed .frameCleanup
  | 5, 3 => return remoteLost
  | 5, 5 =>
    let name ← field "signal name"
    let meaning ← fieldOrRest "signal meaning"
    return signaled name meaning (← numberRest?)
  | 5, 6 => return gdbCrashed .inferiorEvent
  | _, _ => return unused

/-- What a record about execution says. -/
def read (record : String) : Except Defect Notice := reading.run record

end Notice

end DebugLink.Execution
