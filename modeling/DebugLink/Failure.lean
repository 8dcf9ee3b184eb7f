import DebugLink.Record.Basic

/-!
# Failures

The causes for which an operation of the library fails, with the text of each in one place, and the
ways in which an operation can stop short: by a failure, which its caller may handle, or for good.
-/

namespace DebugLink

open Text

/-- A cause for which an operation fails. -/
inductive Failure
  /-- Reading or writing failed with this text. -/
  | io (text : String)
  | record (defect : Record.Defect)
  | gdbNotFound (bin : String)
  /-- The program exists but did not start. -/
  | launch (bin cause : String)
  /-- gdb answered a command with something that is no answer to it. -/
  | rejected (command answer : String)
  /-- There is no gdb at the other end any more. -/
  | linkClosed
  /-- The session ended while the operation waited. -/
  | sessionEnded
  /-- gdb did not stop the target in time. -/
  | interruptTimeout
  deriving DecidableEq, Repr

/-- The text in which a failure is reported. -/
def Failure.message : Failure → String
  | io text => text
  | record defect => defect.message
  | gdbNotFound bin => s!"gdb binary '{bin}' not found. Install gdb or pass --gdb <path>"
  | launch bin cause => s!"failed to launch gdb '{bin}': {cause}"
  | rejected command answer => s!"gdb rejected `{command}`: {answer}"
  | linkClosed => "gdb transport closed"
  | sessionEnded => "debug session has ended"
  | interruptTimeout => "timed out waiting for gdb to interrupt the target"

/-- How an operation stops short. -/
inductive Halt
  /-- With a failure. -/
  | failed (cause : Failure)
  /-- An assertion of the program does not hold: nothing after it runs. -/
  | assertion
  /-- It waits for something that only its own caller could release. -/
  | blocked
  /-- Calls are nested deeper than the bound that was set for them. -/
  | overrun
  deriving DecidableEq, Repr

end DebugLink
