import DebugLink.Breakpoint.Table
import DebugLink.Permit

/-!
# Sessions

What a session knows: what the engine is doing, where the target stopped, the breakpoints of gdb,
and the permits that keep its parts from getting in each other's way.

* `describe` is the session as a developer sees it.
-/

namespace DebugLink

open Text Breakpoint

/-- What the engine believes the target to be doing. -/
inductive Phase
  /-- There is no target yet, or no more. -/
  | design
  | running
  | stopped
  | stepping
  deriving DecidableEq, Repr

/-- The name of a phase as a developer sees it. -/
def Phase.label : Phase → String
  | design => "Design"
  | running => "Run"
  | stopped => "Break"
  | stepping => "Step"

/-- Whether somebody waits for an interrupt, and what became of that. -/
inductive Waiter
  | nobody
  | waiting
  /-- The target stopped. -/
  | signalled
  /-- The session ended. -/
  | dropped
  deriving DecidableEq, Repr

/-- The settings of a session. -/
structure Config where
  /-- The thread group that is resumed and gets breakpoints. -/
  threadGroup : String := "i1"
  /-- How many children of a variable are listed. -/
  maxChildren : Nat := 50
  /-- How many interrupts of gdb in a row a session survives. -/
  quitLimit : Nat := 5
  /-- Whether an interrupt is waited for as long as it takes. -/
  waitsForever : Bool := false
  deriving DecidableEq, Repr

/-- The command that resumes every thread of the group. -/
def Config.continueCommand (c : Config) : String :=
  s!"-exec-continue --thread-group {c.threadGroup}"

/-- What a session knows. -/
structure Session where
  alive : Bool := true
  /-- Whether the target runs, as gdb says. -/
  runMode : Bool := true
  /-- Whether the target stopped in code without source. -/
  unknownCode : Bool := false
  /-- Whether the target was interrupted for an edit and is to be resumed after it. -/
  needsResume : Bool := false
  /-- Whether a thread came or went since the host last looked. -/
  threadsDirty : Bool := false
  /-- Interrupts of gdb in a row. -/
  quits : Nat := 0
  phase : Phase := .design
  thread : Nat := 0
  /-- The file and line shown last, the line counted from zero. -/
  document : Option (String × Nat) := none
  table : Table := {}
  /-- Taken while the target is interrupted, so that nothing resumes it. -/
  breakAll : Permit := {}
  /-- Taken while a condition is changed or a hit is handled; hits are dropped meanwhile. -/
  conditionUpdate : Permit := {}
  /-- Taken while phase, thread and document change together. -/
  critical : Permit := {}
  waiter : Waiter := .nobody
  deriving DecidableEq, Repr

/-- The session as a developer sees it. -/
def Session.describe (s : Session) : String :=
  let document := match s.document with
    | none => "None"
    | some (file, line) => "Some((" ++ quoted file ++ s!", {line}))"
  s!"SessionCoordinator \x7b alive: {s.alive}, run_mode: {s.runMode}, " ++
    s!"unknown_code: {s.unknownCode}, context: ExecutionContext \x7b state: {s.phase.label}, " ++
    s!"current_thread: {s.thread}, document: {document} \x7d, .. \x7d"

end DebugLink
