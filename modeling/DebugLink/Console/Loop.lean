import DebugLink.Console.Command
import DebugLink.Console.Report
import DebugLink.Session.Policy
import DebugLink.Variable.Resolve

/-!
# The command line

Lines are read one after another, each after a prompt, until the session has ended, the user quits
or there are no more lines. A command that fails is reported and the next line is read.
-/

namespace DebugLink.Console

open Text Breakpoint Act

/-- Prints without a line end. -/
def put (text : String) : Act Unit := record (.printed false text)

/-- Prints a line. -/
def putLine (text : String) : Act Unit := put (text ++ "\n")

/-- Prints a line of an error. -/
def putError (text : String) : Act Unit := record (.printed true ("error: " ++ text ++ "\n"))

/-- Binds a breakpoint to a number of gdb. -/
def bind (gdbId : Nat) (location : Location) : Act Unit :=
  modify fun w => { w with bound := w.bound ++ [{ gdbId, location }] }

/-- Forgets the breakpoints bound to a number of gdb. -/
def unbind (gdbId : Nat) : Act Unit :=
  modify fun w => { w with bound := w.bound.filter (·.gdbId != gdbId) }

/-- Runs a step for the breakpoint bound to a number of gdb. -/
def forBound (id : Nat) (act : Nat → Act Unit) : Act Unit := do
  match ← findBound? id with
  | some i => act i
  | none => putError s!"no breakpoint {id}"

/-- Prints the value of an expression in the innermost frame of the current thread. -/
def printExpression (limits : Variable.Limits) (expression : String) : Act Unit := do
  let frame ← query (Variable.frameVariables limits (← session).thread 0)
  let (outcome, _) ← Variable.resolve limits expression frame
  (nodeLines 0 (← settle outcome)).forM putLine

/-- Runs a command other than the one to quit. -/
def run (limits : Variable.Limits) (command : Command) : Act Unit := do
  match command with
  | .insert location =>
    match ← insert location with
    | some snapshot =>
      putLine (s!"breakpoint {snapshot.id} at " ++ location.describe)
      bind snapshot.id location
    | none => putLine ("no breakpoint set at " ++ location.describe)
  | .delete id => if ← delete id then unbind id else putLine s!"breakpoint {id} not deleted"
  | .enable id enabled => if !(← enable id enabled) then putLine s!"breakpoint {id} unchanged"
  | .condition id condition => forBound id (setCondition · condition)
  | .passCount id passCount => forBound id (setPassCount · passCount)
  | .list => (tableLines (← session).table.entries).forM putLine
  | .resume => resume
  | .step kind => step kind
  | .pause => interrupt
  | .print expression => printExpression limits expression
  | .help => helpLines.forM putLine
  | .quit => return

/-- Reads the command on a line and runs it; whether the user goes on. -/
def takeLine (limits : Variable.Limits) (line : String) : Act Bool := do
  if (trim line.toList).isEmpty then return true
  match Command.read line with
  | .error complaint =>
    putLine complaint.message
    return true
  | .ok .quit => return false
  | .ok command =>
    match ← attempt (run limits command) with
    | .ok () => return true
    | .error cause =>
      putError cause.message
      return true

/-- Takes lines until the session has ended, the user quits or there are no more. -/
def takeLines (limits : Variable.Limits) : List String → Act Unit
  | [] => do
    if (← session).alive then
      put "bridge> "
      putLine ""
  | line :: lines => do
    if (← session).alive then
      put "bridge> "
      if ← takeLine limits line then takeLines limits lines

/-- The lines of an input; the last one need not be ended. -/
def linesOf (input : String) : List String :=
  let pieces := fields '\n' input.toList
  let ended := pieces.getLast? == some []
  (if ended then pieces.dropLast else pieces).map String.ofList

/-- Runs the command line on an input. -/
def loop (limits : Variable.Limits) (input : String) : Act Unit := do
  putLine banner
  takeLines limits (linesOf input)

end DebugLink.Console
