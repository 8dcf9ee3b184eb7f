import DebugLink.Mi.Tuple
import DebugLink.Record.Cursor

/-!
# Records for what gdb announces

gdb announces on its own that the target runs or stopped, and what became of breakpoints and
threads. Each announcement that matters becomes a record of the positional format.
-/

namespace DebugLink.Mi

open Text Record

/-- What is remembered from one announcement to the next: the process that was started last. -/
structure Announcer where
  pid : Nat := 0
  deriving DecidableEq, Repr

/-- The string of a field with its escapes. -/
def rawString? (key : String) (s : List Char) : Option String := (rawField? key s).map String.ofList

/-- The string of a field. -/
def string? (key : String) (s : List Char) : Option String := (field? key s).map String.ofList

/-- The file and the line of a frame with source; the full path wins over the name. -/
def source? (frame : List Char) : Option (String × Nat) := do
  let file ← (string? "fullname" frame).or (string? "file" frame)
  return (file, ← numberField? "line" frame)

/-- The record of an interrupt at a frame. -/
def interruptRecord (tag : String) (frame : List Char) (thread : Nat) : String :=
  let address := (rawString? "addr" frame).getD "0x0"
  let function := (rawString? "func" frame).getD unknownFunction
  match source? frame with
  | some (file, line) => s!"{tag};{address};{function};{file};{line};{thread}"
  | none => s!"{tag};{address};{function};{thread}"

/-- The record of the end of a step at a frame. -/
def stepRecord (tag : String) (frame : List Char) (thread : Nat) : String :=
  match source? frame with
  | some (file, line) => s!"{tag};{file};{line};{thread}"
  | none => s!"{tag};{thread}"

/-- The record of a stop. Without a reason the target stopped because it was asked to. -/
def stopRecord (fields : List Char) : String :=
  let thread := (numberField? "thread-id" fields).getD 0
  let frame := (tuple? "frame" fields).getD []
  match rawString? "reason" fields with
  | some "breakpoint-hit" =>
    let id := (numberField? "bkptno" fields).getD 0
    let (file, line) := (source? frame).getD ("", 0)
    s!"27;{id};{file};{line};{thread}"
  | some "end-stepping-range" => stepRecord "45" frame thread
  | some "function-finished" => stepRecord "46" frame thread
  | some "exited-normally" => "42"
  | some "exited" =>
    -- The exit code is written in octal digits.
    let code := ((rawField? "exit-code" fields).bind (readWord 8 limit32)).getD 0
    s!"43;{code};"
  | some "exited-signalled" =>
    let name := (string? "signal-name" fields).getD ""
    let meaning := (string? "signal-meaning" fields).getD ""
    s!"55;{name};{meaning};"
  | some "signal-received" =>
    let name := (rawString? "signal-name" fields).getD ""
    let meaning := (rawString? "signal-meaning" fields).getD ""
    if name = "SIGKILL" then "48"
    else if meaning = "Killed" then s!"47;{thread}"
    else if name = "SIGSEGV" then interruptRecord "54" frame thread
    else interruptRecord "44" frame thread
  | none => s!"47;{thread}"
  | some _ => interruptRecord "44" frame thread

/-- Whether gdb has no address for a breakpoint yet. -/
def isPendingBreakpoint (bkpt : List Char) : Bool :=
  !((rawField? "addr" bkpt).any ("0x".toList.isPrefixOf ·))

/-- The record of a breakpoint, with the tag `20` or `21`. -/
def breakpointRecord (tag : String) (bkpt : List Char) : String :=
  let id := (rawString? "number" bkpt).getD "0"
  let enabled := (rawString? "enabled" bkpt).getD "y"
  if isPendingBreakpoint bkpt then s!"{tag};{id};{enabled};{pendingAddress}"
  else
    let address := (rawString? "addr" bkpt).getD ""
    let function := (rawString? "func" bkpt).getD unknownFunction
    let file := ((string? "fullname" bkpt).or (string? "file" bkpt)).getD ""
    let line := (numberField? "line" bkpt).getD 0
    let times := (numberField? "times" bkpt).getD 0
    s!"{tag};{id};{enabled};{address};{function};{file};{line};{times}"

/-- The record for an announcement, if it matters. A change of a breakpoint that is still pending
does not. -/
def Announcer.record? (a : Announcer) (line : String) : Option String × Announcer :=
  let (kind, fields) := (cutWhere? (· == ',') line.toList).getD (line.toList, [])
  match String.ofList kind with
  | "*running" =>
    match rawString? "thread-id" fields with
    | none | some "all" => (some "41;0", a)
    | some id => (some s!"41;{id}", a)
  | "*stopped" => (some (stopRecord fields), a)
  | "=breakpoint-created" => ((tuple? "bkpt" fields).map (breakpointRecord "20"), a)
  | "=breakpoint-modified" =>
    let bkpt := (tuple? "bkpt" fields).filter fun b => !isPendingBreakpoint b
    (bkpt.map (breakpointRecord "21"), a)
  | "=breakpoint-deleted" => ((rawString? "id" fields).map fun id => s!"22;{id}", a)
  | "=thread-group-started" => (none, ⟨(numberField? "pid" fields).getD 0⟩)
  | "=thread-created" => ((rawString? "id" fields).map fun id => s!"40;{id};{a.pid}", a)
  | "=thread-exited" => ((rawString? "id" fields).map fun id => s!"51;{id}", a)
  | _ => (none, a)

end DebugLink.Mi
