import DebugLink.Session.World
import DebugLink.Variable.Node
import DebugLink.Text.Blank

/-!
# What the user sees

The table of breakpoints, a variable with its parts, and what the host is told, as they are printed.
-/

namespace DebugLink.Console

open Text Breakpoint Variable

/-- The text with blanks in front of it up to a width. -/
def alignRight (width : Nat) (text : String) : String :=
  String.ofList (List.replicate (width - text.length) ' ') ++ text

/-- The text with blanks behind it up to a width. -/
def alignLeft (width : Nat) (text : String) : String :=
  text ++ String.ofList (List.replicate (width - text.length) ' ')

/-- Where a breakpoint is, as far as it is known. -/
def placeOf (s : Snapshot) : String :=
  if s.isPending then "<pending>"
  else if s.file.isEmpty then s.function
  else s!"{s.function} at {s.file}:{s.line}"

/-- The lines for one breakpoint. -/
def breakpointLines (s : Snapshot) : List String :=
  let row := "  " ++ "  ".intercalate [alignRight 2 (toString s.id),
    alignLeft 3 (if s.enabled then "y" else "n"), alignLeft 18 s.address.display,
    alignRight 4 (toString s.hits), placeOf s]
  let ignoring := if 0 < s.ignoreCount then [s!"      ignore next {s.ignoreCount} hits"] else []
  let conditional := if s.condition.isEmpty then [] else [s!"      stop only if {s.condition}"]
  row :: ignoring ++ conditional

/-- The lines for a table of breakpoints. -/
def tableLines (snapshots : List Snapshot) : List String :=
  if snapshots.isEmpty then ["no breakpoints"]
  else "  id  enb  address             hits  where" :: snapshots.flatMap breakpointLines

mutual

/-- The lines for a variable, its parts below it and further in. -/
def nodeLines (depth : Nat) : Node → List String
  | { name, type, value, children, .. } =>
    let indent := String.ofList (List.replicate (2 * depth) ' ')
    let shown := if type.isEmpty then name else s!"{name} ({type})"
    let parts := match children with
      | none => []
      | some children => nodeListLines (depth + 1) children
    (indent ++ shown ++ " = " ++ value.getD "<unavailable>") :: parts

/-- The lines for a list of variables. -/
def nodeListLines (depth : Nat) : List Node → List String
  | [] => []
  | node :: nodes => nodeLines depth node ++ nodeListLines depth nodes

end

/-- What the help says. -/
def helpLines : List String :=
  ["Commands:",
   "  break <loc> | b        - set breakpoint ('break main', 'b file.c:42')",
   "  delete <id> | d        - delete breakpoint",
   "  enable / disable <id>  - toggle breakpoint",
   "  cond <id> [expr]       - stop only when expr is true (no expr clears)",
   "  when-changed <id> <e>  - stop only when e changed since the last hit",
   "  passcount <id> <p>     - none | eq N | ge N | mod N",
   "  info                   - list breakpoints",
   "  continue | c           - resume all threads",
   "  next | n / step | s    - step over / into",
   "  finish                 - step out of the current function",
   "  pause                  - interrupt the running program",
   "  print <expr> | p       - evaluate and expand an expression",
   "  help                   - show this message",
   "  quit | q               - exit"]

/-- The commands at a glance. -/
def banner : String :=
  "Commands: break | delete | enable | disable | cond | when-changed | passcount | info | " ++
    "continue | next | step | finish | pause | print | help | quit"

/-- Text on one of the two outputs of the command line. -/
structure Printed where
  isError : Bool := false
  text : String
  deriving DecidableEq, Repr

/-- The word for the importance of a message. -/
def levelLabel : MessageLevel → String
  | .info => "info"
  | .warning => "warning"
  | .error => "error"

/-- What is printed when the host is told something. -/
def printedFor : HostCall → Option Printed
  | .breakpointHit thread ids =>
    let ids := ", ".intercalate (ids.map toString)
    some { text := s!"\n[thread {thread}] hit breakpoint {ids}\n" }
  | .asyncBreakComplete thread => some { text := s!"\n[thread {thread}] interrupted\n" }
  | .stepCompleted => some { text := "\nstep completed\n" }
  | .moduleLoaded => some { text := "program loaded\n" }
  | .threadCreated thread => some { text := s!"[thread {thread}] created\n" }
  | .sessionEnded code => some { text := s!"\nprogram exited with code {code}\n" }
  | .currentLocation thread file line =>
    if file.isEmpty then none else some { text := s!"[thread {thread}] at {file}:{line}\n" }
  | .message level title text =>
    some { isError := true, text := "[" ++ levelLabel level ++ s!"] {title}: {text}\n" }
  | .output .target text => some { text }
  | .output .console _ | .threadSelected _ | .documentContext _ _ | .threadListOutdated
  | .threadCachesOutdated | .stackFramesOutdated => none

/-- What is printed for an event. -/
def printedOn : Event → Option Printed
  | .told call _ => printedFor call
  | .printed isError text => some { isError, text }
  | _ => none

/-- The event as it is logged on the command line, where the console of gdb goes to the log and the
host prints instead of being told. -/
def loggedOn : Event → Option Event
  | .told (.output .console text) _ =>
    some (.logged .info (String.ofList (trimEnd text.toList)))
  | .told _ _ | .printed _ _ => none
  | event => some event

/-- All that events printed on one of the outputs; the last event comes first. -/
def outputOf (isError : Bool) (events : List Event) : String :=
  String.join ((events.reverse.filterMap printedOn).filterMap fun p =>
    if p.isError = isError then some p.text else none)

/-- The code with which the program exited. -/
def exitCode? (events : List Event) : Option Nat :=
  events.findSome? fun
    | .told (.sessionEnded code) _ => some code
    | _ => none

end DebugLink.Console
