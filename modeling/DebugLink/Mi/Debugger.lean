import DebugLink.Mi.Reader
import DebugLink.Failure

/-!
# A process behind the reader

A process stands in for gdb: it prints something when it starts and for each line written to it,
and ends on the command to exit or when it has nothing more to print. What it prints is read byte
by byte: a line ends with a line feed, and one that is no UTF-8 ends the reading.
-/

namespace DebugLink.Mi

open Text

/-- Something that the process prints. -/
inductive Printout
  /-- A line, in which `$T` stands for the digits at the start of the line that was written and `$L`
  for that whole line. -/
  | line (text : String)
  | bytes (bytes : List UInt8)
  /-- The process ends. -/
  | exit
  deriving DecidableEq, Repr

/-- The process and what was read of its output. -/
structure Debugger where
  reader : Reader := {}
  /-- What was printed since the last line feed. -/
  partialLine : List UInt8 := []
  /-- What is printed for each of the lines that are still to be written. -/
  replies : List (List Printout)
  nextToken : Nat := 1
  /-- Whether the process runs. -/
  running : Bool := true
  /-- Whether its output is still read. -/
  reading : Bool := true
  /-- Lines of the log. -/
  log : List String := []

namespace Debugger

/-- Nothing is read any more: a request that waits is released without an answer. -/
def stopReading (p : Debugger) : Debugger :=
  { p with reading := false, reader := { p.reader with pending := none } }

/-- Takes one line of bytes. -/
def takeBytes (p : Debugger) (line : List UInt8) : Debugger :=
  if !p.reading then p
  else match String.fromUTF8? ⟨line.toArray⟩ with
    | some text => { p with reader := p.reader.takeRaw text }
    | none =>
      { p with log := p.log ++
        ["reading gdb output failed: stream did not contain valid UTF-8"] }.stopReading

/-- Takes printed bytes, line by line. -/
def feed (p : Debugger) : List UInt8 → Debugger
  | [] => p
  | b :: bs =>
    let line := p.partialLine ++ [b]
    if b = 10 then ({ p with partialLine := [] }.takeBytes line).feed bs
    else { p with partialLine := line }.feed bs

/-- The process ends: what it printed last is a line even without a line feed. -/
def exit (p : Debugger) : Debugger :=
  if !p.running then p
  else
    let p := { p with running := false }
    (if p.partialLine.isEmpty then p else { p with partialLine := [] }.takeBytes p.partialLine)
      |>.stopReading

/-- The line with what its marks stand for. -/
def fill (text written : String) : String :=
  let token := written.toList.takeWhile Char.isDigit
  String.ofList (replace ['$', 'L'] written.toList (replace ['$', 'T'] token text.toList))

/-- The process prints something. -/
def print (written : String) (p : Debugger) : Printout → Debugger
  | .line text => if p.running then p.feed (fill text written ++ "\n").toUTF8.toList else p
  | .bytes bytes => if p.running then p.feed bytes else p
  | .exit => p.exit

/-- A process that starts. -/
def start (startup : List Printout) (replies : List (List Printout)) : Debugger :=
  startup.foldl (print "") { replies }

/-- A line is written to the process. -/
def writeLine (p : Debugger) (line : String) : Debugger :=
  if line = "-gdb-exit" then p.exit
  else match p.replies with
    | [] => p.exit
    | printouts :: replies => printouts.foldl (print line) { p with replies }

/-- Text is written to the process, with a line feed behind it. -/
def write (p : Debugger) (text : String) : Debugger :=
  (fields '\n' text.toList).foldl (fun p line => p.writeLine (String.ofList line)) p

/-- Sends a command and waits for its answer. The first result says why there is none: the output
has ended, or nothing would ever come. -/
def request (p : Debugger) (command : String) : Except Halt String × Debugger :=
  let token := p.nextToken
  let p := { p with nextToken := token + 1, reader := p.reader.register token command }
  let p := p.write (toString token ++ command)
  match p.reader.answers.lookup token with
  | some answer => (.ok answer, p)
  | none => (.error (if p.reading then .blocked else .failed .linkClosed), p)

/-- Sends a command that nobody waits for. -/
def submit (p : Debugger) (command : String) : Debugger := p.write command

/-- The next record of the queue. -/
def pull (p : Debugger) : Except Halt String × Debugger :=
  match p.reader.queue with
  | record :: queue => (.ok record, { p with reader := { p.reader with queue } })
  | [] => (.error (if p.reading then .blocked else .failed .linkClosed), p)

/-- Asks the process to exit. -/
def close (p : Debugger) : Debugger := p.write "-gdb-exit"

/-- Why a program does not start: it is missing, or it is the null device and no program. -/
def launchFailure (bin : String) : Failure :=
  if bin = "/dev/null" then .launch bin "Permission denied (os error 13)" else .gdbNotFound bin

end Debugger

end DebugLink.Mi
