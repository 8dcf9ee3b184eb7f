import DebugLink.Mi.Answer

/-!
# Reading gdb output

Lines of gdb output are taken one after another. The result with the token of the pending request
answers it, together with the console text that arrived meanwhile; everything else that matters
becomes a record in the queue.
-/

namespace DebugLink.Mi

open Text

/-- A request that waits for its result. -/
structure Pending where
  token : Nat
  command : String
  /-- What gdb printed on its console since the request. -/
  console : List String := []
  deriving DecidableEq, Repr

/-- What the reader knows, and what came of the lines so far. -/
structure Reader where
  announcer : Announcer := {}
  pending : Option Pending := none
  /-- The records in order of their arrival. -/
  queue : List String := []
  /-- The answers to requests, each with its token, in order. -/
  answers : List (Nat × String) := []
  deriving DecidableEq, Repr

namespace Reader

/-- The reader with records added to the queue. -/
def push (r : Reader) (records : List String) : Reader := { r with queue := r.queue ++ records }

/-- The reader after a request was registered. -/
def register (r : Reader) (token : Nat) (command : String) : Reader :=
  { r with pending := some { token, command } }

/-- The reader after a result. One that answers no request matters only when it is an error. -/
def takeResult (r : Reader) (token : Option Nat) (record : String) : Reader :=
  match r.pending.filter fun p => token = some p.token with
  | some p =>
    let response := Response.ofResult record p.console
    let unused := (unusedConsole p.command p.console).map (streamRecord .console)
    { r with
      pending := none
      answers := r.answers ++ [(p.token, answer p.command response)] }.push unused
  | none =>
    match Status.ofResult record with
    | .error message => r.push [errorRecord message]
    | _ => r

/-- The reader after a line that is not empty. -/
def takeLine (r : Reader) (line : String) : Reader :=
  match Line.classify line with
  | .result token record => r.takeResult token record
  | .async record =>
    let (record?, announcer) := r.announcer.record? record
    { r with announcer }.push record?.toList
  | .console text =>
    match r.pending with
    | some p => { r with pending := some { p with console := p.console ++ [text] } }
    | none => r.push [streamRecord .console text]
  | .target text => r.push [streamRecord .target text]
  | .log _ | .prompt => r

/-- The reader after a line as it was read, with whatever ends it. -/
def takeRaw (r : Reader) (raw : String) : Reader :=
  let line := dropEndWhile (fun c => c == '\r' || c == '\n') raw.toList
  if line.isEmpty then r else r.takeLine (String.ofList line)

end Reader

end DebugLink.Mi
