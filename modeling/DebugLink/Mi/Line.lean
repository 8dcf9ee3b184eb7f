import DebugLink.Mi.Field

/-!
# Lines of gdb output

A line is the result of a command, an asynchronous record, text of one of three streams, or the
prompt. Any other line is what the program itself printed.
-/

namespace DebugLink.Mi

open Text

/-- A line of gdb output. -/
inductive Line
  /-- The result of the command that was sent with this token. -/
  | result (token : Option Nat) (record : String)
  | async (record : String)
  | console (text : String)
  | target (text : String)
  | log (text : String)
  | prompt
  deriving DecidableEq, Repr

/-- The text of a stream record after its first character. Quotes count only in pairs. -/
def streamText (s : List Char) : String := String.ofList (unescape (withoutQuotes s))

/-- The kind of a line, read off the character after its token. -/
def Line.classify (line : String) : Line :=
  if line = "(gdb)" then .prompt
  else
    let text := line.toList
    let token := text.takeWhile Char.isDigit
    let body := text.dropWhile Char.isDigit
    match body with
    | '^' :: _ => .result (readWord 10 limit64 token) (String.ofList body)
    | '*' :: _ | '=' :: _ => .async (String.ofList body)
    | '~' :: s => .console (streamText s)
    | '@' :: s => .target (streamText s)
    | '&' :: s => .log (streamText s)
    | _ => .target line

/-- How a command ended. -/
inductive Status
  | done
  | running
  | error (message : String)
  | other (record : String)
  deriving DecidableEq, Repr

/-- The message of a result. -/
def messageField? (record : String) : Option String :=
  (field? "msg" record.toList).map String.ofList

/-- How a command ended, according to its result. An error without a message is its own. -/
def Status.ofResult (record : String) : Status :=
  if startsWith "^done" record then .done
  else if startsWith "^running" record then .running
  else if startsWith "^error" record then .error ((messageField? record).getD record)
  else .other record

/-- The result of a command and what gdb printed on its console meanwhile. -/
structure Response where
  status : Status
  result : String
  console : List String
  deriving DecidableEq, Repr

namespace Response

/-- The response with this result. -/
def ofResult (result : String) (console : List String) : Response :=
  ⟨Status.ofResult result, result, console⟩

/-- Whether the command was refused. -/
def isError (r : Response) : Bool :=
  match r.status with
  | .error _ => true
  | _ => false

end Response

end DebugLink.Mi
