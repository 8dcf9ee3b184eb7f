import DebugLink.Mi.Announcer
import DebugLink.Mi.Line
import DebugLink.Output.Notice

/-!
# Answers to commands

The answer handed back for a command is made from its result; what it holds depends on the first
word of the command. Text that gdb prints, and the errors of commands that nobody waits for, become
records of their own.
-/

namespace DebugLink.Mi

open Text

/-- The answer to a command that was refused. -/
def errorAnswer : String := "ERROR"

/-- The text of a console line that names a type. -/
def typeText? (line : String) : Option (List Char) := after? "type = ".toList line.toList

/-- Whether the console answers the command, and not its result. -/
def isTypeQuery (command : String) : Bool :=
  let verb := String.ofList (firstWord command.toList)
  verb == "whatis" || verb == "ptype"

/-- The console lines that the answer to a command was not made from. -/
def unusedConsole (command : String) (console : List String) : List String :=
  if isTypeQuery command then console.eraseP fun line => (typeText? line).isSome
  else console

/-- The string of a field, empty when it is missing. -/
def stringOrEmpty (key : String) (s : List Char) : String := (string? key s).getD ""

/-- One child of a listing: name, number of children, value and type. -/
def childEntry (child : List Char) : String :=
  ";".intercalate [stringOrEmpty "name" child, (rawString? "numchild" child).getD "0",
    stringOrEmpty "value" child, stringOrEmpty "type" child]

/-- One variable of a frame: name, whether it is an argument, type and value. -/
def frameEntry (entry : List Char) : String :=
  ";".intercalate [stringOrEmpty "name" entry,
    if rawString? "arg" entry = some "1" then "1" else "0",
    stringOrEmpty "type" entry, stringOrEmpty "value" entry]

/-- The record of a condition that was set, made from the command alone. -/
def conditionRecord (command : String) : String :=
  match fieldsUpTo ' ' 3 command.toList with
  | _ :: id :: condition :: _ =>
    let shown := if (trim condition).isEmpty then [] else ';' :: trim condition
    "28;" ++ String.ofList (id ++ shown)
  | _ :: id :: _ => "28;" ++ String.ofList id
  | _ => "28;"

/-- The answer to a command that was accepted. -/
def acceptedAnswer (command : String) (response : Response) : String :=
  let result := response.result.toList
  let words := (words command.toList).map String.ofList
  let id := words[1]?.getD ""
  match words.headD "" with
  | "-data-evaluate-expression" => "60;\"" ++ (rawString? "value" result).getD "" ++ "\""
  | "-var-create" => (rawString? "numchild" result).getD "0"
  | "-var-list-children" => "65;" ++ "#".intercalate ((tuples "children" result).map childEntry)
  | "-stack-list-variables" => "11;" ++ "#".intercalate ((tuples "variables" result).map frameEntry)
  | "whatis" | "ptype" =>
    match response.console.findSome? typeText? with
    | some text => String.ofList (trimEnd (firstLine text))
    | none => ""
  | "-break-insert" =>
    match tuple? "bkpt" result with
    | some bkpt => breakpointRecord "20" bkpt
    | none => errorAnswer
  | "-break-delete" => "25;" ++ id
  | "-break-enable" => "23;" ++ id
  | "-break-disable" => "24;" ++ id
  | "-break-after" => "26;" ++ id ++ ";" ++ words[2]?.getD "0"
  | "-break-condition" => conditionRecord command
  | "-stack-info-depth" => (rawString? "depth" result).getD "0"
  | _ => ""

/-- The answer to a command. -/
def answer (command : String) (response : Response) : String :=
  match response.status with
  | .error message =>
    if String.ofList (firstWord command.toList) = "-data-evaluate-expression" then
      "61;\"" ++ (rawString? "msg" response.result.toList).getD message ++ "\""
    else errorAnswer
  | _ => acceptedAnswer command response

/-- The record for the error of a command that nobody waits for. -/
def errorRecord (message : String) : String :=
  let mentions (pat : String) := contains pat.toList message.toList
  if mentions "Remote communication error" then "53"
  else if message = "Quit" then "50"
  else if mentions "frame_cleanup_after_sniffer" then "52"
  else if mentions "handle_inferior_event" then "56"
  else s!"49;{message}"

/-- The record for text of a stream. Records are delivered with a carriage return and a line feed
between them, so the text keeps only the line feed of such a pair. -/
def streamRecord (stream : Output.Stream) (text : String) : String :=
  let text := String.ofList (replace ['\r', '\n'] ['\n'] text.toList)
  s!"{stream.tag};\"{text}\"!{stream.tag}"

end DebugLink.Mi
