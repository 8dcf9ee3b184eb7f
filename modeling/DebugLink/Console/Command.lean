import DebugLink.Breakpoint.Basic
import DebugLink.Breakpoint.Policy
import DebugLink.Session.Control

/-!
# Commands of the user

One line is one command: a word, and arguments behind it. What is wrong with a line is a complaint
of its own, so that it can be told from a command that failed.

* `fileName?` is the last part of a path, as far as it names a file.
-/

namespace DebugLink.Console

open Text Breakpoint

/-- A command of the user. -/
inductive Command
  | insert (location : Location)
  | delete (id : Nat)
  | enable (id : Nat) (enabled : Bool)
  | condition (id : Nat) (condition : Condition)
  | passCount (id : Nat) (passCount : PassCount)
  | list
  | resume
  | step (kind : Act.StepKind)
  | pause
  | print (expression : String)
  | help
  | quit
  deriving DecidableEq, Repr

/-- What is wrong with a line. -/
inductive Complaint
  | breakUsage
  | whenChangedUsage
  | printUsage
  | unknownCommand (line : String)
  | invalidId (text : String)
  | unknownStyle (style : String)
  | missingCount
  | invalidCount
  deriving DecidableEq, Repr

/-- The text in which a complaint is made. -/
def Complaint.message : Complaint → String
  | breakUsage => "usage: break <file:line | function>"
  | whenChangedUsage => "usage: when-changed <id> <expr>"
  | printUsage => "usage: print <expr>"
  | unknownCommand line => s!"unknown command: '{line}'"
  | invalidId text => s!"invalid breakpoint id: '{text}'"
  | unknownStyle style => s!"unknown pass count style '{style}' (none|eq|ge|mod)"
  | missingCount => "pass count needs a number"
  | invalidCount => "invalid pass count"

/-- The last part of a path, unless it leads upwards or there is none. Empty parts and single dots
do not count. -/
def fileName? (path : List Char) : Option (List Char) :=
  match (fields '/' path).reverse.dropWhile fun part => part == [] || part == ['.'] with
  | [] => none
  | part :: _ => if part = ['.', '.'] then none else some part

/-- A place, written as `file:line` or as the name of a function. -/
def readLocation (text : List Char) : Except Complaint Location :=
  if text.isEmpty then .error .breakUsage
  else
    let line? := (cutLast? [':'] text).bind fun (path, line) =>
      (readNat32 line).map fun line =>
        Location.line (String.ofList ((fileName? path).getD path)) (String.ofList path) line
    .ok (line?.getD (.function (String.ofList text)))

/-- The number of a breakpoint. -/
def readId (text : List Char) : Except Complaint Nat :=
  match readNat32 text with
  | some id => .ok id
  | none => .error (.invalidId (String.ofList text))

/-- The number of a breakpoint and what follows it. -/
def readIdAnd (text : List Char) : Except Complaint (Nat × List Char) := do
  let (id, rest) := splitBlank text
  return (← readId id, trim rest)

/-- A pass count: `none`, `eq N`, `ge N` or `mod N`. -/
def readPassCount (text : List Char) : Except Complaint PassCount := do
  let words := (words text).map String.ofList
  let counted (style : PassStyle) : Except Complaint PassCount :=
    match words[1]? with
    | none => .error .missingCount
    | some word =>
      match readNat32 word.toList with
      | some count => .ok ⟨style, count⟩
      | none => .error .invalidCount
  match words.head? with
  | none | some "none" => return {}
  | some "eq" => counted .equal
  | some "ge" => counted .atLeast
  | some "mod" => counted .multiple
  | some other => throw (.unknownStyle other)

/-- The command on a line that is not blank. -/
def Command.read (line : String) : Except Complaint Command := do
  let text := trim line.toList
  let (word, rest) := splitBlank text
  let rest := trim rest
  match String.ofList word with
  | "break" | "b" => return .insert (← readLocation rest)
  | "delete" | "d" => return .delete (← readId rest)
  | "enable" => return .enable (← readId rest) true
  | "disable" => return .enable (← readId rest) false
  | "cond" =>
    let (id, expression) ← readIdAnd rest
    if expression.isEmpty then return .condition id {}
    return .condition id (.whenTrue (String.ofList expression))
  | "when-changed" =>
    let (id, expression) ← readIdAnd rest
    if expression.isEmpty then throw .whenChangedUsage
    return .condition id (.whenChanged (String.ofList expression))
  | "passcount" =>
    let (id, policy) ← readIdAnd rest
    return .passCount id (← readPassCount policy)
  | "info" | "breakpoints" => return .list
  | "continue" | "c" => return .resume
  | "next" | "n" => return .step .over
  | "step" | "s" => return .step .into
  | "finish" => return .step .out
  | "pause" => return .pause
  | "print" | "p" =>
    if rest.isEmpty then throw .printUsage
    return .print (String.ofList rest)
  | "help" => return .help
  | "quit" | "q" => return .quit
  | _ => throw (.unknownCommand (String.ofList text))

end DebugLink.Console
