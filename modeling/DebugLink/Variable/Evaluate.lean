import DebugLink.Peer.Basic
import DebugLink.Mi.Quoted
import DebugLink.Variable.Garbage

/-!
# Evaluating expressions

gdb is asked for the value of an expression, and a second time under another name when it refuses
the first. What comes back is the value, or the text of the refusal.
-/

namespace DebugLink.Variable

open Text

/-- The value of an expression. -/
structure Evaluation where
  valid : Bool
  /-- The value, or the reason why there is none. -/
  value : String
  deriving DecidableEq, Repr

/-- Whether an answer gives a value. -/
def isValue (answer : String) : Bool := startsWith "60" answer

/-- The command that asks for a value. -/
def evaluateCommand (expression : String) : String :=
  "-data-evaluate-expression " ++ Mi.quote expression

/-- The evaluation that an answer stands for. -/
def Evaluation.ofAnswer (answer : String) : Evaluation :=
  let body := withoutQuotes (fromByte 3 answer.toList)
  let value := String.ofList (replace ['\\', '"'] ['"'] body)
  if isValue answer then ⟨true, stripGarbage value⟩ else ⟨false, value⟩

variable {m : Type → Type} [Monad m] [Wire m]

/-- The value of `name`, less one dot at its end, or that of `gdbName` when gdb refuses it. Nothing
is asked for an empty name. -/
def evaluate (name : String) (gdbName : Option String) : ExceptT Failure m Evaluation := do
  let shown := (before? ['.'] name.toList).getD name.toList
  if shown.isEmpty then return ⟨false, ""⟩
  let first ← Wire.request (evaluateCommand (String.ofList shown))
  match gdbName with
  | some gdbName =>
    if isValue first then return .ofAnswer first
    let second ← Wire.request (evaluateCommand gdbName)
    return .ofAnswer (if isValue second then second else first)
  | none => return .ofAnswer first

end DebugLink.Variable
