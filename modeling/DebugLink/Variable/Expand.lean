import DebugLink.Variable.Evaluate
import DebugLink.Variable.Name
import DebugLink.Variable.Node
import DebugLink.Mi.Answer

/-!
# Expanding variables

A compound value is expanded through a variable object of gdb that lives only meanwhile: it is
created, its children are listed, and it is deleted again. What was listed before a failure stays
with the node.
-/

namespace DebugLink.Variable

open Text

/-- Bounds on what is listed. -/
structure Limits where
  /-- How many children of one variable object are listed. -/
  maxChildren : Nat := 50
  /-- How deeply access levels may be nested. -/
  maxDepth : Nat
  deriving DecidableEq, Repr

/-- The value of a pointer that leads nowhere. -/
def nullPointer : String := "0x0"

/-- What is put before the name of a variable object that gdb refuses. -/
def objectLead : String := "vo_"

/-- Whether a node of this type and value is expanded. -/
def needsExpansion (type : String) (value : Option String) : Bool :=
  match value with
  | none => true
  | some value => type.toList.contains '*' && value != nullPointer

/-- Whether a listed value says too little and is asked for again. -/
def needsReevaluation (value : List Char) : Bool :=
  value.isEmpty || contains "\x7b...\x7d".toList value ||
    value.head? == some '[' && value.getLast? == some ']'

/-- A variable object of gdb. -/
structure VarObject where
  name : String
  children : Nat
  /-- Whether its name is not the one that was asked for first. -/
  renamed : Bool
  deriving DecidableEq, Repr

/-- A node while its children are listed. -/
structure Growth where
  node : Node
  names : NameMap := {}

variable {m : Type → Type} [Monad m] [Wire m]

/-- Creates a variable object under a name, unless gdb refuses it. -/
def createAs (objectName name : String) : ExceptT Failure m (Option VarObject) := do
  let answer ← Wire.request s!"-var-create {objectName} \"*\" {name}"
  if answer = Mi.errorAnswer then return none
  return some ⟨objectName, (readTrimmed32 answer.toList).getD 0, objectName != name⟩

/-- Creates a variable object under the plain name or under a longer one. -/
def createObject (name : String) : ExceptT Failure m (Option VarObject) := do
  match ← createAs name name with
  | some object => return some object
  | none => createAs (objectLead ++ name) name

/-- The listing of the children of a variable object. -/
def requestChildren (limits : Limits) (objectName : String) : ExceptT Failure m String :=
  Wire.request s!"-var-list-children --all-values {objectName} 0 {limits.maxChildren}"

/-- The listing of a node's children: of the access level `via`, or else of the object that stands
for the node, which is the one with the name of gdb when the plain name was refused. -/
def requestListing (limits : Limits) (node : Node) (renamed : Bool) (via : Option String) :
    ExceptT Failure m String := do
  match via, node.gdbName with
  | some object, _ => requestChildren limits object
  | none, none => requestChildren limits node.name
  | none, some gdbName =>
    if renamed then requestChildren limits gdbName
    else
      let answer ← requestChildren limits node.name
      if answer = Mi.errorAnswer then requestChildren limits gdbName else return answer

/-- The entries of a listing, each with its fields. -/
def listingEntries (answer : String) : List (List (List Char)) :=
  (fields '#' (replace "#;;;".toList [] (fromByte 3 answer.toList))).map (fields ';')

/-- The child for a listed entry. -/
def listedChild (shape : Shape) (names : NameMap) (raw : List Char) (entry : List (List Char)) :
    ExceptT Failure m Node := do
  let name := String.ofList (displayName raw shape names)
  let count := (readTrimmed32 (entry[1]?.getD [])).getD 0
  let listed := entry[2]?.getD []
  let evaluation ←
    if needsReevaluation listed then evaluate name (some (String.ofList raw))
    else pure ⟨true, String.ofList listed⟩
  let expandable := evaluation.valid && count != 0 && evaluation.value != nullPointer
  return {
    name
    gdbName := some (String.ofList raw)
    type := String.ofList (entry[3]?.getD [])
    value := some evaluation.value
    children := if expandable then some [] else none }

/-- Adds what a listed entry stands for: nothing for a base class, the children of an access level,
or else one child. -/
def addEntry (shape : Shape) (enter : String → ExceptT Failure (StateT Growth m) Unit)
    (entry : List (List Char)) : ExceptT Failure (StateT Growth m) Unit := do
  let raw := entry.headD []
  if raw.isEmpty || contains [':', ':'] raw then pure ()
  else if isAccessLevel raw then
    modify fun g => { g with names := g.names.bind raw g.node.name.toList }
    enter (String.ofList raw)
  else
    let child ← listedChild shape (← get).names raw entry
    modify fun g =>
      { g with node := { g.node with children := some (g.node.children.getD [] ++ [child]) } }

/-- Adds the listed children to the node, those of its access levels included. -/
def listChildren (limits : Limits) (shape : Shape) (renamed : Bool) :
    Nat → Option String → ExceptT Failure (StateT Growth m) Unit
  | 0, _ => ExceptT.lift Wire.overrun
  | depth + 1, via => do
    let answer ← requestListing limits (← get).node renamed via
    if answer = Mi.errorAnswer then pure ()
    else
      let enter level := listChildren limits shape renamed depth (some level)
      (listingEntries answer).forM (addEntry shape enter)

/-- Adds the children of a variable object that stands for the node. -/
def growFrom (limits : Limits) (shape : Shape) (object : VarObject) :
    ExceptT Failure (StateT Node m) Unit :=
  ExceptT.mk fun node => do
    let names : NameMap :=
      if object.renamed then ({} : NameMap).bind object.name.toList node.name.toList else {}
    let listing := listChildren limits shape object.renamed limits.maxDepth none
    let (outcome, growth) ← listing.run.run ⟨node, names⟩
    return (outcome, growth.node)

/-- Expands the node: its children are listed through a variable object, which is deleted again.
Nothing is listed when gdb refuses to create one. -/
def expand (limits : Limits) (type : String) : ExceptT Failure (StateT Node m) Unit := do
  match ← createObject (← get).name with
  | none => pure ()
  | some object =>
    if object.renamed then modify fun node => { node with gdbName := some object.name }
    modify fun node => { node with children := some [] }
    if object.children != 0 then growFrom limits (.ofType type) object
    discard <| Wire.request s!"-var-delete {object.name}"

end DebugLink.Variable
