import DebugLink.Variable.Expand

/-!
# Resolving variables

The variables of a frame, nodes for them, and the node that a path or a free expression leads to.
A node that is known already is evaluated again in its place.
-/

namespace DebugLink.Variable

open Text

variable {m : Type → Type} [Monad m] [Wire m]

/-- A node of this name and declared type, expanded as a value of the type `shape` when it needs to
be, and evaluated when it has no value. -/
def build (limits : Limits) (name declared shape : String) (value : Option String) :
    ExceptT Failure m Node := do
  let node : Node := { name, type := declared, value }
  let node ←
    if needsExpansion shape value then
      ExceptT.mk do
        let (outcome, node) ← (expand limits shape).run.run node
        return outcome.map fun () => node
    else pure node
  if node.value.isSome then return node
  return { node with value := some (← evaluate name none).value }

/-- The node of a variable. -/
def create (limits : Limits) (name type : String) (value : Option String) :
    ExceptT Failure m Node :=
  build limits name type type value

/-- The frame with one listed variable added: name, whether it is an argument, type and value. -/
def addVariable (limits : Limits) (frame : Frame) (entry : List Char) :
    ExceptT Failure m Frame := do
  match fieldsUpTo ';' 4 entry with
  | name :: argument :: type :: more =>
    if name.isEmpty then return frame
    let value := more.head?.filter fun v => !v.isEmpty
    let node ← create limits (String.ofList name) (String.ofList type) (value.map String.ofList)
    if argument = ['1'] then return { frame with arguments := frame.arguments ++ [node] }
    else return { frame with locals := frame.locals ++ [node] }
  | _ => return frame

/-- The variables of a frame of a thread. -/
def frameVariables (limits : Limits) (thread frame : Nat) : ExceptT Failure m Frame := do
  let answer ← Wire.request
    s!"-stack-list-variables --thread {thread} --frame {frame} --simple-values"
  if answer = Mi.errorAnswer then return {}
  (fields '#' (fromByte 3 answer.toList)).foldlM (addVariable limits) {}

/-- What is left of the detailed type of an expression beside its declared one. A brace behind it is
dropped. It says nothing new when it is the declared type or a part of it, and nothing helpful when
it names a class. -/
def refineType (declared detailed : String) : Option String :=
  let detailed := (before? [' ', '{'] detailed.toList).getD detailed.toList
  let shorter := utf8Length detailed < utf8Length declared.toList
  let detailed := if shorter && contains detailed declared.toList then declared.toList else detailed
  if detailed = declared.toList then none
  else if contains [':', ':'] detailed && !contains "union".toList detailed then none
  else if detailed.isEmpty then none
  else some (String.ofList detailed)

/-- The node of a free expression. Structures and arrays are expanded without a value, pointers
unless they lead nowhere. -/
def resolveExpression (limits : Limits) (expression : String) : ExceptT Failure m Node := do
  let evaluation ← evaluate expression none
  if !evaluation.valid then
    return { name := expression, type := "", value := some evaluation.value }
  let compact := String.ofList (expression.toList.filter (· != ' '))
  let declared ← Wire.request s!"whatis {compact}"
  let detailed ← Wire.request s!"ptype {compact}"
  let shape := (refineType declared detailed).getD declared
  let leaf : Node := { name := expression, type := declared, value := some evaluation.value }
  if shape.toList.getLast? = some '*' then
    if evaluation.value = nullPointer then return leaf
    build limits expression declared shape (some evaluation.value)
  else if contains "struct".toList shape.toList || shape.toList.contains '[' then
    build limits expression declared shape none
  else return leaf

/-- Evaluates the node again under the name `path`, and expands it when its value is new and calls
for it. A part of a variable is always treated as new. -/
def reevaluate (limits : Limits) (path : String) (isRoot : Bool) :
    ExceptT Failure (StateT Node m) Unit := do
  let node ← get
  let evaluation ← evaluate path node.gdbName
  if node.value = some evaluation.value && isRoot then return
  set { node with value := some evaluation.value }
  if needsExpansion node.type (some evaluation.value) then expand limits node.type

/-- The node that a path leads to, and the frame with that node as it is now. A path that leads to
no node of the frame is a free expression. -/
def resolve (limits : Limits) (path : String) (frame : Frame) :
    m (Except Failure Node × Frame) := do
  let trail := frame.follow {} [] path.toList
  let path := String.ofList trail.path
  match trail.place?.bind fun place => (frame.at? place).map fun node => (place, node) with
  | some (place, node) =>
    let (outcome, node) ← (reevaluate limits path trail.isRoot).run.run node
    return (outcome.map fun () => node, frame.replaceAt place node)
  | none => return (← (resolveExpression limits path).run, frame)

end DebugLink.Variable
