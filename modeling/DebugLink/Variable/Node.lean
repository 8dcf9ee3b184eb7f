import DebugLink.Text.Search

/-!
# Variables and frames

A node is a variable, a part of one, or a free expression, with the parts that were listed so far.
A frame holds the variables of a function, and a path such as `p->next[2].x` leads to a node of it
step by step: each step is the part of the path up to a separator. The path is read piece by piece
while it is followed; beside that stands the list of its steps.

* `Frame.follow`: where a path leads.
* `Frame.locate?`: the same by the steps of the path.
* `steps_getLast`: the last step of a path is the path itself.
-/

namespace DebugLink.Variable

open Text

/-- A variable, a part of one, or a free expression. -/
structure Node where
  /-- The name that the user sees. -/
  name : String
  /-- The name that gdb knows it by, when that was asked for. -/
  gdbName : Option String := none
  type : String
  /-- The value, once it was evaluated. -/
  value : Option String
  /-- The parts, once they were asked for; none of them for a node that can be expanded. -/
  children : Option (List Node) := none
  deriving BEq, Repr, Inhabited

namespace Node

/-- The child with this name. -/
def child? (node : Node) (name : String) : Option Node :=
  (node.children.getD []).find? (·.name == name)

/-- The node at the end of a list of positions among children. -/
def at? : Node → List Nat → Option Node
  | node, [] => some node
  | node, i :: is => ((node.children.getD [])[i]?).bind (at? · is)

/-- The node with the one at the end of a list of positions replaced by `new`. -/
def replaceAt (node : Node) (path : List Nat) (new : Node) : Node :=
  match path with
  | [] => new
  | i :: is =>
    { node with children := node.children.map fun cs => cs.modify i fun c => c.replaceAt is new }

end Node

/-- The variables of a frame. -/
structure Frame where
  locals : List Node := []
  arguments : List Node := []
  deriving BEq, Repr

/-- A place in a frame: a variable, and positions among children from there on. -/
structure Place where
  isArgument : Bool
  root : Nat
  children : List Nat := []
  deriving DecidableEq, Repr

namespace Frame

/-- The place of the variable with this name; locals hide arguments. -/
def root? (frame : Frame) (name : String) : Option Place :=
  match frame.locals.findIdx? (·.name == name) with
  | some root => some { isArgument := false, root }
  | none =>
    (frame.arguments.findIdx? (·.name == name)).map fun root => { isArgument := true, root }

/-- The node at a place. -/
def at? (frame : Frame) (place : Place) : Option Node :=
  ((if place.isArgument then frame.arguments else frame.locals)[place.root]?).bind
    (·.at? place.children)

/-- The variable with this name. -/
def find? (frame : Frame) (name : String) : Option Node := (frame.root? name).bind frame.at?

/-- The frame with the node at a place replaced. -/
def replaceAt (frame : Frame) (place : Place) (new : Node) : Frame :=
  let change (nodes : List Node) := nodes.modify place.root (·.replaceAt place.children new)
  if place.isArgument then { frame with arguments := change frame.arguments }
  else { frame with locals := change frame.locals }

/-- The place of the child with this name. -/
def child? (frame : Frame) (place : Place) (name : String) : Option Place :=
  (frame.at? place).bind fun node =>
    ((node.children.getD []).findIdx? (·.name == name)).map fun i =>
      { place with children := place.children ++ [i] }

end Frame

/-! ## Following a path -/

/-- The rest of a path as it is read. -/
structure PathPiece where
  /-- The text up to the next separator. -/
  text : List Char := []
  separator : List Char := []
  /-- What is behind the separator. -/
  rest : List Char := []
  deriving DecidableEq, Repr

/-- The next piece of a path. A separator is a dot, an arrow or an index in its brackets; a bracket
that is not closed reaches to the end. -/
def nextPiece : List Char → PathPiece
  | [] => {}
  | c :: s =>
    if c = '.' then { separator := ['.'], rest := s }
    else if c = '[' then
      match cut? [']'] s with
      | some (index, rest) => { separator := '[' :: index ++ [']'], rest }
      | none => { separator := '[' :: s }
    else if c = '-' ∧ s.head? = some '>' then { separator := ['-', '>'], rest := s.tail }
    else { nextPiece s with text := c :: (nextPiece s).text }

/-- The pieces of a path put together are the path. -/
theorem nextPiece_append (s : List Char) :
    (nextPiece s).text ++ (nextPiece s).separator ++ (nextPiece s).rest = s := by
  induction s with
  | nil => rfl
  | cons c s ih =>
    rw [nextPiece]
    split
    · rename_i dot
      rw [dot]
      rfl
    split
    · rename_i bracket
      subst bracket
      split
      · rename_i index rest closed
        simp [eq_append_of_cut? closed]
      · simp
    split
    · rename_i arrow
      obtain ⟨rfl, next⟩ := arrow
      obtain ⟨s, rfl⟩ := List.head?_eq_some_iff.1 next
      rfl
    · exact congrArg (c :: ·) ih

/-- Without a separator there is nothing behind it. -/
theorem nextPiece_rest {s : List Char} (last : (nextPiece s).separator = []) :
    (nextPiece s).rest = [] := by
  induction s with
  | nil => rfl
  | cons c s ih =>
    revert last
    rw [nextPiece]
    split
    · exact nofun
    split
    · split <;> exact nofun
    split
    · exact nofun
    · exact ih

/-- Where a path has led so far. -/
structure Trail where
  /-- What was read of the path. -/
  path : List Char := []
  /-- The place of the node with that name, if there is one. -/
  place? : Option Place := none
  /-- It was looked for among the variables. -/
  isRoot : Bool := true
  deriving DecidableEq, Repr

namespace Frame

/-- The trail when more of the path was read: a variable is looked up at first, and then a child of
the node found last. -/
def lookUp (frame : Frame) (trail : Trail) (path : List Char) : Trail :=
  match trail.place? with
  | none => { trail with path, place? := frame.root? (String.ofList path) }
  | some place => { path, place? := frame.child? place (String.ofList path), isRoot := false }

/-- Where the rest of a path leads behind a separator. What is found nowhere is not looked for any
further. -/
def follow (frame : Frame) (trail : Trail) (separator rest : List Char) : Trail :=
  let piece := nextPiece rest
  let next := frame.lookUp trail (trail.path ++ separator ++ piece.text)
  if next.place? = none ∨ piece.rest = [] ∧ piece.separator = [] then
    { next with path := next.path ++ piece.separator ++ piece.rest }
  else frame.follow next piece.separator piece.rest
termination_by rest.length
decreasing_by
  rename_i further
  have more : (nextPiece rest).separator ≠ [] := fun last =>
    further (.inr ⟨nextPiece_rest last, last⟩)
  have := List.length_pos_iff.2 more
  have whole := congrArg List.length (nextPiece_append rest)
  simp only [List.length_append] at whole
  omega

end Frame

/-! ## The steps of a path -/

/-- The steps of a path, where `seen` was read already, last character first. A step ends before a
dot, an arrow or an opening bracket; inside brackets nothing ends one. -/
def stepsFrom (inBrackets : Bool) (seen : List Char) : List Char → List (List Char)
  | [] => [seen.reverse]
  | c :: s =>
    if inBrackets then stepsFrom (c != ']') (c :: seen) s
    else
      let rest := stepsFrom (c == '[') (c :: seen) s
      if c = '.' ∨ c = '[' ∨ c = '-' ∧ s.head? = some '>' then seen.reverse :: rest else rest

/-- The steps of a path, each of them a beginning of the next. -/
def steps (path : List Char) : List (List Char) := stepsFrom false [] path

/-- The place that a path leads to: a variable for its first step, and the child with the name of
each further one. -/
def Frame.locate? (frame : Frame) (path : String) : Option Place :=
  match steps path.toList with
  | [] => none
  | first :: more =>
    (frame.root? (String.ofList first)).bind fun place =>
      more.foldlM (fun place step => frame.child? place (String.ofList step)) place

theorem stepsFrom_getLast (inBrackets : Bool) (seen s : List Char) :
    (stepsFrom inBrackets seen s).getLast? = some (seen.reverse ++ s) := by
  induction s generalizing inBrackets seen with
  | nil => simp [stepsFrom]
  | cons c s ih =>
    simp only [stepsFrom]
    split
    · simp [ih]
    · split
      · rw [List.getLast?_cons, ih]
        simp
      · simp [ih]

theorem steps_getLast (path : List Char) : (steps path).getLast? = some path := by
  simp [steps, stepsFrom_getLast]

end DebugLink.Variable
