import DebugLink.Proofs.FollowedPaths
import Mathlib.Data.List.Induction
import Mathlib.Data.List.Nodup

/-!
# Places in a frame

A node of a frame is found by positions among children from a variable on, and is replaced in that
place. What stands elsewhere stays, and so do the nodes on the way but for that one child. A path
leads only to a node with this path for its name. In an orderly frame, where the name of each child
continues that of its parent by one step, the name of each node leads to its place.

* `Node.at?_replaceAt`, `Node.own_replaceAt`: what is replaced, and what is not.
* `at?_locate?`: a path leads to a node with that name.
* `Frame.Orderly`: the name of each node is a path to it.
* `stepsFrom_part`: a part is one step of a path.
* `locate?_name`: in an orderly frame every node is found by its name.
-/

namespace DebugLink.Variable

/-! ## Replacing a node -/

namespace Node

/-- What a node is by itself: its children are counted only. -/
def own (node : Node) : Node × Option Nat :=
  ({ node with children := none }, node.children.map List.length)

/-- A path is followed in two parts. -/
theorem at?_append (node : Node) (lead more : List Nat) :
    node.at? (lead ++ more) = (node.at? lead).bind (·.at? more) := by
  induction lead generalizing node with
  | nil => rfl
  | cons i lead ih =>
    rw [List.cons_append, at?, at?, Option.bind_assoc]
    exact congrArg _ (funext ih)

/-- The children of a node of which one is replaced, or something in it. -/
theorem children_replaceAt (node new : Node) (i : Nat) (path : List Nat) :
    (node.replaceAt (i :: path) new).children.getD [] =
      (node.children.getD []).modify i (·.replaceAt path new) := by
  rw [replaceAt]
  cases node.children <;> simp

/-- A replacement is found where it was made. -/
theorem at?_replaceAt {node old : Node} {path : List Nat} (here : node.at? path = some old)
    (new : Node) : (node.replaceAt path new).at? path = some new := by
  induction path generalizing node with
  | nil => rw [replaceAt, at?]
  | cons i path ih =>
    obtain ⟨child, known, here⟩ := Option.bind_eq_some_iff.1 here
    rw [at?, children_replaceAt, List.getElem?_modify_eq, known]
    exact ih here

/-- In a row of nodes, what is seen of one stays if it stays when that one is changed. -/
theorem view_modify {α : Type} {view : Node → α} {i j : Nat} {path elsewhere : List Nat}
    {new : Node} (nodes : List Node) (stays : i = j → ∀ node, nodes[i]? = some node →
      ((node.replaceAt path new).at? elsewhere).map view = (node.at? elsewhere).map view) :
    ((nodes.modify i (·.replaceAt path new))[j]?.bind (·.at? elsewhere)).map view =
      (nodes[j]?.bind (·.at? elsewhere)).map view := by
  rw [List.getElem?_modify]
  by_cases same : i = j
  · subst same
    cases here : nodes[i]? with
    | none => rfl
    | some node => simpa using stays rfl node here
  · cases nodes[j]? with
    | none => rfl
    | some node => simp [if_neg same]

/-- **Elsewhere everything stays**, but for what is below the place. -/
theorem own_replaceAt {path elsewhere : List Nat} (other : ¬path <+: elsewhere) (node new : Node) :
    ((node.replaceAt path new).at? elsewhere).map own = (node.at? elsewhere).map own := by
  induction path generalizing node elsewhere with
  | nil => exact absurd List.nil_prefix other
  | cons i path ih =>
    cases elsewhere with
    | nil =>
      -- the node itself is on the way to the place, and only its child is another one
      simp [at?, replaceAt, own, Function.comp_def]
    | cons j elsewhere =>
      rw [at?, at?, children_replaceAt]
      refine view_modify _ fun same node _ => ih (fun leads => other ?_) node
      rw [same]
      exact (List.prefix_cons_inj j).2 leads

end Node

/-- The place is that one, or one below it. -/
def Place.Within (place outer : Place) : Prop :=
  place.isArgument = outer.isArgument ∧ place.root = outer.root ∧ outer.children <+: place.children

namespace Frame

variable {frame : Frame}

/-- The same in a frame, on the side of the place. -/
theorem at?_replaceAt {place : Place} {old : Node} (here : frame.at? place = some old)
    (new : Node) : (frame.replaceAt place new).at? place = some new := by
  obtain ⟨root, known, here⟩ := Option.bind_eq_some_iff.1 here
  unfold at? replaceAt
  cases side : place.isArgument <;>
  · simp only [side, Bool.false_eq_true, if_false, if_true] at known
    simp [known, Node.at?_replaceAt here]

/-- What stays to be seen of the variable that is changed stays so of the frame. -/
theorem view_replaceAt {α : Type} {view : Node → α} {place elsewhere : Place} {new : Node}
    (stays : place.isArgument = elsewhere.isArgument → place.root = elsewhere.root →
      ∀ node, frame.at? { place with children := [] } = some node →
        ((node.replaceAt place.children new).at? elsewhere.children).map view =
          (node.at? elsewhere.children).map view) :
    ((frame.replaceAt place new).at? elsewhere).map view = (frame.at? elsewhere).map view := by
  unfold at? replaceAt
  cases side : place.isArgument <;> cases side' : elsewhere.isArgument <;>
    simp only [Bool.false_eq_true, if_false, if_true]
  · refine Node.view_modify _ fun root node known => ?_
    exact stays (side.trans side'.symm) root node (by simp [at?, Node.at?, side, known])
  · refine Node.view_modify _ fun root node known => ?_
    exact stays (side.trans side'.symm) root node (by simp [at?, Node.at?, side, known])

theorem own_replaceAt {place elsewhere : Place} (other : ¬elsewhere.Within place) (new : Node) :
    ((frame.replaceAt place new).at? elsewhere).map Node.own =
      (frame.at? elsewhere).map Node.own :=
  view_replaceAt fun side root node _ =>
    Node.own_replaceAt (fun leads => other ⟨side.symm, root.symm, leads⟩) node new

/-! ## A path leads to its name -/

theorem at?_of_findIdx? {nodes : List Node} {name : String} {i : Nat}
    (found : nodes.findIdx? (·.name == name) = some i) :
    ∃ node, nodes[i]? = some node ∧ node.name = name := by
  obtain ⟨bound, named, -⟩ := List.findIdx?_eq_some_iff_getElem.1 found
  exact ⟨nodes[i], List.getElem?_eq_getElem bound, eq_of_beq named⟩

/-- A name finds a root of that name. -/
theorem at?_root? {name : String} {place : Place} (found : frame.root? name = some place) :
    ∃ node, frame.at? place = some node ∧ node.name = name := by
  unfold root? at found
  cases known : frame.locals.findIdx? (·.name == name) with
  | some root =>
    rw [known] at found
    cases found
    obtain ⟨node, here, named⟩ := at?_of_findIdx? known
    exact ⟨node, by simp [at?, here, Node.at?], named⟩
  | none =>
    rw [known] at found
    obtain ⟨root, known, rfl⟩ := Option.map_eq_some_iff.1 found
    obtain ⟨node, here, named⟩ := at?_of_findIdx? known
    exact ⟨node, by simp [at?, here, Node.at?], named⟩

/-- The nodes at a place and behind it. -/
theorem at?_append (place : Place) (more : List Nat) :
    frame.at? { place with children := place.children ++ more } =
      (frame.at? place).bind (·.at? more) := by
  simp only [at?, Node.at?_append, Option.bind_assoc]

/-- A name finds a child of that name. -/
theorem at?_child? {name : String} {place inner : Place}
    (found : frame.child? place name = some inner) :
    ∃ node, frame.at? inner = some node ∧ node.name = name := by
  obtain ⟨parent, here, found⟩ := Option.bind_eq_some_iff.1 found
  obtain ⟨i, known, rfl⟩ := Option.map_eq_some_iff.1 found
  obtain ⟨node, child, named⟩ := at?_of_findIdx? known
  exact ⟨node, by simp [at?_append, here, Node.at?, child], named⟩

/-- **A path finds a node that has the name of its last step.** -/
theorem at?_walk {place? : Option Place} {steps : List (List Char)} {place : Place}
    {last : List Char} (found : frame.walk place? steps = some place)
    (ends : steps.getLast? = some last) :
    ∃ node, frame.at? place = some node ∧ node.name = String.ofList last := by
  induction steps generalizing place? with
  | nil => cases ends
  | cons step steps ih =>
    obtain ⟨next, known, found⟩ := Option.bind_eq_some_iff.1 found
    cases steps with
    | cons step' steps => exact ih found ends
    | nil =>
      cases found
      cases ends
      cases place? with
      | none => exact at?_root? known
      | some outer => exact at?_child? known

/-- **A path leads only to a node with that name.** -/
theorem at?_locate? {path : String} {place : Place} (found : frame.locate? path = some place) :
    ∃ node, frame.at? place = some node ∧ node.name = path := by
  rw [← walk_steps] at found
  simpa using at?_walk found (steps_getLast path.toList)

end Frame

/-! ## Names that are paths -/

/-- There is no separator in the text, as in an identifier. -/
def Undivided (s : List Char) : Prop := ∀ c ∈ s, c ∉ ['.', '-', '[']

/-- What the name of a child adds to that of its parent: a field, a field of what the parent points
to, or an index. -/
inductive PartOf : List Char → Prop
  | field {name : List Char} (undivided : Undivided name) : PartOf ('.' :: name)
  | target {name : List Char} (undivided : Undivided name) : PartOf ('-' :: '>' :: name)
  | element {index : List Char} (closed : ']' ∉ index) : PartOf ('[' :: index ++ [']'])

/-- A name without dots, arrows and brackets is passed as one step. -/
theorem stepsFrom_undivided {s : List Char} (undivided : Undivided s) (seen rest : List Char) :
    stepsFrom false seen (s ++ rest) = stepsFrom false (s.reverse ++ seen) rest := by
  induction s generalizing seen with
  | nil => rfl
  | cons c s ih =>
    obtain ⟨plain, others⟩ := List.forall_mem_cons.1 undivided
    simp only [List.mem_cons, List.not_mem_nil, or_false, not_or] at plain
    obtain ⟨dot, arrow, bracket⟩ := plain
    have outside : (c == '[') = false := beq_false_of_ne bracket
    simp [stepsFrom, dot, arrow, bracket, outside, ih others]

/-- Inside brackets everything is passed over up to the closing one. -/
theorem stepsFrom_closed {index : List Char} (closed : ']' ∉ index) (seen rest : List Char) :
    stepsFrom true seen (index ++ ']' :: rest) =
      stepsFrom false (']' :: (index.reverse ++ seen)) rest := by
  induction index generalizing seen with
  | nil => rfl
  | cons c index ih =>
    rw [List.mem_cons, not_or] at closed
    have inside : (c != ']') = true := bne_iff_ne.2 (Ne.symm closed.1)
    rw [List.cons_append, stepsFrom, if_pos rfl, inside, ih closed.2]
    simp

/-- **A part is one step** of a path. -/
theorem stepsFrom_part {part : List Char} (one : PartOf part) (seen rest : List Char) :
    stepsFrom false seen (part ++ rest) =
      seen.reverse :: stepsFrom false (part.reverse ++ seen) rest := by
  cases one with
  | field undivided => simp [stepsFrom, stepsFrom_undivided undivided]
  | target undivided => simp [stepsFrom, stepsFrom_undivided undivided]
  | element closed => simp [stepsFrom, stepsFrom_closed closed]

/-- To read the name as a path is to take these steps, and to be at the next one. -/
def Traversed (name : List Char) (steps : List (List Char)) : Prop :=
  ∀ rest, stepsFrom false [] (name ++ rest) = steps ++ stepsFrom false name.reverse rest

theorem traversed_undivided {name : List Char} (undivided : Undivided name) :
    Traversed name [] := by
  intro rest
  rw [stepsFrom_undivided undivided, List.append_nil, List.nil_append]

theorem Traversed.part {name part : List Char} {steps : List (List Char)}
    (traversed : Traversed name steps) (one : PartOf part) :
    Traversed (name ++ part) (steps ++ [name]) := by
  intro rest
  rw [List.append_assoc, traversed, stepsFrom_part one, List.reverse_reverse, List.reverse_append,
    List.append_assoc, List.singleton_append]

theorem Traversed.steps_eq {name : List Char} {before : List (List Char)}
    (traversed : Traversed name before) : steps name = before ++ [name] := by
  have whole := traversed []
  rwa [List.append_nil, stepsFrom, List.reverse_reverse] at whole

namespace Frame

/-- **An orderly frame** is a tree of names: each variable has its own, which is not divided, and
each child that of its parent with one part more, which no other child has. -/
structure Orderly (frame : Frame) : Prop where
  distinct : ((frame.locals ++ frame.arguments).map Node.name).Nodup
  undivided : ∀ node ∈ frame.locals ++ frame.arguments, Undivided node.name.toList
  parts : ∀ {place : Place} {node : Node} {children : List Node},
    frame.at? place = some node → node.children = some children →
      (children.map Node.name).Nodup ∧
        ∀ child ∈ children, ∃ part, PartOf part ∧ child.name.toList = node.name.toList ++ part

variable {frame : Frame}

/-- Where names are distinct, a name finds its own node. -/
theorem findIdx?_of_nodup {nodes : List Node} (distinct : (nodes.map Node.name).Nodup) {i : Nat}
    {node : Node} (here : nodes[i]? = some node) :
    nodes.findIdx? (·.name == node.name) = some i := by
  obtain ⟨bound, rfl⟩ := List.getElem?_eq_some_iff.1 here
  refine List.findIdx?_eq_some_iff_getElem.2 ⟨bound, beq_self_eq_true _, fun j before same => ?_⟩
  have twice : (nodes.map Node.name)[j]? = (nodes.map Node.name)[i]? := by
    rw [List.getElem?_map, List.getElem?_map, List.getElem?_eq_getElem bound,
      List.getElem?_eq_getElem (Nat.lt_trans before bound)]
    exact congrArg some (eq_of_beq same)
  have inside : i < (nodes.map Node.name).length := by rwa [List.length_map]
  exact List.nodup_iff_getElem?_ne_getElem?.1 distinct j i before inside twice

/-- **In an orderly frame each root is found by its name.** -/
theorem root?_name (orderly : frame.Orderly) {isArgument : Bool} {root : Nat} {node : Node}
    (here : frame.at? { isArgument, root } = some node) :
    frame.root? node.name = some { isArgument, root } ∧ Undivided node.name.toList := by
  have distinct := orderly.distinct
  rw [List.map_append, List.nodup_append] at distinct
  obtain ⟨locals, arguments, apart⟩ := distinct
  obtain ⟨found, known, same⟩ := Option.bind_eq_some_iff.1 here
  cases same
  cases isArgument with
  | false =>
    refine ⟨?_, orderly.undivided node (List.mem_append_left _ (List.mem_of_getElem? known))⟩
    rw [root?, findIdx?_of_nodup locals known]
  | true =>
    have mem := List.mem_of_getElem? known
    refine ⟨?_, orderly.undivided node (List.mem_append_right _ mem)⟩
    have hidden : frame.locals.findIdx? (·.name == node.name) = none := by
      refine List.findIdx?_eq_none_iff.2 fun other among => beq_false_of_ne ?_
      exact apart _ (List.mem_map_of_mem among) _ (List.mem_map_of_mem mem)
    rw [root?, hidden, findIdx?_of_nodup arguments known]
    rfl

theorem child?_name {place : Place} {parent child : Node} {children : List Node} {i : Nat}
    (here : frame.at? place = some parent) (listed : parent.children = some children)
    (distinct : (children.map Node.name).Nodup) (known : children[i]? = some child) :
    frame.child? place child.name = some { place with children := place.children ++ [i] } := by
  rw [child?, here, Option.bind_some, listed, Option.getD_some, findIdx?_of_nodup distinct known]
  rfl

/-- Steps are walked in two goes. -/
theorem walk_append (place? : Option Place) {steps : List (List Char)} (given : steps ≠ [])
    (more : List (List Char)) :
    frame.walk place? (steps ++ more) =
      (frame.walk place? steps).bind fun place => frame.walk (some place) more := by
  induction steps generalizing place? with
  | nil => exact absurd rfl given
  | cons step steps ih =>
    rw [List.cons_append, walk, walk, Option.bind_assoc]
    refine congrArg _ (funext fun place => ?_)
    cases steps with
    | nil => rfl
    | cons step' steps => exact ih (some place) (List.cons_ne_nil _ _)

/-- From a variable on, each part of the name of a node is one step further to it. -/
theorem walk_name (orderly : frame.Orderly) {isArgument : Bool} {root : Nat} {children : List Nat}
    {node : Node} (here : frame.at? ⟨isArgument, root, children⟩ = some node) :
    ∃ before, Traversed node.name.toList before ∧
      frame.walk none (before ++ [node.name.toList]) = some ⟨isArgument, root, children⟩ := by
  -- from the last position up: the name of a node has one part more than that of its parent
  induction children using List.reverseRecOn generalizing node with
  | nil =>
    obtain ⟨found, undivided⟩ := root?_name orderly here
    exact ⟨[], traversed_undivided undivided, by simp [walk, lookUp, found]⟩
  | append_singleton children i ih =>
    rw [at?_append ⟨isArgument, root, children⟩ [i]] at here
    obtain ⟨parent, above, here⟩ := Option.bind_eq_some_iff.1 here
    obtain ⟨child, known, same⟩ := Option.bind_eq_some_iff.1 here
    cases same
    obtain ⟨before, traversed, found⟩ := ih above
    cases listed : parent.children with
    | none => simp [listed] at known
    | some nodes =>
      rw [listed, Option.getD_some] at known
      obtain ⟨distinct, parts⟩ := orderly.parts above listed
      obtain ⟨part, one, named⟩ := parts node (List.mem_of_getElem? known)
      refine ⟨before ++ [parent.name.toList], named ▸ traversed.part one, ?_⟩
      rw [walk_append none (by simp), found]
      simp [walk, lookUp, child?_name above listed distinct known]

/-- **In an orderly frame every node is found by its name.** -/
theorem locate?_name (orderly : frame.Orderly) {place : Place} {node : Node}
    (here : frame.at? place = some node) : frame.locate? node.name = some place := by
  obtain ⟨before, traversed, found⟩ := walk_name orderly here
  rw [← walk_steps, traversed.steps_eq, found]

end Frame

end DebugLink.Variable
