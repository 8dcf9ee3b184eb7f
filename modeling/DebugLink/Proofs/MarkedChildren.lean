import DebugLink.Proofs.RefreshedNodes

/-!
# Children that are marked

A listed child with parts of its own is marked: it has children, but none of them so far, and they
are left for when its path is followed. Whether a child is marked is decided by the number of its
parts and by its value. Whether it is expanded later is decided by its type, and only a type with a
star in it counts then, because the child always has a value. So a marked pointer is expanded, but a
marked structure never is, and an array only if it is one of pointers.

* `Openable`: what the peer has to answer for a child to be expanded.
* `Unfolded`: the children of a node are what its listing adds.
* `Refreshes.unfolded_iff`, `marked_child_unfolded_iff`: which marked children are unfolded.
* `Refreshes.kept_of_not_mem`: what becomes of the others.
* `marked_struct_kept`: a structure in a frame as it is listed.
-/

namespace DebugLink.Variable

open Text

/-- What the peer has to answer for a child to be expanded: it has a value and leads somewhere, an
object with children is created for it, and there are parts in its listing. With the exchanges after
each of these steps. -/
structure Openable (peer : Peer) (limits : Limits) (child : Node) (evaluation : Evaluation)
    (object : VarObject) (answer : String) (past mid opened listed : List Exchange) : Prop where
  evaluates : Evaluates peer past child.name child.gdbName evaluation mid
  valid : evaluation.valid = true
  somewhere : evaluation.value ≠ nullPointer
  created : Creates peer mid child.name (some object) opened
  filled : object.children ≠ 0
  lists : Lists peer opened limits ({ child with value := some evaluation.value }.opened object)
    object.renamed answer listed
  part : ∃ entry ∈ entriesOf answer, IsPart entry

/-- The listing of a child was asked for, and its children now are what the entries add. -/
structure Unfolded (peer : Peer) (limits : Limits) (child : Node) (object : VarObject)
    (answer : String) (listed : List Exchange) (node : Node) (later : List Exchange) : Prop where
  asked : listed <:+ later
  children : ∃ nodes stage, Adds peer limits (.ofType child.type) child.name
    ⟨object.names child.name, listed⟩ (entriesOf answer) nodes stage ∧ node.children = some nodes

section Unfolded

variable {peer : Peer} {limits : Limits}

/-- A part among the entries adds a node. -/
theorem Adds.ne_nil {shape : Shape} {owner : String} {stage after : Stage}
    {entries : List (List (List Char))} {nodes : List Node}
    (adds : Adds peer limits shape owner stage entries nodes after)
    (given : ∃ entry ∈ entries, IsPart entry) : nodes ≠ [] := by
  obtain ⟨entry, mem, part⟩ := given
  obtain ⟨before, behind, rfl⟩ := List.append_of_mem mem
  obtain ⟨first, second, earlier, own, further, rfl, -, within, -⟩ := adds.exists_between
  obtain ⟨evaluation, -, rfl⟩ := within.of_part part
  simp

theorem needsExpansion_some_iff {type value : String} :
    needsExpansion type (some value) = true ↔ '*' ∈ type.toList ∧ value ≠ nullPointer := by
  simp [needsExpansion]

variable {child node : Node} {evaluation : Evaluation} {object : VarObject} {answer : String}
  {past mid opened listed later : List Exchange}

/-- **A marked child is unfolded** exactly if its type is that of a pointer. -/
theorem Refreshes.unfolded_iff (refreshes : Refreshes peer limits child.name false child past node
      later) (marked : child.children = some [])
    (openable : Openable peer limits child evaluation object answer past mid opened listed) :
    Unfolded peer limits child object answer listed node later ↔ '*' ∈ child.type.toList := by
  cases refreshes with
  | same _ same => simp at same
  | valued evaluates fresh settled =>
    obtain ⟨rfl, rfl⟩ := openable.evaluates.alike peer.agrees_eq evaluates rfl
    -- nothing but the value has changed, so the node still has no children
    constructor
    · rintro ⟨-, nodes, stage, adds, none⟩
      cases marked.symm.trans none
      exact absurd rfl (adds.ne_nil openable.part)
    · intro star
      have needed := needsExpansion_some_iff.2 ⟨star, openable.somewhere⟩
      exact absurd (settled.symm.trans needed) Bool.false_ne_true
  | expanded evaluates fresh needed expands =>
    obtain ⟨rfl, rfl⟩ := openable.evaluates.alike peer.agrees_eq evaluates rfl
    obtain ⟨nodes, stage, deleted, adds, rfl, rfl⟩ :=
      expands.of_lists openable.created openable.filled openable.lists
    refine iff_of_true ⟨?_, nodes, stage, adds, rfl⟩ (needsExpansion_some_iff.1 needed).1
    exact adds.continues.suffix.trans (List.suffix_cons _ _)

/-- **A marked child of another type** only comes to have the value, and nothing more is asked. -/
theorem Refreshes.kept_of_not_mem {path : String} {mid : List Exchange}
    (refreshes : Refreshes peer limits path false child past node later)
    (evaluates : Evaluates peer past path child.gdbName evaluation mid)
    (starless : '*' ∉ child.type.toList) :
    node = { child with value := some evaluation.value } ∧ later = mid := by
  cases refreshes with
  | same _ same => simp at same
  | valued evaluates' =>
    obtain ⟨rfl, rfl⟩ := evaluates.alike peer.agrees_eq evaluates' rfl
    exact ⟨rfl, rfl⟩
  | expanded _ _ needed => exact absurd (needsExpansion_some_iff.1 needed).1 starless

end Unfolded

/-- **A marked child is unfolded only if it is a pointer**, for every frame, every peer that answers
everything and nests access levels only finitely, and every path that leads to a child that is
marked. The peer evaluates the child, creates an object with children for it and lists parts of it.
Following the path comes to an end, so that from some depth on the bound on nested calls does not
matter. The listing is asked for and becomes the children of the node, one for each part in it,
exactly if there is a star in the type of the child. Otherwise nothing is asked but the value, and
nothing else of the child has changed. -/
theorem marked_child_unfolded_iff {limits : Limits} {peer : Peer} (reliable : peer.Reliable)
    (nests : NestsFinitely peer limits) {frame : Frame} {place : Place} {child : Node}
    (leads : frame.locate? child.name = some place) (here : frame.at? place = some child)
    (inner : place.children ≠ []) (marked : child.children = some []) {evaluation : Evaluation}
    {object : VarObject} {answer : String} {past mid opened listed : List Exchange}
    (openable : Openable peer limits child evaluation object answer past mid opened listed) :
    ∃ depth node later,
      (∀ bound, depth ≤ bound → ((resolve { limits with maxDepth := bound } child.name frame :
          Dialogue (Except Failure Node × Frame)).run peer).run past =
        .ok (.ok node, frame.replaceAt place node) later) ∧
      (Unfolded peer limits child object answer listed node later ↔ '*' ∈ child.type.toList) ∧
      ('*' ∉ child.type.toList →
        node = { child with value := some evaluation.value } ∧ later = mid) := by
  have ends : Ending.Ends peer (fun bound => (resolve { limits with maxDepth := bound } child.name
      frame : Dialogue (Except Failure Node × Frame))) () past _ :=
    ends_resolve_known reliable nests leads here
  obtain ⟨depth, _, later, ⟨-, node, rfl, refreshes⟩, run⟩ := ends
  rw [List.isEmpty_eq_false_iff.2 inner] at refreshes
  exact ⟨depth, node, later, run, refreshes.unfolded_iff marked openable,
    refreshes.kept_of_not_mem openable.evaluates⟩

/-! ## A structure in a structure, and a pointer in its place -/

/-- The node of this name, type and value that is marked, where gdb uses the same name for it. -/
def markedNode (name type value : String) : Node :=
  { name, gdbName := some name, type, value := some value, children := some [] }

/-- Whether a node is that one. -/
def Node.isMarked (node : Node) (name type value : String) : Bool :=
  node.name == name && node.gdbName == some name && node.type == type &&
    node.value == some value && node.children.any List.isEmpty

theorem Node.eq_of_isMarked {node : Node} {name type value : String}
    (same : node.isMarked name type value = true) : node = markedNode name type value := by
  obtain ⟨name', gdbName, type', value', children⟩ := node
  simp only [isMarked, Bool.and_eq_true, beq_iff_eq] at same
  obtain ⟨⟨⟨⟨rfl, rfl⟩, rfl⟩, rfl⟩, marked⟩ := same
  match children, marked with
  | some [], _ => rfl

/-- The type of `s.in`: a structure, or a pointer to one. -/
def innerType (pointer : Bool) : String := if pointer then "struct t *" else "struct t"

/-- The value of `s.in`. -/
def innerValue (pointer : Bool) : String := if pointer then "0x1" else "\x7bx = 1\x7d"

/-- What gdb answers about `s`, which holds nothing but `s.in`. -/
def innerAnswers (pointer : Bool) : List (String × String) := [
  ("-stack-list-variables --thread 1 --frame 0 --simple-values", "11;s;0;struct s;"),
  ("-var-create s \"*\" s", "1"),
  ("-var-list-children --all-values s 0 50",
    if pointer then "65;s.in;1;0x1;struct t *" else "65;s.in;1;\x7b...\x7d;struct t"),
  ("-data-evaluate-expression \"s\"", "60;\"\x7bin = \x7b...\x7d\x7d\""),
  ("-data-evaluate-expression \"s.in\"",
    if pointer then "60;\"0x1\"" else "60;\"\x7bx = 1\x7d\""),
  ("-var-create s.in \"*\" s.in", "1"),
  ("-var-list-children --all-values s.in 0 50", "65;s.in.x;0;1;int")]

/-- A gdb that knows no more than that. -/
def innerPeer (pointer : Bool) : Peer := .answering (innerAnswers pointer)

/-- `s.in` as it is listed. -/
def innerNode (pointer : Bool) : Node := markedNode "s.in" (innerType pointer) (innerValue pointer)

/-- No listing has a level in it. -/
theorem nestsFinitely_innerPeer (pointer : Bool) : NestsFinitely (innerPeer pointer) ⟨50, 1⟩ :=
  nestsFinitely_answering (fun _ => 0) (by cases pointer <;> decide +kernel)

/-- The child is marked when the variables of the frame are listed, and its name leads to it. -/
theorem listed_innerNode (pointer : Bool) : ∃ frame past,
    ((frameVariables ⟨50, 1⟩ 1 0 : ExceptT Failure Dialogue Frame).run.run
        (innerPeer pointer)).run [] = .ok (.ok frame) past ∧
      frame.locate? (innerNode pointer).name = some ⟨false, 0, [0]⟩ ∧
      frame.at? ⟨false, 0, [0]⟩ = some (innerNode pointer) := by
  let check (listed : Frame × List Exchange) : Bool :=
    decide (listed.1.locate? "s.in" = some ⟨false, 0, [0]⟩) &&
      (listed.1.at? ⟨false, 0, [0]⟩).any
        (·.isMarked "s.in" (innerType pointer) (innerValue pointer))
  have checked : (Dialogue.outcome? (((frameVariables ⟨50, 1⟩ 1 0 :
      ExceptT Failure Dialogue Frame).run.run (innerPeer pointer)).run [])).any check = true := by
    cases pointer <;> decide +kernel
  obtain ⟨frame, past, run, checked⟩ := Dialogue.exists_of_outcome? checked
  obtain ⟨leads, shown⟩ := (Bool.and_eq_true _ _).mp checked
  obtain ⟨node, here, same⟩ := (Option.any_eq_true _ _).1 shown
  rw [Node.eq_of_isMarked same] at here
  exact ⟨frame, past, run, of_decide_eq_true leads, here⟩

/-- gdb has an answer to each of the questions by which the child is opened. -/
theorem openable_innerNode (pointer : Bool) (past : List Exchange) :
    ∃ evaluation mid opened listed, Openable (innerPeer pointer) ⟨50, 1⟩ (innerNode pointer)
      evaluation ⟨"s.in", 1, false⟩ "65;s.in.x;0;1;int" past mid opened listed := by
  refine ⟨.ofAnswer (if pointer then "60;\"0x1\"" else "60;\"\x7bx = 1\x7d\""), _, _, _,
    .path (by cases pointer <;> decide +kernel) ?_ (.inl (by cases pointer <;> decide +kernel)),
    by cases pointer <;> decide +kernel, by cases pointer <;> decide +kernel,
    @Creates.plain _ _ _ "1" ?_ (by decide), by decide, .first ?_ (.inl (by decide)), ?_⟩
  · cases pointer <;> rfl
  · cases pointer <;> rfl
  · cases pointer <;> rfl
  · exact ⟨["s.in.x".toList, ['0'], ['1'], "int".toList], by decide +kernel, by decide +kernel⟩

/-- The pointer is expanded. -/
theorem marked_child_unfolded_pointer :
    (innerPeer true).Reliable ∧ NestsFinitely (innerPeer true) ⟨50, 1⟩ ∧ ∃ frame past,
      ((frameVariables ⟨50, 1⟩ 1 0 : ExceptT Failure Dialogue Frame).run.run
        (innerPeer true)).run [] = .ok (.ok frame) past ∧
      frame.locate? "s.in" = some ⟨false, 0, [0]⟩ ∧
      frame.at? ⟨false, 0, [0]⟩ = some (innerNode true) ∧
      ∃ evaluation mid opened listed, Openable (innerPeer true) ⟨50, 1⟩ (innerNode true)
        evaluation ⟨"s.in", 1, false⟩ "65;s.in.x;0;1;int" past mid opened listed ∧
      ∃ depth node later,
        (∀ bound, depth ≤ bound → ((resolve ⟨50, bound⟩ "s.in" frame :
            Dialogue (Except Failure Node × Frame)).run (innerPeer true)).run past =
          .ok (.ok node, frame.replaceAt ⟨false, 0, [0]⟩ node) later) ∧
        Unfolded (innerPeer true) ⟨50, 1⟩ (innerNode true) ⟨"s.in", 1, false⟩
          "65;s.in.x;0;1;int" listed node later := by
  obtain ⟨frame, past, listing, leads, here⟩ := listed_innerNode true
  obtain ⟨evaluation, mid, opened, listed, openable⟩ := openable_innerNode true past
  have nests := nestsFinitely_innerPeer true
  have reliable : (innerPeer true).Reliable := Peer.reliable_answering _
  obtain ⟨depth, node, later, run, unfolded, -⟩ := marked_child_unfolded_iff reliable nests leads
    here (List.cons_ne_nil _ _) rfl openable
  exact ⟨reliable, nests, frame, past, listing, leads, here, evaluation, mid, opened, listed,
    openable, depth, node, later, run, unfolded.2 (by decide)⟩

/-- The structure is not: it still has no children, although they could be listed. -/
theorem marked_struct_kept : ∃ frame past,
    ((frameVariables ⟨50, 1⟩ 1 0 : ExceptT Failure Dialogue Frame).run.run
        (innerPeer false)).run [] = .ok (.ok frame) past ∧
      frame.locate? "s.in" = some ⟨false, 0, [0]⟩ ∧
      frame.at? ⟨false, 0, [0]⟩ = some (innerNode false) ∧
      ∃ evaluation mid opened listed, Openable (innerPeer false) ⟨50, 1⟩ (innerNode false)
        evaluation ⟨"s.in", 1, false⟩ "65;s.in.x;0;1;int" past mid opened listed ∧
      ∃ depth node later,
        (∀ bound, depth ≤ bound → ((resolve ⟨50, bound⟩ "s.in" frame :
            Dialogue (Except Failure Node × Frame)).run (innerPeer false)).run past =
          .ok (.ok node, frame.replaceAt ⟨false, 0, [0]⟩ node) later) ∧
        ¬Unfolded (innerPeer false) ⟨50, 1⟩ (innerNode false) ⟨"s.in", 1, false⟩
          "65;s.in.x;0;1;int" listed node later := by
  obtain ⟨frame, past, listing, leads, here⟩ := listed_innerNode false
  obtain ⟨evaluation, mid, opened, listed, openable⟩ := openable_innerNode false past
  have ends : Ending.Ends (innerPeer false) (fun bound => (resolve ⟨50, bound⟩ "s.in" frame :
      Dialogue (Except Failure Node × Frame))) () past _ :=
    ends_resolve_known (Peer.reliable_answering _) (nestsFinitely_innerPeer false) leads here
  obtain ⟨depth, _, later, ⟨-, node, rfl, refreshes⟩, run⟩ := ends
  refine ⟨frame, past, listing, leads, here, evaluation, mid, opened, listed, openable, depth, node,
    later, run, fun unfolded => ?_⟩
  have star := (refreshes.unfolded_iff rfl openable).1 unfolded
  exact absurd star (by decide)

end DebugLink.Variable
