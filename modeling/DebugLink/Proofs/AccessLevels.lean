import DebugLink.Proofs.LevelParts

/-!
# Flattening access levels

A node is expanded by the parts of its object, in whatever levels gdb puts them.

* `Listed`: gdb lists these parts of a node.
* `run_expand`: the node gets the nodes of the parts.
* `levels_flattened_iff`: when all of them are shown as parts of the node.
-/

namespace DebugLink.Variable

open Text

/-- The name of the object that stands for a node. -/
def objectName (name : String) (renamed : Bool) : String :=
  if renamed then objectLead ++ name else name

theorem objectName_ne (name : String) : objectName name true ≠ name := by
  intro same
  have lengths := congrArg String.length same
  simp [objectName, objectLead] at lengths

/-- gdb lists these parts of a node: it creates an object of the node's name or, if it refuses that,
of the longer one, and lists each level when it is asked for. -/
structure Listed (peer : Peer) (limits : Limits) (name : String) (renamed : Bool) (parts : Parts) :
    Prop where
  refused : renamed = true → peer.Gives (createCommand name name) Mi.errorAnswer
  created : ∃ answer count, peer.Gives (createCommand (objectName name renamed) name) answer ∧
    answer ≠ Mi.errorAnswer ∧ readTrimmed32 answer.toList = some (count + 1)
  listed : peer.Gives (childrenCommand limits (objectName name renamed))
    (parts.listing (objectName name renamed).toList)
  levels : parts.Answered peer limits (objectName name renamed).toList
  deleted : ∃ answer, peer.Gives (deleteCommand (objectName name renamed)) answer

section Expand

variable {limits : Limits} {peer : Peer} {σ : Type}

theorem run_createAs {object name answer : String}
    (given : peer.Gives (createCommand object name) answer) (s : σ) (past : List Exchange) :
    (((createAs object name : ExceptT Failure (StateT σ Dialogue) (Option VarObject)).run.run s).run
        peer).run past =
      .ok (.ok (if answer = Mi.errorAnswer then none
          else some ⟨object, (readTrimmed32 answer.toList).getD 0, object != name⟩), s)
        (⟨createCommand object name, .ok answer⟩ :: past) := by
  have spoken : peer.Says past ⟨createCommand object name, .ok answer⟩ := given _
  refine (Dialogue.run_request_state spoken _ s).trans ?_
  split <;> rfl

/-- The object that stands for the node is created. -/
theorem run_createObject {name : String} {renamed : Bool} {parts : Parts}
    (listed : Listed peer limits name renamed parts) (s : σ) (past : List Exchange) :
    ∃ count mid, (((createObject name :
        ExceptT Failure (StateT σ Dialogue) (Option VarObject)).run.run s).run peer).run past =
      .ok (.ok (some ⟨objectName name renamed, count + 1, renamed⟩), s) mid := by
  obtain ⟨answer, count, given, accepted, read⟩ := listed.created
  have created : ∀ past, (((createAs (objectName name renamed) name :
      ExceptT Failure (StateT σ Dialogue) (Option VarObject)).run.run s).run peer).run past =
      .ok (.ok (some ⟨objectName name renamed, count + 1, objectName name renamed != name⟩), s)
        (⟨createCommand (objectName name renamed) name, .ok answer⟩ :: past) := by
    intro past
    rw [run_createAs given s past, if_neg accepted, read, Option.getD_some]
  unfold createObject
  cases renamed with
  | false =>
    have same : (objectName name false != name) = false := by simp [objectName]
    rw [same] at created
    exact ⟨count, _, Dialogue.run_bind_of_run (created past)⟩
  | true =>
    have refused := run_createAs (listed.refused rfl) s past
    rw [if_pos rfl] at refused
    have longer : (objectName name true != name) = true := bne_iff_ne.2 (objectName_ne name)
    rw [longer] at created
    exact ⟨count, _, (Dialogue.run_bind_of_run refused).trans (created _)⟩

/-- The longer name of an object owns parts as the plain one does. -/
theorem ownerName_objectName {name : String} (nodeName : OwnerName name.toList) (renamed : Bool) :
    OwnerName (objectName name renamed).toList := by
  cases renamed with
  | false => exact nodeName
  | true =>
    have longer := nodeName.prefixed
    rwa [← String.toList_append] at longer

/-- What is known of names before anything is listed. -/
def firstNames (name : String) (renamed : Bool) : NameMap :=
  if renamed then ({} : NameMap).bind (objectName name renamed).toList name.toList else {}

theorem knows_firstNames (name : String) (renamed : Bool) :
    Knows name.toList (objectName name renamed).toList (firstNames name renamed)
      (objectName name renamed).toList := by
  cases renamed with
  | false => exact .inr ⟨rfl, rfl, rfl⟩
  | true => exact .inl rfl

/-- The parts are added to the node. -/
theorem run_growFrom {node : Node} {renamed : Bool} {parts : Parts}
    (nodeName : OwnerName node.name.toList) (listed : Listed peer limits node.name renamed parts)
    (fits : parts.depth ≤ limits.maxDepth) (shape : Shape) (count : Nat)
    (known : renamed = true → node.gdbName = some (objectName node.name renamed))
    (past : List Exchange) :
    ∃ now, (((growFrom limits shape ⟨objectName node.name renamed, count, renamed⟩ :
        ExceptT Failure (StateT Node Dialogue) Unit).run.run node).run peer).run past =
      .ok (.ok (), ((⟨node, {}⟩ : Growth).grown (parts.nodes shape node.name.toList
        (objectName node.name renamed).toList (firstNames node.name renamed))).node) now := by
  let growth : Growth := ⟨node, firstNames node.name renamed⟩
  have object : listedObject growth.node renamed none =
      String.ofList (objectName node.name renamed).toList := by
    rw [String.ofList_toList]
    cases renamed with
    | false => rfl
    | true => simp [growth, listedObject, known]
  have asked : peer.Gives
      (childrenCommand limits (String.ofList (objectName node.name renamed).toList))
      (parts.listing (objectName node.name renamed).toList) := by
    rw [String.ofList_toList]
    exact listed.listed
  have below := Below.refl (ownerName_objectName nodeName renamed)
  obtain ⟨now, run⟩ := run_level shape parts below fits past object asked listed.levels
  refine ⟨now, (Dialogue.run_bind run).trans ?_⟩
  rw [← Growth.mk_grown node {}]
  rfl

/-- **Expanding a node** comes to an end, and its children are the nodes of its parts. -/
theorem run_expand (limits : Limits) (type : String) {node : Node}
    (nodeName : OwnerName node.name.toList) {renamed : Bool} {parts : Parts}
    (fits : parts.depth ≤ limits.maxDepth) (listed : Listed peer limits node.name renamed parts)
    (past : List Exchange) :
    ∃ after now, (((expand limits type :
        ExceptT Failure (StateT Node Dialogue) Unit).run.run node).run peer).run past =
          .ok (.ok (), after) now ∧
      after.children = some (parts.nodes (.ofType type) node.name.toList
        (objectName node.name renamed).toList (firstNames node.name renamed)) := by
  obtain ⟨count, mid, created⟩ := run_createObject listed node past
  let shape := Shape.ofType type
  let nodes := parts.nodes shape node.name.toList (objectName node.name renamed).toList
    (firstNames node.name renamed)
  -- the node as it is when its children are asked for
  let opened : Node := { node with
    gdbName := if renamed then some (objectName node.name renamed) else node.gdbName
    children := some [] }
  have known : renamed = true → opened.gdbName = some (objectName opened.name renamed) :=
    fun longer => if_pos longer
  have named : OwnerName opened.name.toList := nodeName
  obtain ⟨mid', grown⟩ := run_growFrom named listed fits shape (count + 1) known mid
  obtain ⟨answer, given⟩ := listed.deleted
  have deleted : peer.Says mid' ⟨deleteCommand (objectName node.name renamed), .ok answer⟩ :=
    given _
  let after : Node := ((⟨opened, {}⟩ : Growth).grown nodes).node
  have run : (((expand limits type : ExceptT Failure (StateT Node Dialogue) Unit).run.run node).run
      peer).run past = .ok (.ok (), after)
        (⟨deleteCommand (objectName node.name renamed), .ok answer⟩ :: mid') := by
    unfold expand
    rw [run_bind_of_pure (run_get node)]
    refine (Dialogue.run_bind_of_run created).trans ?_
    have prepared : ∀ next : Unit → ExceptT Failure (StateT Node Dialogue) Unit,
        (((if renamed = true then do
            modify fun n => { n with gdbName := some (objectName node.name renamed) }
            modify fun n => { n with children := some [] }
            next ()
          else do
            modify fun n => { n with children := some [] }
            next () : ExceptT Failure (StateT Node Dialogue) Unit).run.run node).run peer).run mid =
          (((next ()).run.run opened).run peer).run mid := by
      intro next
      cases renamed <;> rfl
    refine (prepared fun _ => do
      growFrom limits shape ⟨objectName node.name renamed, count + 1, renamed⟩
      discard (Wire.request (deleteCommand (objectName node.name renamed)))).trans ?_
    exact (Dialogue.run_bind_of_run grown).trans
      (Dialogue.run_request_state deleted (fun _ => pure ()) after)
  have empty : (⟨opened, {}⟩ : Growth).node.children = some [] := rfl
  exact ⟨after, _, run, Growth.children_grown_some empty nodes⟩

/-- **Access levels are flattened**: expanding a node comes to an end, and its children are its
parts, in order and without levels. They are all shown under the name of the node exactly if the
variable object has that name, or if no part stands behind a level. -/
theorem levels_flattened_iff (limits : Limits) (type : String) {node : Node}
    (nodeName : OwnerName node.name.toList) {renamed : Bool} {parts : Parts}
    (fits : parts.depth ≤ limits.maxDepth) (listed : Listed peer limits node.name renamed parts)
    (past : List Exchange) :
    ∃ after children now, (((expand limits type :
        ExceptT Failure (StateT Node Dialogue) Unit).run.run node).run peer).run past =
          .ok (.ok (), after) now ∧ after.children = some children ∧
      children.length = parts.fields.length ∧
      (children.map (·.name) = parts.fields.map (fun part =>
          String.ofList ((Shape.ofType type).part node.name.toList part)) ↔
        (renamed = true → parts.Ordered)) := by
  obtain ⟨after, now, run, children⟩ := run_expand limits type nodeName fits listed past
  refine ⟨after, _, now, run, children, parts.length_nodes _ _, ?_⟩
  have ownerName := ownerName_objectName nodeName renamed
  refine (parts.names_nodes_iff nodeName ownerName (.refl ownerName)
    (knows_firstNames node.name renamed) (List.prefix_refl _)).trans ?_
  cases renamed with
  | false => simp [objectName]
  | true =>
    have longer := mt String.toList_inj.1 (objectName_ne node.name)
    simp [longer]

end Expand

/-- A field with a number for its value. -/
def numberPart (name : List Char) (partName : PartName name) : ListedPart where
  name
  partName
  details := ⟨[['0'], ['2'], "int".toList], by simp⟩
  settled := by decide

/-- The field `b`, and a public level with the field `a` before or behind it. -/
def onePublic (first : Bool) : Parts :=
  let a := numberPart ['a'] ⟨by simp, by decide, by decide⟩
  let b := numberPart ['b'] ⟨by simp, by decide, by decide⟩
  let level := Parts.level ⟨"public".toList, by decide⟩ ⟨[['1'], [], []], by simp⟩
    (.field a .none)
  if first then level (.field b .none) else .field b (level .none)

/-- The node of `_x` before it is expanded. -/
def nodeOfX : Node := { name := "_x", type := "struct s", value := none }

/-- What gdb answers about `_x`, a name that it refuses for an object. -/
def onePublicAnswers (first : Bool) : Peer := .answering [
  ("-var-create _x \"*\" _x", "ERROR"), ("-var-create vo__x \"*\" _x", "2"),
  ("-var-list-children --all-values vo__x 0 50",
    if first then "65;vo__x.public;1;;#vo__x.b;0;2;int" else "65;vo__x.b;0;2;int#vo__x.public;1;;"),
  ("-var-list-children --all-values vo__x.public 0 50", "65;vo__x.public.a;0;2;int")]

/-- The answers of the example list what it stands for. -/
theorem listed_onePublic (first : Bool) :
    Listed (onePublicAnswers first) ⟨50, 10⟩ nodeOfX.name true (onePublic first) := by
  have inner : (onePublic first).Answered (onePublicAnswers first) ⟨50, 10⟩ "vo__x".toList := by
    cases first
    · exact ⟨fun _ => rfl, trivial, trivial⟩
    · exact ⟨fun _ => rfl, trivial, trivial⟩
  refine ⟨fun _ _ => rfl, ⟨"2", 1, fun _ => rfl, by decide, by decide⟩, fun _ => ?_, inner,
    "", fun _ => rfl⟩
  cases first <;> rfl

/-- The name of the variable owns its parts. -/
theorem ownerName_x : OwnerName nodeOfX.name.toList where
  given := by decide
  whole := List.all_iff_forall_prop.1 (by decide)
  undivided := by decide
  direct := by decide
  plain := by decide

/-- With the field before the level, both are shown under the name of the node. -/
theorem levels_flattened_ordered : ∃ after children now,
    (((expand ⟨50, 10⟩ "struct s" : ExceptT Failure (StateT Node Dialogue) Unit).run.run
        nodeOfX).run (onePublicAnswers false)).run [] = .ok (.ok (), after) now ∧
      after.children = some children ∧ children.map (·.name) = ["_x.b", "_x.a"] := by
  have fits : (onePublic false).depth ≤ (⟨50, 10⟩ : Limits).maxDepth := by decide
  obtain ⟨after, children, now, run, listed, -, shown⟩ :=
    levels_flattened_iff ⟨50, 10⟩ "struct s" ownerName_x fits (listed_onePublic false) []
  refine ⟨after, children, now, run, listed, ?_⟩
  exact (shown.2 fun _ => ⟨trivial, trivial, trivial⟩).trans (by decide)

/-- With the field behind the level, it is shown with the longer name of the object. -/
theorem levels_flattened_disordered : ∃ after children now,
    (((expand ⟨50, 10⟩ "struct s" : ExceptT Failure (StateT Node Dialogue) Unit).run.run
        nodeOfX).run (onePublicAnswers true)).run [] = .ok (.ok (), after) now ∧
      after.children = some children ∧ children.map (·.name) = ["_x.a", "vo__x.b"] ∧
      (onePublic true).fields.map (fun part =>
        String.ofList ((Shape.ofType "struct s").part nodeOfX.name.toList part)) =
          ["_x.a", "_x.b"] := by
  have fits : (onePublic true).depth ≤ (⟨50, 10⟩ : Limits).maxDepth := by decide
  obtain ⟨after, now, run, listed⟩ :=
    run_expand ⟨50, 10⟩ "struct s" ownerName_x fits (listed_onePublic true) []
  exact ⟨after, _, now, run, listed, by decide, by decide⟩

end DebugLink.Variable
