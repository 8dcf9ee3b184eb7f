import DebugLink.Proofs.ResolvedPaths

/-!
# Looking a path up twice

When a path is followed, the node that it leads to may come to have another value, another name of
gdb and other children. All of that is decided by what the peer answers about the path and its name,
and a path that has a value is never asked for under another name. So if the answers depend on the
commands alone, following the path once more changes nothing.

* `Peer.Replies`: a peer without a memory.
* `Steady`: what is asked of such a peer at another time has the same outcome.
* `Frame.locate?_replaceAt`: a path leads to the same place when the node there is replaced.
* `Expands.repeats`, `Refreshes.repeats`: what was brought up to date stays as it is.
* `lookup_repeated`: looking a path up twice is the same as once.
-/

namespace DebugLink

open Text Recorded RecordedWire

/-! ## Peers without a memory -/

/-- What the peer answers depends on the command alone. -/
def Peer.Replies (peer : Peer) (reply : String → String) : Prop :=
  ∀ past command, peer.answer past command = .ok (reply command)

namespace Peer.Replies

variable {peer : Peer} {reply : String → String}

theorem reliable (replies : peer.Replies reply) : peer.Reliable := fun past command =>
  ⟨reply command, replies past command⟩

theorem eq_reply (replies : peer.Replies reply) {past : List Exchange} {command answer : String}
    (said : peer.Says past ⟨command, .ok answer⟩) : answer = reply command :=
  (Except.ok.inj ((replies _ command).symm.trans said)).symm

/-- All conversations are alike to it. -/
theorem agrees (replies : peer.Replies reply) : peer.Agrees fun _ _ => True where
  same _ said said' := (replies.eq_reply said).trans (replies.eq_reply said').symm
  further _ _ := trivial

end Peer.Replies

/-- A dialogue, of which it is asked whether it has the same outcome at any time. -/
def Steady (α : Type) : Type := Dialogue α

namespace Steady

instance : Monad Steady := inferInstanceAs (Monad Dialogue)

instance : LawfulMonad Steady := inferInstanceAs (LawfulMonad Dialogue)

instance : Wire Steady := inferInstanceAs (Wire Dialogue)

/-- With a peer without a memory, what comes to a value after some exchanges comes to the same value
after any others. -/
def Same {α : Type} (x : Dialogue α) : Prop :=
  ∀ (peer : Peer) {reply : String → String}, peer.Replies reply → ∀ {past now : List Exchange}
    {a : α}, (x.run peer).run past = .ok a now → ∀ past', ∃ now',
      (x.run peer).run past' = .ok a now'

/-- Two calls that depend on the replies alone do so one after the other. -/
theorem same_bind {α β : Type} {x : Dialogue α} {f : α → Dialogue β} (hx : Same x)
    (hf : ∀ a, Same (f a)) : Same (x >>= f) := by
  intro peer reply replies past now b run past'
  obtain ⟨a, mid, first, second⟩ := Dialogue.of_bind_ok run
  obtain ⟨mid', first'⟩ := hx peer replies first past'
  obtain ⟨now', second'⟩ := hf a peer replies second mid'
  exact ⟨now', (Dialogue.run_bind first').trans second'⟩

/-- Whether anything is asked does not matter here. -/
instance : RecordedWire Steady where
  Grows x := Same x
  Asks x := Same x
  grows_of_asks same := same
  grows_pure a := by
    intro peer reply replies past now b run past'
    cases run
    exact ⟨past', rfl⟩
  grows_bind := same_bind
  asks_bind := same_bind
  asks_ask command := by
    intro peer reply replies past now outcome run past'
    have asked : ∀ past, (((Wire.ask command : Dialogue _)).run peer).run past =
        .ok (.ok (reply command)) (⟨command, .ok (reply command)⟩ :: past) := fun past =>
      (bind_pure (Wire.ask command : Dialogue _)) ▸
        Dialogue.run_ask (e := ⟨command, .ok (reply command)⟩) (replies _ command) pure
    cases (asked past).symm.trans run
    exact ⟨_, asked past'⟩
  asks_overrun := by
    intro α peer reply replies past now a run
    cases run

end Steady

namespace Variable

/-! ## Free expressions -/

/-- Resolving an expression only adds to the history. -/
theorem grows_resolveExpression {m : Type → Type} [Monad m] [LawfulMonad m] [Wire m]
    [RecordedWire m] (limits : Limits) (expression : String) :
    Grows (resolveExpression limits expression : ExceptT Failure m Node) := by
  refine grows_bind (grows_evaluate expression none) fun evaluation => ?_
  split
  · exact grows_pure _
  refine grows_bind (grows_of_asks (asks_request _)) fun declared => ?_
  refine grows_bind (grows_of_asks (asks_request _)) fun detailed => ?_
  extract_lets shape leaf
  split
  · split
    · exact grows_pure _
    · exact grows_build limits expression declared shape _
  · split
    · exact grows_build limits expression declared shape _
    · exact grows_pure _

/-! ## The path still leads there -/

/-- In a row of nodes of which one is changed, all have the names that they had. -/
theorem map_name_modify {nodes : List Node} {i : Nat} {change : Node → Node}
    (kept : ∀ node, nodes[i]? = some node → (change node).name = node.name) :
    (nodes.modify i change).map Node.name = nodes.map Node.name := by
  refine List.ext_getElem? fun j => ?_
  rw [List.getElem?_map, List.getElem?_map, List.getElem?_modify]
  by_cases same : i = j
  · subst same
    cases here : nodes[i]? with
    | none => rfl
    | some node => simp [kept node here]
  · simp [if_neg same]

namespace Node

variable {node old new : Node} {path : List Nat}

/-- Of two replacements in one place the second holds. -/
theorem replaceAt_replaceAt (node first second : Node) (path : List Nat) :
    (node.replaceAt path first).replaceAt path second = node.replaceAt path second := by
  induction path generalizing node with
  | nil => rfl
  | cons i path ih =>
    simp only [replaceAt, Option.map_map, Function.comp_def, List.modify_modify_eq, ih]

/-- A replacement under its own name keeps the name of the node above it, and its own. -/
theorem name_replaceAt (here : node.at? path = some old) (named : new.name = old.name) :
    (node.replaceAt path new).name = node.name := by
  cases path with
  | nil =>
    cases here
    exact named
  | cons i path => rfl

/-- The names of the children. -/
def childNames (node : Node) : List String := (node.children.getD []).map (·.name)

/-- Unless it is at the place or below it, a node has children of the same names. -/
theorem childNames_replaceAt (here : node.at? path = some old) (named : new.name = old.name)
    {elsewhere : List Nat} (other : ¬path <+: elsewhere) :
    ((node.replaceAt path new).at? elsewhere).map childNames =
      (node.at? elsewhere).map childNames := by
  induction path generalizing node elsewhere with
  | nil => exact absurd List.nil_prefix other
  | cons i path ih =>
    obtain ⟨child, known, here⟩ := Option.bind_eq_some_iff.1 here
    cases elsewhere with
    | nil =>
      rw [at?, at?, Option.map_some, Option.map_some, childNames, children_replaceAt]
      refine congrArg some (map_name_modify fun other known' => ?_)
      cases known.symm.trans known'
      exact name_replaceAt here named
    | cons j elsewhere =>
      rw [at?, at?, children_replaceAt]
      refine view_modify _ fun same other' known' => ?_
      cases known.symm.trans known'
      refine ih here fun leads => other ?_
      rw [same]
      exact (List.prefix_cons_inj j).2 leads

end Node

namespace Frame

variable {frame : Frame} {place : Place} {old new : Node}

/-- The same for a place in a frame. -/
theorem replaceAt_replaceAt (frame : Frame) (place : Place) (first second : Node) :
    (frame.replaceAt place first).replaceAt place second = frame.replaceAt place second := by
  unfold replaceAt
  cases place.isArgument <;>
    simp [List.modify_modify_eq, Function.comp_def, Node.replaceAt_replaceAt]

/-- It keeps the names of all variables of the frame. -/
theorem names_replaceAt (here : frame.at? place = some old) (named : new.name = old.name) :
    (frame.replaceAt place new).locals.map Node.name = frame.locals.map Node.name ∧
      (frame.replaceAt place new).arguments.map Node.name = frame.arguments.map Node.name := by
  obtain ⟨root, known, here⟩ := Option.bind_eq_some_iff.1 here
  have kept : ∀ node : Node, some root = some node →
      (node.replaceAt place.children new).name = node.name := by
    rintro _ ⟨⟩
    exact Node.name_replaceAt here named
  unfold replaceAt
  cases side : place.isArgument with
  | true =>
    rw [side, if_pos rfl] at known
    exact ⟨rfl, map_name_modify fun node found => kept node (known.symm.trans found)⟩
  | false =>
    rw [side, if_neg Bool.false_ne_true] at known
    exact ⟨map_name_modify fun node found => kept node (known.symm.trans found), rfl⟩

theorem findIdx?_name (nodes : List Node) (name : String) :
    nodes.findIdx? (·.name == name) = (nodes.map Node.name).findIdx? (· == name) :=
  Eq.symm (List.findIdx?_map ..)

theorem root?_replaceAt (here : frame.at? place = some old) (named : new.name = old.name)
    (name : String) : (frame.replaceAt place new).root? name = frame.root? name := by
  obtain ⟨locals, arguments⟩ := names_replaceAt here named
  simp only [root?, findIdx?_name, locals, arguments]

/-- It keeps what a name finds in any node outside the one replaced. -/
theorem child?_replaceAt (here : frame.at? place = some old) (named : new.name = old.name)
    {outer : Place} (other : ¬outer.Within place) (name : String) :
    (frame.replaceAt place new).child? outer name = frame.child? outer name := by
  have names : ((frame.replaceAt place new).at? outer).map Node.childNames =
      (frame.at? outer).map Node.childNames := by
    refine view_replaceAt fun side root node known => ?_
    have here : node.at? place.children = some old := by
      have whole : frame.at? place = _ := at?_append { place with children := [] } place.children
      rw [here, known, Option.bind_some] at whole
      exact whole.symm
    exact Node.childNames_replaceAt here named fun leads => other ⟨side.symm, root.symm, leads⟩
  have byNames : ∀ frame : Frame, frame.child? outer name =
      ((frame.at? outer).map Node.childNames).bind fun names =>
        (names.findIdx? (· == name)).map fun i =>
          { outer with children := outer.children ++ [i] } := by
    intro frame
    rw [child?, Option.bind_map]
    exact congrArg _ (funext fun node => by rw [findIdx?_name]; rfl)
  rw [byNames, byNames, names]

/-- Each step leads one level down. -/
theorem length_walk {outer : Place} {steps : List (List Char)}
    (found : frame.walk (some outer) steps = some place) :
    place.children.length = outer.children.length + steps.length := by
  induction steps generalizing outer with
  | nil =>
    cases found
    rfl
  | cons step steps ih =>
    obtain ⟨next, known, found⟩ := Option.bind_eq_some_iff.1 found
    obtain ⟨i, behind⟩ := children_of_child? frame known
    have below := ih found
    simp only [behind, List.length_append, List.length_cons, List.length_nil] at below ⊢
    omega

/-- **A path that found the node finds it again after the replacement.** -/
theorem walk_replaceAt (here : frame.at? place = some old) (named : new.name = old.name)
    {place? : Option Place} {steps : List (List Char)}
    (found : frame.walk place? steps = some place) :
    (frame.replaceAt place new).walk place? steps = some place := by
  induction steps generalizing place? with
  | nil => exact found
  | cons step steps ih =>
    -- each step looks at names, and the replacement keeps them
    have same : (frame.replaceAt place new).lookUp { place? } step =
        frame.lookUp { place? } step := by
      cases place? with
      | none => simp only [lookUp, root?_replaceAt here named]
      | some outer =>
        -- every node on the way is above the place
        have above : ¬outer.Within place := fun within => by
          have longer := length_walk found
          have shorter := within.2.2.length_le
          rw [List.length_cons] at longer
          omega
        simp only [lookUp, child?_replaceAt here named above]
    obtain ⟨next, known, found⟩ := Option.bind_eq_some_iff.1 found
    rw [walk, same, known, Option.bind_some]
    exact ih found

/-- **The path leads to the same place** when the node there is replaced by one of its name. -/
theorem locate?_replaceAt {path : String} (leads : frame.locate? path = some place)
    (here : frame.at? place = some old) (named : new.name = old.name) :
    (frame.replaceAt place new).locate? path = some place := by
  rw [← walk_steps] at leads ⊢
  exact walk_replaceAt here named leads

end Frame

/-! ## What is up to date -/

section Repeats

variable {peer : Peer} {reply : String → String} {limits : Limits} {past past' later later' :
  List Exchange} {node after again : Node}

/-- A path that has a value is not asked for under another name. -/
theorem Evaluates.eq_ofAnswer (replies : peer.Replies reply) {path : String}
    (named : askedFor path ≠ "") (valid : isValue (reply (evaluateCommand (askedFor path))) = true)
    {gdbName : Option String} {evaluation : Evaluation}
    (evaluates : Evaluates peer past path gdbName evaluation later) :
    evaluation = .ofAnswer (reply (evaluateCommand (askedFor path))) := by
  cases evaluates with
  | empty unnamed => exact absurd unnamed named
  | path _ said => rw [replies.eq_reply said]
  | object _ said refused =>
    rw [replies.eq_reply said] at refused
    exact absurd (refused.symm.trans valid) Bool.false_ne_true

/-- To open a node again for the same object makes no difference. -/
theorem Node.opened_opened (node : Node) (object : VarObject) (children : Option (List Node)) :
    ({ node.opened object with children } : Node).opened object = node.opened object := by
  unfold opened
  cases object.renamed <;> rfl

/-- To give a node the value that it has makes no difference. -/
theorem Node.with_value {value : String} (valued : node.value = some value) :
    ({ node with value := some value } : Node) = node := by
  cases node
  cases valued
  rfl

/-- **A node that was expanded** comes to be the same when it is expanded again. -/
theorem Expands.repeats (replies : peer.Replies reply) {type : String}
    (first : Expands peer limits type node past after later)
    (second : Expands peer limits type after past' again later') : again = after := by
  have agrees := replies.agrees
  -- alike replies create alike, so the second expansion takes the case of the first
  cases first with
  | refused created =>
    cases second with
    | refused => rfl
    | childless created' => cases (created.alike agrees created' trivial).1
    | listed created' => cases (created.alike agrees created' trivial).1
  | childless created none =>
    cases second with
    | refused created' => cases (created.alike agrees created' trivial).1
    | childless created' =>
      cases (created.alike agrees created' trivial).1
      exact Node.opened_opened node _ (some [])
    | listed created' filled =>
      cases (created.alike agrees created' trivial).1
      exact absurd none filled
  | listed created filled lists adds =>
    cases second with
    | refused created' => cases (created.alike agrees created' trivial).1
    | childless created' none =>
      cases (created.alike agrees created' trivial).1
      exact absurd none filled
    | listed created' _ lists' adds' =>
      cases (created.alike agrees created' trivial).1
      rw [Node.opened_opened] at lists' ⊢
      cases (lists.alike agrees lists' trivial).1
      cases (adds.alike agrees adds' rfl trivial).1
      rfl

/-- **A node that was brought up to date** stays as it is. -/
theorem Refreshes.repeats (replies : peer.Replies reply) {path : String} {isRoot : Bool}
    (named : askedFor path ≠ "") (valid : isValue (reply (evaluateCommand (askedFor path))) = true)
    (first : Refreshes peer limits path isRoot node past after later)
    (second : Refreshes peer limits path isRoot after past' again later') : again = after := by
  obtain ⟨-, typed, evaluation, mid, evaluates, valued, -⟩ := first.keeps
  rw [evaluates.eq_ofAnswer replies named valid] at valued
  have kept := Node.with_value valued
  cases second with
  | same => rfl
  | valued evaluates' => rw [evaluates'.eq_ofAnswer replies named valid, kept]
  | expanded evaluates' fresh' needed' expands' =>
    -- it was expanded before as well, since neither its type nor its value is another one
    rw [evaluates'.eq_ofAnswer replies named valid] at fresh' needed' expands'
    cases first with
    | same evaluates same =>
      rw [evaluates.eq_ofAnswer replies named valid] at same
      exact absurd (fresh'.symm.trans same) Bool.false_ne_true
    | valued evaluates _ settled =>
      rw [evaluates.eq_ofAnswer replies named valid] at settled
      exact absurd (settled.symm.trans needed') Bool.false_ne_true
    | expanded _ _ _ expands =>
      rw [← typed] at expands
      rw [kept] at expands'
      exact expands.repeats replies expands'

end Repeats

/-! ## Following the path again -/

/-- **A free expression** has the same node at any time. -/
theorem same_resolve_free (limits : Limits) {path : String} {frame : Frame}
    (free : frame.locate? path = none) :
    Steady.Same (resolve limits path frame : Dialogue (Except Failure Node × Frame)) := by
  have node : Steady.Same (resolveExpression limits path : ExceptT Failure Dialogue Node).run :=
    grows_resolveExpression (m := Steady) limits path
  rw [resolve_eq, free]
  exact Steady.same_bind node fun outcome => grows_pure (m := Steady) (outcome, frame)

/-- To follow a free expression comes to an end, and the frame stays. -/
theorem exists_run_free {limits : Limits} {peer : Peer} {reply : String → String}
    (replies : peer.Replies reply) (nests : NestsFinitely peer limits) {path : String}
    {frame : Frame} (free : frame.locate? path = none) (past : List Exchange) :
    ∃ depth node later, ∀ bound, depth ≤ bound →
      ((resolve { limits with maxDepth := bound } path frame :
          Dialogue (Except Failure Node × Frame)).run peer).run past =
        .ok (.ok node, frame) later := by
  have ends : Ending.Ends peer (fun bound => (resolve { limits with maxDepth := bound } path
      frame : Dialogue (Except Failure Node × Frame))) () past _ :=
    ends_resolve replies.reliable nests path frame
  obtain ⟨depth, ⟨_, after⟩, later, ⟨node, trace, rfl, -, resolution⟩, run⟩ := ends
  obtain ⟨place, leads, -⟩ | ⟨-, rfl, -⟩ := resolution.touched
  · exact absurd (free.symm.trans leads) nofun
  · exact ⟨depth, node, later, run⟩

/-- **Looking a path up twice** is the same as once, for every frame, every path and every peer
whose answers depend on the command alone, that nests access levels only finitely and has a value
for the path. Both times following the path comes to an end, so that from some depth on the bound on
nested calls does not matter. The node is the same both times, and so is the frame. -/
theorem lookup_repeated (limits : Limits) {peer : Peer} {reply : String → String}
    (replies : peer.Replies reply) (nests : NestsFinitely peer limits) {path : String}
    (named : askedFor path ≠ "") (valid : isValue (reply (evaluateCommand (askedFor path))) = true)
    (frame : Frame) (past : List Exchange) :
    ∃ depth node after mid later, ∀ bound, depth ≤ bound →
      ((resolve { limits with maxDepth := bound } path frame :
          Dialogue (Except Failure Node × Frame)).run peer).run past =
        .ok (.ok node, after) mid ∧
      ((resolve { limits with maxDepth := bound } path after :
          Dialogue (Except Failure Node × Frame)).run peer).run mid =
        .ok (.ok node, after) later := by
  cases leads : frame.locate? path with
  | none =>
    obtain ⟨depth, node, mid, run⟩ := exists_run_free replies nests leads past
    obtain ⟨depth', again, later, run'⟩ := exists_run_free replies nests leads mid
    obtain ⟨more, steady⟩ := same_resolve_free { limits with maxDepth := max depth depth' } leads
      peer replies (run _ (Nat.le_max_left depth depth')) mid
    cases (run' _ (Nat.le_max_right depth depth')).symm.trans steady
    refine ⟨max depth depth', node, frame, mid, later, fun bound enough => ?_⟩
    exact ⟨run bound (Nat.max_le.1 enough).1, run' bound (Nat.max_le.1 enough).2⟩
  | some place =>
    obtain ⟨old, here, same⟩ := Frame.at?_locate? leads
    have first : Ending.Ends peer (fun bound => (resolve { limits with maxDepth := bound } path
        frame : Dialogue (Except Failure Node × Frame))) () past _ :=
      ends_resolve_known replies.reliable nests leads here
    obtain ⟨depth, _, mid, ⟨-, node, rfl, refreshes⟩, run⟩ := first
    have kept := refreshes.keeps.1
    have second : Ending.Ends peer (fun bound => (resolve { limits with maxDepth := bound } path
        (frame.replaceAt place node) : Dialogue (Except Failure Node × Frame))) () mid _ :=
      ends_resolve_known replies.reliable nests (Frame.locate?_replaceAt leads here kept)
        (Frame.at?_replaceAt here node)
    obtain ⟨depth', _, later, ⟨-, again, rfl, refreshes'⟩, run'⟩ := second
    rw [refreshes.repeats replies named valid refreshes', Frame.replaceAt_replaceAt] at run'
    refine ⟨max depth depth', node, frame.replaceAt place node, mid, later, fun bound enough => ?_⟩
    exact ⟨run bound (Nat.max_le.1 enough).1, run' bound (Nat.max_le.1 enough).2⟩

/-- The pointer to an object with a member is looked up twice. -/
theorem lookup_repeated_pointer : ∃ reply, memberPeer.Replies reply ∧
    NestsFinitely memberPeer ⟨50, 0⟩ ∧ askedFor "s.p" ≠ "" ∧
    isValue (reply (evaluateCommand (askedFor "s.p"))) = true ∧
    ∃ depth node after mid later, ∀ bound, depth ≤ bound →
      ((resolve ⟨50, bound⟩ "s.p" pointerFrame :
          Dialogue (Except Failure Node × Frame)).run memberPeer).run [] =
        .ok (.ok node, after) mid ∧
      ((resolve ⟨50, bound⟩ "s.p" after :
          Dialogue (Except Failure Node × Frame)).run memberPeer).run mid =
        .ok (.ok node, after) later := by
  let reply (command : String) : String := (memberAnswers.lookup command).getD ""
  have replies : memberPeer.Replies reply := fun _ _ => rfl
  have named : askedFor "s.p" ≠ "" := by decide
  have valid : isValue (reply (evaluateCommand (askedFor "s.p"))) = true := by decide +kernel
  exact ⟨reply, replies, nestsFinitely_memberPeer, named, valid,
    lookup_repeated ⟨50, 0⟩ replies nestsFinitely_memberPeer named valid pointerFrame []⟩

end Variable

end DebugLink
