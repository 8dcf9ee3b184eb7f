import DebugLink.Proofs.RefreshedNodes

/-!
# What a path is resolved to

A path is evaluated itself before anything else, whatever it leads to. A node of the frame that it
leads to has the path for its name, and is brought up to date in its place: nothing else changes in
the frame, and no types are asked for. Any other path is a free expression, and the frame stays. In
an orderly frame the name of a node always leads to that node.

* `Inquiry.cases`: what is asked when a node is looked at.
* `AskedFirst`, `Evaluates.exists_lead`: what is asked first.
* `Updated`, `updated_of_evaluates`: a node in its place is brought up to date.
* `ends_build`, `ends_resolveExpression`: a free expression comes to a node.
* `ends_resolve`: following a path comes to an end.
* `path_resolved`: what a path is resolved to.
-/

namespace DebugLink

open Text Ending

namespace Variable

/-! ## Commands -/

/-- Different texts are quoted differently: the escapes can be taken back. -/
theorem quote_injective : Function.Injective Mi.quote := by
  intro a b same
  have quoted := String.ofList_injective same
  have written := (List.cons.inj (List.append_cancel_right quoted)).2
  rw [← String.toList_inj, ← Mi.unescape_escape a.toList, written, Mi.unescape_escape]

/-- Different expressions are asked for by different commands. -/
theorem evaluateCommand_injective : Function.Injective evaluateCommand := by
  intro a b same
  have whole := congrArg String.toList same
  unfold evaluateCommand at whole
  rw [String.toList_append, String.toList_append] at whole
  exact quote_injective (String.toList_inj.1 (List.append_cancel_left whole))

/-- What leads a text leads every longer one. -/
theorem startsWith_append {lead head : String} (leads : startsWith lead head = true)
    (rest : String) : startsWith lead (head ++ rest) = true := by
  unfold startsWith at leads ⊢
  rw [List.isPrefixOf_iff_prefix] at leads ⊢
  rw [String.toList_append]
  exact leads.trans (List.prefix_append _ _)

/-- A node is looked at by questions for values, and by commands about variable objects. -/
theorem Inquiry.cases {command : String} (inquiry : Inquiry command) :
    (∃ expression, expression ≠ "" ∧ command = evaluateCommand expression) ∨
      startsWith "-var-" command = true := by
  cases inquiry with
  | evaluate named => exact .inl ⟨_, named, rfl⟩
  | create object name =>
    unfold createCommand
    rw [String.append_assoc, String.append_assoc]
    exact .inr (startsWith_append (by decide) _)
  | list limits object =>
    unfold childrenCommand
    rw [String.append_assoc, String.append_assoc]
    exact .inr (startsWith_append (by decide) _)
  | delete object =>
    unfold deleteCommand
    exact .inr (startsWith_append (by decide) _)

/-- No inquiry evaluates the empty expression. -/
theorem Inquiry.named {command : String} (inquiry : Inquiry command) :
    command ≠ evaluateCommand "" := by
  obtain ⟨expression, named, rfl⟩ | object := inquiry.cases
  · exact fun same => named (evaluateCommand_injective same)
  · rintro rfl
    exact Bool.false_ne_true ((aside_evaluate "" (.ok "")).symm.trans object)

/-- The command does not ask for a type. -/
def Untyped (command : String) : Prop :=
  startsWith "whatis " command = false ∧ startsWith "ptype " command = false

/-- A command with a dash in front asks for no type. -/
theorem untyped_of_startsWith {command : String} (dashed : startsWith "-" command = true) :
    Untyped command := by
  obtain ⟨rest, whole⟩ := List.isPrefixOf_iff_prefix.1 dashed
  unfold Untyped startsWith
  rw [← whole]
  exact ⟨rfl, rfl⟩

theorem untyped_evaluate (expression : String) : Untyped (evaluateCommand expression) :=
  untyped_of_startsWith (startsWith_append (by decide) _)

/-- No inquiry asks for a type. -/
theorem Inquiry.untyped {command : String} (inquiry : Inquiry command) : Untyped command := by
  obtain ⟨expression, -, rfl⟩ | object := inquiry.cases
  · exact untyped_evaluate expression
  · obtain ⟨rest, whole⟩ := List.isPrefixOf_iff_prefix.1 object
    refine untyped_of_startsWith (List.isPrefixOf_iff_prefix.2 ?_)
    rw [← whole]
    exact ⟨_, rfl⟩

/-! ## What is asked first -/

theorem askedFor_append_dot (path : String) : askedFor (path ++ ".") = path := by
  rw [askedFor, String.toList_append]
  change String.ofList ((before? ['.'] (path.toList ++ ['.'])).getD _) = path
  rw [before?_append, Option.getD_some, String.ofList_toList]

theorem askedFor_eq_self {path : String} (other : ¬['.'] <:+ path.toList) :
    askedFor path = path := by
  rw [askedFor, before?_of_not_suffix other, Option.getD_none, String.ofList_toList]

/-- The value of the path is asked for first, less one dot at its end. When nothing is left of the
path, no value is asked for without a name. -/
structure AskedFirst (path : String) (trace : List Exchange) : Prop where
  named : askedFor path ≠ "" →
    ∃ answer rest, trace = ⟨evaluateCommand (askedFor path), .ok answer⟩ :: rest
  unnamed : askedFor path = "" → ∀ e ∈ trace, e.command ≠ evaluateCommand ""

/-- The exchanges by which an expression is evaluated. -/
theorem Evaluates.exists_lead {peer : Peer} {past mid : List Exchange} {path : String}
    {gdbName : Option String} {evaluation : Evaluation}
    (evaluates : Evaluates peer past path gdbName evaluation mid) :
    ∃ lead : List Exchange, mid = lead.reverse ++ past ∧
      (∀ e ∈ lead, ∃ expression, e.command = evaluateCommand expression) ∧
      (askedFor path ≠ "" →
        ∃ answer rest, lead = ⟨evaluateCommand (askedFor path), .ok answer⟩ :: rest) ∧
      (askedFor path = "" → lead = [] ∧ evaluation.valid = false) := by
  cases evaluates with
  | empty unnamed =>
    exact ⟨[], rfl, List.forall_mem_nil _, fun named => absurd unnamed named, fun _ => ⟨rfl, rfl⟩⟩
  | path named said settled =>
    exact ⟨[_], rfl, by simp, fun _ => ⟨_, [], rfl⟩, fun unnamed => absurd unnamed named⟩
  | object named first refused known said =>
    exact ⟨[_, _], rfl, by simp, fun _ => ⟨_, [_], rfl⟩, fun unnamed => absurd unnamed named⟩

/-- What is asked first is asked first in any longer run. -/
theorem askedFirst_append {path : String} {lead rest : List Exchange}
    (named : askedFor path ≠ "" →
      ∃ answer rest, lead = ⟨evaluateCommand (askedFor path), .ok answer⟩ :: rest)
    (unnamed : askedFor path = "" → lead = [] ∧ ∀ e ∈ rest, e.command ≠ evaluateCommand "") :
    AskedFirst path (lead ++ rest) := by
  refine ⟨fun given => ?_, fun empty => ?_⟩
  · obtain ⟨answer, later, rfl⟩ := named given
    exact ⟨answer, later ++ rest, rfl⟩
  · obtain ⟨rfl, others⟩ := unnamed empty
    exact others

/-! ## Free expressions -/

section Free

variable {m : Type → Type} {S : Type} [Monad m] [Wire m] [EndingWire m S] [LawfulMonad m]
  {peer : Peer} {s : S} {past : List Exchange}

/-- An expansion in which the node is handed on as a value. -/
theorem ends_expandNode (reliable : peer.Reliable) {limits : Limits}
    (nests : NestsFinitely peer limits) (type : String) (node : Node) :
    Ends peer (fun bound => (ExceptT.mk do
      let (outcome, node) ← (expand { limits with maxDepth := bound } type).run.run node
      return outcome.map fun () => node : ExceptT Failure m Node)) s past fun after _ later =>
      Expands peer limits type node past after later := by
  have expanded : Ends peer (fun bound => (expand { limits with maxDepth := bound } type :
      ExceptT Failure (StateT Node m) Unit).run.run node) s past fun next now later =>
      ∃ a, next.1 = .ok a ∧ now = s ∧ Expands peer limits type node past next.2 later :=
    ends_expands reliable nests type node
  refine ends_seq (m := m) expanded ?_
  rintro ⟨_, after⟩ now later ⟨⟨⟩, rfl, -, expands⟩
  exact ends_pure ⟨after, rfl, expands⟩

/-- **Building a node ends**, and it only inquires. -/
theorem ends_build (reliable : peer.Reliable) {limits : Limits}
    (nests : NestsFinitely peer limits) (name declared shape : String) (value : Option String) :
    Ends peer (fun bound => (build { limits with maxDepth := bound } name declared shape value :
        ExceptT Failure m Node)) s past fun node _ later =>
      node.name = name ∧ Continues peer Inquiry past later := by
  have finished : ∀ (node : Node) (now : S) (later : List Exchange), node.name = name →
      Continues peer Inquiry past later → Ends peer (fun _ => (do
        if node.value.isSome then return node
        return { node with value := some (← evaluate name none).value } :
        ExceptT Failure m Node)) now later fun node _ later =>
          node.name = name ∧ Continues peer Inquiry past later := by
    intro node now later named continues
    refine ends_ite (fun _ => ends_pure ⟨named, continues⟩) fun _ => ?_
    refine ends_seq (ends_evaluate reliable name none) ?_
    rintro evaluation now later ⟨-, evaluates⟩
    exact ends_pure ⟨named, continues.trans (evaluates.continues nofun)⟩
  unfold build
  refine ends_ite (fun _ => ?_) fun _ => ?_
  · refine ends_seq (ends_expandNode reliable nests shape _) ?_
    exact fun node now later expands => finished node now later expands.keeps.1 expands.continues
  · exact ends_bind (ends_pure (finished _ s past rfl .here))

/-- The node of a free expression, with the exchanges in the end. Nothing more is asked about what
has no value. -/
def FreeNode (peer : Peer) (past : List Exchange) (expression : String) (node : Node)
    (later : List Exchange) : Prop :=
  node.name = expression ∧ ∃ evaluation mid, Evaluates peer past expression none evaluation mid ∧
    Continues peer (fun _ => True) mid later ∧ (evaluation.valid = false → later = mid)

/-- **A free expression** comes to a node. -/
theorem ends_resolveExpression (reliable : peer.Reliable) {limits : Limits}
    (nests : NestsFinitely peer limits) (expression : String) :
    Ends peer (fun bound => (resolveExpression { limits with maxDepth := bound } expression :
        ExceptT Failure m Node)) s past fun node _ later =>
      FreeNode peer past expression node later := by
  unfold resolveExpression
  refine ends_seq (ends_evaluate reliable expression none) ?_
  rintro evaluation s mid ⟨rfl, evaluates⟩
  refine ends_ite (fun _ => ?_) fun valid => ?_
  · exact ends_pure ⟨rfl, evaluation, mid, evaluates, .here, fun _ => rfl⟩
  rw [Bool.not_eq_true', Bool.not_eq_false] at valid
  refine ends_bind (ends_request reliable fun declared first => ?_)
  refine ends_bind (ends_request reliable fun detailed second => ?_)
  have typed : Continues peer (fun _ => True) mid _ := .further .here trivial first
  have typed := typed.further trivial second
  -- whatever is found out about the type, the evaluation came first
  have found : ∀ {node : Node} {later : List Exchange}, node.name = expression →
      Continues peer (fun _ => True) mid later → FreeNode peer past expression node later :=
    fun named continues => ⟨named, evaluation, mid, evaluates, continues,
      fun invalid => absurd valid (Bool.eq_false_iff.1 invalid)⟩
  extract_lets shape leaf
  have known : Ends peer (fun _ => (pure leaf : ExceptT Failure m Node)) s _
      fun node _ later => FreeNode peer past expression node later := ends_pure (found rfl typed)
  have built : ∀ value, Ends peer (fun bound =>
      (build { limits with maxDepth := bound } expression declared shape value :
        ExceptT Failure m Node)) s _
      fun node _ later => FreeNode peer past expression node later := fun value =>
    ends_mono (ends_build reliable nests expression declared shape value) fun _ _ _ ⟨named, more⟩ =>
      found named (typed.trans (more.mono fun _ _ => trivial))
  refine ends_ite (fun _ => ?_) fun _ => ?_
  · exact ends_ite (fun _ => known) fun _ => built _
  · exact ends_ite (fun _ => built none) fun _ => known

end Free

/-! ## Resolving -/

/-- A node of a frame is brought up to date in its place. -/
structure Updated (peer : Peer) (past : List Exchange) (path : String) (frame : Frame)
    (place : Place) (node : Node) (after : Frame) (trace : List Exchange) : Prop where
  /-- There was a node with the path for its name, and it comes to have the value that the path is
  evaluated to, or else its other name. -/
  known : ∃ old evaluation mid, frame.at? place = some old ∧ old.name = path ∧
    Evaluates peer past path old.gdbName evaluation mid ∧ node.value = some evaluation.value
  named : node.name = path
  /-- What is given is a copy of the node in the frame. -/
  inPlace : after.at? place = some node
  elsewhere : ∀ {other : Place}, ¬other.Within place →
    (after.at? other).map Node.own = (frame.at? other).map Node.own
  untyped : ∀ e ∈ trace, Untyped e.command

/-- What a path is resolved to, with the frame afterwards and what is asked meanwhile: a node of the
frame, brought up to date, or else a node for a free expression. -/
structure Resolution (peer : Peer) (past : List Exchange) (path : String) (frame : Frame)
    (node : Node) (after : Frame) (trace : List Exchange) : Prop where
  first : AskedFirst path trace
  touched : (∃ place, frame.locate? path = some place ∧
      Updated peer past path frame place node after trace) ∨
    frame.locate? path = none ∧ after = frame ∧ node.name = path ∧ (askedFor path = "" → trace = [])
  orderly : frame.Orderly → ∀ {place : Place} {old : Node}, frame.at? place = some old →
    old.name = path → Updated peer past path frame place node after trace

/-- A node that is evaluated again is brought up to date. -/
theorem updated_of_evaluates {peer : Peer} {past mid later : List Exchange} {path : String}
    {frame : Frame} {place : Place} {old node : Node} {evaluation : Evaluation}
    (here : frame.at? place = some old) (same : old.name = path)
    (evaluates : Evaluates peer past path old.gdbName evaluation mid)
    (continues : Continues peer Inquiry mid later) (named : node.name = old.name)
    (valued : node.value = some evaluation.value) :
    ∃ trace : List Exchange, later = trace.reverse ++ past ∧ AskedFirst path trace ∧
      Updated peer past path frame place node (frame.replaceAt place node) trace := by
  obtain ⟨lead, rfl, values, given, empty⟩ := evaluates.exists_lead
  obtain ⟨rest, rfl, inquiries⟩ := continues.exists_trace
  refine ⟨lead ++ rest, by simp, askedFirst_append given fun unnamed => ?_, ?_⟩
  · exact ⟨(empty unnamed).1, fun e mem => (inquiries e mem).named⟩
  · refine ⟨⟨old, evaluation, _, here, same, evaluates, valued⟩, named.trans same,
      Frame.at?_replaceAt here node, fun other => Frame.own_replaceAt other node, ?_⟩
    refine List.forall_mem_append.2 ⟨fun e mem => ?_, fun e mem => (inquiries e mem).untyped⟩
    obtain ⟨expression, asked⟩ := values e mem
    exact asked ▸ untyped_evaluate expression

/-- Nothing is asked about an empty free expression. -/
theorem FreeNode.exists_trace {peer : Peer} {past later : List Exchange} {path : String}
    {node : Node} (free : FreeNode peer past path node later) :
    ∃ trace : List Exchange, later = trace.reverse ++ past ∧ AskedFirst path trace ∧
      (askedFor path = "" → trace = []) := by
  obtain ⟨-, evaluation, mid, evaluates, continues, known⟩ := free
  obtain ⟨lead, rfl, -, given, empty⟩ := evaluates.exists_lead
  obtain ⟨rest, rfl, -⟩ := continues.exists_trace
  have silent : askedFor path = "" → lead = [] ∧ rest = [] := fun unnamed => by
    obtain ⟨rfl, invalid⟩ := empty unnamed
    exact ⟨rfl, by simpa using known invalid⟩
  refine ⟨lead ++ rest, by simp, askedFirst_append given fun unnamed => ?_, fun unnamed => ?_⟩
  · obtain ⟨rfl, rfl⟩ := silent unnamed
    exact ⟨rfl, List.forall_mem_nil _⟩
  · obtain ⟨rfl, rfl⟩ := silent unnamed
    rfl

section Resolve

variable {m : Type → Type} {S : Type} [Monad m] [Wire m] [EndingWire m S] [LawfulMonad m]
  {peer : Peer} {s : S} {past : List Exchange}

/-- **Following a path** comes to an end. -/
theorem ends_resolve (reliable : peer.Reliable) {limits : Limits}
    (nests : NestsFinitely peer limits) (path : String) (frame : Frame) :
    Ends peer (fun bound => (resolve { limits with maxDepth := bound } path frame :
        m (Except Failure Node × Frame))) s past fun found _ later =>
      ∃ node trace, found.1 = .ok node ∧ later = trace.reverse ++ past ∧
        Resolution peer past path frame node found.2 trace := by
  cases located : frame.locate? path with
  | none =>
    simp only [resolve_eq, located, Option.bind_none]
    refine ends_seq (m := m) (ends_resolveExpression reliable nests path) ?_
    rintro outcome now later ⟨node, rfl, free⟩
    obtain ⟨trace, rfl, first, silent⟩ := free.exists_trace
    refine ends_pure ⟨node, trace, rfl, rfl, first, .inr ⟨located, rfl, free.1, silent⟩, ?_⟩
    -- in an orderly frame there is no node of that name then
    rintro orderly place old here rfl
    rw [Frame.locate?_name orderly here] at located
    cases located
  | some place =>
    obtain ⟨old, here, same⟩ := Frame.at?_locate? located
    refine ends_mono (ends_resolve_known reliable nests located here) ?_
    rintro _ now later ⟨rfl, node, rfl, refreshes⟩
    obtain ⟨named, -, evaluation, mid, evaluates, valued, continues⟩ := refreshes.keeps
    obtain ⟨trace, rfl, first, updated⟩ :=
      updated_of_evaluates here same evaluates continues named valued
    refine ⟨node, trace, rfl, rfl, first, .inl ⟨place, located, updated⟩, ?_⟩
    rintro orderly place' old' here' rfl
    rw [Frame.locate?_name orderly here'] at located
    cases located
    exact updated

end Resolve

/-- **A path touches one node, and is evaluated itself**, for every frame, every path and every peer
that answers everything and nests access levels only finitely. Following the path comes to an end,
so that from some depth on the bound on nested calls does not matter. The path is evaluated first.
At most one node of the frame changes, with what is below it: it has the path for its name, and a
copy of it is given. If there is no such node, the frame stays, and the node that is given has the
path for its name. In an orderly frame the name of each node leads to that very node, and then no
type is asked for. -/
theorem path_resolved (limits : Limits) {peer : Peer} (reliable : peer.Reliable)
    (nests : NestsFinitely peer limits) (past : List Exchange) (path : String) (frame : Frame) :
    ∃ depth node after trace, Resolution peer past path frame node after trace ∧
      ∀ bound, depth ≤ bound →
        ((resolve { limits with maxDepth := bound } path frame :
            Dialogue (Except Failure Node × Frame)).run peer).run past =
          .ok (.ok node, after) (trace.reverse ++ past) := by
  have ends : Ends peer (fun bound => (resolve { limits with maxDepth := bound } path frame :
      Dialogue (Except Failure Node × Frame))) () past _ := ends_resolve reliable nests path frame
  obtain ⟨depth, ⟨_, after⟩, _, ⟨node, trace, rfl, rfl, resolution⟩, run⟩ := ends
  exact ⟨depth, node, after, trace, resolution, run⟩

/-- A pointer that leads nowhere yet. -/
def fieldPointer : Node :=
  { name := "s.p", gdbName := some "s.p", type := "C *", value := some "0x0" }

/-- A structure in which there is the pointer. -/
def pointerStruct : Node :=
  { name := "s", type := "struct s", value := some "", children := some [fieldPointer] }

/-- The structure is the only variable. -/
def pointerFrame : Frame where
  locals := [pointerStruct]

/-- The pointer now leads to an object of a class, with a member in one access level. -/
def memberAnswers : List (String × String) := [
  ("-data-evaluate-expression \"s.p\"", "60;\"0x1\""),
  ("-var-create s.p \"*\" s.p", "1"),
  ("-var-list-children --all-values s.p 0 50", "65;s.p.public;1;;"),
  ("-var-list-children --all-values s.p.public 0 50", "65;s.p.public.x;0;7;int")]

/-- A gdb that knows no more than that. -/
def memberPeer : Peer := .answering memberAnswers

/-- There is a level in the listing of the pointer, and none in the listing of that level. -/
theorem nestsFinitely_memberPeer : NestsFinitely memberPeer ⟨50, 0⟩ :=
  nestsFinitely_answering
    (fun command => if command = "-var-list-children --all-values s.p 0 50" then 1 else 0)
    (by decide +kernel)

/-- The frame of the example has two nodes, the structure and its field. -/
theorem at?_pointerFrame {place : Place} {node : Node} (here : pointerFrame.at? place = some node) :
    node = pointerStruct ∨ node = fieldPointer := by
  obtain ⟨isArgument, root, children⟩ := place
  cases isArgument with
  | true => simp [Frame.at?, pointerFrame] at here
  | false =>
    cases root with
    | succ root => simp [Frame.at?, pointerFrame] at here
    | zero =>
      obtain - | ⟨- | i, - | ⟨j, children⟩⟩ := children
      · exact .inl (Option.some.inj here).symm
      · exact .inr (Option.some.inj here).symm
      all_goals simp [Frame.at?, Node.at?, pointerFrame, pointerStruct, fieldPointer] at here

/-- The name of the pointer is that of the structure, and a field. -/
theorem orderly_pointerFrame : pointerFrame.Orderly where
  distinct := by decide
  undivided := by simp [pointerFrame, pointerStruct, Undivided]
  parts := by
    intro place node children here listed
    obtain rfl | rfl := at?_pointerFrame here
    · cases listed
      have part : PartOf ['.', 'p'] := .field (by simp [Undivided])
      exact ⟨by decide, List.forall_mem_singleton.2 ⟨_, part, by decide⟩⟩
    · cases listed

/-- The pointer is found by its name, and its member is shown with it then. -/
theorem path_resolved_pointer :
    memberPeer.Reliable ∧ NestsFinitely memberPeer ⟨50, 0⟩ ∧ pointerFrame.Orderly ∧
    ∃ depth node after trace, AskedFirst "s.p" trace ∧
      Updated memberPeer [] "s.p" pointerFrame ⟨false, 0, [0]⟩ node after trace ∧
      ∀ bound, depth ≤ bound → ((resolve ⟨50, bound⟩ "s.p" pointerFrame :
        Dialogue (Except Failure Node × Frame)).run memberPeer).run [] =
          .ok (.ok node, after) (trace.reverse ++ []) := by
  have reliable : memberPeer.Reliable := fun _ _ => ⟨_, rfl⟩
  obtain ⟨depth, node, after, trace, resolution, run⟩ :=
    path_resolved ⟨50, 0⟩ reliable nestsFinitely_memberPeer [] "s.p" pointerFrame
  exact ⟨reliable, nestsFinitely_memberPeer, orderly_pointerFrame, depth, node, after, trace,
    resolution.first, resolution.orderly orderly_pointerFrame rfl rfl, run⟩

end Variable

end DebugLink
