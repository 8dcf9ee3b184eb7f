import DebugLink.Proofs.AddedNodes
import DebugLink.Proofs.FramePlaces

/-!
# Nodes that are brought up to date

A node that is evaluated again comes to have the new value, and is expanded if its type and that
value call for it. To expand it is to create a variable object, to list its children and to delete
it again; what the node is afterwards is said here by the answers of the peer alone. In
conversations that are alike to the peer, each of these steps ends in one way only.

* `Creates`, `Lists`: which object is created, and which listing is taken.
* `Expands`: what a node is after it was expanded.
* `ends_expands`: expanding a node comes to an end in that way.
* `Expands.of_lists`: an object whose children are listed.
* `Refreshes`, `ends_resolve_known`: what a node of a frame is after its path was followed.
-/

namespace DebugLink

open Text Ending

namespace Variable

/-! ## Expanding -/

/-- An object is created for a name after the exchanges `past`, under the name itself or under a
longer one if that is refused, or none is. With the exchanges in the end. -/
inductive Creates (peer : Peer) (past : List Exchange) (name : String) :
    Option VarObject → List Exchange → Prop
  | plain {answer : String} (said : peer.Says past ⟨createCommand name name, .ok answer⟩)
      (accepted : answer ≠ Mi.errorAnswer) :
      Creates peer past name (some ⟨name, (readTrimmed32 answer.toList).getD 0, false⟩)
        (⟨createCommand name name, .ok answer⟩ :: past)
  | renamed {answer : String}
      (refused : peer.Says past ⟨createCommand name name, .ok Mi.errorAnswer⟩)
      (said : peer.Says (⟨createCommand name name, .ok Mi.errorAnswer⟩ :: past)
        ⟨createCommand (objectLead ++ name) name, .ok answer⟩)
      (accepted : answer ≠ Mi.errorAnswer) :
      Creates peer past name
        (some ⟨objectLead ++ name, (readTrimmed32 answer.toList).getD 0, true⟩)
        (⟨createCommand (objectLead ++ name) name, .ok answer⟩ ::
          ⟨createCommand name name, .ok Mi.errorAnswer⟩ :: past)
  | refused (first : peer.Says past ⟨createCommand name name, .ok Mi.errorAnswer⟩)
      (second : peer.Says (⟨createCommand name name, .ok Mi.errorAnswer⟩ :: past)
        ⟨createCommand (objectLead ++ name) name, .ok Mi.errorAnswer⟩) :
      Creates peer past name none
        (⟨createCommand (objectLead ++ name) name, .ok Mi.errorAnswer⟩ ::
          ⟨createCommand name name, .ok Mi.errorAnswer⟩ :: past)

/-- The listing that is taken for a node: that of the object that stands for it or, if this is
refused and the object has the node's own name, that of the other name which gdb knows it by. -/
inductive Lists (peer : Peer) (past : List Exchange) (limits : Limits) (node : Node)
    (renamed : Bool) : String → List Exchange → Prop
  | first {answer : String}
      (said : peer.Says past ⟨childrenCommand limits (listedObject node renamed none), .ok answer⟩)
      (taken : answer ≠ Mi.errorAnswer ∨ renamed = true ∨ node.gdbName = none) :
      Lists peer past limits node renamed answer
        (⟨childrenCommand limits (listedObject node renamed none), .ok answer⟩ :: past)
  | second {answer gdbName : String} (own : renamed = false) (known : node.gdbName = some gdbName)
      (refused : peer.Says past ⟨childrenCommand limits node.name, .ok Mi.errorAnswer⟩)
      (said : peer.Says (⟨childrenCommand limits node.name, .ok Mi.errorAnswer⟩ :: past)
        ⟨childrenCommand limits gdbName, .ok answer⟩) :
      Lists peer past limits node renamed answer
        (⟨childrenCommand limits gdbName, .ok answer⟩ ::
          ⟨childrenCommand limits node.name, .ok Mi.errorAnswer⟩ :: past)

/-- What is known of names before the children of an object are listed. -/
def VarObject.names (object : VarObject) (owner : String) : NameMap :=
  if object.renamed then ({} : NameMap).bind object.name.toList owner.toList else {}

/-- The node for which an object was created, without children so far. -/
def Node.opened (node : Node) (object : VarObject) : Node :=
  { node with
    gdbName := if object.renamed then some object.name else node.gdbName
    children := some [] }

/-- **What a node is after it was expanded**, with the exchanges in the end. -/
inductive Expands (peer : Peer) (limits : Limits) (type : String) (node : Node)
    (past : List Exchange) : Node → List Exchange → Prop
  | refused {later : List Exchange} (created : Creates peer past node.name none later) :
      Expands peer limits type node past node later
  | childless {object : VarObject} {opened : List Exchange} {deleted : String}
      (created : Creates peer past node.name (some object) opened) (none : object.children = 0)
      (said : peer.Says opened ⟨deleteCommand object.name, .ok deleted⟩) :
      Expands peer limits type node past (node.opened object)
        (⟨deleteCommand object.name, .ok deleted⟩ :: opened)
  | listed {object : VarObject} {opened listed : List Exchange} {answer deleted : String}
      {nodes : List Node} {stage : Stage}
      (created : Creates peer past node.name (some object) opened) (some : object.children ≠ 0)
      (lists : Lists peer opened limits (node.opened object) object.renamed answer listed)
      (adds : Adds peer limits (.ofType type) node.name ⟨object.names node.name, listed⟩
        (entriesOf answer) nodes stage)
      (said : peer.Says stage.past ⟨deleteCommand object.name, .ok deleted⟩) :
      Expands peer limits type node past { node.opened object with children := .some nodes }
        (⟨deleteCommand object.name, .ok deleted⟩ :: stage.past)

/-- What is listed was asked for last. -/
theorem Lists.exists_said {peer : Peer} {past listed : List Exchange} {limits : Limits}
    {node : Node} {renamed : Bool} {answer : String}
    (lists : Lists peer past limits node renamed answer listed) :
    ∃ object before, peer.Says before ⟨childrenCommand limits object, .ok answer⟩ ∧
      listed = ⟨childrenCommand limits object, .ok answer⟩ :: before := by
  cases lists with
  | first said => exact ⟨_, _, said, rfl⟩
  | second _ _ _ said => exact ⟨_, _, said, rfl⟩

section Keeps

variable {peer : Peer} {past later : List Exchange} {limits : Limits} {node after : Node}

theorem Creates.continues {name : String} {created : Option VarObject}
    (creates : Creates peer past name created later) : Continues peer Inquiry past later := by
  cases creates with
  | plain said => exact .further .here (.create ..) said
  | renamed refused said => exact .further (.further .here (.create ..) refused) (.create ..) said
  | refused first second => exact .further (.further .here (.create ..) first) (.create ..) second

theorem Lists.continues {renamed : Bool} {answer : String}
    (lists : Lists peer past limits node renamed answer later) :
    Continues peer Inquiry past later := by
  cases lists with
  | first said => exact .further .here (.list ..) said
  | second _ _ refused said => exact .further (.further .here (.list ..) refused) (.list ..) said

theorem Expands.continues {type : String}
    (expands : Expands peer limits type node past after later) :
    Continues peer Inquiry past later := by
  cases expands with
  | refused created => exact created.continues
  | childless created _ said => exact created.continues.further (.delete _) said
  | listed created _ lists adds said =>
    exact ((created.continues.trans lists.continues).trans adds.continues).further (.delete _) said

theorem Expands.keeps {type : String} (expands : Expands peer limits type node past after later) :
    after.name = node.name ∧ after.type = node.type ∧ after.value = node.value := by
  cases expands <;> exact ⟨rfl, rfl, rfl⟩

end Keeps

/-! ## One way only -/

section Alike

variable {peer : Peer} {Alike : List Exchange → List Exchange → Prop} {past past' : List Exchange}
  {limits : Limits} {node : Node}

/-- Where the peer answers alike histories alike, an object is created once in the same way: the
first reply settles whether the longer name is asked for, and the second whether it is given. -/
theorem Creates.alike (agrees : peer.Agrees Alike) {name : String}
    {created other : Option VarObject} {opened opened' : List Exchange}
    (first : Creates peer past name created opened)
    (second : Creates peer past' name other opened') (given : Alike past past') :
    created = other ∧ Alike opened opened' := by
  cases first with
  | plain said accepted =>
    cases second with
    | plain said' =>
      cases agrees.same given said said'
      exact ⟨rfl, agrees.further given _⟩
    | renamed refused => exact absurd (agrees.same given said refused) accepted
    | refused refused => exact absurd (agrees.same given said refused) accepted
  | renamed refused said accepted =>
    have longer := agrees.further given ⟨createCommand name name, .ok Mi.errorAnswer⟩
    cases second with
    | plain said' accepted' => exact absurd (agrees.same given refused said').symm accepted'
    | renamed _ said' =>
      cases agrees.same longer said said'
      exact ⟨rfl, agrees.further longer _⟩
    | refused _ said' => exact absurd (agrees.same longer said said') accepted
  | refused refused said =>
    have longer := agrees.further given ⟨createCommand name name, .ok Mi.errorAnswer⟩
    cases second with
    | plain said' accepted' => exact absurd (agrees.same given refused said').symm accepted'
    | renamed _ said' accepted' => exact absurd (agrees.same longer said said').symm accepted'
    | refused => exact ⟨rfl, agrees.further longer _⟩

/-- The listing of a node gives the same answer after alike histories. -/
theorem Lists.alike (agrees : peer.Agrees Alike) {renamed : Bool} {answer other : String}
    {listed listed' : List Exchange} (first : Lists peer past limits node renamed answer listed)
    (second : Lists peer past' limits node renamed other listed') (given : Alike past past') :
    answer = other ∧ Alike listed listed' := by
  -- the second name is asked only if the listing of the first one is not taken
  have own : renamed = false → listedObject node renamed none = node.name := by
    rintro rfl
    unfold listedObject
    cases node.gdbName <;> rfl
  have apart : ∀ {gdbName : String}, renamed = false → node.gdbName = some gdbName →
      ¬(Mi.errorAnswer ≠ Mi.errorAnswer ∨ renamed = true ∨ node.gdbName = none) := by
    rintro gdbName rfl known (refused | renamed | unknown)
    · exact refused rfl
    · cases renamed
    · cases known.symm.trans unknown
  cases first with
  | first said taken =>
    cases second with
    | first said' =>
      cases agrees.same given said said'
      exact ⟨rfl, agrees.further given _⟩
    | second plain known refused =>
      rw [own plain] at said
      cases agrees.same given said refused
      exact absurd taken (apart plain known)
  | second plain known refused said =>
    cases second with
    | first said' taken =>
      rw [own plain] at said'
      cases agrees.same given refused said'
      exact absurd taken (apart plain known)
    | second _ known' _ said' =>
      cases known.symm.trans known'
      cases agrees.same (agrees.further given _) said said'
      exact ⟨rfl, agrees.further (agrees.further given _) _⟩

/-- **An object whose children are listed** is expanded to what the listing adds. -/
theorem Expands.of_lists {type answer : String} {after : Node} {object : VarObject}
    {opened listed later : List Exchange}
    (expands : Expands peer limits type node past after later)
    (created : Creates peer past node.name (some object) opened) (some : object.children ≠ 0)
    (lists : Lists peer opened limits (node.opened object) object.renamed answer listed) :
    ∃ nodes stage deleted, Adds peer limits (.ofType type) node.name
        ⟨object.names node.name, listed⟩ (entriesOf answer) nodes stage ∧
      after = { node.opened object with children := .some nodes } ∧
      later = ⟨deleteCommand object.name, .ok deleted⟩ :: stage.past := by
  have agrees := peer.agrees_eq
  cases expands with
  | refused created' => cases (created.alike agrees created' rfl).1
  | childless created' none =>
    cases (created.alike agrees created' rfl).1
    exact absurd none some
  | listed created' _ lists' adds said =>
    obtain ⟨⟨⟩, rfl⟩ := created.alike agrees created' rfl
    obtain ⟨rfl, rfl⟩ := lists.alike agrees lists' rfl
    exact ⟨_, _, _, adds, rfl, rfl⟩

end Alike

/-! ## Expanding comes to an end -/

section Walk

variable {m : Type → Type} {S : Type} [Monad m] [Wire m] [EndingWire m S] {peer : Peer} {s : S}
  {past : List Exchange}

theorem ends_createAs_said (reliable : peer.Reliable) (object name : String) :
    Ends peer (fun _ => (createAs object name : ExceptT Failure m (Option VarObject))) s past
      fun created now later => now = s ∧ ∃ answer,
        peer.Says past ⟨createCommand object name, .ok answer⟩ ∧
        later = ⟨createCommand object name, .ok answer⟩ :: past ∧
        (answer = Mi.errorAnswer ∧ created = none ∨ answer ≠ Mi.errorAnswer ∧
          created = some ⟨object, (readTrimmed32 answer.toList).getD 0, object != name⟩) := by
  refine ends_bind (ends_request reliable fun answer said => ?_)
  refine ends_ite (fun refused => ?_) fun accepted => ?_
  · exact ends_pure ⟨rfl, answer, said, rfl, .inl ⟨refused, rfl⟩⟩
  · exact ends_pure ⟨rfl, answer, said, rfl, .inr ⟨accepted, rfl⟩⟩

/-- Creating an object ends, and what it asked is one of the three ways to create. -/
theorem ends_creates (reliable : peer.Reliable) (name : String) :
    Ends peer (fun _ => (createObject name : ExceptT Failure m (Option VarObject))) s past
      fun created now later => now = s ∧ Creates peer past name created later := by
  refine ends_seq (ends_createAs_said reliable name name) ?_
  rintro created now later ⟨rfl, answer, said, rfl, ⟨rfl, rfl⟩ | ⟨accepted, rfl⟩⟩
  · refine ends_mono (ends_createAs_said reliable (objectLead ++ name) name) ?_
    rintro created now later ⟨rfl, answer, said', rfl, ⟨rfl, rfl⟩ | ⟨accepted, rfl⟩⟩
    · exact ⟨rfl, .refused said said'⟩
    · have longer : (objectLead ++ name != name) = true := bne_iff_ne.2 (objectName_ne name)
      rw [longer]
      exact ⟨rfl, .renamed said said' accepted⟩
  · have same : (name != name) = false := bne_self_eq_false name
    rw [same]
    exact ends_pure ⟨rfl, .plain said accepted⟩

/-- Asking for the listing of a node ends, under its own name or under the one that gdb knows it
by. -/
theorem ends_lists (reliable : peer.Reliable) (limits : Limits) (node : Node) (renamed : Bool) :
    Ends peer (fun _ => (requestListing limits node renamed none : ExceptT Failure m String)) s
      past fun answer now later => now = s ∧ Lists peer past limits node renamed answer later := by
  unfold requestListing
  -- a node without a second name can be asked for only once
  cases known : node.gdbName with
  | none =>
    refine ends_mono (ends_requestChildren reliable limits node.name) ?_
    rintro answer now later ⟨rfl, said, rfl⟩
    have object : listedObject node renamed none = node.name := by simp [listedObject, known]
    rw [← object] at said ⊢
    exact ⟨rfl, .first said (.inr (.inr known))⟩
  | some gdbName =>
    refine ends_ite (fun longer => ?_) fun own => ?_
    · refine ends_mono (ends_requestChildren reliable limits gdbName) ?_
      rintro answer now later ⟨rfl, said, rfl⟩
      have object : listedObject node renamed none = gdbName := by
        simp [listedObject, known, longer]
      rw [← object] at said ⊢
      exact ⟨rfl, .first said (.inr (.inl longer))⟩
    · rw [Bool.not_eq_true] at own
      have object : listedObject node renamed none = node.name := by simp [listedObject, own]
      refine ends_seq (ends_requestChildren reliable limits node.name) ?_
      rintro answer now later ⟨rfl, said, rfl⟩
      refine ends_ite (fun refused => ?_) fun accepted => ?_
      · rw [refused] at said ⊢
        refine ends_mono (ends_requestChildren reliable limits gdbName) ?_
        rintro answer now later ⟨rfl, said', rfl⟩
        exact ⟨rfl, .second own known said said'⟩
      · rw [← object] at said ⊢
        exact ends_pure ⟨rfl, .first said (.inl accepted)⟩

variable [LawfulMonad m]

/-- **The children of an object** are added to the node that it was created for. -/
theorem ends_grows (reliable : peer.Reliable) {limits : Limits} (nests : NestsFinitely peer limits)
    (shape : Shape) (object : VarObject) {node : Node} (opened : node.children = some []) :
    Ends peer (fun bound => (growFrom { limits with maxDepth := bound } shape object :
        ExceptT Failure (StateT Node m) Unit)) (node, s) past fun _ now later =>
      ∃ answer listed nodes stage, Lists peer past limits node object.renamed answer listed ∧
        Adds peer limits shape node.name ⟨object.names node.name, listed⟩ (entriesOf answer) nodes
          stage ∧
        now = ({ node with children := some nodes }, s) ∧ later = stage.past := by
  -- the node arrives opened and empty, so what is grown is all it then holds
  have grown : ∀ (names : NameMap) (nodes : List Node),
      ((⟨node, names⟩ : Growth).grown nodes).node = { node with children := some nodes } := by
    intro names nodes
    rw [Growth.grown_eq, opened]
    cases nodes <;> rfl
  have listed : Ends peer (fun bound => (listChildren { limits with maxDepth := bound } shape
      object.renamed bound none : ExceptT Failure (StateT Growth m) Unit))
      ((⟨node, object.names node.name⟩ : Growth), s) past fun _ now later =>
        ∃ answer listed nodes stage, Lists peer past limits node object.renamed answer listed ∧
          Adds peer limits shape node.name ⟨object.names node.name, listed⟩ (entriesOf answer)
            nodes stage ∧
          now = ((⟨node, stage.names⟩ : Growth).grown nodes, s) ∧ later = stage.past := by
    refine ends_succ (ends_bind (ends_get ?_))
    refine ends_seq (ends_lists reliable limits node object.renamed) ?_
    rintro answer now listed ⟨rfl, lists⟩
    refine ends_ite (fun refused => ?_) fun accepted => ?_
    · refine ends_pure ⟨answer, listed, [], ⟨_, listed⟩, lists, ?_, rfl, rfl⟩
      rw [entriesOf, if_pos refused]
      exact .nil
    · obtain ⟨asked, before, said, rfl⟩ := lists.exists_said
      refine ends_mono (ends_adds reliable limits shape object.renamed (nests.apply (before, asked))
        said (· + 1) (fun _ mem => mem) .here) ?_
      rintro _ now later ⟨nodes, names, adds, rfl⟩
      refine ⟨answer, _, nodes, ⟨names, later⟩, lists, ?_, rfl, rfl⟩
      rw [entriesOf, if_neg accepted]
      exact adds
  refine ends_seq (m := m) listed ?_
  rintro ⟨_, growth⟩ now later ⟨⟨⟩, rfl, answer, listed, nodes, stage, lists, adds, same, rfl⟩
  cases same
  exact ends_pure ⟨(), rfl, answer, listed, nodes, stage, lists, adds,
    congrArg (·, s) (grown stage.names nodes), rfl⟩

/-- **Expanding a node comes to an end**, in the way that the answers call for. -/
theorem ends_expands (reliable : peer.Reliable) {limits : Limits}
    (nests : NestsFinitely peer limits) (type : String) (node : Node) :
    Ends peer (fun bound => (expand { limits with maxDepth := bound } type :
        ExceptT Failure (StateT Node m) Unit)) (node, s) past fun _ now later =>
      now.2 = s ∧ Expands peer limits type node past now.1 later := by
  unfold expand
  refine ends_bind (ends_get ?_)
  refine ends_seq (ends_creates reliable node.name) ?_
  rintro found now opened ⟨rfl, created⟩
  cases found with
  | none => exact ends_pure ⟨rfl, .refused created⟩
  | some object =>
    -- the children are dropped before the listing, so a refused listing leaves none
    have emptied : ∀ shown : Node, { shown with children := some [] } = node.opened object →
        Ends peer (fun bound => (do
          modify fun node => { node with children := some [] }
          if object.children != 0 then
            growFrom { limits with maxDepth := bound } (.ofType type) object
          discard <| Wire.request (deleteCommand object.name) :
          ExceptT Failure (StateT Node m) Unit)) (shown, s) opened fun _ now later =>
            now.2 = s ∧ Expands peer limits type node past now.1 later := by
      intro shown same
      refine ends_bind (ends_modify ?_)
      dsimp only
      rw [same]
      refine ends_ite (fun filled => ?_) fun empty => ?_
      · refine ends_seq (ends_grows reliable nests _ object rfl) ?_
        rintro _ now later ⟨answer, listed, nodes, stage, lists, adds, rfl, rfl⟩
        refine ends_discard (ends_request reliable fun _ said => ⟨rfl, ?_⟩)
        exact .listed created (bne_iff_ne.1 filled) lists adds said
      · refine ends_discard (ends_request reliable fun _ said => ⟨rfl, ?_⟩)
        exact .childless created (by simpa using empty) said
    refine ends_ite (fun renamed => ?_) fun own => ?_
    · exact ends_bind (ends_modify (emptied _ (by rw [Node.opened, if_pos renamed])))
    · exact emptied _ (by rw [Node.opened, if_neg own])

/-! ## Evaluating again -/

/-- **What a node is after it was evaluated again** under a path, with the exchanges in the end. A
variable whose value is the same stays as it is. -/
inductive Refreshes (peer : Peer) (limits : Limits) (path : String) (isRoot : Bool) (node : Node)
    (past : List Exchange) : Node → List Exchange → Prop
  | same {evaluation : Evaluation} {later : List Exchange}
      (evaluates : Evaluates peer past path node.gdbName evaluation later)
      (same : (node.value = some evaluation.value && isRoot) = true) :
      Refreshes peer limits path isRoot node past node later
  | valued {evaluation : Evaluation} {later : List Exchange}
      (evaluates : Evaluates peer past path node.gdbName evaluation later)
      (fresh : (node.value = some evaluation.value && isRoot) = false)
      (settled : needsExpansion node.type (some evaluation.value) = false) :
      Refreshes peer limits path isRoot node past { node with value := some evaluation.value } later
  | expanded {evaluation : Evaluation} {mid later : List Exchange} {after : Node}
      (evaluates : Evaluates peer past path node.gdbName evaluation mid)
      (fresh : (node.value = some evaluation.value && isRoot) = false)
      (needed : needsExpansion node.type (some evaluation.value) = true)
      (expands : Expands peer limits node.type { node with value := some evaluation.value } mid
        after later) : Refreshes peer limits path isRoot node past after later

/-- A node that is evaluated again comes to have the value, and keeps its name and its type. -/
theorem Refreshes.keeps {path : String} {isRoot : Bool} {node after : Node} {limits : Limits}
    {later : List Exchange} (refreshes : Refreshes peer limits path isRoot node past after later) :
    after.name = node.name ∧ after.type = node.type ∧ ∃ evaluation mid,
      Evaluates peer past path node.gdbName evaluation mid ∧
        after.value = some evaluation.value ∧ Continues peer Inquiry mid later := by
  cases refreshes with
  | same evaluates same =>
    have valued := of_decide_eq_true (Bool.and_eq_true_iff.1 same).1
    exact ⟨rfl, rfl, _, _, evaluates, valued, .here⟩
  | valued evaluates => exact ⟨rfl, rfl, _, _, evaluates, rfl, .here⟩
  | expanded evaluates _ _ expands =>
    obtain ⟨named, typed, valued⟩ := expands.keeps
    exact ⟨named, typed, _, _, evaluates, valued, expands.continues⟩

/-- Evaluating a node anew ends: it keeps the node, drops its children or expands it once. -/
theorem ends_refreshes (reliable : peer.Reliable) {limits : Limits}
    (nests : NestsFinitely peer limits) (path : String) (isRoot : Bool) (node : Node) :
    Ends peer (fun bound => (reevaluate { limits with maxDepth := bound } path isRoot :
        ExceptT Failure (StateT Node m) Unit)) (node, s) past fun _ now later =>
      now.2 = s ∧ Refreshes peer limits path isRoot node past now.1 later := by
  unfold reevaluate
  refine ends_bind (ends_get ?_)
  refine ends_seq (ends_evaluate reliable path node.gdbName) ?_
  rintro evaluation now mid ⟨rfl, evaluates⟩
  refine ends_ite (fun same => ends_pure ⟨rfl, .same evaluates same⟩) fun fresh => ?_
  have fresh := Bool.eq_false_iff.2 fresh
  refine ends_bind (ends_set ?_)
  refine ends_ite (fun needed => ?_) fun settled => ?_
  · refine ends_mono (ends_expands reliable nests node.type _) ?_
    exact fun _ now later ⟨same, expands⟩ => ⟨same, .expanded evaluates fresh needed expands⟩
  · exact ends_pure ⟨rfl, .valued evaluates fresh (Bool.eq_false_iff.2 settled)⟩

/-- **A path that leads to a node of the frame** comes to an end with that node evaluated again. -/
theorem ends_resolve_known (reliable : peer.Reliable) {limits : Limits}
    (nests : NestsFinitely peer limits) {path : String} {frame : Frame} {place : Place}
    {node : Node} (leads : frame.locate? path = some place) (here : frame.at? place = some node) :
    Ends peer (fun bound => (resolve { limits with maxDepth := bound } path frame :
        m (Except Failure Node × Frame))) s past fun found now later => now = s ∧
      ∃ after, found = (.ok after, frame.replaceAt place after) ∧
        Refreshes peer limits path place.children.isEmpty node past after later := by
  simp only [resolve_eq, leads, here, Option.bind_some, Option.map_some]
  have refreshed : Ends peer (fun bound => (reevaluate { limits with maxDepth := bound } path
      place.children.isEmpty : ExceptT Failure (StateT Node m) Unit).run.run node) s past
      fun next now later => ∃ a, next.1 = .ok a ∧ now = s ∧
        Refreshes peer limits path place.children.isEmpty node past next.2 later :=
    ends_refreshes reliable nests path place.children.isEmpty node
  refine ends_seq (m := m) refreshed ?_
  rintro ⟨_, after⟩ now later ⟨⟨⟩, rfl, rfl, refreshes⟩
  exact ends_pure ⟨rfl, after, rfl, refreshes⟩

end Walk

end Variable

end DebugLink
