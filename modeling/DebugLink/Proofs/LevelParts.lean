import DebugLink.Proofs.ShownNames
import DebugLink.Proofs.TendedObjects

/-!
# Parts in access levels

gdb puts the parts of a class into levels, one for each access specifier, and a level may hold
levels. The user sees the parts alone. While they are listed the map of names holds one entry for
the node, for the level that was entered last: a part that stands behind a level in its own level
finds the entry of another one. That does no harm as long as the object has the name of the node,
since the segments of levels are taken out anyway. Where the object has a longer name, that name is
shown instead.

* `Parts`: the parts of an object as gdb lists them, level by level.
* `Parts.nodes`: the nodes that the parts become, with what is known by the map meanwhile.
* `run_parts`: the parts of a level are added, those of its levels included.
* `Parts.names_nodes_iff`: when all of them are shown under the node's name.
-/

namespace DebugLink.Variable

open Text

/-! ## Parts in levels -/

/-- What is said of a part beside its name: its count, its value, its type, and so on. -/
abbrev Details := { ds : List (List Char) // ∀ d ∈ ds, ∀ sign ∈ [';', '#'], sign ∉ d }

/-- A part with a value that need not be asked for again. -/
structure ListedPart where
  name : List Char
  partName : PartName name
  details : Details
  settled : needsReevaluation (details.1[1]?.getD []) = false

/-- The parts of a level: fields, and levels with parts of their own, in any order. -/
inductive Parts
  | none
  | field (f : ListedPart) (rest : Parts)
  | level (word : AccessWord) (details : Details) (inner rest : Parts)

namespace Parts

/-- The entries of a level's listing. -/
def entries (path : List Char) : Parts → List (List (List Char))
  | none => []
  | field f rest => ((path ++ '.' :: f.name) :: f.details.1) :: rest.entries path
  | level word details _ rest => ((path ++ '.' :: word.1) :: details.1) :: rest.entries path

/-- The names of the fields, with those of a level in its place. -/
def fields : Parts → List (List Char)
  | none => []
  | field f rest => f.name :: rest.fields
  | level _ _ inner rest => inner.fields ++ rest.fields

/-- How deep the levels are nested in each other. -/
def depth : Parts → Nat
  | none => 1
  | field _ rest => rest.depth
  | level _ _ inner rest => max (inner.depth + 1) rest.depth

/-- Even a listing without parts takes one call. -/
theorem depth_pos (parts : Parts) : 0 < parts.depth := by
  induction parts with
  | none => exact Nat.one_pos
  | field f rest ih => exact ih
  | level word details inner rest _ ih => exact Nat.lt_of_lt_of_le ih (le_max_right _ _)

/-- There are no fields but in levels. -/
def Bare : Parts → Prop
  | none => True
  | field _ _ => False
  | level _ _ _ rest => rest.Bare

/-- **No field stands behind a level** in its own level. -/
def Ordered : Parts → Prop
  | none => True
  | field _ rest => rest.Ordered
  | level _ _ inner rest => inner.Ordered ∧ rest.Bare ∧ rest.Ordered

/-- The text in which a level is listed. -/
def listing (path : List Char) (parts : Parts) : String := String.ofList
  ('6' :: '5' :: ';' :: ['#'].intercalate ((parts.entries path).map fun e => [';'].intercalate e))

end Parts

end DebugLink.Variable

namespace DebugLink

/-- The peer gives this answer to the command at any time. -/
def Peer.Gives (peer : Peer) (command answer : String) : Prop :=
  ∀ past, peer.answer past command = .ok answer

namespace Variable

open Text

namespace Parts

/-- Each level among the parts is listed when it is asked for. -/
def Answered (peer : Peer) (limits : Limits) (path : List Char) : Parts → Prop
  | none => True
  | field _ rest => rest.Answered peer limits path
  | level word _ inner rest =>
    peer.Gives (childrenCommand limits (String.ofList (path ++ '.' :: word.1)))
        (inner.listing (path ++ '.' :: word.1)) ∧
      inner.Answered peer limits (path ++ '.' :: word.1) ∧ rest.Answered peer limits path

/-- The names that are known behind the parts. -/
def namesBehind (node path : List Char) (names : NameMap) : Parts → NameMap
  | none => names
  | field _ rest => rest.namesBehind node path names
  | level word _ inner rest => rest.namesBehind node path
      (inner.namesBehind node (path ++ '.' :: word.1) (names.bind (path ++ '.' :: word.1) node))

/-- The nodes that are made of the parts. -/
def nodes (shape : Shape) (node path : List Char) (names : NameMap) : Parts → List Node
  | none => []
  | field f rest => childOf shape names (path ++ '.' :: f.name)
      ((path ++ '.' :: f.name) :: f.details.1) ⟨true, String.ofList (f.details.1[1]?.getD [])⟩ ::
        rest.nodes shape node path names
  | level word _ inner rest =>
    let entered := names.bind (path ++ '.' :: word.1) node
    inner.nodes shape node (path ++ '.' :: word.1) entered ++
      rest.nodes shape node path (inner.namesBehind node (path ++ '.' :: word.1) entered)

end Parts

/-! ## Running -/

namespace Growth

/-- What is known of names has no part in how nodes are added. -/
theorem mk_grown (node : Node) (names names' : NameMap) (ns : List Node) :
    (⟨(grown ⟨node, names⟩ ns).node, names'⟩ : Growth) = grown ⟨node, names'⟩ ns := by
  rw [grown_eq, grown_eq]

theorem children_grown_some {g : Growth} {cs : List Node} (known : g.node.children = some cs)
    (ns : List Node) : (g.grown ns).node.children = some (cs ++ ns) := by
  rw [grown_eq, known]
  cases ns <;> simp

theorem name_grown (g : Growth) (ns : List Node) : (g.grown ns).node.name = g.node.name := by
  rw [grown_eq]

end Growth

section Run

variable {limits : Limits} {shape : Shape} {renamed : Bool} {peer : Peer} {owner : List Char}

/-- A field below an owner is not skipped: its path is not empty and has no colons. -/
theorem Below.skipped {path part : List Char} (below : Below owner path)
    (undivided : ¬"::".toList <:+: part) :
    ¬((path ++ '.' :: part).isEmpty || contains [':', ':'] (path ++ '.' :: part)) = true := by
  intro skipped
  obtain empty | divided := (Bool.or_eq_true _ _).mp skipped
  · simp at empty
  · have colons : [':', ':'] <:+: path ∨ [':', ':'] <:+: part :=
      infix_append_cons (by decide) (contains_iff.1 divided)
    exact colons.elim below.undivided undivided

/-- A field is added as one node. -/
theorem addEntry_field (f : ListedPart) {path : List Char} (below : Below owner path)
    (enter : String → ExceptT Failure (StateT Growth Dialogue) Unit) (g : Growth) :
    (addEntry shape enter ((path ++ '.' :: f.name) :: f.details.1)).run.run g =
      pure (.ok (), g.grown [childOf shape g.names (path ++ '.' :: f.name)
        ((path ++ '.' :: f.name) :: f.details.1)
        ⟨true, String.ofList (f.details.1[1]?.getD [])⟩]) := by
  refine addEntry_child shape enter (below.skipped f.partName.undivided) ?_ ?_
  · rw [List.headD_cons, isAccessLevel_part path f.partName]
    exact Bool.false_ne_true
  · exact listedChild_settled f.settled

/-- A level is entered with its name bound to that of the node. -/
theorem addEntry_level (word : AccessWord) (details : Details) {path : List Char}
    (below : Below owner path)
    (enter : String → ExceptT Failure (StateT Growth Dialogue) Unit) (g : Growth) :
    (addEntry shape enter ((path ++ '.' :: word.1) :: details.1)).run.run g =
      (enter (String.ofList (path ++ '.' :: word.1))).run.run
        ⟨g.node, g.names.bind (path ++ '.' :: word.1) g.node.name.toList⟩ := by
  unfold addEntry
  dsimp only
  rw [List.headD_cons, if_neg (below.skipped word.whole.2.2),
    if_pos (isAccessLevel_level below.given word)]
  exact run_bind_of_pure (run_modify _ g)

namespace Parts

/-- No sign stands in an entry but between its parts, and each starts with a name. -/
theorem entries_single (parts : Parts) {path : List Char} (below : Below owner path) :
    (∀ entry ∈ parts.entries path, ∀ part ∈ entry, ∀ sign ∈ [';', '#'], sign ∉ part) ∧
      ∀ entry ∈ parts.entries path, ∃ c name details, entry = (c :: name) :: details := by
  have single : ∀ (name : List Char) (details : Details), (∀ sign ∈ [';', '#'], sign ∉ name) →
      ∀ part ∈ (path ++ '.' :: name) :: details.1, ∀ sign ∈ [';', '#'], sign ∉ part :=
    fun name details absent => List.forall_mem_cons.2 ⟨below.not_mem absent, details.2⟩
  have named : ∀ (name : List Char) (details : Details), ∃ c more rest,
      (path ++ '.' :: name) :: details.1 = (c :: more) :: rest := by
    intro name details
    obtain ⟨c, more, e⟩ := List.exists_cons_of_ne_nil below.given
    exact ⟨c, more ++ '.' :: name, details.1, by rw [e]; rfl⟩
  induction parts with
  | none => exact ⟨List.forall_mem_nil _, List.forall_mem_nil _⟩
  | field f rest ih =>
    have absent : ∀ sign ∈ [';', '#'], sign ∉ f.name := fun sign mem =>
      f.partName.whole sign (List.mem_cons_of_mem _ (List.mem_cons_of_mem _ mem))
    exact ⟨List.forall_mem_cons.2 ⟨single f.name f.details absent, ih.1⟩,
      List.forall_mem_cons.2 ⟨named f.name f.details, ih.2⟩⟩
  | level word details inner rest _ ih =>
    exact ⟨List.forall_mem_cons.2 ⟨single word.1 details word.whole.2.1, ih.1⟩,
      List.forall_mem_cons.2 ⟨named word.1 details, ih.2⟩⟩

end Parts

/-- A level is listed by one question, and then its entries are added. -/
theorem run_listing (parts : Parts) {path : List Char} (below : Below owner path) (depth : Nat)
    {via : Option String} {g : Growth} {past : List Exchange}
    (object : listedObject g.node renamed via = String.ofList path)
    (listed : peer.Gives (childrenCommand limits (String.ofList path)) (parts.listing path)) :
    ∃ mid, (((listChildren limits shape renamed (depth + 1) via :
        ExceptT Failure (StateT Growth Dialogue) Unit).run.run g).run peer).run past =
      ((((parts.entries path).forM (addEntry shape fun level =>
        listChildren limits shape renamed depth (some level)) :
          ExceptT Failure (StateT Growth Dialogue) Unit).run.run g).run peer).run mid := by
  obtain ⟨single, named⟩ := parts.entries_single below
  have written : (parts.listing path).toList = '6' :: '5' :: ';' ::
      ['#'].intercalate ((parts.entries path).map fun e => [';'].intercalate e) :=
    String.toList_ofList
  have spoken : peer.Says past
      ⟨childrenCommand limits (listedObject g.node renamed via), .ok (parts.listing path)⟩ := by
    rw [object]
    exact listed _
  rw [← forM_listingEntries shape _ written single named]
  exact ⟨_, run_listChildren limits shape renamed depth via g (ne_errorAnswer written) spoken⟩

/-- **The parts of a level are added**, those of its levels included. -/
theorem run_parts (parts : Parts) {path : List Char} (below : Below owner path) {depth : Nat}
    (fits : parts.depth ≤ depth + 1) (answered : parts.Answered peer limits path) (g : Growth)
    (past : List Exchange) : ∃ now,
    ((((parts.entries path).forM (addEntry shape fun level =>
        listChildren limits shape renamed depth (some level)) :
          ExceptT Failure (StateT Growth Dialogue) Unit).run.run g).run peer).run past =
      .ok (.ok (), (⟨g.node, parts.namesBehind g.node.name.toList path g.names⟩ : Growth).grown
        (parts.nodes shape g.node.name.toList path g.names)) now := by
  induction parts generalizing path depth g past with
  | none => exact ⟨past, rfl⟩
  | field f rest ih =>
    obtain ⟨now, run⟩ := ih below fits answered (g.grown [childOf shape g.names
      (path ++ '.' :: f.name) ((path ++ '.' :: f.name) :: f.details.1)
      ⟨true, String.ofList (f.details.1[1]?.getD [])⟩]) past
    refine ⟨now, ?_⟩
    rw [Parts.entries, run_forM_cons (addEntry_field f below _ g), run]
    rfl
  | level word details inner rest ihInner ihRest =>
    obtain ⟨listed, within, later⟩ := answered
    have deeper : inner.depth + 1 ≤ depth + 1 := (le_max_left _ _).trans fits
    -- what is listed has a depth of its own, so there is one left to list the level
    obtain ⟨depth, rfl⟩ : ∃ d, depth = d + 1 :=
      Nat.exists_eq_succ_of_ne_zero (by have := inner.depth_pos; omega)
    let raw := path ++ '.' :: word.1
    let bound : Growth := ⟨g.node, g.names.bind raw g.node.name.toList⟩
    have object : listedObject bound.node renamed (some (String.ofList raw)) = String.ofList raw :=
      rfl
    obtain ⟨mid, asked⟩ := run_listing inner (below.level word) depth object listed
    obtain ⟨mid', entered⟩ :=
      ihInner (below.level word) (Nat.le_of_succ_le_succ deeper) within bound mid
    let left := (⟨g.node, inner.namesBehind g.node.name.toList raw bound.names⟩ : Growth).grown
      (inner.nodes shape g.node.name.toList raw bound.names)
    obtain ⟨now, run⟩ := ihRest below ((le_max_right _ _).trans fits) later left mid'
    have first : (((addEntry shape (fun level =>
        listChildren limits shape renamed (depth + 1) (some level)) (raw :: details.1) :
          ExceptT Failure (StateT Growth Dialogue) Unit).run.run g).run peer).run past =
        .ok (.ok (), left) mid' := by
      rw [addEntry_level word details below _ g]
      exact asked.trans entered
    refine ⟨now, (Dialogue.run_bind_of_run first).trans (run.trans ?_)⟩
    rw [Growth.name_grown, Growth.names_grown, Growth.mk_grown, ← Growth.grown_append]
    rfl

/-- **A level is flattened** into the parts of its listing. -/
theorem run_level (shape : Shape) (parts : Parts) {path : List Char} (below : Below owner path)
    {depth : Nat} (fits : parts.depth ≤ depth) {via : Option String} {g : Growth}
    (past : List Exchange) (object : listedObject g.node renamed via = String.ofList path)
    (listed : peer.Gives (childrenCommand limits (String.ofList path)) (parts.listing path))
    (answered : parts.Answered peer limits path) :
    ∃ now, (((listChildren limits shape renamed depth via :
        ExceptT Failure (StateT Growth Dialogue) Unit).run.run g).run peer).run past =
      .ok (.ok (), (⟨g.node, parts.namesBehind g.node.name.toList path g.names⟩ : Growth).grown
        (parts.nodes shape g.node.name.toList path g.names)) now := by
  obtain ⟨depth, rfl⟩ : ∃ d, depth = d + 1 :=
    Nat.exists_eq_succ_of_ne_zero (by have := parts.depth_pos; omega)
  obtain ⟨mid, first⟩ := run_listing parts below depth object listed
  obtain ⟨now, run⟩ := run_parts parts below fits answered g mid
  exact ⟨now, first.trans run⟩

end Run

/-! ## What is shown -/

section Shown

variable {shape : Shape} {node owner : List Char}

/-- What the map holds while parts are listed: the node's name for one level, or nothing as long as
none was entered and the object has the node's name itself. -/
def Knows (node owner : List Char) (names : NameMap) (key : List Char) : Prop :=
  names = ⟨[(key, node)]⟩ ∨ names = {} ∧ key = node ∧ owner = node

/-- Behind a level the owner is still known, under the level's path. -/
theorem Knows.bind {names : NameMap} {key : List Char} (knows : Knows node owner names key)
    (level : List Char) : Knows node owner (names.bind level node) level := by
  refine .inl ?_
  obtain rfl | ⟨rfl, -, -⟩ := knows
  · simp [NameMap.bind, NameMap.bind.go]
  · rfl

/-- **The owner that is shown** is the node for the level that is known, and the object for any
other. -/
theorem displayName_level (nodeName : OwnerName node) (ownerName : OwnerName owner)
    {path part : List Char} (below : Below owner path) (partName : PartName part) {names : NameMap}
    {key : List Char} (knows : Knows node owner names key) :
    displayName (path ++ '.' :: part) shape names =
      shape.part (if path = key then node else owner) part := by
  have single : '.' ∉ part := partName.whole '.' (by decide)
  obtain rfl | ⟨rfl, rfl, rfl⟩ := knows
  · split
    · rename_i here
      refine displayName_part nodeName (.refl nodeName) partName shape ?_
      exact withShownOwner_known single (by simp [NameMap.shown?, here])
    · rename_i elsewhere
      refine displayName_part ownerName below partName shape ?_
      exact withShownOwner_unknown single (by simp [NameMap.shown?, elsewhere])
  · rw [ite_self]
    exact displayName_part ownerName below partName shape (withShownOwner_unknown single rfl)

namespace Parts

/-- As many nodes are added as there are fields. -/
theorem length_nodes (parts : Parts) (path : List Char) (names : NameMap) :
    (parts.nodes shape node path names).length = parts.fields.length := by
  induction parts generalizing path names with
  | none => rfl
  | field f rest ih => exact congrArg Nat.succ (ih path names)
  | level word details inner rest ihInner ihRest =>
    rw [nodes, fields, List.length_append, List.length_append, ihInner, ihRest]

/-- Of what was listed, the level that was entered last is known. -/
theorem knows_namesBehind (parts : Parts) {path : List Char} {names : NameMap} {key : List Char}
    (knows : Knows node owner names key) (leads : path <+: key) :
    ∃ key', Knows node owner (parts.namesBehind node path names) key' ∧ path <+: key' := by
  induction parts generalizing path names key with
  | none => exact ⟨key, knows, leads⟩
  | field f rest ih => exact ih knows leads
  | level word details inner rest ihInner ihRest =>
    obtain ⟨key', knows', leads'⟩ :=
      ihInner (knows.bind (path ++ '.' :: word.1)) (List.prefix_refl _)
    exact ihRest knows' ((List.prefix_append path _).trans leads')

/-- **When parts are shown under the node's name**: always if the object has this name, and
otherwise if the level is known at its first field and no field stands behind a level. -/
theorem names_nodes_iff (nodeName : OwnerName node) (ownerName : OwnerName owner) (parts : Parts)
    {path : List Char} (below : Below owner path) {names : NameMap} {key : List Char}
    (knows : Knows node owner names key) (leads : path <+: key) :
    (parts.nodes shape node path names).map (·.name) =
        parts.fields.map (fun part => String.ofList (shape.part node part)) ↔
      owner = node ∨ (path = key ∨ parts.Bare) ∧ parts.Ordered := by
  induction parts generalizing path names key with
  | none => simp [nodes, fields, Bare, Ordered]
  | field f rest ih =>
    have first : String.ofList (displayName (path ++ '.' :: f.name) shape names) =
        String.ofList (shape.part node f.name) ↔ path = key ∨ owner = node := by
      rw [displayName_level nodeName ownerName below f.partName knows]
      split
      · rename_i here
        simp [here]
      · rename_i elsewhere
        constructor
        · exact fun same => .inr (Shape.part_inj (String.ofList_inj.1 same))
        · rintro (here | rfl)
          · exact absurd here elsewhere
          · rfl
    rw [nodes, fields, List.map_cons, List.map_cons, List.cons_eq_cons, ih below knows leads]
    refine (and_congr_left fun _ => first).trans ?_
    rw [Bare, Ordered]
    constructor
    · rintro ⟨here | same, same' | ⟨-, ordered⟩⟩
      · exact .inl same'
      · exact .inr ⟨.inl here, ordered⟩
      · exact .inl same
      · exact .inl same
    · rintro (same | ⟨here | none, ordered⟩)
      · exact ⟨.inr same, .inl same⟩
      · exact ⟨.inl here, .inr ⟨.inl here, ordered⟩⟩
      · exact none.elim
  | level word details inner rest ihInner ihRest =>
    let raw := path ++ '.' :: word.1
    have entered := knows.bind raw
    obtain ⟨key', left, deeper⟩ := inner.knows_namesBehind entered (List.prefix_refl raw)
    -- the level itself stays known only until one of its levels is entered
    have forgotten : path ≠ key' := by
      rintro rfl
      have longer : raw.length ≤ path.length := deeper.length_le
      simp only [raw, List.length_append, List.length_cons] at longer
      omega
    have lengths : ((inner.nodes shape node raw (names.bind raw node)).map (·.name)).length =
        (inner.fields.map fun part => String.ofList (shape.part node part)).length := by
      rw [List.length_map, List.length_map, length_nodes]
    have apart : ∀ rest rest' : List String,
        (inner.nodes shape node raw (names.bind raw node)).map (·.name) ++ rest =
            inner.fields.map (fun part => String.ofList (shape.part node part)) ++ rest' ↔
          (inner.nodes shape node raw (names.bind raw node)).map (·.name) =
            inner.fields.map (fun part => String.ofList (shape.part node part)) ∧ rest = rest' :=
      fun _ _ => ⟨fun same => List.append_inj same lengths, fun ⟨first, second⟩ => by
        rw [first, second]⟩
    rw [nodes, fields, List.map_append, List.map_append, apart,
      ihInner (below.level word) entered (List.prefix_refl raw),
      ihRest below left ((List.prefix_append path _).trans deeper), Bare, Ordered]
    constructor
    · rintro ⟨same | ⟨-, within⟩, same' | ⟨here | bare, ordered⟩⟩
      · exact .inl same
      · exact .inl same
      · exact .inl same
      · exact .inl same'
      · exact absurd here forgotten
      · exact .inr ⟨.inr bare, within, bare, ordered⟩
    · rintro (same | ⟨-, within, bare, ordered⟩)
      · exact ⟨.inl same, .inl same⟩
      · exact ⟨.inr ⟨.inl rfl, within⟩, .inr ⟨.inr bare, ordered⟩⟩

end Parts

end Shown

end Variable

end DebugLink
