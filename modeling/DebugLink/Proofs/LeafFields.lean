import DebugLink.Proofs.RefreshedNodes

/-!
# Fields in a listing

An entry of a listing is either a field or an access level, and which of the two it is, is read off
its name alone. A field becomes a child of its own. A level becomes what its own listing adds, even
if it has no children at all: so of a field that has the name of an access level, as any may have in
C, nothing is left.

* `IsEntry`: an entry that can be read, and is not that of a base class.
* `LeafChild`: the child of a field without parts of its own.
* `leaf_listed_iff`: such a field becomes one child exactly if its name is not that of a level.
* `leaf_dropped`: a field of which nothing is left.
-/

namespace DebugLink.Variable

open Text

/-- An entry with a name that is not that of a base class, and without signs between its parts. -/
structure IsEntry (entry : List (List Char)) : Prop where
  given : isVoid entry = false
  single : ∀ part ∈ entry, ∀ sign ∈ [';', '#'], sign ∉ part

/-- The number of children that is listed for an entry. -/
def countOf (entry : List (List Char)) : Nat := (readTrimmed32 (entry[1]?.getD [])).getD 0

/-- The child of an entry without children: gdb knows it by the name that is listed, it has the type
that is listed, and the value that is listed or, if that says too little, evaluated. -/
structure LeafChild (peer : Peer) (past : List Exchange) (entry : List (List Char)) (child : Node)
    (later : List Exchange) : Prop where
  gdbName : child.gdbName = some (String.ofList (entry.headD []))
  type : child.type = String.ofList (entry[3]?.getD [])
  children : child.children = none
  value : ∃ evaluation, Valued peer past child.name entry evaluation later ∧
    child.value = some evaluation.value

theorem IsEntry.named {entry : List (List Char)} (isEntry : IsEntry entry) :
    ∃ c name details, entry = (c :: name) :: details := by
  have given := (Bool.or_eq_false_iff.1 isEntry.given).1
  match entry, given with
  | (c :: name) :: details, _ => exact ⟨c, name, details, rfl⟩

/-- A listing that is written entry by entry is read so. -/
theorem entriesOf_written {answer : String} {entries : List (List (List Char))}
    (written : answer.toList =
      '6' :: '5' :: ';' :: ['#'].intercalate (entries.map fun entry => [';'].intercalate entry))
    (legible : ∀ entry ∈ entries, IsEntry entry) (listed : entries ≠ []) :
    entriesOf answer = entries := by
  rw [entriesOf, if_neg (ne_errorAnswer written)]
  exact listingEntries_written written (fun entry mem => (legible entry mem).single)
    (fun entry mem => (legible entry mem).named) listed

/-- **A leaf** becomes one child of its own exactly if it is not taken for an access level: a level
adds only parts, and no part has its name. -/
theorem Adds.leaf_iff {peer : Peer} {limits : Limits} {shape : Shape} {owner : String}
    {stage after : Stage} {entry : List (List Char)} {nodes : List Node}
    (given : isVoid entry = false) (leaf : countOf entry = 0)
    (adds : Adds peer limits shape owner stage [entry] nodes after) :
    (∃ child, nodes = [child] ∧ LeafChild peer stage.past entry child after.past) ↔
      isAccessLevel (entry.headD []) = false := by
  constructor
  · rintro ⟨child, rfl, leafChild⟩
    obtain ⟨raw, named, plain⟩ := adds.isAccessLevel_eq child List.mem_cons_self
    rw [leafChild.gdbName] at named
    rw [String.ofList_injective (Option.some.inj named)]
    exact plain
  · intro plain
    obtain ⟨evaluation, valued, rfl⟩ := adds.of_part ⟨given, plain⟩
    refine ⟨_, rfl, rfl, rfl, if_neg ?_, evaluation, valued, rfl⟩
    have none : (readTrimmed32 (entry[1]?.getD [])).getD 0 = 0 := leaf
    simp [none]

/-- **A leaf is listed as one child** exactly if its name is not that of an access level, for every
node and every peer that answers everything and nests access levels only finitely. An object with
children is created for the node, and its listing is written entry by entry. Expanding the node
comes to an end, so that from some depth on the bound on nested calls does not matter. Its children
are then what the entries add, one after another, and for each entry without children that is one
child with its type and value, or else, if its name ends in an access level, what the listing of
that name adds. -/
theorem leaf_listed_iff {limits : Limits} {peer : Peer} (reliable : peer.Reliable)
    (nests : NestsFinitely peer limits) (type : String) {node : Node} {object : VarObject}
    {answer : String} {past opened listed : List Exchange}
    (created : Creates peer past node.name (some object) opened) (filled : object.children ≠ 0)
    (lists : Lists peer opened limits (node.opened object) object.renamed answer listed)
    {entries : List (List (List Char))} (written : answer.toList =
      '6' :: '5' :: ';' :: ['#'].intercalate (entries.map fun entry => [';'].intercalate entry))
    (legible : ∀ entry ∈ entries, IsEntry entry) :
    ∃ depth after later children,
      (∀ bound, depth ≤ bound → (((expand { limits with maxDepth := bound } type :
          ExceptT Failure (StateT Node Dialogue) Unit).run.run node).run peer).run past =
        .ok (.ok (), after) later) ∧
      after.children = some children ∧
      ∀ before entry behind, entries = before ++ entry :: behind → countOf entry = 0 →
        ∃ first second last earlier own further, children = earlier ++ own ++ further ∧
          Adds peer limits (.ofType type) node.name ⟨object.names node.name, listed⟩ before earlier
            first ∧
          Adds peer limits (.ofType type) node.name first [entry] own second ∧
          Adds peer limits (.ofType type) node.name second behind further last ∧
          ((∃ child, own = [child] ∧ LeafChild peer first.past entry child second.past) ↔
            isAccessLevel (entry.headD []) = false) := by
  have ends : Ending.Ends peer (fun bound => (expand { limits with maxDepth := bound } type :
      ExceptT Failure (StateT Node Dialogue) Unit)) (node, ()) past _ :=
    ends_expands reliable nests type node
  obtain ⟨depth, ⟨_, after⟩, later, ⟨_, rfl, -, expands⟩, run⟩ := ends
  obtain ⟨children, last, -, adds, rfl, -⟩ := expands.of_lists created filled lists
  refine ⟨depth, _, later, children, run, rfl, ?_⟩
  rintro before entry behind rfl leaf
  rw [entriesOf_written written legible (by simp)] at adds
  obtain ⟨first, second, earlier, own, further, rfl, start, within, rest⟩ := adds.exists_between
  refine ⟨first, second, last, earlier, own, further, rfl, start, within, rest, ?_⟩
  have isEntry := legible entry (List.mem_append_right _ List.mem_cons_self)
  exact within.leaf_iff isEntry.given leaf

/-! ## A structure with a field that is called private -/

/-- What gdb answers about `s`: both of its fields are numbers. -/
def privateAnswers : List (String × String) := [
  ("-var-create s \"*\" s", "2"),
  ("-var-list-children --all-values s 0 50", "65;s.private;0;5;int#s.a;0;1;int"),
  ("-var-list-children --all-values s.private 0 50", "65;")]

/-- A gdb that knows no more than that. -/
def privatePeer : Peer := .answering privateAnswers

/-- The structure before it is expanded. -/
def privateStruct : Node := { name := "s", type := "struct s", value := none }

/-- The field of the structure with this name and value, as it is listed. -/
def numberEntry (name value : String) : List (List Char) :=
  [name.toList, ['0'], value.toList, "int".toList]

/-- The fields as they are listed. -/
def privateEntries : List (List (List Char)) := [numberEntry "s.private" "5", numberEntry "s.a" "1"]

theorem isEntry_private : ∀ entry ∈ privateEntries, IsEntry entry := by
  have given : ∀ entry ∈ privateEntries, isVoid entry = false := by decide
  have single : ∀ entry ∈ privateEntries, ∀ part ∈ entry, ';' ∉ part ∧ '#' ∉ part := by decide
  refine fun entry mem => ⟨given entry mem, fun part inside => ?_⟩
  obtain ⟨apart, within⟩ := single entry mem part inside
  exact List.forall_mem_cons.2 ⟨apart, List.forall_mem_singleton.2 within⟩

theorem written_private : "65;s.private;0;5;int#s.a;0;1;int".toList =
    '6' :: '5' :: ';' ::
      ['#'].intercalate (privateEntries.map fun entry => [';'].intercalate entry) := by
  decide

theorem nestsFinitely_privatePeer : NestsFinitely privatePeer ⟨50, 0⟩ :=
  nestsFinitely_answering
    (fun command => if command = "-var-list-children --all-values s 0 50" then 1 else 0)
    (by decide +kernel)

/-- An object is created for the structure, and its fields are listed. -/
theorem exists_lists_private : ∃ opened listed,
    Creates privatePeer [] privateStruct.name (some ⟨"s", 2, false⟩) opened ∧
      Lists privatePeer opened ⟨50, 0⟩ (privateStruct.opened ⟨"s", 2, false⟩) false
        "65;s.private;0;5;int#s.a;0;1;int" listed :=
  ⟨_, _, @Creates.plain _ _ _ "2" rfl (by decide), .first rfl (.inl (by decide))⟩

/-- The other field becomes a child. -/
theorem leaf_listed_member :
    privatePeer.Reliable ∧ NestsFinitely privatePeer ⟨50, 0⟩ ∧
    (∀ entry ∈ privateEntries, IsEntry entry) ∧ countOf (numberEntry "s.a" "1") = 0 ∧
    ∃ depth after later first second earlier child further,
      (∀ bound, depth ≤ bound → (((expand ⟨50, bound⟩ "struct s" :
          ExceptT Failure (StateT Node Dialogue) Unit).run.run privateStruct).run privatePeer).run
            [] = .ok (.ok (), after) later) ∧
      after.children = some (earlier ++ [child] ++ further) ∧
      LeafChild privatePeer first (numberEntry "s.a" "1") child second := by
  obtain ⟨opened, listed, created, lists⟩ := exists_lists_private
  have reliable : privatePeer.Reliable := Peer.reliable_answering _
  obtain ⟨depth, after, later, children, run, shown, each⟩ := leaf_listed_iff reliable
    nestsFinitely_privatePeer "struct s" created (by decide) lists written_private isEntry_private
  have leaf : countOf (numberEntry "s.a" "1") = 0 := by decide
  obtain ⟨first, second, last, earlier, own, further, rfl, -, -, -, alone⟩ :=
    each [numberEntry "s.private" "5"] (numberEntry "s.a" "1") [] rfl leaf
  obtain ⟨child, rfl, leafChild⟩ := alone.2 (by decide)
  exact ⟨reliable, nestsFinitely_privatePeer, isEntry_private, leaf, depth, after, later,
    first.past, second.past, earlier, child, further, run, shown, leafChild⟩

/-- Nothing is left of the first field: the structure has one child, which is not that field. -/
theorem leaf_dropped :
    (∀ entry ∈ privateEntries, IsEntry entry ∧ countOf entry = 0) ∧
    entriesOf "65;s.private;0;5;int#s.a;0;1;int" = privateEntries ∧
    ∃ depth after later child,
      (∀ bound, depth ≤ bound → (((expand ⟨50, bound⟩ "struct s" :
          ExceptT Failure (StateT Node Dialogue) Unit).run.run privateStruct).run privatePeer).run
            [] = .ok (.ok (), after) later) ∧
      after.children = some [child] ∧ child.gdbName = some "s.a" := by
  have leaves : ∀ entry ∈ privateEntries, countOf entry = 0 := by decide
  have read : entriesOf "65;s.private;0;5;int#s.a;0;1;int" = privateEntries :=
    entriesOf_written written_private isEntry_private (List.cons_ne_nil _ _)
  obtain ⟨opened, listed, created, lists⟩ := exists_lists_private
  have ends : Ending.Ends privatePeer (fun bound => (expand ⟨50, bound⟩ "struct s" :
      ExceptT Failure (StateT Node Dialogue) Unit)) (privateStruct, ()) [] _ :=
    ends_expands (Peer.reliable_answering _) nestsFinitely_privatePeer "struct s" privateStruct
  obtain ⟨depth, ⟨_, after⟩, later, ⟨_, rfl, -, expands⟩, run⟩ := ends
  obtain ⟨children, last, -, adds, rfl, -⟩ := expands.of_lists created (by decide) lists
  rw [read] at adds
  have adds : Adds _ _ _ _ _ ([] ++ numberEntry "s.private" "5" :: [numberEntry "s.a" "1"])
    children last := adds
  obtain ⟨first, second, earlier, own, further, rfl, start, within, rest⟩ := adds.exists_between
  cases start
  obtain ⟨evaluation, -, rfl⟩ := rest.of_part (by decide)
  cases within with
  | void void => exact absurd void (by decide)
  | part part => exact absurd part.2 (by decide)
  | @level _ _ _ _ _ found _ answer _ _ said inner none =>
    -- there is no entry in the listing of the field, so nothing is added for it
    have empty : "65;" = answer := Except.ok.inj said
    have silent : entriesOf "65;" = [[[]]] := by decide
    rw [← empty, silent] at inner
    cases none
    cases inner with
    | void _ rest =>
      cases rest
      exact ⟨fun entry mem => ⟨isEntry_private entry mem, leaves entry mem⟩, read, depth, _, later,
        _, run, rfl, rfl⟩
    | part part => exact absurd part (by decide)
    | level given => exact absurd given (by decide)

end DebugLink.Variable
