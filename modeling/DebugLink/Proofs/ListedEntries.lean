import DebugLink.Proofs.ListedVariables

/-!
# Listed children, entry by entry

The children of a variable object are listed like the variables of a frame, but a child's type comes
behind its value, and the answer is cut at every sign. So a child is lost also when its value holds
the sign between its parts.

* `ListedChild`, `ListedChild.asRead`: a child as gdb lists it, and as it is read.
* `childEntry_fields`: what the answer holds of a child.
* `addEntry_listed`, `forM_addEntry_listed`: children without signs are read.
* `forM_addEntry_cases`: whatever is read without asking holds no sign.
-/

namespace DebugLink.Variable

open Text Mi Recorded

/-! ## Children in a listing -/

/-- A child as gdb lists it. -/
structure ListedChild where
  /-- The name of its variable object. -/
  name : String
  /-- Its name as a part of its owner. -/
  exp : String
  /-- The number of its own children. -/
  count : UInt32
  value : String
  type : String
  /-- What else gdb says of it. -/
  more : List (Label × String) := []

namespace ListedChild

/-- The fields that are read of a listed child. -/
def sought : List String := ["name", "numchild", "value", "type"]

/-- The fields of the tuple that gdb writes. -/
def fields (c : ListedChild) : List (Label × String) :=
  (⟨"name", .refl true⟩, c.name) :: (⟨"exp", .refl true⟩, c.exp) ::
    (⟨"numchild", .refl true⟩, toString c.count.toNat) :: (⟨"value", .refl true⟩, c.value) ::
      (⟨"type", .refl true⟩, c.type) :: c.more

/-- The node that the child calls for. -/
def node (shape : Shape) (names : NameMap) (c : ListedChild) : Node where
  name := String.ofList (displayName c.name.toList shape names)
  gdbName := some c.name
  type := c.type
  value := some c.value
  children := if c.count.toNat != 0 && c.value != nullPointer then some [] else none

/-- Its value is not asked for again. -/
def Settled (c : ListedChild) : Prop := needsReevaluation c.value.toList = false

instance (c : ListedChild) : Decidable c.Settled := inferInstanceAs (Decidable (_ = _))

/-- The child is neither a base class nor an access level, and holds no sign of the answer. -/
structure Separable (c : ListedChild) : Prop where
  named : c.name ≠ ""
  name : Without [';', '#'] c.name
  part : contains [':', ':'] c.name.toList = false
  plain : isAccessLevel c.name.toList = false
  value : Without [';', '#'] c.value
  type : Without [';', '#'] c.type

/-- The entry for the child in the answer. -/
def entry (c : ListedChild) : List (List Char) :=
  [c.name.toList, (toString c.count.toNat).toList, c.value.toList, c.type.toList]

namespace Separable

variable {c : ListedChild} (separable : c.Separable)

include separable

/-- No part of a separable child's entry holds a separator. -/
theorem not_mem {part : List Char} (mem : part ∈ c.entry) : ';' ∉ part ∧ '#' ∉ part := by
  have count : ∀ sign, sign.isDigit = false → sign ∉ (toString c.count.toNat).toList :=
    fun sign other => not_mem_toString other _
  simp only [entry, List.mem_cons, List.not_mem_nil, or_false] at mem
  rcases mem with rfl | rfl | rfl | rfl
  · exact ⟨separable.name _ (by decide), separable.name _ (by decide)⟩
  · exact ⟨count _ rfl, count _ rfl⟩
  · exact ⟨separable.value _ (by decide), separable.value _ (by decide)⟩
  · exact ⟨separable.type _ (by decide), separable.type _ (by decide)⟩

end Separable

/-- Separability is seen in the node: it has every part of the entry. -/
theorem Separable.of_node_eq {shape : Shape} {names : NameMap} {c d : ListedChild}
    (separable : d.Separable) (same : d.node shape names = c.node shape names) : c.Separable := by
  obtain ⟨-, name, type, value, -⟩ := Node.mk.inj same
  cases c
  cases d
  cases name
  cases type
  cases value
  exact ⟨separable.named, separable.name, separable.part, separable.plain, separable.value,
    separable.type⟩

end ListedChild

/-- The growth with these nodes behind the children of its node. -/
def Growth.grown (g : Growth) (children : List Node) : Growth :=
  children.foldl (fun g child =>
    { g with node := { g.node with children := some (g.node.children.getD [] ++ [child]) } }) g

namespace Growth

theorem grown_append (g : Growth) (a b : List Node) : g.grown (a ++ b) = (g.grown a).grown b :=
  List.foldl_append

/-- Nothing but the children of the node is changed, and that only if there are new ones. -/
theorem grown_eq (g : Growth) (children : List Node) :
    g.grown children =
      { g with node.children := (if children = [] then g.node.children
          else some (g.node.children.getD [] ++ children)) } := by
  induction children generalizing g with
  | nil =>
    obtain ⟨node, names⟩ := g
    cases node
    rfl
  | cons child children ih =>
    refine (ih _).trans ?_
    cases children <;> simp

theorem names_grown (g : Growth) (children : List Node) : (g.grown children).names = g.names := by
  rw [grown_eq]

theorem children_grown (g : Growth) (children : List Node) :
    (g.grown children).node.children.getD [] = g.node.children.getD [] ++ children := by
  rw [grown_eq]
  cases children <;> simp

theorem grown_inj {g : Growth} {a b : List Node} (same : g.grown a = g.grown b) : a = b := by
  have children := children_grown g a
  rw [same, children_grown] at children
  exact (List.append_cancel_left children).symm

end Growth

/-! ## The answer -/

namespace ListedChild

/-- The digits of a number need no escape. -/
theorem escape_toString (n : Nat) : escape (toString n).toList = (toString n).toList := by
  have special : ∀ d ∈ ['\\', '"', '\n', '\t'], d.isDigit = false := by simp
  refine escape_eq_self fun c mem => ?_
  have other : ∀ d ∈ ['\\', '"', '\n', '\t'], c ≠ d := by
    rintro d listed rfl
    exact not_mem_toString (special c listed) n mem
  have plain := other
  simp only [List.mem_cons, List.not_mem_nil, or_false, forall_eq_or_imp, forall_eq] at plain
  simp [escapeChar, plain]

/-- Of the strings in the tuple none but the value looks like a later field. -/
def Readable (c : ListedChild) : Prop := Legible sought { c with value := "" }.fields

instance (c : ListedChild) : Decidable c.Readable := inferInstanceAs (Decidable (Legible _ _))

/-- The child as it is read: something in its value may be taken for its type. -/
def asRead (c : ListedChild) : ListedChild :=
  { c with type := stringOrEmpty "type" (tupleText c.fields) }

variable {c : ListedChild}

/-- A legible child can be read: what is sought in it is found where it was written. -/
theorem readable_of_legible (legible : Legible sought c.fields) : c.Readable := by
  have empty : ∀ key ∈ sought, ¬Resembles key "".toList := fun _ _ => not_resembles_nil
  simp only [Legible, Readable, fields, List.pairwise_cons, List.forall_mem_cons] at legible ⊢
  obtain ⟨name, exp, count, -, type⟩ := legible
  exact ⟨name, exp, count, ⟨empty _, fun later _ => empty _⟩, type⟩

/-- It is read as it is. -/
theorem asRead_of_legible (legible : Legible sought c.fields) : c.asRead = c := by
  have type : stringOrEmpty "type" (tupleText c.fields) = c.type :=
    stringOrEmpty_tuple [(⟨"name", rfl⟩, c.name), (⟨"exp", rfl⟩, c.exp),
      (⟨"numchild", rfl⟩, toString c.count.toNat), (⟨"value", rfl⟩, c.value)] ⟨"type", rfl⟩
      (by simp) (Legible.before _ _ legible (by decide))
  rw [asRead, type]

/-- **The entry for a child** holds its strings as they are, and its value whatever that is. -/
theorem childEntry_fields (readable : c.Readable) :
    (childEntry (tupleText c.fields)).toList = [';'].intercalate c.asRead.entry := by
  have name : stringOrEmpty "name" (tupleText c.fields) = c.name :=
    stringOrEmpty_tuple [] ⟨"name", rfl⟩ List.not_mem_nil (List.forall_mem_nil _)
  have count : rawString? "numchild" (tupleText c.fields) = some (toString c.count.toNat) := by
    have raw : rawField? "numchild" (tupleText c.fields) =
        some (escape (toString c.count.toNat).toList) :=
      rawField?_tuple [(⟨"name", rfl⟩, c.name), (⟨"exp", rfl⟩, c.exp)] ⟨"numchild", rfl⟩
        (by simp) (Legible.before _ _ readable (by decide))
    rw [rawString?, raw, escape_toString, Option.map_some, String.ofList_toList]
  have value : stringOrEmpty "value" (tupleText c.fields) = c.value :=
    stringOrEmpty_tuple [(⟨"name", rfl⟩, c.name), (⟨"exp", rfl⟩, c.exp),
      (⟨"numchild", rfl⟩, toString c.count.toNat)] ⟨"value", rfl⟩
      (by simp) (Legible.before _ _ readable (by decide))
  rw [childEntry, name, count, value, String.toList_intercalate]
  rfl

/-- What is taken for the type of a child holds no sign. -/
theorem Separable.asRead (readable : c.Readable) (separable : c.Separable) :
    c.asRead.Separable := by
  have type : Without [';', '#'] (stringOrEmpty "type" (tupleText c.fields)) := by
    let before : List (Label × String) := [(⟨"name", rfl⟩, c.name), (⟨"exp", rfl⟩, c.exp),
      (⟨"numchild", rfl⟩, toString c.count.toNat)]
    have plain : ∀ f ∈ before ++ [(⟨"value", rfl⟩, "")], ¬Resembles "type" f.2.toList :=
      Legible.before _ ⟨"type", rfl⟩ readable (by decide)
    have read : stringOrEmpty "type" (tupleText c.fields) ∈
        [c.type, String.ofList (unescape (between ⟨"type", rfl⟩)), ""] :=
      stringOrEmpty_behind before ⟨"value", rfl⟩ ⟨"type", rfl⟩ (by decide) (by simp [before])
        (List.forall_mem_append.1 plain).1
    have options : ∀ t ∈ [c.type, String.ofList (unescape (between ⟨"type", rfl⟩)), ""],
        Without [';', '#'] t :=
      List.forall_mem_cons.2 ⟨separable.type, by decide⟩
    exact options _ read
  exact { separable with type }

end ListedChild

/-! ## Reading children -/

/-- A part of an entry without separators has none either. -/
theorem without_part {entry : List (List Char)}
    (single : ∀ part ∈ entry, ∀ sign ∈ [';', '#'], sign ∉ part) (i : Nat) :
    Without [';', '#'] (String.ofList (entry[i]?.getD [])) := by
  refine without_ofList.2 fun sign mem => ?_
  cases here : entry[i]? with
  | none => exact List.not_mem_nil
  | some part => exact single part (List.mem_of_getElem? here) sign mem

/-- The child that is made of an entry without signs is one without signs. -/
theorem exists_listedChild (shape : Shape) (names : NameMap) {entry : List (List Char)}
    (single : ∀ part ∈ entry, ∀ sign ∈ [';', '#'], sign ∉ part)
    (named : ¬((entry.headD []).isEmpty || contains [':', ':'] (entry.headD [])) = true)
    (plain : ¬isAccessLevel (entry.headD []) = true) {evaluation : Evaluation}
    (listed : evaluation.value = String.ofList (entry[2]?.getD []) ∨ evaluation.value = "") :
    ∃ d : ListedChild, d.Separable ∧
      d.node shape names = childOf shape names (entry.headD []) entry evaluation := by
  rw [Bool.or_eq_true, not_or, Bool.not_eq_true, Bool.not_eq_true] at named
  have head : entry.headD [] = entry[0]?.getD [] := by cases entry <;> rfl
  -- a child is counted only where the node was marked, so both marks agree
  let expandable := evaluation.valid && (readTrimmed32 (entry[1]?.getD [])).getD 0 != 0 &&
    evaluation.value != nullPointer
  let d : ListedChild := {
    name := String.ofList (entry.headD []), exp := "", count := if expandable then 1 else 0
    value := evaluation.value, type := String.ofList (entry[3]?.getD []) }
  have raw : d.name.toList = entry.headD [] := String.toList_ofList
  refine ⟨d, ⟨?_, ?_, ?_, ?_, ?_, without_part single 3⟩, ?_⟩
  · intro unnamed
    rw [← raw, unnamed] at named
    exact absurd named.1 (by decide)
  · have name : d.name = String.ofList (entry[0]?.getD []) := congrArg String.ofList head
    exact name ▸ without_part single 0
  · rw [raw, named.2]
  · rw [raw, Bool.eq_false_iff.2 plain]
  · show Without [';', '#'] evaluation.value
    obtain e | e := listed
    · exact e ▸ without_part single 2
    · rw [e]
      decide
  · have count : (d.count.toNat != 0 && d.value != nullPointer) = expandable := by
      cases known : expandable with
      | false => simp [d, known]
      | true =>
        have shown : (evaluation.value != nullPointer) = true := (Bool.and_eq_true_iff.1 known).2
        simp [d, known, shown]
    rw [ListedChild.node, childOf, raw, count]

section Read

variable {m : Type → Type} [Monad m] [LawfulMonad m]

theorem run_forM_cons {f : List (List Char) → ExceptT Failure (StateT Growth m) PUnit}
    {entry : List (List Char)} {entries : List (List (List Char))} {g now : Growth}
    (known : (f entry).run.run g = pure (Except.ok (), now)) :
    ((entry :: entries).forM f).run.run g = (entries.forM f).run.run now :=
  run_bind_of_pure (f := fun _ => entries.forM f) known

variable [Wire m] (shape : Shape) (enter : String → ExceptT Failure (StateT Growth m) Unit)

/-- What is made of an entry that is neither a base class nor an access level is a child. -/
theorem addEntry_child {g : Growth} {entry : List (List Char)} {child : Node}
    (named : ¬((entry.headD []).isEmpty || contains [':', ':'] (entry.headD [])) = true)
    (plain : ¬isAccessLevel (entry.headD []) = true)
    (known : (listedChild shape g.names (entry.headD []) entry :
      ExceptT Failure (StateT Growth m) Node) = pure child) :
    (addEntry shape enter entry).run.run g = pure (Except.ok (), g.grown [child]) := by
  unfold addEntry
  dsimp only
  rw [if_neg named, if_neg plain]
  have run : (listedChild shape g.names (entry.headD []) entry :
      ExceptT Failure (StateT Growth m) Node).run.run g = pure (Except.ok child, g) :=
    congrArg (fun x : ExceptT Failure (StateT Growth m) Node => x.run.run g) known
  exact (run_bind_of_pure (run_get g)).trans ((run_bind_of_pure run).trans (run_modify _ g))

/-- **A child without signs is read** as it is listed. -/
theorem addEntry_listed (g : Growth) {c : ListedChild} (settled : c.Settled)
    (separable : c.Separable) :
    (addEntry shape enter c.entry).run.run g =
      pure (Except.ok (), g.grown [c.node shape g.names]) := by
  refine addEntry_child shape enter (by simp [ListedChild.entry, separable.part, separable.named])
    (by simp [ListedChild.entry, separable.plain]) ?_
  have count : readTrimmed32 ((c.entry[1]?).getD []) = some c.count.toNat :=
    readTrimmed32_toString c.count.toNat_lt
  have type : String.ofList (c.entry[3]?.getD []) = c.type := String.ofList_toList
  have value : String.ofList (c.entry[2]?.getD []) = c.value := String.ofList_toList
  have name : String.ofList (c.entry.headD []) = c.name := String.ofList_toList
  have known : (listedChild shape g.names (c.entry.headD []) c.entry :
      ExceptT Failure (StateT Growth m) Node) = _ := listedChild_settled settled
  rw [known, childOf, count, type, value, name]
  rfl

theorem forM_addEntry_listed (g : Growth) {cs : List ListedChild} (settled : ∀ c ∈ cs, c.Settled)
    (separable : ∀ c ∈ cs, c.Separable) :
    ((cs.map (·.entry)).forM (addEntry shape enter)).run.run g =
      pure (Except.ok (), g.grown (cs.map (·.node shape g.names))) := by
  induction cs generalizing g with
  | nil => rfl
  | cons c cs ih =>
    obtain ⟨settled, settled'⟩ := List.forall_mem_cons.1 settled
    obtain ⟨separable, separable'⟩ := List.forall_mem_cons.1 separable
    rw [List.map_cons, run_forM_cons (addEntry_listed shape enter g settled separable),
      ih _ settled' separable', Growth.names_grown, ← Growth.grown_append]
    rfl

variable {enter} [RecordedWire m] (asking : ∀ level, Asks (enter level))

include asking

/-- What is read of an entry without asking is a child without signs, if anything is. -/
theorem addEntry_cases (g : Growth) {entry : List (List Char)}
    (single : ∀ part ∈ entry, ∀ sign ∈ [';', '#'], sign ∉ part) :
    (∃ ds : List ListedChild, (∀ d ∈ ds, d.Separable) ∧ (addEntry shape enter entry).run.run g =
        pure (Except.ok (), g.grown (ds.map (·.node shape g.names)))) ∨
      Asks ((addEntry shape enter entry).run.run g) := by
  by_cases skipped : ((entry.headD []).isEmpty || contains [':', ':'] (entry.headD [])) = true
  · refine .inl ⟨[], List.forall_mem_nil _, ?_⟩
    unfold addEntry
    dsimp only
    rw [if_pos skipped]
    rfl
  by_cases level : isAccessLevel (entry.headD []) = true
  · refine .inr ?_
    unfold addEntry
    dsimp only
    rw [if_neg skipped, if_pos level, run_bind_of_pure (run_modify _ g)]
    exact asking _ _
  obtain ⟨evaluation, listed, known⟩ | asks :=
    listedChild_cases (m := StateT Growth m) shape g.names (entry.headD []) entry
  · obtain ⟨d, separable, same⟩ := exists_listedChild shape g.names single skipped level listed
    refine .inl ⟨[d], List.forall_mem_singleton.2 separable, ?_⟩
    rw [addEntry_child shape enter skipped level known, ← same]
    rfl
  · refine .inr ?_
    unfold addEntry
    dsimp only
    rw [if_neg skipped, if_neg level, run_bind_of_pure (run_get g)]
    exact asks_run_bind (asks g) fun _ => grows_modify _

/-- **Whatever is read without asking** is children without signs. -/
theorem forM_addEntry_cases (g : Growth) {entries : List (List (List Char))}
    (single : ∀ entry ∈ entries, ∀ part ∈ entry, ∀ sign ∈ [';', '#'], sign ∉ part) :
    (∃ ds : List ListedChild, (∀ d ∈ ds, d.Separable) ∧
        (entries.forM (addEntry shape enter)).run.run g =
          pure (Except.ok (), g.grown (ds.map (·.node shape g.names)))) ∨
      Asks ((entries.forM (addEntry shape enter)).run.run g) := by
  induction entries generalizing g with
  | nil => exact .inl ⟨[], List.forall_mem_nil _, rfl⟩
  | cons entry entries ih =>
    obtain ⟨first, later⟩ := List.forall_mem_cons.1 single
    obtain ⟨ds, separable, known⟩ | asks := addEntry_cases shape asking g first
    · rw [run_forM_cons known]
      obtain ⟨es, separable', known'⟩ | asks :=
        ih (g.grown (ds.map (·.node shape g.names))) later
      · refine .inl ⟨ds ++ es, List.forall_mem_append.2 ⟨separable, separable'⟩, ?_⟩
        rw [known', Growth.names_grown, List.map_append, Growth.grown_append]
      · exact .inr asks
    · refine .inr (asks_run_bind asks fun _ => grows_forM (fun entry => ?_) entries)
      exact grows_addEntry shape (fun level => grows_of_asks (asking level)) entry

end Read

end DebugLink.Variable
