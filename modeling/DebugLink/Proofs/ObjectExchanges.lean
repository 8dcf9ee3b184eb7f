import DebugLink.Proofs.ListedChildren
import DebugLink.Proofs.Traced

/-!
# Exchanges about variable objects

A variable object of gdb lives only while the children of one node are listed. It is created under
the name of the node or under a longer one, and what is asked until it is deleted are listings and
values.

* `Tended`: exchanges in which every object is deleted again before the next one is created.
* `Expansion`: the exchanges by which one node is expanded, or is not.
* `leaves_createObject`: what is left of an expansion while the object is there.
* `leaves_listChildren`: no object is created or deleted while children are listed.
-/

namespace DebugLink

open Text Traced TracedWire

namespace Variable

/-! ## Exchanges about objects -/

/-- The command that creates a variable object for an expression. -/
def createCommand (object name : String) : String := s!"-var-create {object} \"*\" {name}"

/-- The command that deletes a variable object. -/
def deleteCommand (object : String) : String := s!"-var-delete {object}"

end Variable

namespace Exchange

open Variable

/-- It is not about variable objects. -/
def Aside (e : Exchange) : Prop := startsWith "-var-" e.command = false

/-- The children of some variable object are listed. -/
def Lists (e : Exchange) : Prop := ∃ limits object, e.command = childrenCommand limits object

/-- No variable object is created or deleted. -/
def Inside (e : Exchange) : Prop := e.Aside ∨ e.Lists

end Exchange

namespace Variable

/-- **Every object is tended**: what is created is deleted before anything else is, or is created,
and children are listed only in between. -/
inductive Tended : List Exchange → Prop
  | nil : Tended []
  | aside {e : Exchange} {trace : List Exchange} (aside : e.Aside) (rest : Tended trace) :
      Tended (e :: trace)
  | refused {object name : String} {trace : List Exchange} (rest : Tended trace) :
      Tended (⟨createCommand object name, .ok Mi.errorAnswer⟩ :: trace)
  | created {object name answer : String} {deleted : Except Failure String}
      {inside trace : List Exchange} (accepted : answer ≠ Mi.errorAnswer)
      (within : ∀ e ∈ inside, e.Inside) (rest : Tended trace) :
      Tended (⟨createCommand object name, .ok answer⟩ ::
        (inside ++ ⟨deleteCommand object, deleted⟩ :: trace))

/-- The exchanges by which a node is expanded through an object of its own name, or of a longer one
if that is refused, or is not when both are. -/
inductive Expansion (name : String) : Option String → List Exchange → Prop
  | refused : Expansion name none
      [⟨createCommand name name, .ok Mi.errorAnswer⟩,
        ⟨createCommand (objectLead ++ name) name, .ok Mi.errorAnswer⟩]
  | plain {answer : String} {deleted : Except Failure String} {inside : List Exchange}
      (accepted : answer ≠ Mi.errorAnswer) (within : ∀ e ∈ inside, e.Inside) :
      Expansion name (some name) (⟨createCommand name name, .ok answer⟩ ::
        (inside ++ [⟨deleteCommand name, deleted⟩]))
  | renamed {answer : String} {deleted : Except Failure String} {inside : List Exchange}
      (accepted : answer ≠ Mi.errorAnswer) (within : ∀ e ∈ inside, e.Inside) :
      Expansion name (some (objectLead ++ name))
        (⟨createCommand name name, .ok Mi.errorAnswer⟩ ::
          ⟨createCommand (objectLead ++ name) name, .ok answer⟩ ::
            (inside ++ [⟨deleteCommand (objectLead ++ name), deleted⟩]))

namespace Tended

/-- Tended exchanges after tended ones are tended. -/
theorem append {t u : List Exchange} (ht : Tended t) (hu : Tended u) : Tended (t ++ u) := by
  induction ht with
  | nil => exact hu
  | aside aside _ ih => exact .aside aside ih
  | refused _ ih => exact .refused ih
  | created accepted within _ ih =>
    rw [List.cons_append, List.append_assoc]
    exact .created accepted within ih

/-- Exchanges that name no object leave every object tended. -/
theorem of_asides {t : List Exchange} (asides : ∀ e ∈ t, e.Aside) : Tended t := by
  induction t with
  | nil => exact .nil
  | cons e t ih =>
    obtain ⟨first, later⟩ := List.forall_mem_cons.1 asides
    exact .aside first (ih later)

/-- Each way an expansion goes closes what it opened. -/
theorem of_expansion {name : String} {accepted : Option String} {t : List Exchange}
    (expansion : Expansion name accepted t) : Tended t := by
  cases expansion with
  | refused => exact .refused (.refused .nil)
  | plain accepted within => exact .created accepted within .nil
  | renamed accepted within => exact .refused (.created accepted within .nil)

end Tended

/-! ## What is asked for values -/

/-- A command that does not begin like those on objects names no object. -/
theorem aside_append {head : String} (other : head.toList.take 5 ≠ "-var-".toList)
    (long : 5 ≤ head.toList.length) (rest : String) (answer : Except Failure String) :
    (⟨head ++ rest, answer⟩ : Exchange).Aside := by
  unfold Exchange.Aside startsWith
  rw [Bool.eq_false_iff, String.toList_append]
  intro leads
  refine other ?_
  rw [← List.take_append_of_le_length long]
  exact (List.prefix_iff_eq_take.1 (List.isPrefixOf_iff_prefix.1 leads)).symm

theorem aside_evaluate (expression : String) (answer : Except Failure String) :
    (⟨evaluateCommand expression, answer⟩ : Exchange).Aside :=
  aside_append (by decide) (by decide) _ answer

section Values

variable {m : Type → Type} {S : Type} [Monad m] [Wire m] [TracedWire m S] {s : S}

/-- Evaluating asks twice at most, and names no object. -/
theorem leaves_evaluate (name : String) (gdbName : Option String) :
    Leaves (evaluate name gdbName : ExceptT Failure m Evaluation) s fun _ now trace =>
      now = s ∧ ∀ e ∈ trace, e.Aside := by
  unfold evaluate
  extract_lets shown
  split
  · exact leaves_pure ⟨rfl, List.forall_mem_nil _⟩
  refine leaves_bind (leaves_request fun first => ?_)
  have once := aside_evaluate (String.ofList shown) (.ok first)
  split
  · split
    · exact leaves_pure ⟨rfl, List.forall_mem_singleton.2 once⟩
    · refine leaves_bind (leaves_request fun second => leaves_pure ⟨rfl, ?_⟩)
      exact List.forall_mem_cons.2 ⟨once, List.forall_mem_singleton.2 (aside_evaluate _ _)⟩
  · exact leaves_pure ⟨rfl, List.forall_mem_singleton.2 once⟩

/-! ## Creating objects -/

/-- Whether an object was created, and as which. -/
theorem leaves_createAs (object name : String) :
    Leaves (createAs object name : ExceptT Failure m (Option VarObject)) s fun created now trace =>
      now = s ∧ ∃ answer, trace = [⟨createCommand object name, .ok answer⟩] ∧
        (created = none ∧ answer = Mi.errorAnswer ∨
          answer ≠ Mi.errorAnswer ∧ ∃ o, created = some o ∧ o.name = object) := by
  refine leaves_bind (leaves_request fun answer => ?_)
  split
  · rename_i refused
    exact leaves_pure ⟨rfl, answer, rfl, .inl ⟨rfl, refused⟩⟩
  · rename_i accepted
    exact leaves_pure ⟨rfl, answer, rfl, .inr ⟨accepted, _, rfl, rfl⟩⟩

/-- What is left of an expansion when an object was created and is not yet deleted. -/
inductive Opened (name : String) : Option VarObject → List Exchange → Prop
  | refused : Opened name none
      [⟨createCommand name name, .ok Mi.errorAnswer⟩,
        ⟨createCommand (objectLead ++ name) name, .ok Mi.errorAnswer⟩]
  | plain {object : VarObject} {answer : String} (accepted : answer ≠ Mi.errorAnswer)
      (named : object.name = name) :
      Opened name (some object) [⟨createCommand name name, .ok answer⟩]
  | renamed {object : VarObject} {answer : String} (accepted : answer ≠ Mi.errorAnswer)
      (named : object.name = objectLead ++ name) :
      Opened name (some object) [⟨createCommand name name, .ok Mi.errorAnswer⟩,
        ⟨createCommand (objectLead ++ name) name, .ok answer⟩]

/-- What was opened is an expansion once it is closed. -/
theorem Opened.expansion {name : String} {object : VarObject} {opening inside : List Exchange}
    (opened : Opened name (some object) opening) (within : ∀ e ∈ inside, e.Inside)
    (deleted : Except Failure String) :
    Expansion name (some object.name)
      (opening ++ (inside ++ [⟨deleteCommand object.name, deleted⟩])) := by
  cases opened with
  | plain accepted named =>
    rw [named]
    exact .plain accepted within
  | renamed accepted named =>
    rw [named]
    exact .renamed accepted within

/-- An object is opened by one of the three ways to create it. -/
theorem leaves_createObject (name : String) :
    Leaves (createObject name : ExceptT Failure m (Option VarObject)) s fun created now trace =>
      now = s ∧ Opened name created trace := by
  refine leaves_seq (leaves_createAs name name) ?_
  rintro created now trace ⟨rfl, answer, rfl, ⟨rfl, rfl⟩ | ⟨accepted, object, rfl, named⟩⟩
  · refine leaves_mono (leaves_createAs (objectLead ++ name) name) ?_
    rintro created' now trace ⟨rfl, answer, rfl, ⟨rfl, rfl⟩ | ⟨accepted, object, rfl, named⟩⟩
    · exact ⟨rfl, .refused⟩
    · exact ⟨rfl, .renamed accepted named⟩
  · exact leaves_pure ⟨rfl, .plain accepted named⟩

/-! ## Listing children -/

theorem leaves_requestChildren (limits : Limits) (object : String) :
    Leaves (requestChildren limits object : ExceptT Failure m String) s fun _ now trace =>
      now = s ∧ ∀ e ∈ trace, e.Lists :=
  leaves_request fun _ => ⟨rfl, List.forall_mem_singleton.2 ⟨limits, object, rfl⟩⟩

/-- Asking for the children only lists. -/
theorem leaves_requestListing (limits : Limits) (node : Node) (renamed : Bool)
    (via : Option String) :
    Leaves (requestListing limits node renamed via : ExceptT Failure m String) s
      fun _ now trace => now = s ∧ ∀ e ∈ trace, e.Lists := by
  unfold requestListing
  split
  · exact leaves_requestChildren limits _
  · exact leaves_requestChildren limits _
  split
  · exact leaves_requestChildren limits _
  refine leaves_seq (leaves_requestChildren limits _) fun answer now trace first => ?_
  obtain ⟨rfl, first⟩ := first
  split
  · refine leaves_mono (leaves_requestChildren limits _) fun _ now more second => ?_
    exact ⟨second.1, List.forall_mem_append.2 ⟨first, second.2⟩⟩
  · exact leaves_pure ⟨rfl, by rwa [List.append_nil]⟩

/-- A listed child is evaluated at most, and an evaluation names no object. -/
theorem leaves_listedChild [LawfulMonad m] (shape : Shape) (names : NameMap) (raw : List Char)
    (entry : List (List Char)) :
    Leaves (listedChild shape names raw entry : ExceptT Failure m Node) s fun _ now trace =>
      now = s ∧ ∀ e ∈ trace, e.Aside := by
  cases settled : needsReevaluation (entry[2]?.getD []) with
  | false =>
    rw [listedChild_settled settled]
    exact leaves_pure ⟨rfl, List.forall_mem_nil _⟩
  | true =>
    rw [listedChild_unsettled settled]
    exact leaves_map (leaves_evaluate _ _)

/-- What a listing leaves of a node, with the exchanges meanwhile: its name and value stay, its
children are at most more, and no object is created or deleted. -/
structure Listing (before after : Growth) (trace : List Exchange) : Prop where
  name : after.node.name = before.node.name
  value : after.node.value = before.node.value
  children : before.node.children.isSome = true → after.node.children.isSome = true
  inside : ∀ e ∈ trace, e.Inside

namespace Listing

theorem refl (g : Growth) : Listing g g [] := ⟨rfl, rfl, id, List.forall_mem_nil _⟩

theorem trans {a b c : Growth} {t u : List Exchange} (first : Listing a b t)
    (second : Listing b c u) : Listing a c (t ++ u) :=
  ⟨second.name.trans first.name, second.value.trans first.value,
    second.children ∘ first.children, List.forall_mem_append.2 ⟨first.inside, second.inside⟩⟩

end Listing

variable [LawfulMonad m]

/-- An entry adds a node or enters its level, and both stay within the object that is listed. -/
theorem leaves_addEntry (shape : Shape) {enter : String → ExceptT Failure (StateT Growth m) Unit}
    (entering : ∀ level g, Leaves (enter level) g fun _ now trace => Listing g.1 now.1 trace)
    (entry : List (List Char)) (g : Growth × S) :
    Leaves (addEntry shape enter entry) g fun _ now trace => Listing g.1 now.1 trace := by
  unfold addEntry
  extract_lets raw
  split
  · exact leaves_pure (Listing.refl g.1)
  split
  · refine leaves_bind (leaves_modify ?_)
    exact leaves_mono (entering _ _) fun _ now trace listing => ⟨listing.name, listing.value,
      listing.children, listing.inside⟩
  refine leaves_bind (leaves_get ?_)
  refine leaves_seq (leaves_listedChild shape _ raw entry) fun child now trace asked => ?_
  obtain ⟨rfl, asides⟩ := asked
  refine leaves_modify ⟨rfl, rfl, fun _ => rfl, ?_⟩
  rw [List.append_nil]
  exact fun e mem => .inl (asides e mem)

/-- **While children are listed** no object is created or deleted, however deep they are nested. -/
theorem leaves_listChildren (limits : Limits) (shape : Shape) (renamed : Bool) (depth : Nat)
    (via : Option String) (g : Growth × S) :
    Leaves (listChildren limits shape renamed depth via :
      ExceptT Failure (StateT Growth m) Unit) g fun _ now trace => Listing g.1 now.1 trace := by
  induction depth generalizing via g with
  | zero =>
    exact leaves_bind (leaves_bind leaves_overrun)
  | succ depth ih =>
    unfold listChildren
    refine leaves_bind (leaves_get ?_)
    refine leaves_seq (leaves_requestListing limits g.1.node renamed via) ?_
    rintro answer now trace ⟨rfl, lists⟩
    split
    · refine leaves_pure ⟨rfl, rfl, id, ?_⟩
      rw [List.append_nil]
      exact fun e mem => .inr (lists e mem)
    · have entries := leaves_forM (R := fun g now => Listing g.1 now.1)
        (fun g => Listing.refl g.1)
        (fun {g mid now _ _} (first : Listing g.1 mid.1 _) (second : Listing mid.1 now.1 _) =>
          first.trans second)
        (fun entry g => leaves_addEntry shape (fun level g => ih (some level) g) entry g)
        (listingEntries answer)
      refine leaves_mono (entries _) fun _ now more listing => ?_
      have inside : ∀ e ∈ trace ++ more, e.Inside :=
        List.forall_mem_append.2 ⟨fun e mem => .inr (lists e mem), listing.inside⟩
      exact ⟨listing.name, listing.value, listing.children, inside⟩

/-- Growing a node keeps its name and its value, and every exchange of it is inside the object. -/
theorem leaves_growFrom (limits : Limits) (shape : Shape) (object : VarObject) (s : Node × S) :
    Leaves (growFrom limits shape object : ExceptT Failure (StateT Node m) Unit) s
      fun _ now trace => now.1.name = s.1.name ∧ now.1.value = s.1.value ∧
        (s.1.children.isSome = true → now.1.children.isSome = true) ∧ ∀ e ∈ trace, e.Inside := by
  obtain ⟨node, s⟩ := s
  let names : NameMap :=
    if object.renamed then ({} : NameMap).bind object.name.toList node.name.toList else {}
  have listed : Leaves ((listChildren limits shape object.renamed limits.maxDepth none :
      ExceptT Failure (StateT Growth m) Unit).run.run ⟨node, names⟩) s
      fun next _ trace => ∃ a, next.1 = .ok a ∧ Listing ⟨node, names⟩ next.2 trace :=
    leaves_listChildren limits shape object.renamed limits.maxDepth none (⟨node, names⟩, s)
  refine leaves_seq (m := m) listed ?_
  rintro ⟨_, growth⟩ now trace ⟨⟨⟩, rfl, listing⟩
  refine leaves_pure ⟨(), rfl, listing.name, listing.value, listing.children, ?_⟩
  rw [List.append_nil]
  exact listing.inside

end Values

end Variable

end DebugLink
