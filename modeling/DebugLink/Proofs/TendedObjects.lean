import DebugLink.Proofs.FollowedPaths
import DebugLink.Proofs.ObjectExchanges
import Mathlib.Data.List.Forall2

/-!
# Variable objects are tended

Whatever gdb answers, and however deep access levels are nested in each other, what is sent is a row
of brackets, each of them from the creation of an object to its deletion, with nothing between but
listings and questions for values. A node is asked for under its own name and under a longer one,
and not again.

* `Visit`: the exchanges in which one node is looked at.
* `leaves_expand`, `leaves_build`, `leaves_frameVariables`, `leaves_resolve`: what each of them
  leaves.
* `objects_tended`: whatever is looked at, objects are tended, and each node is expanded once.
-/

namespace DebugLink

open Text Traced TracedWire

namespace Variable

/-! ## Visits -/

/-- One node is looked at: it is expanded at most once, under its name. Its children are those from
before unless gdb accepts an object for it. -/
inductive Visit (before after : Node) : List Exchange → Prop
  | left {trace : List Exchange} (asides : ∀ e ∈ trace, e.Aside)
      (named : after.name = before.name) (kept : after.children = before.children) :
      Visit before after trace
  | refused {lead trace rest : List Exchange} (asides : ∀ e ∈ lead, e.Aside)
      (expansion : Expansion before.name none trace) (later : ∀ e ∈ rest, e.Aside)
      (named : after.name = before.name) (kept : after.children = before.children) :
      Visit before after (lead ++ trace ++ rest)
  | expanded {object : String} {lead trace rest : List Exchange} (asides : ∀ e ∈ lead, e.Aside)
      (expansion : Expansion before.name (some object) trace) (later : ∀ e ∈ rest, e.Aside)
      (named : after.name = before.name) (listed : after.children.isSome = true) :
      Visit before after (lead ++ trace ++ rest)

/-- A node that was not known before is visited. -/
def FirstVisit (name : String) (node : Node) (trace : List Exchange) : Prop :=
  ∃ before : Node, before.name = name ∧ before.children = none ∧ Visit before node trace

/-- Nodes that were not known before are visited one after another. -/
def FirstVisits (nodes : List Node) (trace : List Exchange) : Prop :=
  ∃ blocks : List (List Exchange), trace = blocks.flatten ∧
    List.Forall₂ (fun node block => FirstVisit node.name node block) nodes blocks

/-- A visit to a node leaves its objects tended, whether its expansion was refused or not. -/
theorem Tended.of_visit {before after : Node} {t : List Exchange} (visit : Visit before after t) :
    Tended t := by
  cases visit with
  | left asides => exact of_asides asides
  | refused asides expansion later =>
    exact ((of_asides asides).append (of_expansion expansion)).append (of_asides later)
  | expanded asides expansion later =>
    exact ((of_asides asides).append (of_expansion expansion)).append (of_asides later)

section Values

variable {m : Type → Type} {S : Type} [Monad m] [Wire m] [TracedWire m S] {s : S}
  [LawfulMonad m]

/-! ## Expanding -/

/-- What an expansion leaves of a node. -/
inductive Expanded (before after : Node) (trace : List Exchange) : Prop
  | refused (expansion : Expansion before.name none trace) (same : after = before)
  | listed {object : String} (expansion : Expansion before.name (some object) trace)
      (named : after.name = before.name) (valued : after.value = before.value)
      (listed : after.children.isSome = true)

/-- **A node is expanded** through one object, which is deleted again, or stays as it is. -/
theorem leaves_expand (limits : Limits) (type : String) (s : Node × S) :
    Leaves (expand limits type : ExceptT Failure (StateT Node m) Unit) s fun _ now trace =>
      Expanded s.1 now.1 trace := by
  unfold expand
  refine leaves_bind (leaves_get ?_)
  refine leaves_seq (leaves_createObject s.1.name) ?_
  rintro created s opening ⟨rfl, opened⟩
  split
  · exact leaves_pure (.refused (by cases opened; exact .refused) rfl)
  rename_i object
  extract_lets delete list
  -- the object is deleted in the same way whether or not its children were listed before
  have deleted : ∀ (now : Node × S) (inside : List Exchange), now.1.name = s.1.name →
      now.1.value = s.1.value → now.1.children.isSome = true → (∀ e ∈ inside, e.Inside) →
      Leaves (delete ()) now fun _ now more => Expanded s.1 now.1 (opening ++ (inside ++ more)) :=
    fun now inside named valued shown within => leaves_discard (leaves_request fun answer =>
      .listed (opened.expansion within (.ok answer)) named valued shown)
  have listed : ∀ now : Node × S, now.1.name = s.1.name → now.1.value = s.1.value →
      Leaves (list ()) now fun _ now more => Expanded s.1 now.1 (opening ++ more) := by
    intro now named valued
    refine leaves_bind (leaves_modify ?_)
    split
    · refine leaves_seq (leaves_growFrom limits _ object _) ?_
      rintro _ now inside ⟨name, value, shown, within⟩
      exact deleted now inside (name.trans named) (value.trans valued) (shown rfl) within
    · exact deleted _ [] named valued rfl (List.forall_mem_nil _)
  split
  · exact leaves_bind (leaves_modify (listed _ rfl rfl))
  · exact listed _ rfl rfl

/-- Whatever comes of an expansion, the value of the node stays. -/
theorem Expanded.value {before after : Node} {trace : List Exchange}
    (expanded : Expanded before after trace) : after.value = before.value := by
  cases expanded with
  | refused expansion same => rw [same]
  | listed expansion named valued listed => exact valued

/-! ## Looking at nodes -/

/-- An expansion between other inquiries is still one visit to the node. -/
theorem Expanded.visit {before mid after : Node} {lead trace rest : List Exchange}
    (expanded : Expanded before mid trace) (name : after.name = mid.name)
    (kept : after.children = mid.children) (asides : ∀ e ∈ lead, e.Aside)
    (later : ∀ e ∈ rest, e.Aside) :
    Visit before after (lead ++ trace ++ rest) := by
  cases expanded with
  | refused expansion same => exact .refused asides expansion later (same ▸ name) (same ▸ kept)
  | listed expansion named valued listed =>
    exact .expanded asides expansion later (name.trans named) (kept ▸ listed)

namespace Visit

theorem named {before after : Node} {trace : List Exchange} (visit : Visit before after trace) :
    after.name = before.name := by
  cases visit <;> assumption

/-- What is asked before a visit belongs to it. -/
theorem behind {before after : Node} {lead trace : List Exchange} (asides : ∀ e ∈ lead, e.Aside)
    (visit : Visit before after trace) : Visit before after (lead ++ trace) := by
  cases visit with
  | left later named kept => exact .left (List.forall_mem_append.2 ⟨asides, later⟩) named kept
  | refused asides' expansion later named kept =>
    rw [← List.append_assoc, ← List.append_assoc]
    exact .refused (List.forall_mem_append.2 ⟨asides, asides'⟩) expansion later named kept
  | expanded asides' expansion later named listed =>
    rw [← List.append_assoc, ← List.append_assoc]
    exact .expanded (List.forall_mem_append.2 ⟨asides, asides'⟩) expansion later named listed

/-- Of the node as it was, only the name and the children matter. -/
theorem of_same {node before after : Node} {trace : List Exchange} (visit : Visit node after trace)
    (name : node.name = before.name) (children : node.children = before.children) :
    Visit before after trace := by
  cases visit with
  | left asides named kept => exact .left asides (named.trans name) (kept.trans children)
  | refused asides expansion later named kept =>
    exact .refused asides (name ▸ expansion) later (named.trans name) (kept.trans children)
  | expanded asides expansion later named listed =>
    exact .expanded asides (name ▸ expansion) later (named.trans name) listed

end Visit

/-- An expansion in which the node is handed on as a value. -/
theorem leaves_expandNode (limits : Limits) (type : String) (node : Node) :
    Leaves (ExceptT.mk do
      let (outcome, node) ← (expand limits type).run.run node
      return outcome.map fun () => node : ExceptT Failure m Node) s
      fun after _ trace => Expanded node after trace := by
  have expanded : Leaves ((expand limits type : ExceptT Failure (StateT Node m) Unit).run.run node)
      s fun next _ trace => ∃ a, next.1 = .ok a ∧ Expanded node next.2 trace :=
    leaves_expand limits type (node, s)
  refine leaves_seq (m := m) expanded ?_
  rintro ⟨_, after⟩ now trace ⟨⟨⟩, rfl, expanded⟩
  exact leaves_pure ⟨after, rfl, by rwa [List.append_nil]⟩

/-- **A node is built** with at most one expansion. -/
theorem leaves_build (limits : Limits) (name declared shape : String) (value : Option String) :
    Leaves (build limits name declared shape value : ExceptT Failure m Node) s
      fun node _ trace => Visit { name, type := declared, value } node trace := by
  unfold build
  extract_lets fresh finish
  have finished : ∀ (mid : Node) (now : S) (trace : List Exchange), Expanded fresh mid trace ∨
      trace = [] ∧ mid = fresh →
      Leaves (finish mid) now fun after _ rest => Visit fresh after (trace ++ rest) := by
    intro mid now trace known
    -- a node that was not expanded is left as it came, so both cases are one visit
    have visited : ∀ (after : Node) (rest : List Exchange), after.name = mid.name →
        after.children = mid.children → (∀ e ∈ rest, e.Aside) →
        Visit fresh after (trace ++ rest) := by
      intro after rest name kept later
      obtain expanded | ⟨rfl, rfl⟩ := known
      · exact expanded.visit name kept (List.forall_mem_nil _) later
      · exact .left later name kept
    unfold finish
    split
    · exact leaves_pure (visited mid [] rfl rfl (List.forall_mem_nil _))
    · refine leaves_seq (leaves_evaluate name none) ?_
      rintro evaluation now rest ⟨-, asides⟩
      refine leaves_pure (visited _ _ rfl rfl ?_)
      rwa [List.append_nil]
  split
  · exact leaves_seq (leaves_expandNode limits shape fresh) fun mid now trace expanded =>
      finished mid now trace (.inl expanded)
  · exact leaves_bind (leaves_pure (finished fresh s [] (.inr ⟨rfl, rfl⟩)))

/-- Evaluating a node anew is one visit to it. -/
theorem leaves_reevaluate (limits : Limits) (path : String) (isRoot : Bool) (s : Node × S) :
    Leaves (reevaluate limits path isRoot : ExceptT Failure (StateT Node m) Unit) s
      fun _ now trace => Visit s.1 now.1 trace := by
  unfold reevaluate
  refine leaves_bind (leaves_get ?_)
  refine leaves_seq (leaves_evaluate path s.1.gdbName) ?_
  rintro evaluation s trace ⟨rfl, asides⟩
  have alone : ∀ e ∈ trace ++ [], e.Aside :=
    List.forall_mem_append.2 ⟨asides, List.forall_mem_nil _⟩
  split
  · exact leaves_pure (.left alone rfl rfl)
  refine leaves_bind (leaves_set ?_)
  split
  · refine leaves_mono (leaves_expand limits s.1.type _) fun _ now more expanded => ?_
    have visit : Visit s.1 now.1 (trace ++ more ++ []) :=
      (expanded.visit rfl rfl asides (List.forall_mem_nil _)).of_same rfl rfl
    rw [List.append_nil] at visit
    exact visit
  · exact leaves_pure (.left alone rfl rfl)

/-- Resolving an expression is the first visit to the node it builds. -/
theorem leaves_resolveExpression (limits : Limits) (expression : String) :
    Leaves (resolveExpression limits expression : ExceptT Failure m Node) s
      fun node _ trace => FirstVisit expression node trace := by
  unfold resolveExpression
  refine leaves_seq (leaves_evaluate expression none) ?_
  rintro evaluation s trace ⟨rfl, asides⟩
  split
  · refine leaves_pure ⟨_, rfl, rfl, .left ?_ rfl rfl⟩
    rwa [List.append_nil]
  refine leaves_bind (leaves_request fun declared => ?_)
  refine leaves_bind (leaves_request fun detailed => ?_)
  let compact := String.ofList (expression.toList.filter (· != ' '))
  let asked : List Exchange :=
    trace ++ ([⟨"whatis " ++ compact, .ok declared⟩] ++ [⟨"ptype " ++ compact, .ok detailed⟩])
  have types : ∀ e ∈ asked, e.Aside := List.forall_mem_append.2 ⟨asides, List.forall_mem_cons.2
    ⟨aside_append (by decide) (by decide) _ _,
      List.forall_mem_singleton.2 (aside_append (by decide) (by decide) _ _)⟩⟩
  have same : ∀ more, asked ++ more = trace ++ ([⟨"whatis " ++ compact, .ok declared⟩] ++
      ([⟨"ptype " ++ compact, .ok detailed⟩] ++ more)) := fun more => by
    rw [List.append_assoc, List.append_assoc]
  extract_lets shape leaf
  have known : Leaves (pure leaf : ExceptT Failure m Node) s fun node _ more =>
      FirstVisit expression node (trace ++ ([⟨"whatis " ++ compact, .ok declared⟩] ++
        ([⟨"ptype " ++ compact, .ok detailed⟩] ++ more))) := by
    refine leaves_pure ?_
    rw [← same, List.append_nil]
    exact ⟨leaf, rfl, rfl, .left types rfl rfl⟩
  have built : ∀ value, Leaves (build limits expression declared shape value :
      ExceptT Failure m Node) s fun node _ more =>
      FirstVisit expression node (trace ++ ([⟨"whatis " ++ compact, .ok declared⟩] ++
        ([⟨"ptype " ++ compact, .ok detailed⟩] ++ more))) := by
    intro value
    refine leaves_mono (leaves_build limits expression declared shape value) ?_
    intro _ _ more visit
    rw [← same]
    exact ⟨_, rfl, rfl, visit.behind types⟩
  split
  · split
    · exact known
    · exact built _
  split
  · exact built none
  · exact known

theorem FirstVisits.append {ns ms : List Node} {t u : List Exchange} (ht : FirstVisits ns t)
    (hu : FirstVisits ms u) : FirstVisits (ns ++ ms) (t ++ u) := by
  obtain ⟨bs, rfl, hb⟩ := ht
  obtain ⟨cs, rfl, hc⟩ := hu
  exact ⟨bs ++ cs, List.flatten_append.symm, List.rel_append hb hc⟩

/-- The nodes of a frame are those from before and new ones, visited meanwhile. -/
def Filled (before after : Frame) (trace : List Exchange) : Prop :=
  ∃ nodes, FirstVisits nodes trace ∧
    (after.locals ++ after.arguments).Perm (before.locals ++ before.arguments ++ nodes)

namespace Filled

theorem refl (frame : Frame) : Filled frame frame [] :=
  ⟨[], ⟨[], rfl, .nil⟩, by rw [List.append_nil]⟩

/-- A frame filled twice is filled with the nodes of both. -/
theorem trans {a b c : Frame} {t u : List Exchange} (first : Filled a b t)
    (second : Filled b c u) : Filled a c (t ++ u) := by
  obtain ⟨ns, visits, filled⟩ := first
  obtain ⟨ms, visits', filled'⟩ := second
  refine ⟨ns ++ ms, visits.append visits', filled'.trans ?_⟩
  rw [← List.append_assoc]
  exact filled.append_right ms

end Filled

/-- A listed variable is either known already or one new node of the frame. -/
theorem leaves_addVariable (limits : Limits) (frame : Frame) (entry : List Char) :
    Leaves (addVariable limits frame entry : ExceptT Failure m Frame) s
      fun now _ trace => Filled frame now trace := by
  unfold addVariable
  split
  · split
    · exact leaves_pure (Filled.refl frame)
    refine leaves_seq (leaves_build limits _ _ _ _) ?_
    intro node now trace visit
    have visits : FirstVisits [node] trace := by
      refine ⟨[trace], by simp, .cons ⟨_, visit.named.symm, rfl, visit⟩ .nil⟩
    split
    · refine leaves_pure ⟨[node], by rwa [List.append_nil], ?_⟩
      rw [List.append_assoc]
    · refine leaves_pure ⟨[node], by rwa [List.append_nil], ?_⟩
      rw [List.append_assoc, List.append_assoc]
      exact List.perm_append_comm.append_left _
  · exact leaves_pure (Filled.refl frame)

/-- **The variables of a frame** are asked for once, and then visited one after another. -/
theorem leaves_frameVariables (limits : Limits) (thread frame : Nat) :
    Leaves (frameVariables limits thread frame : ExceptT Failure m Frame) s
      fun now _ trace =>
        ∃ first rest, trace = first :: rest ∧ first.Aside ∧ Filled {} now rest := by
  unfold frameVariables
  refine leaves_bind (leaves_request fun answer => ?_)
  have first : (⟨s!"-stack-list-variables --thread {thread} --frame {frame} --simple-values",
      .ok answer⟩ : Exchange).Aside := by
    simp only [String.append_assoc]
    exact aside_append (by decide) (by decide) _ _
  split
  · exact leaves_pure ⟨_, [], rfl, first, Filled.refl _⟩
  · have filled := leaves_foldlM (m := ExceptT Failure m) Filled.refl
      (fun {_ _ _ _ _} first second => Filled.trans first second)
      (fun frame entry s => leaves_addVariable limits frame entry (s := s))
    exact leaves_mono (filled _ _ _) fun _ _ rest filled => ⟨_, rest, rfl, first, filled⟩

/-- The node that a path leads to, or that of a free expression, is visited. -/
def Found (path : String) (before after : Frame) (node : Node) (trace : List Exchange) : Prop :=
  FirstVisit path node trace ∧ after = before ∨
    ∃ place old, before.locate? path = some place ∧ before.at? place = some old ∧
      Visit old node trace ∧ after = before.replaceAt place node

/-- **A path is followed** with at most one expansion. -/
theorem leaves_resolve (limits : Limits) (path : String) (frame : Frame) :
    Leaves (resolve limits path frame : m (Except Failure Node × Frame)) s
      fun found _ trace => ∃ node, found.1 = .ok node ∧ Found path frame found.2 node trace := by
  have free : Leaves (do return (← (resolveExpression limits path).run, frame) :
      m (Except Failure Node × Frame)) s fun found _ trace =>
        ∃ node, found.1 = .ok node ∧ Found path frame found.2 node trace := by
    refine leaves_seq (m := m) (leaves_resolveExpression limits path) ?_
    rintro _ now trace ⟨node, rfl, visit⟩
    refine leaves_pure ⟨node, rfl, .inl ⟨?_, rfl⟩⟩
    rwa [List.append_nil]
  rw [resolve_eq]
  split
  · rename_i place old found
    obtain ⟨_, located, here⟩ := Option.bind_eq_some_iff.1 found
    obtain ⟨_, here, e⟩ := Option.map_eq_some_iff.1 here
    cases e
    -- the node is in the frame already: it is visited where it stands
    have visited : Leaves ((reevaluate limits path place.children.isEmpty :
        ExceptT Failure (StateT Node m) Unit).run.run old) s
        fun next _ trace => ∃ a, next.1 = .ok a ∧ Visit old next.2 trace :=
      leaves_reevaluate limits path place.children.isEmpty (old, s)
    refine leaves_seq visited ?_
    rintro ⟨_, node⟩ now trace ⟨⟨⟩, rfl, visit⟩
    refine leaves_pure ⟨node, rfl, .inr ⟨place, old, located, here, ?_, rfl⟩⟩
    rwa [List.append_nil]
  · exact free

end Values

/-! ## Objects are tended -/

namespace Tended

theorem of_firstVisit {name : String} {node : Node} {t : List Exchange}
    (visit : FirstVisit name node t) : Tended t := by
  obtain ⟨_, -, -, visit⟩ := visit
  exact of_visit visit

/-- First visits to any nodes leave their objects tended. -/
theorem of_firstVisits {nodes : List Node} {t : List Exchange} (visits : FirstVisits nodes t) :
    Tended t := by
  obtain ⟨blocks, rfl, visits⟩ := visits
  induction visits with
  | nil => exact .nil
  | cons visit _ ih => exact (of_firstVisit visit).append ih

theorem of_found {path : String} {before after : Frame} {node : Node} {t : List Exchange}
    (found : Found path before after node t) : Tended t := by
  obtain ⟨visit, -⟩ | ⟨_, _, -, -, visit, -⟩ := found
  · exact of_firstVisit visit
  · exact of_visit visit

end Tended

/-- **Objects are tended**, whatever a peer without failures answers. When the variables of a frame
are listed, a node is created or a path is followed, and that comes to an end, nothing fails, every
object that gdb accepts is deleted again before the next one is created, and children are listed
only meanwhile. Each node is expanded at most once, through an object of its own name or a longer
one, and stays as it is when both are refused. -/
theorem objects_tended (limits : Limits) {peer : Peer} (reliable : peer.Reliable)
    {past now : List Exchange} :
    (∀ {thread frame : Nat} {outcome : Except Failure Frame},
      ((frameVariables limits thread frame :
          ExceptT Failure Dialogue Frame).run.run peer).run past =
        .ok outcome now → ∃ shown first rest, outcome = .ok shown ∧
          now = (first :: rest).reverse ++ past ∧ Tended (first :: rest) ∧ first.Aside ∧
          Filled {} shown rest) ∧
    (∀ {name type : String} {value : Option String} {outcome : Except Failure Node},
      ((create limits name type value : ExceptT Failure Dialogue Node).run.run peer).run past =
        .ok outcome now → ∃ node trace, outcome = .ok node ∧ now = trace.reverse ++ past ∧
          Tended trace ∧ FirstVisit name node trace) ∧
    (∀ {path : String} {frame : Frame} {found : Except Failure Node × Frame},
      ((resolve limits path frame : Dialogue (Except Failure Node × Frame)).run peer).run past =
        .ok found now → ∃ node trace, found.1 = .ok node ∧ now = trace.reverse ++ past ∧
          Tended trace ∧ Found path frame found.2 node trace) := by
  refine ⟨?_, ?_, ?_⟩
  · intro thread frame outcome run
    obtain ⟨_, rfl, shown, rfl, first, rest, rfl, aside, filled⟩ :=
      leaves_frameVariables (m := Dialogue) (s := ()) limits thread frame peer reliable past _ now
        run
    have ⟨_, visits, _⟩ := filled
    exact ⟨shown, first, rest, rfl, rfl, .aside aside (.of_firstVisits visits), aside, filled⟩
  · intro name type value outcome run
    obtain ⟨trace, rfl, node, rfl, visit⟩ :=
      leaves_build (m := Dialogue) (s := ()) limits name type type value peer reliable past _ now
        run
    have visit : FirstVisit name node trace := ⟨_, rfl, rfl, visit⟩
    exact ⟨node, trace, rfl, rfl, .of_firstVisit visit, visit⟩
  · intro path frame found run
    obtain ⟨trace, rfl, node, given, seen⟩ :=
      leaves_resolve (m := Dialogue) (s := ()) limits path frame peer reliable past _ now run
    exact ⟨node, trace, given, rfl, .of_found seen, seen⟩

/-- What gdb answers about `_s`, a name that it refuses for an object. In the listing of its private
level, the value of `b` is left out. -/
def refusedNameAnswers : List (String × String) := [
  ("-var-create _s \"*\" _s", "ERROR"), ("-var-create vo__s \"*\" _s", "2"),
  ("-var-list-children --all-values vo__s 0 50", "65;vo__s.a;0;2;int#vo__s.private;1;;"),
  ("-var-list-children --all-values vo__s.private 0 50",
    "65;vo__s.private.b;1;\x7b...\x7d;struct t"),
  ("-data-evaluate-expression \"_s.b\"", "60;\"\x7bx = 1\x7d\"")]

/-- What is asked when a node is created for it. -/
def refusedNameCommands : List String := [
  "-var-create _s \"*\" _s", "-var-create vo__s \"*\" _s",
  "-var-list-children --all-values vo__s 0 50",
  "-var-list-children --all-values vo__s.private 0 50", "-data-evaluate-expression \"_s.b\"",
  "-var-delete vo__s", "-data-evaluate-expression \"_s\""]

/-- The children of a structure are listed through an object of the longer name. Between its
creation and its deletion there are the listing of a level and the question for a value. -/
theorem objects_tended_struct : ∃ node trace,
    (Peer.answering refusedNameAnswers).Reliable ∧
    ((create ⟨50, 2⟩ "_s" "struct s" none : ExceptT Failure Dialogue Node).run.run
        (.answering refusedNameAnswers)).run [] = .ok (.ok node) trace.reverse ∧
      trace.map (·.command) = refusedNameCommands ∧
      node.children.map (·.map (·.name)) = some ["_s.a", "_s.b"] ∧
      Tended trace ∧ FirstVisit "_s" node trace := by
  let check (ended : Node × List Exchange) : Bool :=
    decide (ended.2.map (·.command) = refusedNameCommands.reverse) &&
      decide (ended.1.children.map (·.map (·.name)) = some ["_s.a", "_s.b"])
  have checked : (Dialogue.outcome? (((create ⟨50, 2⟩ "_s" "struct s" none :
      ExceptT Failure Dialogue Node).run.run (.answering refusedNameAnswers)).run [])).any check =
        true := by
    decide +kernel
  obtain ⟨node, now, run, checked⟩ := Dialogue.exists_of_outcome? checked
  obtain ⟨asked, listed⟩ := (Bool.and_eq_true _ _).mp checked
  have reliable : (Peer.answering refusedNameAnswers).Reliable := fun _ _ => ⟨_, rfl⟩
  obtain ⟨_, trace, ⟨⟩, rfl, tended, visit⟩ := (objects_tended ⟨50, 2⟩ reliable).2.1 run
  have asked : (trace.reverse ++ [] : List Exchange).map (·.command) =
      refusedNameCommands.reverse :=
    of_decide_eq_true asked
  rw [List.append_nil] at run asked
  rw [List.map_reverse] at asked
  exact ⟨node, trace, reliable, run, List.reverse_injective asked, of_decide_eq_true listed, tended,
    visit⟩

end Variable

end DebugLink
