import DebugLink.Proofs.HitStep

/-!
# Whether a hit stops

A hit of a bound breakpoint stops if the breakpoint does not compare values, or if a new value was
found that its pass count allows. To find one is to ask gdb once, at most.

* `World.newValue?`, `World.stopsWith`: the value that a hit finds, and whether it stops.
* `evaluate_apply`: a query for a value asks once, and depends on what was sent before only.
* `stopsAt_attentive`: whether a hit stops, what was asked for that and what is remembered of it.
-/

namespace DebugLink

open Act Breakpoint

/-- A query for a value asks the peer once, if at all, and depends on what was sent before only. -/
theorem evaluate_apply {link : Link} (attentive : link.peer.Attentive) (expression : String)
    (w : World) :
    let shown := (Text.before? ['.'] expression.toList).getD expression.toList
    let command := Variable.evaluateCommand (String.ofList shown)
    query (Variable.evaluate expression none) link w =
      if shown.isEmpty then .ok ⟨false, ""⟩ w
      else match link.peer.answer w.sent command with
        | .ok answer => .ok (.ofAnswer answer) (w.requesting command (.ok answer))
        | .error cause => .error (.failed cause) (w.requesting command (.error cause)) := by
  intro shown command
  unfold query Variable.evaluate
  dsimp only
  by_cases empty : shown.isEmpty
  · rw [if_pos empty, if_pos empty]
    rfl
  · have asked := request_attentive attentive command w
    -- the one request decides whether the query fails
    rw [if_neg empty, if_neg empty, ExceptT.run_bind]
    cases answered : link.peer.answer w.sent command with
    | ok answer =>
      rw [answered] at asked
      have attempted : attempt (request command) link w =
          .ok (.ok answer) (w.requesting command (.ok answer)) := by
        rw [attempt_apply, asked]
      rw [bind_assoc]
      exact bind_ok attempted _
    | error cause =>
      rw [answered] at asked
      have attempted : attempt (request command) link w =
          .ok (.error cause) (w.requesting command (.error cause)) := by
        rw [attempt_apply, asked]
      rw [bind_assoc]
      exact bind_ok attempted _

/-- What evaluating an expression gives, unless the request fails. -/
def World.evaluated? (link : Link) (expression : String) (w : World) :
    Option Variable.Evaluation :=
  match query (Variable.evaluate expression none) link w with
  | .ok e _ => some e
  | .error _ _ => none

/-- What an expression evaluates to is what a query for it gives. -/
theorem World.of_evaluated? {link : Link} {expression : String} {w : World}
    {e : Variable.Evaluation} (h : w.evaluated? link expression = some e) :
    ∃ y, query (Variable.evaluate expression none) link w = .ok e y := by
  unfold evaluated? at h
  split at h
  · rename_i e' y evaluated
    cases h
    exact ⟨y, evaluated⟩
  · cases h

theorem World.evaluated?_of_ok {link : Link} {expression : String} {w y : World}
    {e : Variable.Evaluation}
    (h : query (Variable.evaluate expression none) link w = .ok e y) :
    w.evaluated? link expression = some e := by
  unfold evaluated?
  rw [h]

/-- The value that a hit of a breakpoint finds, if it finds one and that is not the one before. -/
def World.newValue? (link : Link) (b : Bound) (w : World) : Option String :=
  if b.comparesValues then
    ((w.evaluated? link b.condition.expression).filter fun e =>
      e.valid && b.previousValue ≠ e.value).map (·.value)
  else none

/-- Whether a hit of a breakpoint stops. -/
def World.stopsWith (link : Link) (b : Bound) (w : World) : Bool :=
  !b.comparesValues || ((w.newValue? link b).isSome && b.passCount.allows b.hits)

/-- The breakpoint once a hit of it has found what value there is. -/
def Breakpoint.Bound.remembering (b : Bound) (value? : Option String) : Bound :=
  { b with previousValue := value?.getD b.previousValue }

/-- **What judging a hit sends first**: one command at most, which asks for a value, and none if the
breakpoint does not compare values. -/
def Breakpoint.Bound.Asks (b : Bound) (calls : List Call) : Prop :=
  calls = [] ∨ b.comparesValues = true ∧
    ∃ expression, calls = [.request (Variable.evaluateCommand expression)]

section Attentive

variable {link : Link} (attentive : link.peer.Attentive) {w : World} {i : Nat} {b : Bound}

include attentive

/-- The value of an expression depends on what was sent before only. -/
theorem evaluated?_eq (expression : String) (w : World) :
    let shown := (Text.before? ['.'] expression.toList).getD expression.toList
    w.evaluated? link expression = if shown.isEmpty then some ⟨false, ""⟩ else
      (link.peer.answer w.sent (Variable.evaluateCommand (String.ofList shown))).toOption.map
        .ofAnswer := by
  intro shown
  unfold World.evaluated?
  rw [evaluate_apply attentive]
  by_cases empty : shown.isEmpty = true
  · rw [if_pos empty, if_pos empty]
  · rw [if_neg empty, if_neg empty]
    cases link.peer.answer w.sent (Variable.evaluateCommand (String.ofList shown)) <;> rfl

theorem evaluated?_elsewhere {link' : Link} (peer : link'.peer = link.peer) {w' : World}
    (sent : w'.sent = w.sent) (expression : String) :
    w'.evaluated? link' expression = w.evaluated? link expression := by
  rw [evaluated?_eq attentive, evaluated?_eq (by rw [peer]; exact attentive), sent, peer]

/-- Nor does it depend on what is held whether a hit stops. -/
theorem newValue?_elsewhere {link' : Link} (peer : link'.peer = link.peer) {w' : World}
    (sent : w'.sent = w.sent) (g : Gates) :
    w'.newValue? link' { b with held := g } = w.newValue? link b := by
  unfold World.newValue?
  rw [evaluated?_elsewhere attentive peer sent]

theorem stopsWith_elsewhere {link' : Link} (peer : link'.peer = link.peer) {w' : World}
    (sent : w'.sent = w.sent) (g : Gates) :
    w'.stopsWith link' { b with held := g } = w.stopsWith link b := by
  unfold World.stopsWith
  rw [newValue?_elsewhere attentive peer sent]

/-- Evaluating an expression sends one request at most, and does nothing else. -/
theorem evaluate_attentive {expression : String} {e : Variable.Evaluation}
    (h : w.evaluated? link expression = some e) :
    ∃ y asked, query (Variable.evaluate expression none) link w = .ok e y ∧
      (asked = [] ∨ ∃ shown, asked = [.request (Variable.evaluateCommand shown)]) ∧
      y.scene = { w.scene with sent := asked ++ w.sent } := by
  obtain ⟨y, evaluated⟩ := World.of_evaluated? h
  have asks := evaluated
  rw [evaluate_apply attentive] at asks
  split at asks
  · cases asks
    exact ⟨w, [], evaluated, .inl rfl, rfl⟩
  · split at asks
    · cases asks
      exact ⟨_, _, evaluated, .inr ⟨_, rfl⟩, rfl⟩
    · cases asks

omit attentive in
/-- A breakpoint that does not compare values stops at once. -/
theorem stopsAt_plain (found : w.bound[i]? = some b) (plain : b.comparesValues = false) :
    stopsAt i link w = .ok true w := by
  unfold stopsAt
  rw [bind_ok (boundAt_apply found), if_pos (by simp [plain])]
  rfl

omit attentive in
/-- One that does stops for the value that was found, and remembers it if it is new. -/
theorem stopsAt_evaluated {y : World} {e : Variable.Evaluation} (found : w.bound[i]? = some b)
    (compares : b.comparesValues = true)
    (evaluated : query (Variable.evaluate b.condition.expression none) link w = .ok e y)
    (foundThen : y.bound[i]? = some b) :
    stopsAt i link w = .ok (w.stopsWith link b)
      { y with bound := y.bound.set i (b.remembering (w.newValue? link b)) } := by
  have new : w.newValue? link b =
      if e.valid && b.previousValue ≠ e.value then some e.value else none := by
    unfold World.newValue?
    rw [if_pos compares, World.evaluated?_of_ok evaluated]
    dsimp only [Option.filter]
    split <;> rfl
  unfold stopsAt World.stopsWith
  rw [bind_ok (boundAt_apply found), if_neg (by simp [compares]), bind_ok evaluated,
    bind_ok (boundAt_apply foundThen), new, compares]
  split
  · exact bind_ok (updateBound_apply foundThen _) _
  · show _ = EStateM.Result.ok false { y with bound := y.bound.set i b }
    rw [set_of_getElem? foundThen]
    rfl

/-- **Whether a hit stops** is known after one request at most, and what is remembered of it is the
value that was found. -/
theorem stopsAt_attentive (found : w.bound[i]? = some b)
    (evaluates : b.comparesValues = true →
      ∃ e, w.evaluated? link b.condition.expression = some e) :
    ∃ v asked, stopsAt i link w = .ok (w.stopsWith link b) v ∧ b.Asks asked ∧
      v.scene = { w.scene with
        bound := w.bound.set i (b.remembering (w.newValue? link b))
        sent := asked ++ w.sent } := by
  -- nothing is asked for a breakpoint that gdb judges alone
  cases compares : b.comparesValues with
  | false =>
    have stops : w.stopsWith link b = true := by simp [World.stopsWith, compares]
    have none : w.newValue? link b = none := by simp [World.newValue?, compares]
    refine ⟨w, [], ?_, .inl rfl, ?_⟩
    · rw [stops]
      exact stopsAt_plain found compares
    · rw [none]
      show w.scene = { w.scene with bound := w.bound.set i b }
      rw [set_of_getElem? found]
      rfl
  | true =>
    obtain ⟨e, h⟩ := evaluates compares
    obtain ⟨y, asked, evaluated, asks, scene⟩ := evaluate_attentive attentive h
    have bound : y.bound = w.bound := congrArg Scene.bound scene
    have foundThen : y.bound[i]? = some b := by
      rw [bound]
      exact found
    refine ⟨_, asked, stopsAt_evaluated found compares evaluated foundThen,
      asks.imp id fun one => ⟨compares, one⟩, ?_⟩
    show { y.scene with bound := y.bound.set i (b.remembering (w.newValue? link b)) } = _
    rw [scene, bound]

/-- An expression of which nothing is known was asked for in vain. -/
theorem evaluate_failed {expression : String} (h : w.evaluated? link expression = none) :
    ∃ command cause, query (Variable.evaluate expression none) link w =
      .error (.failed cause) (w.requesting command (.error cause)) := by
  let shown := (Text.before? ['.'] expression.toList).getD expression.toList
  let command := Variable.evaluateCommand (String.ofList shown)
  refine ⟨command, ?_⟩
  rw [evaluate_apply attentive]
  rw [evaluated?_eq attentive] at h
  by_cases empty : shown.isEmpty = true
  · rw [if_pos empty] at h
    cases h
  · rw [if_neg empty] at h ⊢
    cases answered : link.peer.answer w.sent command with
    | error cause => exact ⟨cause, rfl⟩
    | ok answer =>
      rw [answered] at h
      cases h

/-- An expression has a value, or a reason why it has none, if every request is answered. -/
theorem evaluated?_answered (answers : ∀ past command, ∃ answer,
      link.peer.answer past command = .ok answer) (expression : String) (w : World) :
    ∃ e, w.evaluated? link expression = some e := by
  rw [evaluated?_eq attentive]
  split
  · exact ⟨_, rfl⟩
  · obtain ⟨answer, e⟩ := answers w.sent (Variable.evaluateCommand
      (String.ofList ((Text.before? ['.'] expression.toList).getD expression.toList)))
    rw [e]
    exact ⟨_, rfl⟩

end Attentive

end DebugLink
