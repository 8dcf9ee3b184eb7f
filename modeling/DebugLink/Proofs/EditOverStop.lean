import DebugLink.Proofs.Pause
import DebugLink.Peer.Script

/-!
# Edits over a stop that the host knows of

An edit of breakpoints interrupts a target that runs and resumes it after its work. A hit may be
told to the host while the interrupt is awaited; then the target should stay where it is.

* `PausedEdit`: the edits that are one command while the target is paused.
* `PausedEdit.act_over`, `PausedEdit.act_modest`: such an edit is over at once or does its work
  while the target is paused.
* `edit_over_stop_iff`: an edit leaves a stop alone that was told meanwhile unless its own interrupt
  was answered too and the flag was left standing.
-/

namespace DebugLink

open Act Breakpoint

/-- An edit that is made while the target is paused. -/
inductive PausedEdit
  | insert (location : Location)
  | delete (id : Nat)
  | enable (id : Nat) (enabled : Bool)

/-- The step that an edit is, less its value. -/
def PausedEdit.act : PausedEdit → Act Unit
  | insert location => discard <| Act.insert location
  | delete id => discard <| Act.delete id
  | enable id enabled => discard <| Act.enable id enabled

/-- How often the host was told of a hit. -/
def World.hitsTold (w : World) : Nat :=
  w.calls.countP fun call => match call with
    | .breakpointHit _ _ => true
    | _ => false

/-- Whether an edit pauses the target. A session that has ended neither inserts nor deletes. -/
def PausedEdit.Pauses (e : PausedEdit) (w : World) : Prop :=
  match e with
  | insert _ => w.session.alive = true
  | delete _ => w.session.alive = true
  | enable _ _ => True

/-- An edit that does not pause the target is over at once. -/
theorem PausedEdit.act_over {e : PausedEdit} {w : World} (off : ¬e.Pauses w) (link : Link) :
    e.act link w = .ok () w := by
  cases e with
  | insert location =>
    have dead : w.session.alive = false := Bool.eq_false_iff.2 off
    have e : (insert location).act = Act.insert location >>= fun _ => pure () := discard_eq_bind _
    rw [e, bind_apply, insert_dead dead]
    rfl
  | delete id =>
    have dead : w.session.alive = false := Bool.eq_false_iff.2 off
    have e : (delete id).act = Act.delete id >>= fun _ => pure () := discard_eq_bind _
    rw [e, bind_apply, delete_dead dead]
    rfl
  | enable id enabled => exact absurd trivial off

/-- **An edit that pauses the target** does its work meanwhile, which is made of requests, plain
answers and the log. -/
theorem PausedEdit.act_modest {e : PausedEdit} {w : World} (pauses : e.Pauses w) (link : Link) :
    ∃ (α : Type) (body : Act α),
      (∀ L : {α : Type} → Act α → Prop, Modest L → L body) ∧
        e.act link w = (whilePaused body >>= fun _ => pure () : Act Unit) link w := by
  -- each edit is one request between a pause and a resumption
  cases e with
  | insert location =>
    have e : (insert location).act = Act.insert location >>= fun _ => pure () := discard_eq_bind _
    rw [e, bind_apply]
    cases location with
    | line file fullPath line =>
      rw [insert_line pauses]
      exact ⟨_, _, fun L modest => modest.requestInsert _ _, (bind_apply ..).symm⟩
    | function name =>
      rw [insert_function pauses]
      exact ⟨_, _, fun L modest => modest.requestInsert _ _, (bind_apply ..).symm⟩
  | delete id =>
    have echo : ∀ L : {α : Type} → Act α → Prop, Modest L →
        L (requestEcho s!"-break-delete {id}" id) := fun L modest =>
      modest.requestEcho "-break-delete" (by decide) (toString id).toList (String.toList_append ..)
        id
    have e : (delete id).act = Act.delete id >>= fun _ => pure () := discard_eq_bind _
    rw [e, bind_apply, delete_alive pauses]
    exact ⟨_, _, echo, (bind_apply ..).symm⟩
  | enable id enabled =>
    have echo : ∀ verb ∈ ["enable", "disable"], ∀ L : {α : Type} → Act α → Prop, Modest L →
        L (requestEcho s!"-break-{verb} {id}" id) := by
      intro verb hv L modest
      simp only [List.mem_cons, List.not_mem_nil, or_false] at hv
      rcases hv with rfl | rfl
      · exact modest.requestEcho "-break-enable" (by decide) (toString id).toList
          (by simp only [String.toList_append]; rfl) id
      · exact modest.requestEcho "-break-disable" (by decide) (toString id).toList
          (by simp only [String.toList_append]; rfl) id
    have e : (enable id enabled).act = Act.enable id enabled >>= fun _ => pure () :=
      discard_eq_bind _
    rw [e]
    exact ⟨_, _, echo (if enabled then "enable" else "disable") (by cases enabled <;> decide), rfl⟩

section Attentive

variable {link : Link} (attentive : link.peer.Attentive)

include attentive

theorem PausedEdit.act_paused {e : PausedEdit} {w : World} (pauses : e.Pauses w) (c : Config) :
    ∃ (α : Type) (body : Act α), Gentle c link body ∧
      e.act link w = (whilePaused body >>= fun _ => pure () : Act Unit) link w := by
  obtain ⟨α, body, modest, e⟩ := act_modest pauses link
  exact ⟨α, body, modest _ (gentle_modest attentive c), e⟩

/-- **An edit** is over at once, because the session is, or does its work while the target is
paused. -/
theorem PausedEdit.act_cases (e : PausedEdit) (c : Config) (w : World) :
    e.act link w = .ok () w ∨ ∃ (α : Type) (body : Act α), Gentle c link body ∧
      e.act link w = (whilePaused body >>= fun _ => pure () : Act Unit) link w := by
  by_cases pauses : e.Pauses w
  · exact .inr (act_paused attentive pauses c)
  · exact .inl (act_over pauses link)

end Attentive

/-- **Edits over a stop.** Of an edit that interrupts a target that runs, with any deliveries while
the interrupt is awaited: a hit that was told to the host meanwhile is left alone, which means that
the edit resumed nothing and the phase is the one after the last delivery, exactly when the wait
was not answered by a stop of its own or the flag to resume was taken back meanwhile. -/
theorem edit_over_stop_iff (peer : Peer) (config : Config) (depth : Nat) (e : PausedEdit)
    (w : World) (attentive : peer.Attentive) (runs : w.Runs)
    (free : w.session.breakAll.isFree = true) :
    let link := Link.within peer config depth
    let v := pauseForEdit.after link w
    let z := e.act.after link w
    (w.hitsTold < z.hitsTold →
        z.wakes config = interruptCall :: w.wakes config ∧ z.session.phase = v.session.phase) ↔
      (w.hitsTold < z.hitsTold →
        ¬(pauseForEdit.returns link w = true ∧ v.session.needsResume = true)) := by
  intro link v z
  have attentive : link.peer.Attentive := by
    rw [show link.peer = peer from Link.within_peer ..]
    exact attentive
  have wakes : v.wakes config = interruptCall :: w.wakes config := pause_wakes runs free
  rcases e.act_cases attentive config w with done | ⟨α, body, gentle, e⟩
  · -- nothing happened, so no hit was told
    have same : z = w := after_of_ok done
    rw [same]
    exact ⟨fun _ h => absurd h (Nat.lt_irrefl _), fun _ h => absurd h (Nat.lt_irrefl _)⟩
  · have edited : z = (whilePaused body).after link w := (after_congr e).trans (after_dropped ..)
    cases hp : pauseForEdit link w with
    | error halt u =>
      have stuck : z = v := by
        rw [edited, after_of_error (whilePaused_error hp)]
        exact (after_of_error hp).symm
      have unreturned : pauseForEdit.returns link w = false := by
        unfold returns
        rw [hp]
      rw [stuck, unreturned]
      exact ⟨fun _ _ h => absurd h.1 (by decide), fun _ _ => ⟨wakes, rfl⟩⟩
    | ok _ u =>
      have paused : v = u := after_of_ok hp
      have returned : pauseForEdit.returns link w = true := by
        unfold returns
        rw [hp]
      have calm := gentle.calm u
      have free : (body.after link u).session.breakAll.isFree = true := by
        rw [calm.breakAll]
        exact (pause_returned runs free hp).2
      have ended : z = (body.after link u).unpaused config := by
        rw [edited, after_whilePaused gentle hp, after_resumeAfterEdit attentive free]
        exact congrArg _ (Link.within_config ..)
      rw [returned, ended, paused]
      unfold World.unpaused
      rw [calm.needsResume]
      cases hf : u.session.needsResume with
      | true =>
        -- the edit resumes what it did not stop
        have woken : (((body.after link u).flagged false).continued config).wakes config ≠
            interruptCall :: w.wakes config := by
          rw [World.wakes_continued]
          show _ :: (body.after link u).wakes config ≠ _
          rw [calm.wakes, ← paused, wakes]
          intro h
          exact absurd (congrArg List.length h) (by simp)
        exact ⟨fun h t => absurd (h t).1 woken, fun h t => absurd ⟨rfl, rfl⟩ (h t)⟩
      | false =>
        refine ⟨fun _ _ h => absurd h.2 (by decide), fun _ _ => ⟨?_, calm.phase⟩⟩
        show (body.after link u).wakes config = _
        rw [calm.wakes, ← paused, wakes]

/-- A peer that accepts every command, and delivers this while the first interrupt is awaited. -/
def interruptedPeer (delivery : String) : Peer :=
  ({ accepting := true } : Script).peer.reacting [] interruptCall [delivery]

/-- The gdb of the example answers as a gdb does, and reacts to one interruption only. -/
theorem interruptedPeer_attentive (delivery : String) : (interruptedPeer delivery).Attentive where
  answers past command answer h := by
    refine ⟨.ofResult "^done" [], ?_⟩
    injection h with e
    exact e.symm
  reactions past call h := by
    show (if past = [] ∧ call = interruptCall then [delivery] else []) = []
    exact if_neg fun hc => h hc.2

/-- A session whose target runs, with a breakpoint and every gate free. -/
def runningWithBreakpoint : World where
  session := { phase := .running }
  bound := [{ gdbId := 1, location := .function "main" }]

set_option maxRecDepth 100000 in
/-- A hit that is told while the interrupt times out is left alone. -/
theorem edit_over_stop_timeout :
    let link := Link.within (interruptedPeer "27;1;a.c;5;2") {} 3
    let w := runningWithBreakpoint
    let z := (PausedEdit.delete 4).act.after link w
    ((interruptedPeer "27;1;a.c;5;2").Attentive ∧ w.Runs ∧ w.session.breakAll.isFree = true) ∧
      z.hitsTold = 1 ∧ (w.hitsTold < z.hitsTold → z.wakes {} = interruptCall :: w.wakes {} ∧
        z.session.phase = (pauseForEdit.after link w).session.phase) :=
  ⟨⟨interruptedPeer_attentive _, ⟨rfl, rfl⟩, rfl⟩, by decide +kernel,
    (edit_over_stop_iff (interruptedPeer "27;1;a.c;5;2") {} 3 (.delete 4) runningWithBreakpoint
      (interruptedPeer_attentive _) ⟨rfl, rfl⟩ rfl).2 (by decide +kernel)⟩

set_option maxRecDepth 100000 in
/-- A hit that is told, and then the stop for which the edit waits: the host knows of a hit, and the
edit resumes the target over it. -/
theorem edit_over_stop_hit :
    let link := Link.within (interruptedPeer "27;1;a.c;5;2\r\n47;2") {} 3
    let w := runningWithBreakpoint
    let z := (PausedEdit.delete 4).act.after link w
    (w.Runs ∧ w.session.breakAll.isFree = true) ∧ w.hitsTold < z.hitsTold ∧
      z.wakes {} = .submit ({} : Config).continueCommand :: interruptCall :: w.wakes {} ∧
      (pauseForEdit.after link w).session.phase = .stopped ∧ z.session.phase = .running := by
  refine ⟨⟨⟨rfl, rfl⟩, rfl⟩, ?_⟩
  decide +kernel

end DebugLink
