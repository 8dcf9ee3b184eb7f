import DebugLink.Proofs.EditFailure
import DebugLink.Proofs.Spare

/-!
# Edits that resume a target they did not interrupt

An edit sets the flag to resume whenever the engine takes the target to be under way, and sends an
interrupt only if gdb says so too. In between the edit resumes a target that it left alone: one that
steps, and one that is said to run while its run mode is off.

* `spares_setPassCount`, `spares_setCondition`: the policies that look before they pause.
* `Edit.PausesUnasked`: the edits that pause the target without looking.
* `unasked_resume_iff`: an edit that interrupts nothing leaves the target alone exactly when it
  looks before it pauses, or the target is not under way.
-/

namespace DebugLink

open Act Breakpoint Pairing

section Policies

variable {peer : Peer} (attentive : peer.Attentive) (config : Config) (depth : Nat) (w : World)

include attentive

/-- An ignore count is told to the debugger only from a target that already rests. -/
theorem spares_sendPassCount (i : Nat) (p : PassCount) :
    Spares config (.within peer config depth) w (w.Spared config) (sendPassCount i p)
      fun _ => w.Spared config := by
  unfold sendPassCount
  refine (spares_updateBound i _).bind fun _ => (Spares.bound i fun _ hv => hv).bind fun b => ?_
  split
  · exact .pure fun _ hv => hv.1
  · refine (spares_stopAtHit config depth w attentive _ _).discard.attempt.imp (fun _ hv => hv.1) ?_
    intro outcome v hv
    cases outcome <;> exact hv

/-- **A pass count** pauses the target only if that is an interrupt. -/
theorem spares_setPassCount (i : Nat) (p : PassCount) :
    Spares config (.within peer config depth) w (w.Spared config) (setPassCount i p)
      fun _ => w.Spared config := by
  have loose := loose_spared config w
  have b := interrupted_basis peer config depth w
  have sent := spares_sendPassCount attentive config depth w i p
  rw [setPassCount_eq]
  refine .withGates (.inRegion ?_ (fun _ hv => hv) loose fun _ => loose) (fun _ hv => hv)
    (fun v _ _ => loose.rebind _ v) fun _ => loose
  apply Spares.isRunning fun _ hv => hv
  · intro u
    refine .bind sent.further fun outcome => .bind ?_ fun _ => .settle outcome
    exact lockstep_diag_iff.1 b.resumeAfterEdit
  · refine sent.bind fun outcome => (Spares.settle outcome).pre fun v hv => ?_
    cases outcome <;> exact hv

/-- Outside a running target both commands of a new creation go out as they are. -/
theorem spares_recreate (left : w.session.alive = true → ¬w.session.UnderWay) (i : Nat) :
    Spares config (.within peer config depth) w (w.Spared config) (recreate i)
      fun _ => w.Spared config := by
  have deleted := fun id =>
    spares_pausedEdit config depth w attentive (e := .delete id) left
  unfold recreate
  refine (Spares.bound i fun _ hv => hv).bind fun b =>
    ((deleted b.gdbId).pre fun _ hv => hv.1).bind fun _ =>
      (spares_insert config depth w attentive left b.location).bind fun snapshot => ?_
  split
  · exact .pure fun _ hv => hv
  · refine (spares_updateBound i _).bind fun _ => (Spares.bound i fun _ hv => hv).bind fun b => ?_
    exact ((spares_setPassCount attentive config depth w i _).pre fun _ hv => hv.1).bind fun _ =>
      .pure fun _ hv => hv

/-- A condition is told without an interruption: the peer is asked and nothing else. -/
theorem spares_sendCondition (i : Nat) (k : Condition) :
    Spares config (.within peer config depth) w (w.Spared config) (sendCondition i k)
      fun _ => w.Spared config := by
  have told : ∀ id condition, Spares config (.within peer config depth) w (w.Spared config)
      (discard <| setGdbCondition id condition) fun _ => w.Spared config := by
    intro id condition
    obtain ⟨command, rest, e, split⟩ := setGdbCondition_eq id condition
    rw [e]
    exact .discard <| .gentle <| (gentle_modest (attentive.within config depth)
      config).requestNotice "-break-condition" (by decide) rest split
  unfold sendCondition
  refine (Spares.bound i fun _ hv => hv).bind fun b => .pre ?_ fun _ hv => hv.1
  split
  · exact (spares_updateBound i _).bind fun _ => told _ _
  · exact (spares_updateBound i _).bind fun _ => told _ _
  · have stops := fun id => (spares_stopAtHit config depth w attentive id 1).discard
    exact (spares_updateBound i _).bind fun _ => (stops _).bind fun _ => told _ _

/-- A condition that is given without an interrupt was given to a target that did not run. -/
theorem spares_giveCondition (i : Nat) (k : Condition) :
    Spares config (.within peer config depth) w (w.Spared config) (giveCondition i k)
      fun changed v => changed.1 = false ∧ w.Spared config v := by
  have loose := loose_spared config w
  have b := interrupted_basis peer config depth w
  have posed : ∀ changed : Bool × Bool,
      Loose fun v => changed.1 = false ∧ w.Spared config v := fun changed =>
    ⟨fun x v => And.imp id (loose.rebind x v), fun x v => And.imp id (loose.critical x v),
      fun x v => And.imp id (loose.conditionUpdate x v)⟩
  refine .inRegion ?_ (fun _ hv => hv) loose posed
  apply Spares.isRunning fun _ hv => hv
  · intro u
    refine lockstep_diag_iff.1 <| (b.setPhase _).bind fun _ => (b.boundAt i).bind fun x =>
      (b.sendCondition i k).bind fun _ => .pure _
  · exact (Spares.bound i fun _ hv => hv).bind fun x =>
      ((spares_sendCondition attentive config depth w i k).pre fun _ hv => hv.1).bind fun _ =>
        .pure fun _ hv => ⟨rfl, hv⟩

/-- How a condition finds a target that it does not pause without looking: deleting the breakpoint
would not pause it, or the breakpoint was not hit and is not deleted. -/
def World.Unhit (c : Config) (w : World) (i : Nat) (v : World) : Prop :=
  w.Spared c v ∧ ((w.session.alive = true → ¬w.session.UnderWay) ∨
    ∀ b, v.bound[i]? = some b → b.hits = 0)

/-- A change of the condition interrupts only through the new creation, and that needs a hit. -/
theorem spares_changeCondition (i : Nat) (k : Condition) :
    Spares config (.within peer config depth) w (w.Unhit config i) (changeCondition i k)
      fun changed v => changed.1 = false ∧ w.Spared config v := by
  have loose := loose_spared config w
  have posed : ∀ changed : Bool × Bool,
      Loose fun v => changed.1 = false ∧ w.Spared config v := fun changed =>
    ⟨fun x v => And.imp id (loose.rebind x v), fun x v => And.imp id (loose.critical x v),
      fun x v => And.imp id (loose.conditionUpdate x v)⟩
  have recreated : (discard (recreate i) : Act Unit).Keeps (w.InterruptedSince config)
      (.within peer config depth) :=
    lockstep_diag_iff.1 ((interrupted_basis peer config depth w).recreate i).discard
  rw [changeCondition_eq]
  refine .withGates ?_ (fun _ hv => hv.1) ?_ posed
  · refine (Spares.bound i fun _ hv => hv.1).bind fun b =>
      .bind (Q := fun _ => w.Spared config) ?_ fun _ =>
        spares_giveCondition attentive config depth w i k
    split
    · -- the breakpoint was hit, so that deleting it must not pause the target
      by_cases left : w.session.alive = true → ¬w.session.UnderWay
      · exact (spares_recreate attentive config depth w left i).discard.pre fun _ hv => hv.1.1
      · rename_i hit
        refine ⟨recreated, fun v hv => ?_⟩
        rcases hv.1.2 with h | unhit
        · exact absurd h left
        · exact absurd (unhit b hv.2) hit
    · exact .pure fun _ hv => hv.1.1
  · -- taking the gate leaves the hits as they are
    intro v b found hv
    refine ⟨loose.rebind _ v hv.1, hv.2.imp id fun unhit x e => ?_⟩
    rw [List.getElem?_set_self (List.getElem?_eq_some_iff.1 found).1] at e
    cases e
    exact unhit b found

/-- A target is resumed after a condition was changed only if it was interrupted for that. -/
theorem spares_endCondition (i : Nat) (changed : Bool × Bool) :
    Spares config (.within peer config depth) w
      (fun v => changed.1 = false ∧ w.Spared config v) (endCondition i changed)
      fun _ => w.Spared config := by
  obtain ⟨wasRunning, countsAgain⟩ := changed
  have b := interrupted_basis peer config depth w
  have resumed : Spares config (.within peer config depth) w
      (fun v => wasRunning = false ∧ w.Spared config v)
      (if wasRunning then setPhase .running >>= fun _ => resumeAfterEdit else pure ())
      fun _ => w.Spared config := by
    cases wasRunning with
    | true =>
      refine ⟨lockstep_diag_iff.1 ((b.setPhase _).bind fun _ => b.resumeAfterEdit), ?_⟩
      exact fun v hv => absurd hv.1 (by decide)
    | false => exact .pure fun _ hv => hv.2
  have counted := fun p =>
    (spares_setPassCount attentive config depth w i p).frame (wasRunning = false)
  unfold endCondition
  dsimp only
  split
  · exact (Spares.bound i fun _ hv => hv.2).bind fun x =>
      ((counted x.passCount).pre fun _ hv => hv.1).bind fun _ => resumed
  · exact resumed

/-- **A condition** that does not delete a breakpoint pauses the target only if that is an
interrupt. -/
theorem spares_setCondition (i : Nat) (k : Condition) :
    Spares config (.within peer config depth) w (w.Unhit config i) (setCondition i k)
      fun _ => w.Spared config := by
  have loose := loose_spared config w
  have applied : Spares config (.within peer config depth) w (w.Unhit config i)
      (applyCondition i k) fun _ => w.Spared config :=
    (spares_changeCondition attentive config depth w i k).bind fun changed =>
      spares_endCondition attentive config depth w i changed
  unfold setCondition
  refine .look fun s => ?_
  split
  · exact applied
  · have taken : ∀ permit, Spares config (.within peer config depth) w (w.Unhit config i)
        (update fun s => { s with conditionUpdate := permit }) fun _ => w.Unhit config i :=
      fun permit => .modify (fun _ => rfl) fun v hv => ⟨loose.conditionUpdate permit v hv.1, hv.2⟩
    refine (taken _).bind fun _ => applied.attempt.bind fun outcome => ?_
    have released : Spares config (.within peer config depth) w (w.Spared config)
        (update fun s => { s with conditionUpdate := s.conditionUpdate.release })
        fun _ => w.Spared config :=
      .modify (fun _ => rfl) fun v hv => loose.conditionUpdate _ v hv
    cases outcome with
    | ok _ => exact released.bind fun _ => .pure fun _ hv => hv
    | error cause => exact released.bind fun _ => .halt fun _ hv => hv

end Policies

/-! ## Pausing without looking -/

/-- All of which edits are made keeps a command that woke the target. -/
theorem woken_basis (peer : Peer) (config : Config) (depth n : Nat) :
    (diag (.within peer config depth) (Woken config n)).EditBasis :=
  let invariant := woken_invariant peer config n
  invariant.edits depth (invariant.nested depth)

/-- A target under way that cannot be interrupted is to be resumed all the same. -/
theorem pauseForEdit_unasked {link : Link} {w : World} (underWay : w.session.UnderWay)
    (idle : ¬w.Runs) : pauseForEdit link w = .ok () (w.flagged true) := by
  have flagged : ¬(w.flagged true).Runs := idle
  unfold pauseForEdit
  rw [look_apply]
  rcases underWay with h | h <;> rw [h]
  · exact interrupt_idle flagged
  · exact interrupt_idle flagged

section Unasked

variable {peer : Peer} (attentive : peer.Attentive) (config : Config) (depth : Nat) {w : World}
  (underWay : w.session.UnderWay) (free : w.session.breakAll.isFree = true)

include attentive underWay free

/-- **A pause without a look** wakes a target that is under way: it is interrupted or resumed. -/
theorem woken_whilePaused {α : Type} {body : Act α}
    (gentle : Gentle config (.within peer config depth) body) :
    Woken config (w.wakes config).length
      ((whilePaused body).after (.within peer config depth) w) := by
  have b := woken_basis peer config depth (w.wakes config).length
  -- a running target is woken by the resumption at the end, and one under way by the flag alone
  by_cases runs : w.Runs
  · have paused : Woken config (w.wakes config).length
        (pauseForEdit.after (.within peer config depth) w) := by
      unfold Woken
      rw [pause_wakes runs free, List.length_cons]
      exact Nat.lt_succ_self _
    have worked : body.Keeps (Woken config (w.wakes config).length)
        (.within peer config depth) := by
      intro v hv
      unfold Woken
      rw [(gentle.calm v).wakes]
      exact hv
    exact Keeps.after_bind paused fun _ => .bind worked.attempt fun outcome =>
      .bind (lockstep_diag_iff.1 b.resumeAfterEdit) fun _ => .settle outcome
  · have calm := gentle.calm (w.flagged true)
    have stillFree : (body.after (.within peer config depth)
        (w.flagged true)).session.breakAll.isFree = true := by
      rw [calm.breakAll]
      exact free
    have resumed : (whilePaused body).after (.within peer config depth) w =
        ((body.after (.within peer config depth) (w.flagged true)).flagged false).continued
          config := by
      rw [after_whilePaused gentle (pauseForEdit_unasked underWay runs),
        after_resumeAfterEdit (attentive.within config depth) stillFree, Link.within_config]
      unfold World.unpaused
      rw [calm.needsResume]
      rfl
    unfold Woken
    rw [resumed, World.wakes_continued, List.length_cons]
    show (w.wakes config).length < (World.wakes (body.after _ _) config).length + 1
    rw [calm.wakes]
    exact Nat.lt_succ_self _

/-- An edit that pauses the target wakes it once more than it was woken before. -/
theorem woken_pausedEdit {e : PausedEdit} (pauses : e.Pauses w) :
    Woken config (w.wakes config).length (e.act.after (.within peer config depth) w) := by
  obtain ⟨α, body, gentle, eq⟩ :=
    PausedEdit.act_paused (attentive.within config depth) pauses config
  rw [after_congr eq, after_dropped]
  exact woken_whilePaused attentive config depth underWay free gentle

/-- A breakpoint that is created anew is deleted first. -/
theorem woken_recreate {i : Nat} {b : Bound} (alive : w.session.alive = true)
    (found : w.bound[i]? = some b) :
    Woken config (w.wakes config).length ((recreate i).after (.within peer config depth) w) := by
  have basis := woken_basis peer config depth (w.wakes config).length
  have deleted := woken_pausedEdit attentive config depth underWay free (e := .delete b.gdbId) alive
  unfold recreate
  rw [after_congr (bind_ok (boundAt_apply found) _)]
  refine Keeps.after_bind deleted fun _ => .bind (lockstep_diag_iff.1 (basis.insert _))
    fun snapshot => ?_
  split
  · exact .pure _
  · exact lockstep_diag_iff.1 <| (basis.updateBound _ _).bind fun _ => (basis.boundAt i).bind
      fun x => (basis.setPassCount i _).bind fun _ => .pure _

/-- **A condition** of a breakpoint that was hit deletes it first. -/
theorem woken_setCondition {i : Nat} {b : Bound} (k : Condition) (alive : w.session.alive = true)
    (found : w.bound[i]? = some b) (hit : b.hits ≠ 0) (gate : b.held.condition = false) :
    Woken config (w.wakes config).length
      ((setCondition i k).after (.within peer config depth) w) := by
  have basis := woken_basis peer config depth (w.wakes config).length
  -- the condition is changed in this world or in one where the gate of conditions is taken
  have changed : ∀ permit, Woken config (w.wakes config).length
      ((changeCondition i k).after (.within peer config depth)
        { w with session := { w.session with conditionUpdate := permit } }) := by
    intro permit
    let held : Bound := { b with held := b.held.union .conditionOnly }
    let u : World :=
      { w with
        session := { w.session with conditionUpdate := permit }
        bound := w.bound.set i held }
    have foundHeld : u.bound[i]? = some held :=
      List.getElem?_set_self (List.getElem?_eq_some_iff.1 found).1
    have recreated : Woken config (w.wakes config).length
        ((discard (recreate i) : Act Unit).after (.within peer config depth) u) := by
      have woken := woken_recreate attentive config depth (w := u) underWay free alive foundHeld
      rw [discard_eq_bind]
      exact Keeps.after_bind woken fun _ => .pure _
    have taken : takeGates i .conditionOnly
        { w with session := { w.session with conditionUpdate := permit } } = some u := by
      have unmet : b.held.meets .conditionOnly = false := by
        unfold Gates.meets Gates.conditionOnly
        rw [gate]
        simp
      simp only [takeGates, found, Option.bind_some, Bound.tryHold, Gates.tryTake, unmet]
      rfl
    have inside : Woken config (w.wakes config).length
        ((Act.bound i >>= fun b => (if b.hits ≠ 0 then discard (recreate i) else pure ()) >>=
          fun _ => giveCondition i k).after (.within peer config depth) u) := by
      rw [after_congr (bind_ok (boundAt_apply foundHeld) _), if_pos hit]
      exact Keeps.after_bind recreated fun _ => lockstep_diag_iff.1 (basis.giveCondition i k)
    rw [changeCondition_eq]
    rcases after_holding taken with e | e
    · exact e ▸ inside
    · exact e ▸ (woken_pliant config _).rebind _ _ inside
  have applied : ∀ permit, Woken config (w.wakes config).length
      ((applyCondition i k).after (.within peer config depth)
        { w with session := { w.session with conditionUpdate := permit } }) := by
    intro permit
    rw [applyCondition_eq]
    exact Keeps.after_bind (changed permit) fun r => lockstep_diag_iff.1 (basis.endCondition i r)
  unfold setCondition
  rw [after_congr (look_apply _ _ _)]
  cases w.session.conditionUpdate.tryTake with
  | none => exact applied w.session.conditionUpdate
  | some permit =>
    dsimp only
    rw [after_congr (update_apply _ _ _ _)]
    refine Keeps.after_bind (I := Woken config _) ?_ fun outcome =>
      .bind ((woken_pliant config _).update fun _ => rfl) fun _ => .settle outcome
    rw [after_attempt]
    exact applied permit

end Unasked

/-- Whether an edit pauses the target without looking whether it can be interrupted. A condition
does when the breakpoint is deleted first, because it was hit. -/
def Edit.PausesUnasked (e : Edit) (w : World) : Prop :=
  match e with
  | .paused e => e.Pauses w
  | .passCount _ _ => False
  | .condition i _ => w.session.alive = true ∧ ∃ b, w.bound[i]? = some b ∧ b.hits ≠ 0

/-- **Edits and targets they did not interrupt.** Of an edit that starts with the flag cleared and
every gate free: if it interrupts nothing, then it resumes nothing and leaves the phase as it was,
exactly when it does not pause a target under way without looking. -/
theorem unasked_resume_iff (peer : Peer) (config : Config) (depth : Nat) (e : Edit) (w : World)
    (attentive : peer.Attentive) (cleared : w.session.needsResume = false) (free : w.Free) :
    let z := e.act.after (.within peer config depth) w
    (z.interrupts config = w.interrupts config →
        z.wakes config = w.wakes config ∧ z.session.phase = w.session.phase) ↔
      (z.interrupts config = w.interrupts config →
        ¬(e.PausesUnasked w ∧ w.session.UnderWay)) := by
  intro z
  have start : w.Spared config w := ⟨rfl, rfl, rfl, cleared, free.breakAll⟩
  constructor
  · rintro leaves same ⟨pauses, underWay⟩
    -- no interruption was seen, and yet one resumption more: the two counts differ
    have woken : Woken config (w.wakes config).length z := by
      cases e with
      | paused e => exact woken_pausedEdit attentive config depth underWay free.breakAll pauses
      | passCount i p => exact pauses.elim
      | condition i k =>
        obtain ⟨alive, b, found, hit⟩ := pauses
        have gate : b.held.condition = false := by
          rw [free.bound b (List.mem_of_getElem? found)]
        exact woken_setCondition attentive config depth underWay free.breakAll k alive found hit
          gate
    unfold Woken at woken
    rw [(leaves same).1] at woken
    exact Nat.lt_irrefl _ woken
  · intro looks same
    -- any other edit either interrupts or leaves what it found
    have spared : w.InterruptedSince config z ∨ w.Spared config z := by
      have looks := looks same
      cases e with
      | paused e =>
        have spares := spares_pausedEdit config depth w attentive (e := e)
          fun pauses underWay => looks ⟨pauses, underWay⟩
        exact spares.leaves start
      | passCount i p => exact (spares_setPassCount attentive config depth w i p).leaves start
      | condition i k =>
        refine (spares_setCondition attentive config depth w i k).leaves ⟨start, ?_⟩
        by_cases left : w.session.alive = true → ¬w.session.UnderWay
        · exact .inl left
        · refine .inr fun b found => Nat.eq_zero_of_not_pos fun pos => left fun alive underWay => ?_
          exact looks ⟨⟨alive, b, found, Nat.ne_of_gt pos⟩, underWay⟩
    rcases spared with more | spared
    · exact absurd same (Nat.ne_of_gt more)
    · exact ⟨spared.wakes, spared.phase⟩

/-- A session whose target steps, with every gate free. -/
def steppingWithBreakpoint : World :=
  { runningWithBreakpoint with session := { phase := .stepping } }

set_option maxRecDepth 100000 in
/-- A pass count that is given while the target steps leaves it alone. -/
theorem unasked_resume_passCount :
    let e := Edit.passCount 0 ⟨.equal, 3⟩
    let w := steppingWithBreakpoint
    let z := e.act.after (.within (interruptedPeer "") {} 1) w
    ((interruptedPeer "").Attentive ∧ w.session.needsResume = false ∧ w.Free) ∧
      z.sent = [.request "-break-after 1 2"] ∧ z.interrupts {} = w.interrupts {} ∧
      (z.interrupts {} = w.interrupts {} →
        z.wakes {} = w.wakes {} ∧ z.session.phase = w.session.phase) := by
  intro e w z
  have attentive : (interruptedPeer "").Attentive := interruptedPeer_attentive ""
  have free : w.Free := ⟨rfl, rfl, rfl, by decide⟩
  have leaves := (unasked_resume_iff (interruptedPeer "") {} 1 e w attentive rfl free).2
    fun _ pauses => pauses.1
  exact ⟨⟨attentive, rfl, free⟩, by decide +kernel, by decide +kernel, leaves⟩

set_option maxRecDepth 100000 in
/-- A breakpoint that is deleted while the target steps: nothing is interrupted, the target is
resumed, and the step is said to be a run. The same goes for a target that is said to run while its
run mode is off. -/
theorem unasked_resume_delete :
    let act := (Edit.paused (.delete 4)).act
    let link := Link.within (interruptedPeer "") {} 1
    let w := steppingWithBreakpoint
    let v : World := { w with session := { phase := .running, runMode := false } }
    let stepped := act.after link w
    let ran := act.after link v
    (w.session.needsResume = false ∧ v.session.needsResume = false) ∧
      (stepped.interrupts {} = w.interrupts {} ∧ ran.interrupts {} = v.interrupts {}) ∧
      stepped.sent = [.submit ({} : Config).continueCommand, .request "-break-delete 4"] ∧
      stepped.session.phase = .running ∧
      ran.sent = [.submit ({} : Config).continueCommand, .request "-break-delete 4"] := by
  decide +kernel

end DebugLink
