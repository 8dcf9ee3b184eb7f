import DebugLink.Proofs.PolicyContract

/-!
# Edits that fail

An edit that interrupted a target resumes it in the end. Two kinds of failure get in the way: the
edit stops short when the interrupt is not answered by a stop, and a condition is given up at the
first request that fails, before the target is resumed.

* `Edit.contract`: what each edit leaves behind, whether it gives a value or fails.
* `edit_failure_iff`: an edit leaves the flag to resume cleared and the target running unless it
  failed in one of the two ways.
-/

namespace DebugLink

open Act Breakpoint

/-- An edit of breakpoints. -/
inductive Edit
  | paused (e : PausedEdit)
  | passCount (i : Nat) (p : PassCount)
  | condition (i : Nat) (k : Condition)

namespace Edit

/-- The step that an edit is, less its value. -/
def act : Edit → Act Unit
  | paused e => e.act
  | passCount i p => setPassCount i p
  | condition i k => setCondition i k

/-- Whether an edit gives a condition. -/
def isCondition : Edit → Bool
  | condition _ _ => true
  | _ => false

theorem contract {peer : Peer} (attentive : peer.Attentive) (counting : peer.Counting)
    (config : Config) (depth n : Nat) (e : Edit) :
    Contract (.within peer config depth) (World.Ready config n) e.act
      (fun _ => World.Ready config n)
      (fun w => w.Failed config n ∨ e.isCondition = true ∧ w.GivenUp config n) := by
  cases e with
  | paused e =>
    exact (e.contract attentive counting config depth n).failing fun _ => .inl
  | passCount i p =>
    exact (contract_setPassCount attentive counting config depth n i p).failing fun _ => .inl
  | condition i k =>
    exact (contract_setCondition attentive counting config depth n i k).failing fun _ =>
      Or.imp id fun h => ⟨rfl, h⟩

end Edit

/-- **Edits that fail.** Of an edit that starts with the flag cleared and gives a value or fails,
with whatever failures of the link: it leaves the flag cleared, and the target resumed if the stop
it asked for was signalled, exactly when it did not interrupt the target, or a stop was signalled
and the edit was no condition that failed at its last request. -/
theorem edit_failure_iff (peer : Peer) (config : Config) (depth : Nat) (e : Edit) (w : World)
    (attentive : peer.Attentive) (counting : peer.Counting)
    (cleared : w.session.needsResume = false)
    (ended : (attempt e.act).returns (.within peer config depth) w = true) :
    let link := Link.within peer config depth
    let z := e.act.after link w
    let interrupted := w.interrupts config < z.interrupts config
    (z.session.needsResume = false ∧ (interrupted → z.session.waiter = .signalled →
        (z.wakes config).head? = some (.submit config.continueCommand) ∧
          z.session.phase = .running)) ↔
      ¬(interrupted ∧ (z.session.waiter ≠ .signalled ∨
        (e.isCondition = true ∧ e.act.returns link w = false ∧ z.asked = true))) := by
  intro link z interrupted
  have start : w.Ready config (w.interrupts config) :=
    ⟨cleared, Nat.le_refl _, fun more => absurd more (Nat.lt_irrefl _)⟩
  have contract := e.contract attentive counting config depth (w.interrupts config) w start
  -- an edit that left the target ready did all that is asked of it
  have ready : z.Ready config (w.interrupts config) →
      ((z.session.needsResume = false ∧ (interrupted → z.session.waiter = .signalled →
          (z.wakes config).head? = some (.submit config.continueCommand) ∧
            z.session.phase = .running)) ↔
        ¬(interrupted ∧ (z.session.waiter ≠ .signalled ∨
          (e.isCondition = true ∧ e.act.returns link w = false ∧ z.asked = true)))) := by
    intro h
    refine ⟨fun _ bad => ?_, fun _ => ⟨h.cleared, fun more _ => ?_⟩⟩
    · have resumed := h.resumed bad.1
      rcases bad.2 with waits | ⟨-, -, asked⟩
      · exact waits resumed.signalled
      · exact absurd (asked.symm.trans resumed.quiet) (by decide)
    · have resumed := h.resumed more
      exact ⟨resumed.last, resumed.runs.1⟩
  unfold returns at ended
  rw [attempt_apply] at ended
  cases he : e.act link w with
  | ok a v =>
    have same : z = v := after_of_ok he
    rw [he] at contract
    exact ready (same ▸ contract)
  | error halt v =>
    have same : z = v := after_of_error he
    cases halt with
    | failed cause =>
      have failed : e.act.returns link w = false := by
        unfold returns
        rw [he]
      rw [he] at contract
      -- a failed edit leaves the target ready, or the flag stands and neither side holds
      rcases contract with (h | ⟨more, flag, waits⟩) | ⟨is, held, asked⟩
      · exact ready (same ▸ h)
      · rw [← same] at more flag waits
        exact ⟨fun h => absurd (h.1.symm.trans flag) (by decide),
          fun h => absurd ⟨more, .inl waits⟩ h⟩
      · rw [← same] at held asked
        exact ⟨fun h => absurd (h.1.symm.trans held.flag) (by decide),
          fun h => absurd ⟨held.interrupted, .inr ⟨is, failed, asked⟩⟩ h⟩
    | assertion => rw [he] at ended; cases ended
    | blocked => rw [he] at ended; cases ended
    | overrun => rw [he] at ended; cases ended

theorem interruptedPeer_counting {delivery : String}
    (h : ∀ record ∈ recordsOf delivery, setsBack record = false) :
    (interruptedPeer delivery).Counting := by
  intro past d hd
  change d ∈ (if past = [] ∧ interruptCall = interruptCall then [delivery] else []) at hd
  split at hd
  · rw [List.mem_singleton.1 hd]
    exact h
  · cases hd

set_option maxRecDepth 100000 in
/-- A breakpoint is deleted from a target that runs and stops when it is interrupted. -/
theorem edit_failure_stopped :
    let peer := interruptedPeer "47;2"
    let link := Link.within peer {} 3
    let e := Edit.paused (.delete 4)
    let w := runningWithBreakpoint
    let z := e.act.after link w
    (peer.Attentive ∧ peer.Counting ∧ w.session.needsResume = false ∧
        (attempt e.act).returns link w = true) ∧
      w.interrupts {} < z.interrupts {} ∧ z.session.needsResume = false ∧
      (w.interrupts {} < z.interrupts {} → z.session.waiter = .signalled →
        (z.wakes {}).head? = some (.submit ({} : Config).continueCommand) ∧
          z.session.phase = .running) :=
  ⟨⟨interruptedPeer_attentive _, interruptedPeer_counting (by decide +kernel), rfl,
      by decide +kernel⟩, by decide +kernel,
    (edit_failure_iff (interruptedPeer "47;2") {} 3 (.paused (.delete 4)) runningWithBreakpoint
      (interruptedPeer_attentive _) (interruptedPeer_counting (by decide +kernel)) rfl
      (by decide +kernel)).2 (by decide +kernel)⟩

set_option maxRecDepth 100000 in
/-- An interrupt that cannot be sent leaves the flag set. A condition that gdb cannot be told leaves
it set as well, and the target where it was stopped. -/
theorem edit_failure_refused :
    let refusing : Script :=
      { accepting := true, submitFailures := [("-exec-interrupt", .linkClosed)] }
    let failing : Script :=
      { accepting := true
        replies := [("-break-condition 1 x", [.failure .linkClosed])]
        reactions := [("-exec-interrupt", ["47;2"])] }
    let w := runningWithBreakpoint
    let deleted := (PausedEdit.delete 4).act.after (.within refusing.peer {} 3) w
    let given := (setCondition 0 ⟨.whenTrue, "x"⟩).after (.within failing.peer {} 3) w
    w.session.needsResume = false ∧ deleted.session.needsResume = true ∧
      given.session.needsResume = true ∧ given.session.waiter = .signalled ∧
      given.session.phase = .stopped ∧ given.wakes {} = interruptCall :: w.wakes {} := by
  decide +kernel

end DebugLink
