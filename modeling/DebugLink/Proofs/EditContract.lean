import DebugLink.Proofs.Contract
import DebugLink.Proofs.EditOverStop
import DebugLink.Proofs.Flag

/-!
# What edits leave behind

An edit starts from a target that is ready: the flag to resume is cleared, and what was interrupted
was resumed. It pauses the target, does its work and resumes the target, and what holds in between
is stated with the number of interrupts before the edit, because a target that does not run is not
interrupted at all.

* `contract_pauseForEdit`: a pause holds a target that it interrupted, or fails without a stop.
* `contract_resumeAfterEdit`: the end of an edit makes the target ready again.
* `PausedEdit.contract`: what inserting, deleting and enabling leave behind.
-/

namespace DebugLink

open Act Breakpoint

namespace World

/-- How often the target was interrupted. -/
def interrupts (w : World) (c : Config) : Nat := (w.wakes c).count interruptCall

/-- The last thing that happened was a request. -/
def asked (w : World) : Bool :=
  match w.events.head? with
  | some (.requested _ _) => true
  | _ => false

/-- **A target that was resumed** after a stop was signalled. -/
structure Resumed (c : Config) (w : World) : Prop where
  runs : w.Runs
  signalled : w.session.waiter = .signalled
  last : (w.wakes c).head? = some (.submit c.continueCommand)
  quiet : w.asked = false

/-- **A target that is ready**: the flag is cleared, and the target was resumed if it was
interrupted more often than given. -/
structure Ready (c : Config) (n : Nat) (w : World) : Prop where
  cleared : w.session.needsResume = false
  least : n ≤ w.interrupts c
  resumed : n < w.interrupts c → w.Resumed c

/-- A target that was left alone: the flag is cleared, and there was no interrupt. -/
structure Still (c : Config) (n : Nat) (w : World) : Prop where
  cleared : w.session.needsResume = false
  same : w.interrupts c = n

/-- **A target that is held**: it was interrupted, a stop was signalled, and it is to be resumed. -/
structure Held (c : Config) (n : Nat) (w : World) : Prop where
  interrupted : n < w.interrupts c
  flag : w.Flagged
  signalled : w.session.waiter = .signalled
  free : w.session.breakAll.isFree = true

/-- A target that is held if it was interrupted. -/
structure Paused (c : Config) (n : Nat) (w : World) : Prop where
  least : n ≤ w.interrupts c
  held : n < w.interrupts c → w.Held c n

/-- The target was interrupted, no stop was signalled, and the flag stands. -/
structure Unanswered (c : Config) (n : Nat) (w : World) : Prop where
  interrupted : n < w.interrupts c
  flag : w.Flagged
  waits : w.session.waiter ≠ .signalled

/-- How an edit that fails leaves a target behind, unless it gives up while the target is held. -/
def Failed (c : Config) (n : Nat) (w : World) : Prop := w.Ready c n ∨ w.Unanswered c n

theorem interrupts_continued (w : World) (c : Config) :
    (w.continued c).interrupts c = w.interrupts c := by
  unfold interrupts
  rw [wakes_continued, List.count_cons_of_ne]
  intro e
  exact c.continueCommand_ne (Call.submit.inj e)

variable {c : Config} {n : Nat} {w : World}

theorem Still.ready (h : w.Still c n) : w.Ready c n :=
  ⟨h.cleared, Nat.le_of_eq h.same.symm, fun more => absurd h.same (Nat.ne_of_gt more)⟩

/-- A target that is ready and does not run was not interrupted. -/
theorem Ready.still (h : w.Ready c n) (idle : ¬w.Runs) : w.Still c n := by
  refine ⟨h.cleared, Nat.le_antisymm ?_ h.least⟩
  exact Nat.le_of_not_lt fun more => idle (h.resumed more).runs

theorem Ready.failed (h : w.Ready c n) : w.Failed c n := .inl h

theorem Unanswered.failed (h : w.Unanswered c n) : w.Failed c n := .inr h

/-- A target that is held stays so whatever it is said to be doing. -/
theorem Held.phased (h : w.Held c n) (phase : Phase) :
    ({ w with session := { w.session with phase } } : World).Held c n :=
  ⟨h.interrupted, h.flag, h.signalled, h.free⟩

theorem Held.paused (h : w.Held c n) : w.Paused c n := ⟨Nat.le_of_lt h.interrupted, fun _ => h⟩

end World

/-! ## What such a target does not depend on -/

section Calm

variable {c : Config} {n : Nat} {v u : World}

theorem Calm.interrupts (h : Calm c v u) : u.interrupts c = v.interrupts c := by
  unfold World.interrupts
  rw [h.wakes]

theorem Calm.still (h : Calm c v u) (hv : v.Still c n) : u.Still c n :=
  ⟨h.needsResume.trans hv.cleared, h.interrupts.trans hv.same⟩

theorem Calm.held (h : Calm c v u) (hv : v.Held c n) : u.Held c n := by
  refine ⟨?_, h.needsResume.trans hv.flag, h.waiter.trans hv.signalled, ?_⟩
  · rw [h.interrupts]
    exact hv.interrupted
  · rw [h.breakAll]
    exact hv.free

theorem Calm.paused (h : Calm c v u) (hv : v.Paused c n) : u.Paused c n := by
  refine ⟨?_, fun more => h.held (hv.held ?_)⟩
  · rw [h.interrupts]
    exact hv.least
  · rw [← h.interrupts]
    exact more

end Calm

section Loose

variable (c : Config) (n : Nat)

theorem loose_still : Loose (World.Still c n) where
  rebind _ _ h := ⟨h.cleared, h.same⟩
  critical _ _ h := ⟨h.cleared, h.same⟩
  conditionUpdate _ _ h := ⟨h.cleared, h.same⟩

theorem loose_held : Loose (World.Held c n) where
  rebind _ _ h := ⟨h.interrupted, h.flag, h.signalled, h.free⟩
  critical _ _ h := ⟨h.interrupted, h.flag, h.signalled, h.free⟩
  conditionUpdate _ _ h := ⟨h.interrupted, h.flag, h.signalled, h.free⟩

theorem loose_paused : Loose (World.Paused c n) where
  rebind b w h := ⟨h.least, fun more => (loose_held c n).rebind b w (h.held more)⟩
  critical p w h := ⟨h.least, fun more => (loose_held c n).critical p w (h.held more)⟩
  conditionUpdate p w h := ⟨h.least, fun more => (loose_held c n).conditionUpdate p w (h.held more)⟩

theorem loose_resumed : Loose (World.Resumed c) where
  rebind _ _ h := ⟨h.runs, h.signalled, h.last, h.quiet⟩
  critical _ _ h := ⟨h.runs, h.signalled, h.last, h.quiet⟩
  conditionUpdate _ _ h := ⟨h.runs, h.signalled, h.last, h.quiet⟩

theorem loose_ready : Loose (World.Ready c n) where
  rebind b w h := ⟨h.cleared, h.least, fun more => (loose_resumed c).rebind b w (h.resumed more)⟩
  critical p w h :=
    ⟨h.cleared, h.least, fun more => (loose_resumed c).critical p w (h.resumed more)⟩
  conditionUpdate p w h :=
    ⟨h.cleared, h.least, fun more => (loose_resumed c).conditionUpdate p w (h.resumed more)⟩

theorem loose_unanswered : Loose (World.Unanswered c n) where
  rebind _ _ h := ⟨h.interrupted, h.flag, h.waits⟩
  critical _ _ h := ⟨h.interrupted, h.flag, h.waits⟩
  conditionUpdate _ _ h := ⟨h.interrupted, h.flag, h.waits⟩

theorem loose_failed : Loose (World.Failed c n) := (loose_ready c n).or (loose_unanswered c n)

theorem loose_asked : Loose fun w => w.asked = true :=
  ⟨fun _ _ h => h, fun _ _ h => h, fun _ _ h => h⟩

end Loose

/-! ## Resuming -/

section Attentive

variable {peer : Peer} (attentive : peer.Attentive) (config : Config) (depth n : Nat)

include attentive

/-- **The end of an edit** clears the flag, and resumes the target if it was interrupted. -/
theorem contract_resumeAfterEdit :
    Contract (.within peer config depth) (World.Paused config n) resumeAfterEdit
      (fun _ => World.Ready config n) (World.Ready config n) := by
  refine .of_after fun w hw => ?_
  have interrupted : n < w.interrupts config → w.session.needsResume = true ∧
      w.session.breakAll.isFree = true := fun more => ⟨(hw.held more).flag, (hw.held more).free⟩
  -- a target that was interrupted has the flag set and the gate free, so it is resumed
  cases flag : w.session.needsResume with
  | false =>
    have e : resumeAfterEdit (.within peer config depth) w = .ok () (w.flagged false) := by
      rw [resumeAfterEdit_apply, flag]
      rfl
    rw [after_of_ok e]
    exact ⟨rfl, hw.least, fun more => absurd ((interrupted more).1.symm.trans flag) (by decide)⟩
  | true =>
    cases free : w.session.breakAll.isFree with
    | false =>
      have e : resumeAfterEdit (.within peer config depth) w = .ok () (w.flagged false) := by
        rw [resumeAfterEdit_apply, flag]
        exact resume_barred free
      rw [after_of_ok e]
      exact ⟨rfl, hw.least, fun more => absurd ((interrupted more).2.symm.trans free) (by decide)⟩
    | true =>
      have e : resumeAfterEdit.after (.within peer config depth) w =
          (w.flagged false).continued config := by
        rw [after_resumeAfterEdit (attentive.within config depth) free, Link.within_config]
        unfold World.unpaused
        rw [flag]
        rfl
      have count : ((w.flagged false).continued config).interrupts config = w.interrupts config :=
        World.interrupts_continued _ _
      rw [e]
      refine ⟨rfl, count ▸ hw.least, fun more => ⟨⟨rfl, rfl⟩, ?_, ?_, rfl⟩⟩
      · exact (hw.held (count ▸ more)).signalled
      · rw [World.wakes_continued]
        rfl

/-- The end of an edit after its work, whatever that gave. -/
theorem contract_ending {α : Type} {G : World → Prop} (paused : ∀ w, G w → w.Paused config n)
    (outcome : Except Failure α) :
    Contract (.within peer config depth)
      (Contract.Outcome (fun _ => World.Paused config n) G outcome)
      (resumeAfterEdit >>= fun _ => settle outcome) (fun _ => World.Ready config n)
      (World.Failed config n) := by
  have resumed := (contract_resumeAfterEdit attentive config depth n).failing
    fun _ => World.Ready.failed
  refine (resumed.pre fun w h => ?_).bind fun _ => ?_
  · cases outcome with
    | ok _ => exact h
    | error _ => exact paused w h
  · refine ((Contract.settle outcome).pre fun w h => ?_).failing fun _ => World.Ready.failed
    cases outcome <;> exact h

end Attentive

/-! ## Pausing -/

/-- A target that does not run is not interrupted for an edit. -/
theorem pauseForEdit_idle (link : Link) {w : World} (idle : ¬w.Runs) :
    ∃ on, pauseForEdit link w = .ok () (w.flagged on) := by
  have flagged : ¬(w.flagged true).Runs := idle
  unfold pauseForEdit
  rw [look_apply]
  cases w.session.phase with
  | design => exact ⟨w.session.needsResume, rfl⟩
  | stopped => exact ⟨w.session.needsResume, rfl⟩
  | running => exact ⟨true, interrupt_idle flagged⟩
  | stepping => exact ⟨true, interrupt_idle flagged⟩

section Counting

variable {peer : Peer} (attentive : peer.Attentive) (counting : peer.Counting) (config : Config)
  (depth n : Nat)

include attentive counting

/-- **Interrupting a target that runs** holds it, or fails without a stop. -/
theorem contract_pause_running :
    Contract (.within peer config depth) (fun w => w.Ready config n ∧ w.Runs) pauseForEdit
      (fun _ => World.Held config n) (World.Unanswered config n) := by
  rintro w ⟨hw, runs⟩
  cases free : w.session.breakAll.isFree with
  | false =>
    -- the edit waits for the gate, which its own caller holds
    have flagged : (w.flagged true).Runs := runs
    have stuck : pauseForEdit (.within peer config depth) w = .error .blocked _ :=
      (pauseForEdit_of_running runs.1).trans (interrupt_barred flagged free)
    rw [stuck]
    trivial
  | true =>
    have flag := flag_pause attentive counting config depth runs free
    have more : n < (pauseForEdit.after (.within peer config depth) w).interrupts config := by
      unfold World.interrupts
      rw [pause_wakes runs free, List.count_cons_self]
      exact Nat.lt_succ_of_le hw.least
    cases e : pauseForEdit (.within peer config depth) w with
    | ok a v =>
      obtain ⟨signalled, given⟩ := pause_returned runs free e
      rw [after_of_ok e] at more flag
      exact ⟨more, flag, signalled, given⟩
    | error halt v =>
      rw [after_of_error e] at more flag
      cases halt with
      | failed cause => exact ⟨more, flag, (pause_failed runs free e).1⟩
      | _ => trivial

/-- **The pause of an edit.** -/
theorem contract_pauseForEdit :
    Contract (.within peer config depth) (World.Ready config n) pauseForEdit
      (fun _ => World.Paused config n) (World.Unanswered config n) := by
  intro w hw
  by_cases runs : w.Runs
  · have running := contract_pause_running attentive counting config depth n
    exact (running.imp (fun _ h => h) (fun _ _ h => h.paused) fun _ h => h) w ⟨hw, runs⟩
  · obtain ⟨on, done⟩ := pauseForEdit_idle (.within peer config depth) runs
    have same : (w.flagged on).interrupts config = n := (hw.still runs).same
    rw [done]
    exact ⟨Nat.le_of_eq same.symm, fun more => absurd same (Nat.ne_of_gt more)⟩

/-- **An edit while the target is paused** fails before its work or ends with the resumption. -/
theorem contract_whilePaused {α : Type} {body : Act α}
    (gentle : Gentle config (.within peer config depth) body) :
    Contract (.within peer config depth) (World.Ready config n) (whilePaused body)
      (fun _ => World.Ready config n) (World.Failed config n) := by
  have paused := (contract_pauseForEdit attentive counting config depth n).failing
    fun _ => World.Unanswered.failed
  have worked := gentle.contract (P := World.Paused config n) fun _ _ calm => calm.paused
  exact paused.bind fun _ => worked.attempt.bind fun outcome =>
    contract_ending attentive config depth n (fun _ h => h) outcome

/-- **Inserting, deleting or enabling a breakpoint.** -/
theorem PausedEdit.contract (e : PausedEdit) :
    Contract (.within peer config depth) (World.Ready config n) e.act
      (fun _ => World.Ready config n) (World.Failed config n) := by
  have edited : ∀ {α : Type} {body : Act α}, Gentle config (.within peer config depth) body →
      Contract (.within peer config depth) (World.Ready config n)
        (whilePaused body >>= fun _ => (pure () : Act Unit)) (fun _ => World.Ready config n)
        (World.Failed config n) := fun gentle =>
    (contract_whilePaused attentive counting config depth n gentle).bind fun _ =>
      .pure fun _ h => h
  intro w hw
  rcases e.act_cases (attentive.within config depth) config w with done | ⟨_, body, gentle, eq⟩
  · rw [done]
    exact hw
  · rw [eq]
    exact edited gentle w hw

end Counting

end DebugLink
