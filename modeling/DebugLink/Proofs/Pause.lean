import DebugLink.Proofs.Gentle

/-!
# Pausing the target for an edit

An edit interrupts a target that runs, waits for the stop, does its work and resumes the target if
it is still to be resumed. This module says in which world each of these steps ends.

* `pauseForEdit_apply`, `pause_wakes`: the pause sends one interrupt, and nothing else wakes the
  target until it is over.
* `pause_returned`, `pause_failed`: the pause gives a value exactly when a stop was signalled.
* `resume_attentive`, `after_whilePaused`: the end of an edit.
* `whilePaused_stopped`: an edit of a target that is stopped already.
* `after_resume_attentive`: resuming sends one command at most, whether it is barred or not.
-/

namespace DebugLink

open Act Breakpoint

/-- The interrupt of an edit, as it is sent. -/
def interruptCall : Call := .submit "-exec-interrupt"

namespace World

/-- The world while the target is being interrupted. -/
def interrupting (w : World) : World :=
  { w with session := { w.session with waiter := .waiting, breakAll := ⟨false⟩ } }

/-- The world while the target is being interrupted for an edit. -/
def pausing (w : World) : World :=
  { w with session :=
      { w.session with needsResume := true, waiter := .waiting, breakAll := ⟨false⟩ } }

/-- The world in which nobody resumes or interrupts the target any more. -/
def released (w : World) : World := { w with session := { w.session with breakAll := ⟨true⟩ } }

/-- The world in which the flag is set or not. -/
def flagged (w : World) (on : Bool) : World :=
  { w with session := { w.session with needsResume := on } }

/-- The world after the target was resumed, if nothing arrived meanwhile. -/
def continued (w : World) (c : Config) : World :=
  { w.resuming.submitting c.continueCommand with session := w.resuming.session.resumed }

/-- A target that runs, as both sides say. -/
def Runs (w : World) : Prop := w.session.phase = .running ∧ w.session.runMode = true

end World

theorem Config.continueCommand_ne (c : Config) : c.continueCommand ≠ "-exec-interrupt" := by
  intro e
  have h := c.execLetter_continueCommand
  rw [e] at h
  exact absurd h (by decide)

/-! ## Waiting for the stop -/

section Pause

variable {link : Link} {w : World}

/-- The wait for the stop of an interrupt. -/
def awaitStop : Act Unit := submit "-exec-interrupt" >>= fun _ => awaitInterrupt

/-- **An interrupt** gives the gate back unless it stops for good. -/
theorem interrupt_apply (runs : w.Runs) (free : w.session.breakAll.isFree = true) :
    interrupt link w = match awaitStop link w.interrupting with
      | .ok _ u => .ok () u.released
      | .error (.failed cause) u => .error (.failed cause) u.released
      | .error halt u => .error halt u := by
  rw [interrupt_free runs free]
  show (attempt awaitStop >>= _) link w.interrupting = _
  rw [bind_apply, attempt_apply]
  cases awaitStop link w.interrupting with
  | ok _ u => rfl
  | error halt u => cases halt <;> rfl

/-- **The pause of an edit** gives the gate back unless it stops for good. -/
theorem pauseForEdit_apply (runs : w.Runs) (free : w.session.breakAll.isFree = true) :
    pauseForEdit link w = match awaitStop link w.pausing with
      | .ok _ u => .ok () u.released
      | .error (.failed cause) u => .error (.failed cause) u.released
      | .error halt u => .error halt u := by
  -- the flag is set before the target is interrupted, and stays so when that fails
  have flagged : (w.flagged true).Runs := runs
  rw [pauseForEdit_of_running runs.1]
  exact interrupt_apply flagged free

/-- Waiting gives a value exactly when the stop was signalled, and changes nothing. -/
theorem awaitInterrupt_apply (link : Link) (w : World) :
    (awaitInterrupt link w = .ok () w ∧ w.session.waiter = .signalled) ∨
      (w.session.waiter ≠ .signalled ∧ ∃ halt, awaitInterrupt link w = .error halt w) := by
  -- without a signal the wait runs out of time, or goes on for good
  have timed : ∃ halt, (read >>= fun link => if link.config.waitsForever then throw .blocked
      else fail .interruptTimeout : Act Unit) link w = .error halt w := by
    rw [read_apply]
    split
    · exact ⟨.blocked, rfl⟩
    · exact ⟨.failed .interruptTimeout, rfl⟩
  unfold awaitInterrupt
  rw [look_apply]
  cases w.session.waiter with
  | signalled => exact .inl ⟨rfl, rfl⟩
  | dropped => exact .inr ⟨by simp, _, rfl⟩
  | waiting => exact .inr ⟨by simp, timed⟩
  | nobody => exact .inr ⟨by simp, timed⟩

end Pause

section Within

variable {peer : Peer} {config : Config} {depth : Nat} {w v : World}

/-- Until the wait is over nothing but the interrupt is sent that is no request. -/
theorem barred_awaitStop (peer : Peer) (config : Config) (depth : Nat) (kind : Call → Bool)
    (requests : ∀ command, kind (.request command) = false) {w : World}
    (taken : w.session.breakAll.isFree = false) :
    Barred kind ((interruptCall :: w.sent).filter kind)
      (awaitStop.after (.within peer config depth) w) := by
  have sent : Barred kind ((interruptCall :: w.sent).filter kind)
      (w.submitting "-exec-interrupt") := ⟨taken, rfl⟩
  refine Keeps.after_bind (I := Barred kind _) ?_ fun _ => .awaitInterrupt
  unfold after
  rw [submit_apply]
  cases (Link.within peer config depth).peer.accept w.sent "-exec-interrupt" with
  | error cause => exact sent
  | ok _ =>
    have robust := barred_robust peer config requests ((interruptCall :: w.sent).filter kind)
    exact (robust.nested depth).keeps_react robust.note _ _ _ sent

/-- **A pause sends one interrupt**, and nothing else wakes the target meanwhile. -/
theorem pause_wakes (runs : w.Runs) (free : w.session.breakAll.isFree = true) :
    (pauseForEdit.after (.within peer config depth) w).wakes config =
      interruptCall :: w.wakes config := by
  have barred := barred_awaitStop peer config depth (· ∈ config.wakes) (by simp [Config.wakes])
    (w := w.pausing) rfl
  have wakes := barred.sent
  have woken : interruptCall ∈ config.wakes := config.interrupt_mem_wakes
  rw [List.filter_cons_of_pos (by simpa using woken)] at wakes
  unfold after at wakes ⊢
  rw [pauseForEdit_apply runs free]
  cases h : awaitStop (.within peer config depth) w.pausing with
  | ok _ u => rw [h] at wakes; exact wakes
  | error halt u => rw [h] at wakes; cases halt <;> exact wakes

/-- How a wait ends: with the stop signalled, with a failure without it, or for good. -/
theorem awaitStop_cases (peer : Peer) (config : Config) (depth : Nat) (w : World) :
    (∃ u, awaitStop (.within peer config depth) w.pausing = .ok () u ∧
        u.session.waiter = .signalled) ∨
      (∃ cause u, awaitStop (.within peer config depth) w.pausing = .error (.failed cause) u ∧
        u.session.waiter ≠ .signalled) ∨
      ∃ halt u, awaitStop (.within peer config depth) w.pausing = .error halt u ∧
        ∀ cause, halt ≠ .failed cause := by
  unfold awaitStop
  rw [bind_apply, submit_apply]
  cases (Link.within peer config depth).peer.accept w.pausing.sent "-exec-interrupt" with
  | error cause => exact .inr (.inl ⟨cause, _, rfl, by simp [World.pausing, World.submitting]⟩)
  | ok _ =>
    dsimp only
    cases hr : react w.pausing.sent (.submit "-exec-interrupt") (.within peer config depth)
        (w.pausing.submitting "-exec-interrupt") with
    | error halt u =>
      -- what arrives never fails, so this is no failure
      refine .inr (.inr ⟨halt, u, rfl, ?_⟩)
      rintro cause rfl
      exact Unfailing.react peer config depth _ _ _ _ _ hr
    | ok _ u =>
      dsimp only
      rcases awaitInterrupt_apply (.within peer config depth) u with ⟨e, hs⟩ | ⟨hs, halt, e⟩
      · exact .inl ⟨u, e, hs⟩
      · cases halt with
        | failed cause => exact .inr (.inl ⟨cause, u, e, hs⟩)
        | assertion => exact .inr (.inr ⟨_, u, e, by simp⟩)
        | blocked => exact .inr (.inr ⟨_, u, e, by simp⟩)
        | overrun => exact .inr (.inr ⟨_, u, e, by simp⟩)

/-- A pause that gives a value ends with the stop signalled and the gate free. -/
theorem pause_returned (runs : w.Runs) (free : w.session.breakAll.isFree = true) {u : Unit}
    (h : pauseForEdit (.within peer config depth) w = .ok u v) :
    v.session.waiter = .signalled ∧ v.session.breakAll.isFree = true := by
  rw [pauseForEdit_apply runs free] at h
  rcases awaitStop_cases peer config depth w with
    ⟨x, e, hs⟩ | ⟨cause, x, e, hs⟩ | ⟨halt, x, e, hs⟩
  · rw [e] at h
    cases h
    exact ⟨hs, rfl⟩
  · rw [e] at h
    cases h
  · rw [e] at h
    cases halt <;> cases h

/-- A pause that fails ends without a stop being signalled, and with the gate free. -/
theorem pause_failed (runs : w.Runs) (free : w.session.breakAll.isFree = true) {cause : Failure}
    (h : pauseForEdit (.within peer config depth) w = .error (.failed cause) v) :
    v.session.waiter ≠ .signalled ∧ v.session.breakAll.isFree = true := by
  rw [pauseForEdit_apply runs free] at h
  rcases awaitStop_cases peer config depth w with
    ⟨x, e, hs⟩ | ⟨cause, x, e, hs⟩ | ⟨halt, x, e, hs⟩
  · rw [e] at h
    cases h
  · rw [e] at h
    cases h
    exact ⟨hs, rfl⟩
  · rw [e] at h
    cases halt with
    | failed cause => exact absurd rfl (hs cause)
    | _ => cases h

end Within

/-! ## Resuming after it -/

section Resume

variable {link : Link} {w : World}

/-- **Resuming** with a peer that delivers nothing meanwhile: the command is sent, taken or not. -/
theorem resume_attentive (attentive : link.peer.Attentive)
    (free : w.session.breakAll.isFree = true) :
    resume link w = settle (link.peer.accept w.sent link.config.continueCommand) link
      (w.continued link.config) := by
  have sent : submit link.config.continueCommand link w.resuming =
      settle (link.peer.accept w.sent link.config.continueCommand) link
        (w.resuming.submitting link.config.continueCommand) :=
    submit_attentive attentive link.config.continueCommand_ne w.resuming
  rw [resume_free free]
  show (attempt (submit link.config.continueCommand) >>= _) link w.resuming = _
  rw [bind_apply, attempt_apply, sent]
  cases link.peer.accept w.sent link.config.continueCommand <;> rfl

/-- **The end of an edit**: the target is resumed if the flag is set still. -/
theorem resumeAfterEdit_apply (link : Link) (w : World) :
    resumeAfterEdit link w =
      if w.session.needsResume then resume link (w.flagged false)
      else .ok () (w.flagged false) := by
  show (if w.session.needsResume then resume else pure () : Act Unit) link (w.flagged false) = _
  split <;> rfl

/-- A target that is not to be resumed stays as it is. -/
theorem resumeAfterEdit_idle (idle : w.session.needsResume = false) :
    resumeAfterEdit link w = .ok () w := by
  have same : w.flagged false = w := by
    unfold World.flagged
    rw [← idle]
  rw [resumeAfterEdit_apply, idle, if_neg Bool.false_ne_true, same]

/-- **The world at the end of an edit**, if nothing arrives when the target is resumed. -/
def World.unpaused (w : World) (c : Config) : World :=
  if w.session.needsResume then (w.flagged false).continued c else w.flagged false

theorem after_resumeAfterEdit (attentive : link.peer.Attentive)
    (free : w.session.breakAll.isFree = true) :
    resumeAfterEdit.after link w = w.unpaused link.config := by
  have resumed : resume.after link (w.flagged false) = (w.flagged false).continued link.config := by
    rw [after_congr (resume_attentive attentive (w := w.flagged false) free), after_settle]
  unfold after at resumed ⊢
  unfold World.unpaused
  rw [resumeAfterEdit_apply]
  cases w.session.needsResume with
  | true => exact resumed
  | false => rfl

/-- Resuming the target sends one command at most, and changes no breakpoint. -/
theorem after_resume_attentive (attentive : link.peer.Attentive) :
    (resume.after link w).bound = w.bound ∧
    ((resume.after link w).sent = w.sent ∨
      (resume.after link w).sent = .submit link.config.continueCommand :: w.sent) := by
  cases free : w.session.breakAll.isFree with
  | false =>
    rw [after_of_ok (resume_barred free)]
    exact ⟨rfl, .inl rfl⟩
  | true =>
    rw [after_congr (resume_attentive attentive free), after_settle]
    exact ⟨rfl, .inr rfl⟩

theorem after_resumeAfterEdit_attentive (attentive : link.peer.Attentive) :
    (resumeAfterEdit.after link w).bound = w.bound ∧
    ((resumeAfterEdit.after link w).sent = w.sent ∨
      (resumeAfterEdit.after link w).sent = .submit link.config.continueCommand :: w.sent) := by
  cases flag : w.session.needsResume with
  | false =>
    have ended : resumeAfterEdit link w = .ok () (w.flagged false) := by
      rw [resumeAfterEdit_apply, flag]
      rfl
    rw [after_of_ok ended]
    exact ⟨rfl, .inl rfl⟩
  | true =>
    have resumed : resumeAfterEdit link w = resume link (w.flagged false) := by
      rw [resumeAfterEdit_apply, flag]
      rfl
    rw [after_congr resumed]
    exact after_resume_attentive attentive

/-- An edit whose pause stops short does nothing more. -/
theorem whilePaused_error {α : Type} {body : Act α} {halt : Halt} {v : World}
    (h : pauseForEdit link w = .error halt v) : whilePaused body link w = .error halt v := by
  unfold whilePaused
  rw [bind_apply, h]

/-- A target that is stopped is not paused. -/
theorem pauseForEdit_stopped (stopped : w.session.phase = .stopped) :
    pauseForEdit link w = .ok () w := by
  unfold pauseForEdit
  rw [look_apply, stopped]
  rfl

/-- **An edit while the target is stopped** is its work alone, if nothing is to be resumed then. -/
theorem whilePaused_stopped {α : Type} {edit : Act α} {outcome : Except Failure α} {v : World}
    (stopped : w.session.phase = .stopped) (worked : attempt edit link w = .ok outcome v)
    (idle : v.session.needsResume = false) :
    whilePaused edit link w = settle outcome link v := by
  unfold whilePaused
  rw [bind_ok (pauseForEdit_stopped stopped), bind_ok worked, bind_ok (resumeAfterEdit_idle idle)]

/-- **An edit whose pause gives a value** ends with the resumption, whatever becomes of its work. -/
theorem after_whilePaused {α : Type} {body : Act α} {c : Config} (gentle : Gentle c link body)
    {u : Unit} {v : World} (h : pauseForEdit link w = .ok u v) :
    (whilePaused body).after link w = resumeAfterEdit.after link (body.after link v) := by
  obtain ⟨outcome, e⟩ := gentle.attempt_ok v
  unfold whilePaused
  rw [after_bind, h]
  dsimp only
  rw [after_bind, e]
  dsimp only
  rw [after_bind]
  unfold after
  cases resumeAfterEdit link _ with
  | ok _ x => exact after_settle outcome link x
  | error halt x => rfl

theorem World.wakes_continued (w : World) (c : Config) :
    (w.continued c).wakes c = .submit c.continueCommand :: w.wakes c :=
  World.wakes_submitting c.continueCommand_mem_wakes _

end Resume

end DebugLink
