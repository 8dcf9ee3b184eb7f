import DebugLink.Proofs.EditOverStop

/-!
# While the target is being interrupted

An interrupt takes the gate on resuming before it is sent, and gives it back when its stop was
handled or the wait is over. Whatever arrives in between is handled as usual: hits that would
resume the target, errors of commands after which the session steps on, edits. None of that sets
the target going.

* `Config.restarts_continueCommand`, `Motion.restarts_command`: the commands of the session that set
  the target going.
* `submitted_interrupt`: the interrupt is the only command that is submitted meanwhile.
* `interrupt_restarts_nothing`: so nothing restarts the target, and the gate is open in the end.
-/

namespace DebugLink

open Act

/-- Whether a command is submitted, so that nobody waits for an answer. -/
def Call.isSubmitted : Call → Bool
  | submit _ => true
  | request _ => false

/-- The verbs of the commands that set the target going. -/
def restartVerbs : List String :=
  ["-exec-continue", "-exec-run", "-exec-step", "-exec-next", "-exec-finish"]

/-- Whether a command that is submitted sets the target going. -/
def Call.restarts : Call → Bool
  | submit command => restartVerbs.any (Text.startsWith · command)
  | request _ => false

/-- A text that starts with a verb of these sets the target going when it is submitted. -/
theorem Call.restarts_of_prefix {command : String} (lead : String) {rest : List Char}
    (h : command.toList = lead.toList ++ rest)
    (verb : String) (known : verb ∈ restartVerbs) (leads : verb.toList <+: lead.toList) :
    (submit command).restarts = true := by
  have starts : Text.startsWith verb command = true := by
    unfold Text.startsWith
    rw [h]
    exact List.isPrefixOf_iff_prefix.2 (leads.trans (List.prefix_append _ _))
  exact List.any_eq_true.2 ⟨verb, known, starts⟩

/-- Resuming sets the target going. -/
theorem Config.restarts_continueCommand (c : Config) :
    (Call.submit c.continueCommand).restarts = true :=
  Call.restarts_of_prefix "-exec-continue --thread-group " (String.toList_append ..)
    "-exec-continue" (by decide) (by decide)

/-- So does every motion. -/
theorem Motion.restarts_command (m : Motion) : (Call.submit m.command).restarts = true := by
  cases m with
  | run => decide
  | step thread =>
    exact Call.restarts_of_prefix "-exec-step --thread " (String.toList_append ..) "-exec-step"
      (by decide) (by decide)
  | next thread =>
    exact Call.restarts_of_prefix "-exec-next --thread " (String.toList_append ..) "-exec-next"
      (by decide) (by decide)
  | finish thread =>
    have split : (finish thread).command.toList =
        "-exec-finish --thread ".toList ++ (toString thread ++ " --frame 0").toList := by
      unfold command
      simp only [String.toList_append, List.append_assoc]
      rfl
    exact Call.restarts_of_prefix "-exec-finish --thread " split "-exec-finish" (by decide)
      (by decide)

theorem interruptCall_restarts : interruptCall.restarts = false := by decide

/-- **The interrupt is the only command** that is submitted before an interrupt is over. -/
theorem submitted_interrupt {peer : Peer} {config : Config} {depth : Nat} {w : World}
    (runs : w.Runs) (free : w.session.breakAll.isFree = true) :
    (interrupt.after (.within peer config depth) w).sent.filter Call.isSubmitted =
      interruptCall :: w.sent.filter Call.isSubmitted := by
  have barred := barred_awaitStop peer config depth Call.isSubmitted (fun _ => rfl)
    (w := w.interrupting) rfl
  have submitted := barred.sent
  rw [List.filter_cons_of_pos rfl] at submitted
  unfold after at submitted ⊢
  rw [interrupt_apply runs free]
  cases h : awaitStop (.within peer config depth) w.interrupting with
  | ok _ u => rw [h] at submitted; exact submitted
  | error halt u => rw [h] at submitted; cases halt <;> exact submitted

/-- An interrupt that ends with a value or a failure has given the gate back. -/
theorem released_of_interrupt {link : Link} {w v : World} (runs : w.Runs)
    (free : w.session.breakAll.isFree = true) (settles : interrupt.Settles link w v) :
    ∃ u : World, v = u.released := by
  have ends : interrupt link w = _ := interrupt_apply runs free
  cases awaited : awaitStop link w.interrupting with
  | ok _ u =>
    rw [awaited] at ends
    exact ⟨u, settles.after_eq.symm.trans (after_of_ok ends)⟩
  | error halt u =>
    rw [awaited] at ends
    cases halt with
    | failed cause => exact ⟨u, settles.after_eq.symm.trans (after_of_error ends)⟩
    | _ =>
      rcases settles.ok_or_failed with ⟨value, e⟩ | ⟨cause, e⟩
      · cases ends.symm.trans e
      · cases ends.symm.trans e

/-- **Nothing restarts the target** while it is being interrupted: of all commands that are sent
from the moment the gate is taken none sets the target going, as resuming and every motion do,
whatever is delivered meanwhile and however the interrupt ends. When it ends with a value or a
failure, the gate is open. -/
theorem interrupt_restarts_nothing (peer : Peer) (config : Config) (depth : Nat) (w : World)
    (runs : w.Runs) :
    let link := Link.within peer config depth
    ((Call.submit config.continueCommand).restarts = true ∧
        ∀ motion : Motion, (Call.submit motion.command).restarts = true) ∧
      (∃ new, (interrupt.after link w).sent = new ++ w.sent ∧
        ∀ call ∈ new, call.restarts = false) ∧
      ∀ v, interrupt.Settles link w v → v.session.breakAll.isFree = true := by
  intro link
  refine ⟨⟨config.restarts_continueCommand, Motion.restarts_command⟩, ?_⟩
  cases free : w.session.breakAll.isFree with
  | false =>
    -- somebody interrupts the target already, so this interrupt waits and nothing is sent
    have blocked : interrupt link w = _ := interrupt_barred runs free
    constructor
    · refine ⟨[], ?_, by simp⟩
      rw [after_of_error blocked]
      rfl
    · intro v settles
      rcases settles.ok_or_failed with ⟨value, e⟩ | ⟨cause, e⟩
      · rw [blocked] at e
        cases e
      · rw [blocked] at e
        cases e
  | true =>
    constructor
    · obtain ⟨new, split⟩ := Operation.suffix_sent peer config depth .interrupt w
      have split : (interrupt.after link w).sent = new ++ w.sent := split.symm
      have submitted : (interrupt.after link w).sent.filter Call.isSubmitted = _ :=
        submitted_interrupt runs free
      rw [split, List.filter_append] at submitted
      have alone : new.filter Call.isSubmitted = [interruptCall] :=
        List.append_cancel_right (submitted.trans rfl)
      refine ⟨new, split, fun call sent => ?_⟩
      cases call with
      | request command => rfl
      | submit command =>
        have kept : Call.submit command ∈ new.filter Call.isSubmitted :=
          List.mem_filter.2 ⟨sent, rfl⟩
        rw [alone, List.mem_singleton] at kept
        rw [kept]
        exact interruptCall_restarts
    · intro v settles
      obtain ⟨u, rfl⟩ := released_of_interrupt runs free settles
      rfl

/-- A session whose target runs while the condition of its breakpoint is edited. -/
def runningWithHeldBreakpoint : World where
  session := { phase := .running }
  bound := [{ gdbId := 1, location := .function "main", held := .conditionOnly }]

set_option maxRecDepth 100000 in
/-- A hit that is refused, an error after which the session steps out of a function, a hit that ends
the step and the stop itself arrive while the target is being interrupted: nothing resumes it. -/
theorem interrupt_restarts_nothing_stepOut :
    let hit := "27;1;a.c;5;2"
    let delivery := "\r\n".intercalate
      [hit, "49;Cannot find bounds of current function", hit, "47;2"]
    let link := Link.within (interruptedPeer delivery) {} 3
    let w := runningWithHeldBreakpoint
    w.Runs ∧ ((Call.submit ({} : Config).continueCommand).restarts = true ∧
        ∀ motion : Motion, (Call.submit motion.command).restarts = true) ∧
      (∃ new, (interrupt.after link w).sent = new ++ w.sent ∧
        ∀ call ∈ new, call.restarts = false) ∧
      (∀ v, interrupt.Settles link w v → v.session.breakAll.isFree = true) ∧
      (interrupt.after link w).session.waiter = .signalled :=
  have kept := interrupt_restarts_nothing (interruptedPeer _) {} 3 runningWithHeldBreakpoint
    ⟨rfl, rfl⟩
  ⟨⟨rfl, rfl⟩, kept.1, kept.2.1, kept.2.2, by decide +kernel⟩

end DebugLink
