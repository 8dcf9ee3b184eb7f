import DebugLink.Proofs.Lockstep.Invariant
import DebugLink.Proofs.Steps

/-!
# While resuming is barred

Whoever resumes or interrupts the target holds a gate until the command was sent, and for an
interrupt until its stop was handled. What arrives meanwhile can neither resume the target nor
interrupt it.

* `barred_robust`: the gate stays taken and nothing but requests is sent, whatever arrives.
* `barred_invariant`: no operation resumes or interrupts the target meanwhile.
* `woken_invariant`: commands that were sent stay sent.
* `woken_resume`, `woken_interrupt`: when it is not barred, the target is woken.
* `Operation.suffix_sent`, `Operation.suffix_events`: no operation takes back what was sent or what
  has happened.
-/

namespace DebugLink

open Act

/-- The commands that resumed or interrupted the target as a whole, the last of them first. -/
def World.wakes (w : World) (c : Config) : List Call := w.sent.filter (· ∈ c.wakes)

theorem World.wakes_submitting {c : Config} {command : String} (h : .submit command ∈ c.wakes)
    (w : World) : (w.submitting command).wakes c = .submit command :: w.wakes c :=
  List.filter_cons_of_pos (by simpa using h)

/-- **Resuming is barred**, and of one kind of commands those were sent that are given. -/
structure Barred (kind : Call → Bool) (past : List Call) (w : World) : Prop where
  taken : w.session.breakAll.isFree = false
  sent : w.sent.filter kind = past

/-- **While resuming is barred** it stays so, and no command is sent that is no request, whatever
arrives. -/
theorem barred_robust (peer : Peer) (config : Config) {kind : Call → Bool}
    (requests : ∀ command, kind (.request command) = false) (past : List Call) :
    Pairing.Robust peer config (Barred kind past) where
  change c _ w h := by
    refine ⟨?_, h.sent⟩
    rw [c.apply_breakAll]
    exact h.taken
  flag _ _ h := ⟨h.taken, h.sent⟩
  rebind _ _ h := ⟨h.taken, h.sent⟩
  note _ _ _ h := ⟨h.taken, h.sent⟩
  count _ _ h := ⟨h.taken, h.sent⟩
  tell _ _ _ h := ⟨h.taken, h.sent⟩
  request command w h := by
    refine ⟨h.taken, ?_⟩
    rw [← h.sent]
    exact List.filter_cons_of_neg (by simp [requests])
  resume _ _ w h := by
    rw [after_of_ok (resume_barred h.taken)]
    exact h
  interrupt _ _ w h := by
    -- an interrupt of a target that runs waits for the gate, and any other does nothing
    by_cases running : w.session.phase = .running ∧ w.session.runMode
    · rw [after_of_error (interrupt_barred running h.taken)]
      exact ⟨h.taken, h.sent⟩
    · rw [after_of_ok (interrupt_idle running)]
      exact h
  finish code depth w h := by
    obtain ⟨sent, -, session⟩ := after_finish (.within peer config depth) w code
    refine ⟨?_, ?_⟩
    · rw [session, ← h.taken]
      split <;> rfl
    · rw [sent]
      exact h.sent

/-- While resuming is barred, no operation at all resumes or interrupts the target. -/
theorem barred_invariant (peer : Peer) (config : Config) (past : List Call) :
    Pairing.Invariant peer config (Barred (· ∈ config.wakes) past) where
  toRobust := barred_robust peer config (by simp [Config.wakes]) past
  move m w h := by
    refine ⟨h.taken, ?_⟩
    rw [← h.sent]
    exact List.filter_cons_of_neg (by simpa using m.notMem_wakes config)

/-- The target was resumed or interrupted more often than given. -/
def Woken (c : Config) (n : Nat) (w : World) : Prop := n < (w.wakes c).length

/-- That the target was woken says nothing about the session. -/
theorem woken_pliant (c : Config) (n : Nat) : Pairing.Pliant (Woken c n) where
  session _ _ h := h
  rebind _ _ h := h
  note _ _ _ h := h
  send call _ h := Nat.lt_of_lt_of_le h ((List.sublist_cons_self call _).filter _).length_le

/-- **Commands that were sent stay sent.** -/
theorem woken_invariant (peer : Peer) (config : Config) (n : Nat) :
    Pairing.Invariant peer config (Woken config n) :=
  (woken_pliant config n).invariant (fun _ _ _ h => h) fun code depth w h => by
    obtain ⟨sent, -⟩ := after_finish (.within peer config depth) w code
    unfold Woken World.wakes at h ⊢
    rw [sent]
    exact h

/-! ## What wakes the target -/

section Waking

variable {peer : Peer} {config : Config} {n : Nat} {w : World}

/-- What follows a step keeps what holds after it. -/
theorem Act.Keeps.after_bind {α β : Type} {I : World → Prop} {link : Link} {act : Act α}
    {next : α → Act β} (h : I (act.after link w)) (later : ∀ value, (next value).Keeps I link) :
    I ((act >>= next).after link w) := by
  rw [Act.after_bind]
  cases ha : act link w with
  | ok value v => rw [after_of_ok ha] at h; exact later value v h
  | error halt v => rw [after_of_error ha] at h; exact h

theorem woken_submit {command : String} (hc : .submit command ∈ config.wakes)
    (hw : n ≤ (w.wakes config).length) (depth : Nat) :
    Woken config n ((submit command).after (.within peer config depth) w) := by
  have sent : Woken config n (w.submitting command) := by
    unfold Woken
    rw [World.wakes_submitting hc, List.length_cons]
    omega
  unfold after
  rw [submit_apply]
  cases (Link.within peer config depth).peer.accept w.sent command with
  | error cause => exact sent
  | ok _ =>
    exact ((woken_invariant peer config n).nested depth).keeps_react (woken_pliant config n).note _
      _ _ sent

/-- **Resuming wakes the target**, unless it is barred. -/
theorem woken_resume (free : w.session.breakAll.isFree) (hw : n ≤ (w.wakes config).length)
    (depth : Nat) : Woken config n (resume.after (.within peer config depth) w) := by
  rw [after_congr (resume_free free), Link.within_config]
  refine Keeps.after_bind (I := Woken config n) ?_ fun sent =>
    .bind ((woken_pliant config n).update fun _ => rfl) fun _ =>
      .bind ((woken_pliant config n).update fun _ => rfl) fun _ => .settle sent
  rw [after_attempt]
  refine woken_submit config.continueCommand_mem_wakes ?_ depth
  exact hw

/-- **An interrupt wakes the target** if it runs. -/
theorem woken_interrupt (running : w.session.phase = .running ∧ w.session.runMode)
    (free : w.session.breakAll.isFree) (hw : n ≤ (w.wakes config).length) (depth : Nat) :
    Woken config n (interrupt.after (.within peer config depth) w) := by
  rw [after_congr (interrupt_free running free)]
  refine Keeps.after_bind (I := Woken config n) ?_ fun outcome =>
    .bind ((woken_pliant config n).update fun _ => rfl) fun _ => .settle outcome
  rw [after_attempt]
  refine Keeps.after_bind (I := Woken config n) ?_ fun _ => .awaitInterrupt
  refine woken_submit config.interrupt_mem_wakes ?_ depth
  exact hw

end Waking

/-- No operation takes back what was sent. -/
theorem Operation.suffix_sent (peer : Peer) (config : Config) (depth : Nat) (op : Operation)
    (w : World) : w.sent <:+ (op.act.after (.within peer config depth) w).sent := by
  have kept : Pairing.Pliant fun v => w.sent <:+ v.sent :=
    { session := fun _ _ h => h
      rebind := fun _ _ h => h
      note := fun _ _ _ h => h
      send := fun call _ h => h.trans (List.suffix_cons call _) }
  have ends : ∀ code depth, (Act.finish code).Keeps (fun v => w.sent <:+ v.sent)
      (.within peer config depth) := by
    intro code depth v h
    rw [(after_finish (.within peer config depth) v code).1]
    exact h
  exact (kept.invariant (fun _ _ _ h => h) ends).operation depth op w (List.suffix_refl _)

/-- No operation takes back what has happened. -/
theorem Operation.suffix_events (peer : Peer) (config : Config) (depth : Nat) (op : Operation)
    (w : World) : w.events <:+ (op.act.after (.within peer config depth) w).events := by
  have kept : Pairing.Pliant fun v => w.events <:+ v.events :=
    { session := fun _ _ h => h
      rebind := fun _ _ h => h
      note := fun e _ _ h => h.trans (List.suffix_cons e _)
      send := fun _ _ h => h }
  have ends : ∀ code depth, (Act.finish code).Keeps (fun v => w.events <:+ v.events)
      (.within peer config depth) := by
    intro code depth v h
    cases alive : v.session.alive with
    | false =>
      rw [Act.after_of_ok (Act.finish_dead alive code)]
      exact h
    | true =>
      obtain ⟨notes, -, e⟩ := Act.finish_alive (.within peer config depth) alive code
      rw [Act.after_of_ok e]
      refine h.trans (List.IsSuffix.trans ?_ (List.suffix_append notes _))
      exact (List.suffix_cons _ _).trans ((List.suffix_cons _ _).trans (List.suffix_cons _ _))
  exact (kept.invariant (fun _ _ _ h => h.trans (List.suffix_cons _ _)) ends).operation depth op w
    (List.suffix_refl _)

end DebugLink
