import DebugLink.Proofs.Pause

/-!
# The flag to resume the target

Before an edit interrupts the target it sets a flag to resume it again. What is delivered while the
stop is awaited leaves the flag alone, unless gdb reports that the hit count of a breakpoint is
zero: the session then creates the breakpoint anew, which is an edit of its own.

* `Peer.Counting`: a peer that reports no such hit count.
* `flag_deliver`: a delivery leaves the flag alone.
* `flag_awaitStop`: so does waiting for the stop.
-/

namespace DebugLink

open Act Breakpoint Pairing

/-- Whether a record says that the hit count of a breakpoint is zero. -/
def setsBack (record : String) : Bool :=
  match Notice.read record with
  | .ok (.modified s) => s.hits == 0
  | _ => false

/-- **A peer that counts on**: while an interrupt is awaited it sets no hit count back. -/
def Peer.Counting (p : Peer) : Prop :=
  ∀ past, ∀ delivery ∈ p.reactions past interruptCall, ∀ record ∈ recordsOf delivery,
    setsBack record = false

/-- The target is to be resumed after an edit. -/
def World.Flagged (w : World) : Prop := w.session.needsResume = true

variable {peer : Peer} {config : Config}

/-- What the handling of records is made of leaves the flag alone. -/
theorem flag_steady : Steady World.Flagged where
  change c _ w h := (c.apply_needsResume w.session).trans h
  rebind _ _ h := h
  note _ _ _ h := h
  request _ _ h := h

/-- A gentle step leaves the flag alone. -/
theorem Gentle.keeps_flag {α : Type} {c : Config} {link : Link} {act : Act α}
    (gentle : Gentle c link act) : act.Keeps World.Flagged link :=
  fun w h => (gentle.calm w).needsResume.trans h

section Attentive

variable (attentive : peer.Attentive)

include attentive

/-- Letting the next hits pass leaves the flag alone. -/
theorem flag_stopAtHit (depth id : Nat) (n : Int) :
    (stopAtHit id n).Keeps World.Flagged (.within peer config depth) := by
  have asked : (requestNotice (breakAfter id (ignoreCountFor n))).Keeps World.Flagged
      (.within peer config depth) :=
    ((gentle_modest (attentive.within config depth) config).requestNotice "-break-after"
      (by decide) _ (toList_breakAfter id _)).keeps_flag
  unfold stopAtHit
  split
  · exact .bind (.halt _) fun _ => asked
  · exact asked

/-- The steps of which the handling of records is made leave the flag alone, if a hit does. -/
theorem flag_telling (depth : Nat)
    (hit : ∀ id file line thread, Keeps World.Flagged (.within peer config depth)
      (fun link => link.hit id file line thread : Act Unit)) :
    (diag (.within peer config depth) World.Flagged).Telling := by
  have noted : ∀ call, (tell call).Keeps World.Flagged (.within peer config depth) :=
    fun _ _ hw => hw
  refine ⟨⟨flag_steady.ground ?_ ?_ ?_ hit, fun _ _ _ => lockstep_diag_iff.2 (noted _),
      fun _ _ => lockstep_diag_iff.2 (noted _)⟩,
    lockstep_diag_iff.2 (noted _), fun _ => lockstep_diag_iff.2 fun _ hw => hw⟩
  · -- only an interrupt is reacted to
    intro past command w hw
    have other : Call.request command ≠ interruptCall := by simp [interruptCall]
    rw [after_congr (congrFun (react_attentive (attentive.within config depth) past other) w)]
    exact hw
  · intro w hw
    cases free : w.session.breakAll.isFree with
    | false => rw [after_of_ok (resume_barred free)]; exact hw
    | true =>
      rw [after_congr (resume_attentive (attentive.within config depth) free), after_settle]
      exact hw
  · intro code w hw
    obtain ⟨-, -, session⟩ := after_finish (.within peer config depth) w code
    unfold World.Flagged
    rw [session]
    split <;> exact hw

/-- **A hit** leaves the flag alone. -/
theorem flag_hit (depth id : Nat) (file : String) (line thread : Nat) :
    Keeps World.Flagged (.within peer config depth)
      (fun link => link.hit id file line thread : Act Unit) := by
  -- a hit is handled one level deeper, where a hit leaves the flag alone by induction
  induction depth generalizing id file line thread with
  | zero => exact fun w hw => hw
  | succ depth ih =>
    have handled :
        (handleHit id file line thread).Keeps World.Flagged (.within peer config depth) :=
      lockstep_diag_iff.1 <| (flag_telling attentive depth ih).handleHit
        (fun id n => lockstep_diag_iff.2 (flag_stopAtHit attentive depth id n)) id file line thread
    exact fun w hw => handled w hw

/-- A hit count above zero leaves the flag alone. -/
theorem flag_recount (depth id : Nat) {hits : Nat} (h : hits ≠ 0) :
    Keeps World.Flagged (.within peer config depth)
      (fun link => link.recount id hits : Act Unit) := by
  cases depth with
  | zero => exact fun w hw => hw
  | succ depth =>
    have b : (diag (.within peer config depth) World.Flagged).Ground :=
      (flag_telling attentive depth (flag_hit attentive depth)).toGround
    have counted : (updateHitCount id hits).Keeps World.Flagged (.within peer config depth) := by
      unfold updateHitCount
      refine .bind (lockstep_diag_iff.1 (b.findBound? id)) fun place => ?_
      split
      · refine .bind (lockstep_diag_iff.1 (b.boundAt _)) fun x => ?_
        split
        · unfold setHitCount
          refine .bind (lockstep_diag_iff.1 (b.boundAt _)) fun y =>
            .bind (lockstep_diag_iff.1 (b.updateBound _ _)) fun _ => ?_
          -- only a count of zero has the breakpoint created anew
          rw [if_neg (by simp [h])]
          exact .pure _
        · exact .pure _
      · exact .pure _
    exact fun w hw => counted w hw

variable (counting : peer.Counting)

include counting

/-- **A delivery while an interrupt is awaited** leaves the flag alone. -/
theorem flag_deliver (depth : Nat) {past : List Call} {delivery : String}
    (h : delivery ∈ peer.reactions past interruptCall) :
    Keeps World.Flagged (.within peer config depth)
      (fun link => link.deliver delivery : Act Unit) := by
  cases depth with
  | zero => exact fun w hw => hw
  | succ depth =>
    have b : (diag (.within peer config depth) World.Flagged).Basis :=
      (flag_telling attentive depth (flag_hit attentive depth)).basis
    have counts : ∀ record ∈ recordsOf delivery, ∀ s : Snapshot,
        Notice.read record = .ok (.modified s) → s.hits ≠ 0 := by
      intro record hr s e
      have back := counting past delivery h record hr
      unfold setsBack at back
      rw [e] at back
      simpa using back
    have handled : (deliver delivery).Keeps World.Flagged (.within peer config depth) :=
      lockstep_diag_iff.1 <| b.deliver fun record hr => b.handleBreakpoint fun s e =>
        lockstep_diag_iff.2 (flag_recount attentive depth s.id (counts record hr s e))
    exact fun w hw => handled w hw

/-- **Waiting for the stop of an edit** leaves the flag alone. -/
theorem flag_awaitStop (config : Config) (depth : Nat) :
    awaitStop.Keeps World.Flagged (.within peer config depth) := by
  have arrived : ∀ past, (react past interruptCall).Keeps World.Flagged
      (.within peer config depth) := by
    intro past
    refine .read (.forM fun delivery h => .bind (fun w hw => hw) fun _ => ?_)
    rw [Link.within_peer] at h
    exact flag_deliver attentive counting depth h
  exact .bind (keeps_submit flag_steady.note (fun _ h => h) arrived)
    fun _ => .awaitInterrupt

/-- A pause that is over has left the flag set. -/
theorem flag_pause (config : Config) (depth : Nat) {w : World} (runs : w.Runs)
    (free : w.session.breakAll.isFree = true) :
    (pauseForEdit.after (.within peer config depth) w).Flagged := by
  have awaited := flag_awaitStop attentive counting config depth w.pausing rfl
  unfold after at awaited ⊢
  rw [pauseForEdit_apply runs free]
  cases h : awaitStop (.within peer config depth) w.pausing with
  | ok _ u => rw [h] at awaited; exact awaited
  | error halt u => rw [h] at awaited; cases halt <;> exact awaited

end Attentive

end DebugLink
