import DebugLink.Proofs.EditContract
import DebugLink.Proofs.Notice

/-!
# Steps that spare a target

An edit may find a target that it has no reason to interrupt. A step spares such a target when it
interrupts it after all or leaves it alone: it resumes nothing and does not touch what the target is
said to be doing. This is stated as a contract with a way out, because whoever interrupted a target
may also resume it.

* `Spares.bind`, `Spares.attempt`, `Spares.holding`: sparing goes through the ways in which steps
  are put together.
* `Spares.isRunning`: a pause of a target that runs is an interrupt, and everything may follow it.
* `spares_setPassCount`, `spares_setCondition`: which edits of policies spare a target.
-/

namespace DebugLink

open Act Breakpoint Pairing

/-- **A world like a given one** as far as the target goes: nothing interrupted or resumed it, and
nothing is to resume it. -/
structure World.Spared (c : Config) (w v : World) : Prop where
  wakes : v.wakes c = w.wakes c
  phase : v.session.phase = w.session.phase
  alive : v.session.alive = w.session.alive
  cleared : v.session.needsResume = false
  free : v.session.breakAll.isFree = true

/-- The engine takes the target to be under way. -/
def Session.UnderWay (s : Session) : Prop := s.phase = .running ∨ s.phase = .stepping

/-- The target was interrupted since a given world. -/
def World.InterruptedSince (c : Config) (w v : World) : Prop := w.interrupts c < v.interrupts c

theorem World.InterruptedSince.congr {c : Config} {w v u : World} (h : w.InterruptedSince c v)
    (same : u.interrupts c = v.interrupts c) : w.InterruptedSince c u := by
  unfold InterruptedSince
  rw [same]
  exact h

theorem World.interrupts_of_sent {c : Config} {u v : World} (h : u.sent = v.sent) :
    u.interrupts c = v.interrupts c := by
  unfold interrupts wakes
  rw [h]

/-- A calm step leaves a spared target spared. -/
theorem Calm.spared {c : Config} {w v u : World} (h : Calm c v u) (hv : w.Spared c v) :
    w.Spared c u where
  wakes := h.wakes.trans hv.wakes
  phase := h.phase.trans hv.phase
  alive := by
    rw [h.session]
    exact hv.alive
  cleared := h.needsResume.trans hv.cleared
  free := by
    rw [h.breakAll]
    exact hv.free

/-- That the target was interrupted says nothing about the session. -/
theorem interrupted_pliant (c : Config) (w : World) : Pliant (w.InterruptedSince c) where
  session _ _ h := h
  rebind _ _ h := h
  note _ _ _ h := h
  send call _ h := Nat.lt_of_lt_of_le h (((List.sublist_cons_self call _).filter _).count_le _)

/-- **An interrupt that was sent stays sent.** -/
theorem interrupted_invariant (peer : Peer) (config : Config) (w : World) :
    Invariant peer config (w.InterruptedSince config) :=
  (interrupted_pliant config w).invariant (fun _ _ _ h => h) fun code depth _ h =>
    h.congr (World.interrupts_of_sent (after_finish (.within peer config depth) _ code).1)

/-! ## Sparing -/

/-- How a step ends that interrupted nothing: with a value, or short of one with the target
spared. -/
def EndsSpared {α : Type} (c : Config) (w : World) (Q : α → World → Prop) :
    EStateM.Result Halt World α → Prop
  | .ok a u => Q a u
  | .error _ u => w.Spared c u

/-- **A step spares a target.** From a world with the first property it interrupts the target, or
gives a value with the second one, or stops short with the target spared. What was interrupted
before stays so. -/
structure Spares {α : Type} (c : Config) (link : Link) (w : World) (P : World → Prop) (act : Act α)
    (Q : α → World → Prop) : Prop where
  further : act.Keeps (w.InterruptedSince c) link
  spared : ∀ v, P v → w.InterruptedSince c (act.after link v) ∨ EndsSpared c w Q (act link v)

namespace Spares

variable {α β : Type} {c : Config} {link : Link} {w : World} {P P' : World → Prop}
  {Q Q' : α → World → Prop}

theorem pure {a : α} (h : ∀ v, P v → Q a v) : Spares c link w P (Pure.pure a) Q :=
  ⟨.pure a, fun v hv => .inr (h v hv)⟩

theorem halt {e : Halt} (h : ∀ v, P v → w.Spared c v) : Spares c link w P (throw e : Act α) Q :=
  ⟨.halt e, fun v hv => .inr (h v hv)⟩

/-- Where the first part interrupts the target, the second only has to go on from an interrupted
one. -/
theorem bind {act : Act α} {next : α → Act β} {R : β → World → Prop}
    (first : Spares c link w P act Q) (second : ∀ a, Spares c link w (Q a) (next a) R) :
    Spares c link w P (act >>= next) R := by
  refine ⟨first.further.bind fun a => (second a).further, fun v hv => ?_⟩
  rcases first.spared v hv with more | ends
  · exact .inl (Keeps.after_bind more fun a => (second a).further)
  · rw [after_bind, bind_apply]
    cases e : act link v with
    | ok a u => rw [e] at ends; exact (second a).spared u ends
    | error halt u => rw [e] at ends; exact .inr ends

/-- What is known before may be more than is needed, and what is needed after less than is known. -/
theorem imp {act : Act α} (h : Spares c link w P act Q) (pre : ∀ v, P' v → P v)
    (post : ∀ a v, Q a v → Q' a v) : Spares c link w P' act Q' := by
  refine ⟨h.further, fun v hv => (h.spared v (pre v hv)).imp id fun ends => ?_⟩
  cases e : act link v with
  | ok a u => rw [e] at ends; exact post a u ends
  | error halt u => rw [e] at ends; exact ends

/-- Sparing from fewer worlds. -/
theorem pre {act : Act α} (h : Spares c link w P act Q) (k : ∀ v, P' v → P v) :
    Spares c link w P' act Q := h.imp k fun _ _ hv => hv

/-- A failure that is caught leaves the target spared like the act that failed. -/
theorem attempt {act : Act α} (h : Spares c link w P act Q) :
    Spares c link w P (Act.attempt act) (Contract.Outcome Q (w.Spared c)) := by
  refine ⟨h.further.attempt, fun v hv => ?_⟩
  rw [after_attempt, attempt_apply]
  refine (h.spared v hv).imp id fun ends => ?_
  cases e : act link v with
  | ok a u => rw [e] at ends; exact ends
  | error halt u => rw [e] at ends; cases halt <;> exact ends

theorem settle (outcome : Except Failure α) :
    Spares c link w (Contract.Outcome Q (w.Spared c) outcome) (Act.settle outcome) Q := by
  refine ⟨.settle outcome, fun v hv => .inr ?_⟩
  cases outcome <;> exact hv

theorem discard {act : Act α} {R : World → Prop} (h : Spares c link w P act fun _ => R) :
    Spares c link w P (Functor.discard act) fun _ => R := by
  rw [discard_eq_bind]
  exact h.bind fun _ => .pure fun _ hv => hv

theorem look {next : Session → Act α} (each : ∀ s, Spares c link w P (next s) Q) :
    Spares c link w P (session >>= next) Q :=
  ⟨.look fun s => (each s).further, fun v hv => (each v.session).spared v hv⟩

theorem read {next : Link → Act α} (each : Spares c link w P (next link) Q) :
    Spares c link w P (read >>= next) Q := ⟨.read each.further, each.spared⟩

/-- A step that changes neither what was sent nor, unless it stops short, what spares a target. -/
theorem modify {f : World → World} {R : World → Prop} (sent : ∀ v, (f v).sent = v.sent)
    (h : ∀ v, P v → R (f v)) : Spares c link w P (modify f : Act PUnit) fun _ => R :=
  ⟨fun v hv => hv.congr (World.interrupts_of_sent (sent v)), fun v hv => .inr (h v hv)⟩

/-- Looking up a bound breakpoint changes nothing. -/
theorem bound (i : Nat) (safe : ∀ v, P v → w.Spared c v) :
    Spares c link w P (Act.bound i) fun b v => P v ∧ v.bound[i]? = some b := by
  unfold Act.bound
  refine ⟨.get fun v => ?_, fun v hv => .inr ?_⟩
  · split
    · exact .pure _
    · exact .halt _
  · rw [get_apply]
    cases e : v.bound[i]? with
    | none => exact safe v hv
    | some b => exact ⟨hv, e⟩

/-- A step while something is held that says nothing about the target. -/
theorem holding {take : World → Option World} {give : World → World} {act : Act α}
    (h : Spares c link w P act Q) (safe : ∀ v, P v → w.Spared c v)
    (taken : ∀ v u, take v = some u → u.sent = v.sent ∧ (P v → P u))
    (given : ∀ v, (give v).sent = v.sent) (value : ∀ a v, Q a v → Q a (give v))
    (short : ∀ v, w.Spared c v → w.Spared c (give v)) :
    Spares c link w P (Act.holding take give act) Q := by
  -- giving back sends nothing, so an interrupt during the step is one after it
  have kept : ∀ {v u}, take v = some u → w.InterruptedSince c (act.after link u) →
      w.InterruptedSince c ((Act.holding take give act).after link v) := by
    intro v u e more
    have either : (Act.holding take give act).after link v = act.after link u ∨
        (Act.holding take give act).after link v = give (act.after link u) := after_holding e
    rcases either with h | h <;> rw [h]
    · exact more
    · exact more.congr (World.interrupts_of_sent (given _))
  constructor
  · intro v hv
    cases e : take v with
    | none =>
      unfold after Act.holding
      rw [e]
      exact hv
    | some u =>
      have sent := World.interrupts_of_sent (c := c) (taken v u e).1
      exact kept e (h.further u (hv.congr sent))
  · intro v hv
    cases e : take v with
    | none =>
      right
      unfold Act.holding
      rw [e]
      exact safe v hv
    | some u =>
      refine (h.spared u ((taken v u e).2 hv)).imp (kept e) fun ends => ?_
      unfold Act.holding
      rw [e]
      dsimp only
      cases ea : act link u with
      | ok a x => rw [ea] at ends; exact value a x ends
      | error halt x =>
        rw [ea] at ends
        cases halt with
        -- whoever is stuck keeps what it holds
        | blocked => exact ends
        | _ => exact short x ends

/-- The gate of the region is no part of what is spared. -/
theorem inRegion {act : Act α} (h : Spares c link w P act Q) (safe : ∀ v, P v → w.Spared c v)
    (pre : Loose P) (value : ∀ a, Loose (Q a)) : Spares c link w P (Act.inRegion act) Q := by
  refine h.holding safe ?_ (fun _ => rfl) (fun a v => (value a).critical _ v) ?_
  · intro v u e
    obtain ⟨permit, -, rfl⟩ := Option.map_eq_some_iff.1 e
    exact ⟨rfl, pre.critical permit v⟩
  · exact fun v hv => ⟨hv.wakes, hv.phase, hv.alive, hv.cleared, hv.free⟩

/-- Nor are the gates of a breakpoint. -/
theorem withGates {i : Nat} {gates : Gates} {act : Act α} (h : Spares c link w P act Q)
    (safe : ∀ v, P v → w.Spared c v)
    (pre : ∀ v b, v.bound[i]? = some b → P v →
      P { v with bound := v.bound.set i { b with held := b.held.union gates } })
    (value : ∀ a, Loose (Q a)) : Spares c link w P (Act.withGates i gates act) Q := by
  refine h.holding safe ?_ (fun _ => rfl) (fun a v => (value a).rebind _ v) ?_
  · intro v u e
    obtain ⟨b, now, found, took, rfl⟩ := of_takeGates e
    rw [(Gates.held_tryTake took).1]
    exact ⟨rfl, pre v b found⟩
  · exact fun v hv => ⟨hv.wakes, hv.phase, hv.alive, hv.cleared, hv.free⟩

/-- What does not depend on the world is not changed by a step. -/
theorem frame {act : Act α} (h : Spares c link w P act Q) (p : Prop) :
    Spares c link w (fun v => p ∧ P v) act fun a v => p ∧ Q a v := by
  refine ⟨h.further, fun v hv => (h.spared v hv.2).imp id fun ends => ?_⟩
  cases e : act link v with
  | ok a u => rw [e] at ends; exact ⟨hv.1, ends⟩
  | error halt u => rw [e] at ends; exact ends

/-- How a step leaves a target that it spares. -/
theorem leaves {act : Act α} (h : Spares c link w P act fun _ => w.Spared c) {v : World}
    (hv : P v) : w.InterruptedSince c (act.after link v) ∨ w.Spared c (act.after link v) := by
  refine (h.spared v hv).imp id fun ends => ?_
  unfold Act.after
  cases e : act link v with
  | ok a u => rw [e] at ends; exact ends
  | error halt u => rw [e] at ends; exact ends

/-- **A gentle step** spares a target. -/
theorem gentle {act : Act α} (h : Gentle c link act) :
    Spares c link w (w.Spared c) act fun _ => w.Spared c := by
  refine ⟨fun v hv => hv.congr (h.calm v).interrupts, fun v hv => .inr ?_⟩
  have calm := (h.calm v).spared hv
  unfold after at calm
  cases e : act link v with
  | ok a u => rw [e] at calm; exact calm
  | error halt u => rw [e] at calm; exact calm

end Spares

theorem loose_spared (c : Config) (w : World) : Loose (w.Spared c) where
  rebind _ _ h := ⟨h.wakes, h.phase, h.alive, h.cleared, h.free⟩
  critical _ _ h := ⟨h.wakes, h.phase, h.alive, h.cleared, h.free⟩
  conditionUpdate _ _ h := ⟨h.wakes, h.phase, h.alive, h.cleared, h.free⟩

theorem spares_updateBound {c : Config} {link : Link} {w : World} (i : Nat) (f : Bound → Bound) :
    Spares c link w (w.Spared c) (updateBound i f) fun _ => w.Spared c :=
  .modify (fun _ => rfl) fun v => (loose_spared c w).rebind _ v

/-! ## Edits -/

section Edits

variable {peer : Peer} {config : Config} {depth : Nat} {w : World}

/-- All of which edits are made keeps an interrupt that was sent. -/
theorem interrupted_basis (peer : Peer) (config : Config) (depth : Nat) (w : World) :
    (diag (.within peer config depth) (w.InterruptedSince config)).EditBasis :=
  let invariant := interrupted_invariant peer config w
  invariant.edits depth (invariant.nested depth)

/-- **A pause of a target that runs** interrupts it, whatever follows. -/
theorem Spares.isRunning {α : Type} {P : World → Prop} {Q : α → World → Prop}
    {next : Bool → Unit → Act α} {other : Bool → Act α} (safe : ∀ v, P v → w.Spared config v)
    (later : ∀ u, (next true u).Keeps (w.InterruptedSince config) (.within peer config depth))
    (idle : Spares config (.within peer config depth) w P (other false) Q) :
    Spares config (.within peer config depth) w P
      (Act.isRunning >>= fun r => if r then pauseForEdit >>= next r else other r) Q := by
  have pauses : pauseForEdit.Keeps (w.InterruptedSince config) (.within peer config depth) :=
    lockstep_diag_iff.1 (interrupted_basis peer config depth w).pauseForEdit
  constructor
  · intro v hv
    by_cases runs : v.Runs
    · rw [after_congr (isRunning_bind_of_running runs)]
      exact pauses.bind later v hv
    · rw [after_congr (isRunning_bind_of_idle runs)]
      exact idle.further v hv
  · intro v hv
    by_cases runs : v.Runs
    · left
      have spared := safe v hv
      have paused :
          w.InterruptedSince config (pauseForEdit.after (.within peer config depth) v) := by
        unfold World.InterruptedSince World.interrupts
        rw [pause_wakes runs spared.free, spared.wakes, List.count_cons_self]
        exact Nat.lt_succ_self _
      rw [after_congr (isRunning_bind_of_running runs)]
      exact Keeps.after_bind paused later
    · rw [after_congr (isRunning_bind_of_idle runs), isRunning_bind_of_idle runs]
      exact idle.spared v hv

/-- Where nothing was interrupted, nothing is resumed. -/
theorem spares_resumeAfterEdit :
    Spares config (.within peer config depth) w (w.Spared config) resumeAfterEdit
      fun _ => w.Spared config := by
  refine ⟨lockstep_diag_iff.1 (interrupted_basis peer config depth w).resumeAfterEdit,
    fun v hv => .inr ?_⟩
  have done : resumeAfterEdit (.within peer config depth) v = .ok () (v.flagged false) := by
    rw [resumeAfterEdit_apply, hv.cleared]
    rfl
  rw [done]
  exact ⟨hv.wakes, hv.phase, hv.alive, rfl, hv.free⟩

/-- A target that is not under way is not paused. -/
theorem spares_pauseForEdit (idle : ¬w.session.UnderWay) :
    Spares config (.within peer config depth) w (w.Spared config) pauseForEdit
      fun _ => w.Spared config := by
  refine ⟨lockstep_diag_iff.1 (interrupted_basis peer config depth w).pauseForEdit,
    fun v hv => .inr ?_⟩
  have done : pauseForEdit (.within peer config depth) v = .ok () v := by
    have phase := hv.phase
    unfold pauseForEdit
    rw [look_apply]
    cases e : v.session.phase with
    | design => rfl
    | stopped => rfl
    | running => exact absurd (.inl (phase.symm.trans e)) idle
    | stepping => exact absurd (.inr (phase.symm.trans e)) idle
  rw [done]
  exact hv

/-- A pause of a target that is not under way spares it. -/
theorem spares_whilePaused {α : Type} {body : Act α} (idle : ¬w.session.UnderWay)
    (gentle : Gentle config (.within peer config depth) body) :
    Spares config (.within peer config depth) w (w.Spared config) (whilePaused body)
      fun _ => w.Spared config := by
  refine (spares_pauseForEdit idle).bind fun _ => (Spares.gentle gentle).attempt.bind
    fun outcome => ?_
  -- a work that failed spared the target as well
  have either : ∀ v, Contract.Outcome (fun _ => w.Spared config) (w.Spared config) outcome v ↔
      w.Spared config v := by
    intro v
    cases outcome <;> exact Iff.rfl
  exact (spares_resumeAfterEdit.pre fun v => (either v).1).bind fun _ =>
    (Spares.settle outcome).pre fun v => (either v).2

section Attentive

variable (attentive : peer.Attentive) (config depth w)

include attentive

/-- An insertion spares a target that is not under way, and does nothing in an ended session. -/
theorem spares_insert (left : w.session.alive = true → ¬w.session.UnderWay)
    (location : Location) :
    Spares config (.within peer config depth) w (w.Spared config) (insert location)
      fun _ => w.Spared config := by
  have further := lockstep_diag_iff.1 ((interrupted_basis peer config depth w).insert location)
  cases alive : w.session.alive with
  | false =>
    refine ⟨further, fun v hv => .inr ?_⟩
    rw [insert_dead (hv.alive.trans alive)]
    exact hv
  | true =>
    have inserted := fun command fallback => spares_whilePaused (left alive)
      ((gentle_modest (attentive.within config depth) config).requestInsert command fallback)
    unfold Act.insert
    refine .look fun s => ?_
    split
    · exact .pure fun _ hv => hv
    · refine .read ?_
      cases location with
      | line file fullPath line => exact inserted _ _
      | function name => exact inserted _ _

/-- An edit that pauses spares the target unless it finds it under way. -/
theorem spares_pausedEdit {e : PausedEdit} (left : e.Pauses w → ¬w.session.UnderWay) :
    Spares config (.within peer config depth) w (w.Spared config) e.act
      fun _ => w.Spared config := by
  have further : e.act.Keeps (w.InterruptedSince config) (.within peer config depth) := by
    have b := interrupted_basis peer config depth w
    cases e with
    | insert location => exact lockstep_diag_iff.1 (b.insert location).discard
    | delete id => exact lockstep_diag_iff.1 (b.delete id).discard
    | enable id enabled => exact lockstep_diag_iff.1 (b.enable id enabled).discard
  refine ⟨further, fun v hv => ?_⟩
  have same : e.Pauses v ↔ e.Pauses w := by
    cases e with
    | enable id enabled => exact Iff.rfl
    | _ =>
      unfold PausedEdit.Pauses
      rw [hv.alive]
  by_cases pauses : e.Pauses v
  · obtain ⟨α, body, gentle, eq⟩ :=
      PausedEdit.act_paused (attentive.within config depth) pauses config
    have spares := (spares_whilePaused (left (same.1 pauses)) gentle).bind
      (R := fun _ => w.Spared config) fun _ => .pure (a := ()) fun _ hv => hv
    rw [after_congr eq, eq]
    exact spares.spared v hv
  · rw [PausedEdit.act_over pauses]
    exact .inr hv

/-- Choosing the hit to stop at asks one thing of the peer. -/
theorem spares_stopAtHit (id : Nat) (n : Int) :
    Spares config (.within peer config depth) w (w.Spared config) (stopAtHit id n)
      fun _ => w.Spared config := by
  have asked : Spares config (.within peer config depth) w (w.Spared config)
      (requestNotice (breakAfter id (ignoreCountFor n))) fun _ => w.Spared config :=
    .gentle <| (gentle_modest (attentive.within config depth) config).requestNotice "-break-after"
      (by decide) _ (toList_breakAfter id _)
  unfold stopAtHit
  split
  · exact (Spares.halt fun _ hv => hv).bind fun _ => asked
  · exact asked

end Attentive

end Edits

end DebugLink
