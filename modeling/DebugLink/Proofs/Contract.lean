import DebugLink.Proofs.Pause

/-!
# Contracts of steps that can fail

A contract says what holds after a step that gives a value and what holds after one that fails. A
step that stops for good, because it waits for what its own caller holds or because an assertion
fails, promises nothing.

* `Contract.bind`, `Contract.attempt`, `Contract.settle`: contracts go through the ways in which
  steps are put together.
* `Gentle.contract`: a gentle step keeps what calm changes keep.
* `Contract.inRegion`, `Contract.withGates`: what is held meanwhile does not matter to a predicate
  that says nothing of it.
-/

namespace DebugLink.Act

open Breakpoint

/-- How a step may end: with a value, with a failure, or for good. -/
def Ends {α : Type} (Q : α → World → Prop) (F : World → Prop) :
    EStateM.Result Halt World α → Prop
  | .ok a v => Q a v
  | .error (.failed _) v => F v
  | .error _ _ => True

/-- **A contract.** From a world with the first property a step gives a value with the second one or
fails with the third one, if it ends. -/
def Contract {α : Type} (link : Link) (P : World → Prop) (act : Act α) (Q : α → World → Prop)
    (F : World → Prop) : Prop :=
  ∀ w, P w → Ends Q F (act link w)

/-- **A loose predicate** says nothing of the bound breakpoints, of the critical region and of
conditions that are being changed. -/
structure Loose (P : World → Prop) : Prop where
  rebind : ∀ bounds w, P w → P { w with bound := bounds }
  critical : ∀ permit w, P w → P { w with session := { w.session with critical := permit } }
  conditionUpdate : ∀ permit w, P w →
    P { w with session := { w.session with conditionUpdate := permit } }

/-- **A predicate says nothing of what is held**: of gates, of the critical region and of conditions
that are being changed. -/
structure Unheld (P : World → Prop) : Prop where
  gates : ∀ i (f : Gates → Gates) w, P w →
    P { w with bound := w.bound.modify i fun b => { b with held := f b.held } }
  critical : ∀ permit w, P w → P { w with session := { w.session with critical := permit } }
  conditionUpdate : ∀ permit w, P w →
    P { w with session := { w.session with conditionUpdate := permit } }

theorem Loose.unheld {P : World → Prop} (h : Loose P) : Unheld P where
  gates _ _ w := h.rebind _ w
  critical := h.critical
  conditionUpdate := h.conditionUpdate

theorem Unheld.of_and {p : Prop} {P : World → Prop} (h : Unheld P) : Unheld fun w => p ∧ P w where
  gates i f w := And.imp_right (h.gates i f w)
  critical permit w := And.imp_right (h.critical permit w)
  conditionUpdate permit w := And.imp_right (h.conditionUpdate permit w)

theorem Unheld.of_exists {ι : Type} {P : ι → World → Prop} (h : ∀ x, Unheld (P x)) :
    Unheld fun w => ∃ x, P x w where
  gates i f w := Exists.imp fun x => (h x).gates i f w
  critical permit w := Exists.imp fun x => (h x).critical permit w
  conditionUpdate permit w := Exists.imp fun x => (h x).conditionUpdate permit w

/-- **A lasting predicate** is kept by calm changes. -/
def Lasting (c : Config) (P : World → Prop) : Prop := ∀ v u, Calm c v u → P v → P u

theorem Loose.and {P Q : World → Prop} (h : Loose P) (k : Loose Q) : Loose fun w => P w ∧ Q w where
  rebind b w := And.imp (h.rebind b w) (k.rebind b w)
  critical p w := And.imp (h.critical p w) (k.critical p w)
  conditionUpdate p w := And.imp (h.conditionUpdate p w) (k.conditionUpdate p w)

theorem Loose.or {P Q : World → Prop} (h : Loose P) (k : Loose Q) : Loose fun w => P w ∨ Q w where
  rebind b w := Or.imp (h.rebind b w) (k.rebind b w)
  critical p w := Or.imp (h.critical p w) (k.critical p w)
  conditionUpdate p w := Or.imp (h.conditionUpdate p w) (k.conditionUpdate p w)

namespace Contract

variable {α β : Type} {link : Link} {P P' F F' : World → Prop} {Q Q' : α → World → Prop}

theorem pure {a : α} (h : ∀ w, P w → Q a w) : Contract link P (Pure.pure a) Q F := h

theorem assertion : Contract link P (throw .assertion : Act α) Q F := fun _ _ => trivial

/-- What the first part ensures is what the second needs; a failure of either is the whole's. -/
theorem bind {act : Act α} {next : α → Act β} {R : β → World → Prop}
    (first : Contract link P act Q F) (second : ∀ a, Contract link (Q a) (next a) R F) :
    Contract link P (act >>= next) R F := by
  intro w hw
  have h := first w hw
  rw [bind_apply]
  cases ha : act link w with
  | ok a u => rw [ha] at h; exact second a u h
  | error halt u => rw [ha] at h; cases halt <;> exact h

/-- A contract may ask for more, ensure less and admit more failures. -/
theorem imp {act : Act α} (h : Contract link P act Q F) (pre : ∀ w, P' w → P w)
    (value : ∀ a w, Q a w → Q' a w) (failure : ∀ w, F w → F' w) : Contract link P' act Q' F' := by
  intro w hw
  have h := h w (pre w hw)
  cases ha : act link w with
  | ok a u => rw [ha] at h; exact value a u h
  | error halt u =>
    rw [ha] at h
    cases halt with
    | failed cause => exact failure u h
    | _ => trivial

/-- The contract from fewer worlds. -/
theorem pre {act : Act α} (h : Contract link P act Q F) (k : ∀ w, P' w → P w) :
    Contract link P' act Q F :=
  h.imp k (fun _ _ hw => hw) fun _ hw => hw

/-- The contract with more ways to fail. -/
theorem failing {act : Act α} (h : Contract link P act Q F) (k : ∀ w, F w → F' w) :
    Contract link P act Q F' :=
  h.imp (fun _ hw => hw) (fun _ _ hw => hw) k

/-- The contract from worlds of which something else is known. -/
theorem of_and {p : Prop} {act : Act α} (h : p → Contract link P act Q F) :
    Contract link (fun w => p ∧ P w) act Q F := fun w hw => h hw.1 w hw.2

/-- The contract from worlds that have a property for something. -/
theorem of_exists {ι : Type} {R : ι → World → Prop} {act : Act α}
    (h : ∀ x, Contract link (R x) act Q F) : Contract link (fun w => ∃ x, R x w) act Q F :=
  fun w ⟨x, hw⟩ => h x w hw

/-- What holds after a step however it ends. -/
theorem of_after {act : Act α} {R : World → Prop} (h : ∀ w, P w → R (act.after link w)) :
    Contract link P act (fun _ => R) R := by
  intro w hw
  have h := h w hw
  unfold after at h
  cases ha : act link w with
  | ok a u => rw [ha] at h; exact h
  | error halt u =>
    rw [ha] at h
    cases halt with
    | failed cause => exact h
    | _ => trivial

/-- A step whose value is dropped. -/
theorem discard {act : Act α} {R : World → Prop} (h : Contract link P act (fun _ => R) F) :
    Contract link P (Functor.discard act) (fun _ => R) F := by
  rw [discard_eq_bind]
  exact h.bind fun _ => .pure fun _ hw => hw

theorem of_discard {act : Act α} {R : World → Prop}
    (h : Contract link P (Functor.discard act) (fun _ => R) F) :
    Contract link P act (fun _ => R) F := by
  intro w hw
  have h := h w hw
  rw [discard_eq_bind, bind_apply] at h
  cases ha : act link w with
  | ok a u => rw [ha] at h; exact h
  | error halt u => rw [ha] at h; cases halt <;> exact h

/-- What an attempt gave: the value or the failure. -/
def Outcome (Q : α → World → Prop) (F : World → Prop) : Except Failure α → World → Prop
  | .ok a, w => Q a w
  | .error _, w => F w

theorem Outcome.unheld {outcome : Except Failure α} (value : ∀ a, Unheld (Q a))
    (failure : Unheld F) : Unheld (Outcome Q F outcome) := by
  cases outcome with
  | ok a => exact value a
  | error _ => exact failure

theorem attempt {act : Act α} (h : Contract link P act Q F) :
    Contract link P (Act.attempt act) (Outcome Q F) F' := by
  intro w hw
  have h := h w hw
  rw [attempt_apply]
  cases ha : act link w with
  | ok a u => rw [ha] at h; exact h
  | error halt u => rw [ha] at h; cases halt <;> exact h

theorem settle (outcome : Except Failure α) :
    Contract link (Outcome Q F outcome) (Act.settle outcome) Q F := by
  intro w hw
  cases outcome <;> exact hw

theorem update {f : Session → Session} {R : Unit → World → Prop}
    (h : ∀ w, P w → R () { w with session := f w.session }) :
    Contract link P (Act.update f) R F := h

theorem look {next : Session → Act α} (h : ∀ s, Contract link P (next s) Q F) :
    Contract link P (session >>= next) Q F := fun w => h w.session w

/-- A step may choose by whether the target runs. -/
theorem isRunning {next : Bool → Act α}
    (yes : Contract link (fun w => P w ∧ w.Runs) (next true) Q F)
    (no : Contract link (fun w => P w ∧ ¬w.Runs) (next false) Q F) :
    Contract link P (Act.isRunning >>= next) Q F := by
  intro w hw
  by_cases runs : w.Runs
  · rw [isRunning_bind_of_running runs]
    exact yes w ⟨hw, runs⟩
  · rw [isRunning_bind_of_idle runs]
    exact no w ⟨hw, runs⟩

/-- Looking up a bound breakpoint does not fail and changes nothing. -/
theorem bound (i : Nat) : Contract link P (Act.bound i) (fun _ => P) F := by
  intro w hw
  unfold Act.bound
  rw [get_apply]
  cases w.bound[i]? with
  | none => trivial
  | some b => exact hw

theorem updateBound {i : Nat} {f : Bound → Bound} (loose : Loose P) :
    Contract link P (Act.updateBound i f) (fun _ => P) F :=
  fun w hw => loose.rebind _ w hw

/-! ## What is held meanwhile -/

theorem holding {take : World → Option World} {give : World → World} {act : Act α}
    (h : Contract link P act Q F) (taken : ∀ w v, P w → take w = some v → P v)
    (value : ∀ a w, Q a w → Q a (give w)) (failure : ∀ w, F w → F (give w)) :
    Contract link P (Act.holding take give act) Q F := by
  intro w hw
  unfold Act.holding
  cases ht : take w with
  | none => trivial
  | some u =>
    have h := h u (taken w u hw ht)
    dsimp only
    cases ha : act link u with
    | ok a x => rw [ha] at h; exact value a x h
    | error halt x =>
      rw [ha] at h
      -- a step that stops for good promises nothing about what it holds
      cases halt with
      | failed cause => exact failure x h
      | _ => trivial

theorem inRegion {act : Act α} (h : Contract link P act Q F) (pre : Unheld P)
    (value : ∀ a, Unheld (Q a)) (failure : Unheld F) :
    Contract link P (Act.inRegion act) Q F := by
  refine h.holding ?_ (fun a w => (value a).critical _ w) fun w => failure.critical _ w
  intro w v hw e
  obtain ⟨permit, -, rfl⟩ := Option.map_eq_some_iff.1 e
  exact pre.critical permit w hw

theorem withGates {i : Nat} {gates : Gates} {act : Act α} (h : Contract link P act Q F)
    (pre : Unheld P) (value : ∀ a, Unheld (Q a)) (failure : Unheld F) :
    Contract link P (Act.withGates i gates act) Q F := by
  refine h.holding ?_ (fun a w => (value a).gates i (·.without gates) w) fun w =>
    failure.gates i (·.without gates) w
  intro w v hw e
  obtain ⟨b, held, found, -, rfl⟩ := of_takeGates e
  have taken := pre.gates i (fun _ => held) w hw
  rwa [modify_of_getElem? found] at taken

end Contract

end DebugLink.Act

namespace DebugLink

open Act

/-- **A gentle step** keeps what calm changes keep, also when it fails. -/
theorem Gentle.contract {α : Type} {c : Config} {link : Link} {act : Act α}
    {P : World → Prop} (gentle : Gentle c link act) (lasting : Lasting c P) :
    Contract link P act (fun _ => P) P :=
  .of_after fun w => lasting w _ (gentle.calm w)

end DebugLink
