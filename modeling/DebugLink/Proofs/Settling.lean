import DebugLink.Proofs.Lockstep.Basic

/-!
# How steps end

A step of a session gives a value, fails, or stops for good. What follows a value or a failure goes
on in the world in which that came about; an assertion that fails in a step fails in whatever the
step is part of.

* `of_bind_ok`: what gives a value in the end gave one at first.
* `Settles`: a step ends in a world with a value or with a failure.
* `outcome?`: how a step ends, so that closed runs can be computed.
* `Asserts`: an assertion fails in a step.
-/

namespace DebugLink

instance : DecidableEq (Except Failure Unit)
  | .ok (), .ok () => isTrue rfl
  | .error a, .error b => decidable_of_iff (a = b) (by simp)
  | .ok _, .error _ => isFalse nofun
  | .error _, .ok _ => isFalse nofun

namespace Act

variable {link : Link} {w : World}

theorem bind_ok {α β : Type} {act : Act α} {value : α} {v : World}
    (h : act link w = .ok value v) (next : α → Act β) :
    (act >>= next) link w = next value link v := by
  rw [bind_apply, h]

theorem bind_failed {α β : Type} {act : Act α} {cause : Failure} {v : World}
    (h : act link w = .error (.failed cause) v) (next : α → Act β) :
    (act >>= next) link w = .error (.failed cause) v := by
  rw [bind_apply, h]

theorem attempt_ok {α : Type} {act : Act α} {value : α} {v : World}
    (h : act link w = .ok value v) : attempt act link w = .ok (.ok value) v := by
  rw [attempt_apply, h]

theorem discard_ok {α : Type} {act : Act α} {value : α} {v : World}
    (h : act link w = .ok value v) : Functor.discard act link w = .ok () v := by
  rw [discard_eq_bind, bind_ok h]
  rfl

/-- What gives a value in the end gave one at first. -/
theorem of_bind_ok {α β : Type} {act : Act α} {next : α → Act β} {value : β} {v : World}
    (h : (act >>= next) link w = .ok value v) :
    ∃ a u, act link w = .ok a u ∧ next a link u = .ok value v := by
  rw [bind_apply] at h
  cases e : act link w with
  | ok a u =>
    rw [e] at h
    exact ⟨a, u, rfl, h⟩
  | error halt u =>
    rw [e] at h
    cases h

theorem world_of_settle {α : Type} {outcome : Except Failure α} {value : α} {v : World}
    (h : settle outcome link w = .ok value v) : v = w := by
  rw [← after_of_ok h, after_settle]

/-- **A step settles** in a world: it ends there with a value or with a failure. -/
def Settles {α : Type} (act : Act α) (link : Link) (w v : World) : Prop :=
  ∃ outcome, attempt act link w = .ok outcome v

namespace Settles

variable {α β : Type} {act : Act α} {v : World}

theorem of_ok {value : α} (h : act link w = .ok value v) : act.Settles link w v :=
  ⟨.ok value, by rw [attempt_apply, h]⟩

theorem of_failed {cause : Failure} (h : act link w = .error (.failed cause) v) :
    act.Settles link w v :=
  ⟨.error cause, by rw [attempt_apply, h]⟩

theorem ok_or_failed (h : act.Settles link w v) :
    (∃ value, act link w = .ok value v) ∨ ∃ cause, act link w = .error (.failed cause) v := by
  obtain ⟨outcome, h⟩ := h
  rw [attempt_apply] at h
  cases e : act link w with
  | ok value u => rw [e] at h; cases h; exact .inl ⟨value, rfl⟩
  | error halt u =>
    rw [e] at h
    cases halt with
    | failed cause => cases h; exact .inr ⟨cause, rfl⟩
    | _ => cases h

theorem after_eq (h : act.Settles link w v) : act.after link w = v := by
  obtain ⟨outcome, h⟩ := h
  rw [← after_attempt, after_of_ok h]

/-- A step settles where another one does that comes to the same. -/
theorem congr {act' : Act α} {link' : Link} {u : World} (e : act link w = act' link' u)
    (h : act'.Settles link' u v) : act.Settles link w v := by
  obtain ⟨outcome, h⟩ := h
  refine ⟨outcome, ?_⟩
  rw [← h, attempt_apply, attempt_apply, e]

/-- What follows a step that gave a value. -/
theorem after_ok {next : α → Act β} {value : α} {u : World} (first : act link w = .ok value u)
    (h : (next value).Settles link u v) : (act >>= next).Settles link w v :=
  h.congr (bind_ok first next)

/-- A step whose value is replaced. -/
theorem dropped (h : act.Settles link w v) (value : β) :
    (act >>= fun _ => (Pure.pure value : Act β)).Settles link w v := by
  rcases h.ok_or_failed with ⟨a, e⟩ | ⟨cause, e⟩
  · exact .after_ok e (.of_ok rfl)
  · exact .of_failed (bind_failed e _)

theorem discard (h : act.Settles link w v) : (Functor.discard act).Settles link w v := by
  rw [discard_eq_bind]
  exact h.dropped _

/-- An outcome that is settled. -/
theorem settle (outcome : Except Failure α) : (Act.settle outcome).Settles link w w := by
  cases outcome with
  | ok value => exact .of_ok rfl
  | error cause => exact .of_failed rfl

/-- What a step held is given back when it settles. -/
theorem holding {take : World → Option World} {give : World → World} {u : World}
    (taken : take w = some u) (h : act.Settles link u v) :
    (Act.holding take give act).Settles link w (give v) := by
  rcases h.ok_or_failed with ⟨a, e⟩ | ⟨cause, e⟩
  · exact .of_ok (by unfold Act.holding; rw [taken]; dsimp only; rw [e])
  · exact .of_failed (by unfold Act.holding; rw [taken]; dsimp only; rw [e])

end Settles

/-- How a step ends that does not stop for good. -/
def outcome? (act : Act Unit) (link : Link) (w : World) : Option (Except Failure Unit) :=
  match attempt act link w with
  | .ok outcome _ => some outcome
  | .error _ _ => none

theorem attempt_of_outcome? {act : Act Unit} {outcome : Except Failure Unit}
    (h : act.outcome? link w = some outcome) :
    attempt act link w = .ok outcome (act.after link w) := by
  unfold outcome? at h
  rw [← after_attempt]
  unfold after
  cases e : attempt act link w with
  | ok value v =>
    rw [e] at h
    cases h
    rfl
  | error halt v =>
    rw [e] at h
    cases h

theorem Settles.of_outcome? {act : Act Unit} {outcome : Except Failure Unit}
    (h : act.outcome? link w = some outcome) : act.Settles link w (act.after link w) :=
  ⟨outcome, attempt_of_outcome? h⟩

/-- **An assertion fails** in a step. -/
def Asserts {α : Type} (act : Act α) (link : Link) (w : World) : Prop :=
  ∃ v, act link w = .error .assertion v

namespace Asserts

variable {α β : Type} {act : Act α}

theorem not_settles {v : World} (h : act.Asserts link w) : ¬act.Settles link w v := by
  obtain ⟨u, e⟩ := h
  intro settles
  rcases settles.ok_or_failed with ⟨_, e'⟩ | ⟨_, e'⟩
  · cases e.symm.trans e'
  · cases e.symm.trans e'

theorem congr {act' : Act α} {link' : Link} {u : World} (e : act link w = act' link' u)
    (h : act'.Asserts link' u) : act.Asserts link w := by
  obtain ⟨v, h⟩ := h
  exact ⟨v, e.trans h⟩

theorem bind (h : act.Asserts link w) (next : α → Act β) : (act >>= next).Asserts link w := by
  obtain ⟨v, e⟩ := h
  exact ⟨v, by rw [bind_apply, e]⟩

theorem after_ok {next : α → Act β} {value : α} {u : World} (first : act link w = .ok value u)
    (h : (next value).Asserts link u) : (act >>= next).Asserts link w :=
  h.congr (bind_ok first next)

theorem attempt (h : act.Asserts link w) : (Act.attempt act).Asserts link w := by
  obtain ⟨v, e⟩ := h
  exact ⟨v, by rw [attempt_apply, e]⟩

/-- What a step held is given back when an assertion fails in it. -/
theorem holding {take : World → Option World} {give : World → World} {u : World}
    (taken : take w = some u) (h : act.Asserts link u) :
    (Act.holding take give act).Asserts link w := by
  obtain ⟨v, e⟩ := h
  exact ⟨give v, by unfold Act.holding; rw [taken]; dsimp only; rw [e]⟩

end Asserts

end Act

end DebugLink
