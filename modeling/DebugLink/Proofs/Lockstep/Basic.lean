import DebugLink.Session.World

/-!
# Steps that run alike on two sides

A pairing sets two links side by side and says when a world on the left corresponds to one on the
right. A step is in **lockstep** when it takes corresponding worlds to corresponding worlds, ends in
the same way and gives the same value. The right side may part from the left for good; from then on
nothing is asked of the two.

With one link on both sides and equal worlds that satisfy a predicate, lockstep says that the step
keeps the predicate (`lockstep_diag_iff`). So one walk over the operations of a session serves
invariants and comparisons alike.

* `Lockstep.bind`, `Lockstep.attempt`, `Lockstep.holding`: lockstep goes through the ways in which
  steps are put together.
* `Lockstep.view`: a step may look at what both sides have in common.
-/

namespace DebugLink

namespace Act

variable {α β : Type}

/-- The world in which a step ends, whatever becomes of the step. -/
def after (act : Act α) (link : Link) (w : World) : World :=
  match act link w with
  | .ok _ v => v
  | .error _ v => v

/-- Whether a step gives a value. -/
def returns (act : Act α) (link : Link) (w : World) : Bool :=
  match act link w with
  | .ok _ _ => true
  | .error _ _ => false

theorem bind_apply (act : Act α) (next : α → Act β) (link : Link) (w : World) :
    (act >>= next) link w = match act link w with
      | .ok value v => next value link v
      | .error halt v => .error halt v := by
  show EStateM.bind (act link) (fun value => next value link) w = _
  unfold EStateM.bind
  cases act link w <;> rfl

/-- A step looks at the session as it is. -/
theorem look_apply (next : Session → Act α) (link : Link) (w : World) :
    (session >>= next) link w = next w.session link w := rfl

theorem get_apply (next : World → Act α) (link : Link) (w : World) :
    (get >>= next) link w = next w link w := rfl

theorem read_apply (next : Link → Act α) (link : Link) (w : World) :
    (read >>= next) link w = next link link w := rfl

/-- A step goes on with the session as it was changed. -/
theorem update_apply (f : Session → Session) (next : Unit → Act α) (link : Link) (w : World) :
    (update f >>= next) link w = next () link { w with session := f w.session } := rfl

theorem discard_eq_bind (act : Act α) :
    Functor.discard act = act >>= fun _ => (pure PUnit.unit : Act PUnit) := by
  unfold Functor.discard
  rw [LawfulFunctor.map_const]
  exact map_eq_pure_bind _ _

theorem after_of_ok {act : Act α} {link : Link} {w v : World} {value : α}
    (h : act link w = .ok value v) : act.after link w = v := by
  unfold after; rw [h]

/-- An act that returns has a value and leaves the world that it is said to leave. -/
theorem ok_of_returns {act : Act α} {link : Link} {w : World} (h : act.returns link w = true) :
    ∃ value, act link w = .ok value (act.after link w) := by
  unfold returns at h
  unfold after
  cases e : act link w with
  | ok value v => exact ⟨value, rfl⟩
  | error halt v =>
    rw [e] at h
    cases h

theorem after_of_error {act : Act α} {link : Link} {w v : World} {halt : Halt}
    (h : act link w = .error halt v) : act.after link w = v := by
  unfold after; rw [h]

theorem after_bind (act : Act α) (next : α → Act β) (link : Link) (w : World) :
    after (act >>= next) link w = match act link w with
      | .ok value v => (next value).after link v
      | .error _ v => v := by
  unfold after
  rw [bind_apply]
  cases act link w <;> rfl

theorem after_congr {act act' : Act α} {link link' : Link} {w v : World}
    (h : act link w = act' link' v) : act.after link w = act'.after link' v := by
  unfold after; rw [h]

theorem after_settle (outcome : Except Failure α) (link : Link) (w : World) :
    (settle outcome).after link w = w := by
  cases outcome <;> rfl

/-- A step whose value is dropped ends in the same world. -/
theorem after_dropped (act : Act α) (link : Link) (w : World) :
    (act >>= fun _ => (pure () : Act Unit)).after link w = act.after link w := by
  rw [after_bind]
  unfold after
  cases act link w <;> rfl

theorem attempt_apply (act : Act α) (link : Link) (w : World) :
    attempt act link w = match act link w with
      | .ok value v => .ok (.ok value) v
      | .error (.failed cause) v => .ok (.error cause) v
      | .error halt v => .error halt v := rfl

/-- Catching a failure leaves the world as the failure left it. -/
theorem after_attempt (act : Act α) (link : Link) (w : World) :
    (attempt act).after link w = act.after link w := by
  unfold after
  rw [attempt_apply]
  cases act link w with
  | ok value v => rfl
  | error halt v => cases halt <;> rfl

/-- What is held is given back, unless the step waits for what its own caller holds. -/
theorem after_holding {take : World → Option World} {give : World → World} {act : Act α}
    {link : Link} {w v : World} (h : take w = some v) :
    (holding take give act).after link w = act.after link v ∨
      (holding take give act).after link w = give (act.after link v) := by
  unfold after holding
  rw [h]
  dsimp only
  cases act link v with
  | ok value u => exact .inr rfl
  | error halt u => cases halt with
    | blocked => exact .inl rfl
    | failed cause => exact .inr rfl
    | assertion => exact .inr rfl
    | overrun => exact .inr rfl

end Act

/-- What a session knows, less what tells the two orders of resuming apart: whether the target runs
and whether resuming is barred. -/
def Session.view (s : Session) : Session := { s with runMode := true, breakAll := {} }

/-- Two links side by side. -/
structure Pairing where
  left : Link
  right : Link
  /-- A world on the left and one on the right correspond. -/
  Rel : World → World → Prop
  /-- The right side went a way that the left side need not go. -/
  Parted : World → Prop

namespace Pairing

variable {α β : Type}

/-- Two ends of a step that correspond. -/
inductive SameEnd (p : Pairing) : EStateM.Result Halt World α → EStateM.Result Halt World α → Prop
  | ok (value : α) {v w : World} : p.Rel v w → SameEnd p (.ok value v) (.ok value w)
  | error (halt : Halt) {v w : World} : p.Rel v w → SameEnd p (.error halt v) (.error halt w)

theorem SameEnd.rel_of_ok {p : Pairing} {value : α} {v w : World}
    (h : p.SameEnd (.ok value v) (.ok value w)) : p.Rel v w := by
  cases h with
  | ok _ h => exact h

/-- **Lockstep.** A step keeps the sides parted once they are, and otherwise takes corresponding
worlds to corresponding ends or parts the sides. -/
structure Lockstep (p : Pairing) (act : Act α) : Prop where
  parted : ∀ w, p.Parted w → p.Parted (act.after p.right w)
  same : ∀ v w, p.Rel v w →
    p.Parted (act.after p.right w) ∨ p.SameEnd (act p.left v) (act p.right w)

namespace Lockstep

variable {p : Pairing}

theorem pure (value : α) : p.Lockstep (Pure.pure value : Act α) :=
  ⟨fun _ h => h, fun _ _ h => .inr (.ok value h)⟩

theorem halt (h : Halt) : p.Lockstep (throw h : Act α) :=
  ⟨fun _ h => h, fun _ _ hr => .inr (.error h hr)⟩

theorem settle (outcome : Except Failure α) : p.Lockstep (Act.settle outcome) := by
  cases outcome with
  | ok value => exact pure value
  | error cause => exact halt (.failed cause)

/-- **Two acts that keep step keep it one after the other**, and so does a parted first one with all
that follows. -/
theorem bind {act : Act α} {next : α → Act β} (first : p.Lockstep act)
    (second : ∀ value, p.Lockstep (next value)) : p.Lockstep (act >>= next) := by
  constructor
  · intro w hw
    have h := first.parted w hw
    rw [Act.after_bind]
    cases ha : act p.right w with
    | ok value v => rw [Act.after_of_ok ha] at h; exact (second value).parted v h
    | error e v => rw [Act.after_of_error ha] at h; exact h
  · -- the two agree on the first value, or the right one has parted from there on
    intro v w hr
    rw [Act.after_bind, Act.bind_apply, Act.bind_apply]
    rcases first.same v w hr with h | h
    · -- the sides parted in the first step, and the second keeps them parted
      left
      cases ha : act p.right w with
      | ok value u => rw [Act.after_of_ok ha] at h; exact (second value).parted u h
      | error e u => rw [Act.after_of_error ha] at h; exact h
    · generalize act p.left v = l at h
      generalize act p.right w = r at h
      cases h with
      | ok value hu => exact (second value).same _ _ hu
      | error e hu => exact .inr (.error e hu)

/-- A failure that is caught on both sides is the same outcome. -/
theorem attempt {act : Act α} (h : p.Lockstep act) : p.Lockstep (Act.attempt act) := by
  constructor
  · intro w hw
    rw [Act.after_attempt]
    exact h.parted w hw
  · intro v w hr
    rw [Act.after_attempt, Act.attempt_apply, Act.attempt_apply]
    rcases h.same v w hr with h | h
    · exact .inl h
    · right
      generalize act p.left v = l at h
      generalize act p.right w = r at h
      cases h with
      | ok value hu => exact .ok _ hu
      | error e hu =>
        cases e with
        | failed cause => exact .ok _ hu
        | assertion => exact .error _ hu
        | blocked => exact .error _ hu
        | overrun => exact .error _ hu

theorem discard {act : Act α} (h : p.Lockstep act) : p.Lockstep (Functor.discard act) := by
  rw [Act.discard_eq_bind]
  exact h.bind fun _ => pure _

theorem forM {list : List β} {act : β → Act PUnit} (each : ∀ x ∈ list, p.Lockstep (act x)) :
    p.Lockstep (list.forM act) := by
  induction list with
  | nil => exact pure _
  | cons x xs ih =>
    exact (each x List.mem_cons_self).bind fun _ =>
      ih fun y hy => each y (List.mem_cons_of_mem _ hy)

/-- A step does on two links what another step does on two others. -/
theorem congr {left right left' right' : Link} {Rel : World → World → Prop}
    {Parted : World → Prop} {act call : Act α}
    (h : Lockstep ⟨left, right, Rel, Parted⟩ act) (hl : call left' = act left)
    (hr : call right' = act right) : Lockstep ⟨left', right', Rel, Parted⟩ call := by
  have after : ∀ w, call.after right' w = act.after right w := by
    intro w
    unfold Act.after
    rw [hr]
  constructor
  · intro w hw
    show Parted (call.after right' w)
    rw [after]
    exact h.parted w hw
  · intro v w hvw
    show Parted (call.after right' w) ∨ SameEnd _ (call left' v) (call right' w)
    rw [after, hl, hr]
    rcases h.same v w hvw with hp | he
    · exact .inl hp
    · right
      dsimp only at he
      generalize act left v = l at he
      generalize act right w = r at he
      cases he with
      | ok value hu => exact .ok value hu
      | error e hu => exact .error e hu

/-- A step may choose by what both sides have in common. -/
theorem view (common : ∀ {v w}, p.Rel v w → v.session.view = w.session.view)
    {next : Session → Act α} (looks : ∀ s, next s = next s.view)
    (each : ∀ s, p.Lockstep (next s)) : p.Lockstep (Act.session >>= next) := by
  constructor
  · exact fun w hw => (each w.session).parted w hw
  · intro v w hr
    have e : next v.session = next w.session := by
      rw [looks v.session, common hr, ← looks w.session]
    show _ ∨ p.SameEnd (next v.session p.left v) (next w.session p.right w)
    rw [e]
    exact (each w.session).same v w hr

/-- A step may choose by the breakpoints that are bound. -/
theorem bindings (common : ∀ {v w}, p.Rel v w → v.bound = w.bound) {next : World → Act α}
    (looks : ∀ v w : World, v.bound = w.bound → next v = next w)
    (each : ∀ w, p.Lockstep (next w)) : p.Lockstep (get >>= next) := by
  constructor
  · exact fun w hw => (each w).parted w hw
  · intro v w hr
    show _ ∨ p.SameEnd (next v p.left v) (next w p.right w)
    rw [looks v w (common hr)]
    exact (each w).same v w hr

/-- A step may choose by the settings. -/
theorem config (common : p.left.config = p.right.config) {next : Link → Act α}
    (looks : ∀ l l' : Link, l.config = l'.config → next l = next l')
    (each : ∀ l, p.Lockstep (next l)) : p.Lockstep (read >>= next) := by
  constructor
  · exact fun w hw => (each p.right).parted w hw
  · intro v w hr
    show _ ∨ p.SameEnd (next p.left p.left v) (next p.right p.right w)
    rw [looks _ _ common]
    exact (each p.right).same v w hr

/-- A step while something is held: it is free on both sides or on neither, and taking it and giving
it back are steps on both sides. -/
theorem holding {take : World → Option World} {give : World → World} {act : Act α}
    (taken : ∀ v w, p.Rel v w → (take v = none ∧ take w = none) ∨
      ∃ v' w', take v = some v' ∧ take w = some w' ∧ (p.Parted w' ∨ p.Rel v' w'))
    (stays : ∀ w w', take w = some w' → p.Parted w → p.Parted w')
    (given : p.Lockstep (modify give : Act PUnit)) (h : p.Lockstep act) :
    p.Lockstep (Act.holding take give act) := by
  -- the sides stay parted whether what is held is given back or not
  have parted : ∀ w w', take w = some w' → p.Parted (act.after p.right w') →
      p.Parted ((Act.holding take give act).after p.right w) := by
    intro w w' hw hp
    have e : (Act.holding take give act).after p.right w = act.after p.right w' ∨
        (Act.holding take give act).after p.right w = give (act.after p.right w') :=
      Act.after_holding hw
    rcases e with e | e <;> rw [e]
    · exact hp
    · exact given.parted _ hp
  constructor
  · intro w hw
    cases ht : take w with
    | none => unfold Act.after Act.holding; rw [ht]; exact hw
    | some w' => exact parted w w' ht (h.parted w' (stays w w' ht hw))
  · intro v w hr
    rcases taken v w hr with ⟨hv, hw⟩ | ⟨v', w', hv, hw, hp | hr'⟩
    · right
      unfold Act.holding
      rw [hv, hw]
      exact .error _ hr
    · exact .inl (parted w w' hw (h.parted w' hp))
    · rcases h.same v' w' hr' with hp | he
      · exact .inl (parted w w' hw hp)
      · unfold Act.after Act.holding
        rw [hv, hw]
        dsimp only
        generalize act p.left v' = l at he
        generalize act p.right w' = r at he
        -- what is given back may part the sides as any step may
        have back : ∀ {u x}, p.Rel u x → p.Parted (give x) ∨ p.Rel (give u) (give x) := by
          intro u x hu
          rcases given.same u x hu with hx | hx
          · exact .inl hx
          · cases hx with
            | ok _ hx => exact .inr hx
        cases he with
        | ok value hu => exact (back hu).imp id (.ok value)
        | error e hu =>
          cases e with
          -- whoever is stuck keeps what it holds
          | blocked => exact .inr (.error _ hu)
          | failed cause => exact (back hu).imp id (.error _)
          | assertion => exact (back hu).imp id (.error _)
          | overrun => exact (back hu).imp id (.error _)

end Lockstep

end Pairing

end DebugLink
