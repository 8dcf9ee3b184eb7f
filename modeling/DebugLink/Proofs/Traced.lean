import DebugLink.Proofs.Dialogue

/-!
# What is asked meanwhile

A computation that asks a peer comes to a value, leaves a state and adds exchanges. What holds of
all three is found step by step: each rule says what has to hold of a step for something to hold of
what it is put together to. Only peers that give an answer to everything are looked at, so that no
request fails, and only computations that come to an end.

* `Peer.Reliable`: a peer without failures.
* `Traced.Leaves`: what a computation leaves, with rules for `pure`, `bind` and asking.
* `leaves_seq`: one step after another.
* `leaves_forM`, `leaves_foldlM`: what every step of a loop keeps is kept by the loop.
-/

namespace DebugLink

/-- The peer gives an answer to everything. -/
def Peer.Reliable (peer : Peer) : Prop :=
  ∀ past command, ∃ answer, peer.answer past command = .ok answer

/-- A monad in which what computations ask is found out, with the rules for how they are put
together. -/
class Traced (m : Type → Type) (S : outParam Type) [Monad m] where
  /-- Started in this state, the computation comes only to such a value, with such a state and such
  exchanges meanwhile, the first one first. -/
  Leaves {α : Type} : m α → S → (α → S → List Exchange → Prop) → Prop
  leaves_pure {α : Type} {a : α} {s : S} {P : α → S → List Exchange → Prop} :
    P a s [] → Leaves (pure a) s P
  leaves_mono {α : Type} {x : m α} {s : S} {P Q : α → S → List Exchange → Prop} :
    Leaves x s P → (∀ a now trace, P a now trace → Q a now trace) → Leaves x s Q
  leaves_bind {α β : Type} {x : m α} {f : α → m β} {s : S} {P : β → S → List Exchange → Prop} :
    Leaves x s (fun a mid trace => Leaves (f a) mid fun b now more => P b now (trace ++ more)) →
      Leaves (x >>= f) s P

/-- Asking is traced. To give up is to have no value. -/
class TracedWire (m : Type → Type) (S : outParam Type) [Monad m] [Wire m] extends Traced m S where
  leaves_ask {command : String} {s : S} {P : Except Failure String → S → List Exchange → Prop} :
    (∀ answer, P (.ok answer) s [⟨command, .ok answer⟩]) → Leaves (Wire.ask command) s P
  leaves_overrun {α : Type} {s : S} {P : α → S → List Exchange → Prop} :
    Leaves (Wire.overrun : m α) s P

open Traced TracedWire

instance : TracedWire Dialogue Unit where
  Leaves x _ P := ∀ peer : Peer, peer.Reliable → ∀ past a now,
    (x.run peer).run past = .ok a now → ∃ trace, now = trace.reverse ++ past ∧ P a () trace
  leaves_pure holds := by
    rintro peer - past a now ⟨⟩
    exact ⟨[], rfl, holds⟩
  leaves_mono hx weaker := by
    intro peer reliable past a now run
    obtain ⟨trace, kept, holds⟩ := hx peer reliable past a now run
    exact ⟨trace, kept, weaker a () trace holds⟩
  leaves_bind hx := by
    intro peer reliable past b now run
    obtain ⟨a, mid, first, second⟩ := Dialogue.of_bind_ok run
    obtain ⟨trace, rfl, next⟩ := hx peer reliable past a mid first
    obtain ⟨more, rfl, holds⟩ := next peer reliable _ b now second
    exact ⟨trace ++ more, by rw [List.reverse_append, List.append_assoc], holds⟩
  leaves_ask {command _ P} holds := by
    intro peer reliable past outcome now run
    obtain ⟨answer, given⟩ := reliable (past.map fun e => .request e.command) command
    have asked : ((Wire.ask command : Dialogue _).run peer).run past =
        .ok (peer.answer (past.map fun e => .request e.command) command)
          (⟨command, peer.answer (past.map fun e => .request e.command) command⟩ :: past) := rfl
    rw [asked, given] at run
    cases run
    exact ⟨[⟨command, .ok answer⟩], rfl, holds answer⟩
  leaves_overrun := by
    intro α _ P peer reliable past a now run
    cases run

section Layers

variable {m : Type → Type} {S : Type} [Monad m] {σ : Type}

/-- Nothing fails, as no request does. -/
instance [Traced m S] : Traced (ExceptT Failure m) S where
  Leaves x s P := Leaves x.run s fun outcome now trace => ∃ a, outcome = .ok a ∧ P a now trace
  leaves_pure holds := leaves_pure ⟨_, rfl, holds⟩
  leaves_mono hx weaker := by
    refine leaves_mono hx ?_
    rintro outcome now trace ⟨a, rfl, holds⟩
    exact ⟨a, rfl, weaker a now trace holds⟩
  leaves_bind hx := by
    refine leaves_bind (leaves_mono hx ?_)
    rintro outcome mid trace ⟨a, rfl, next⟩
    exact next

instance [Traced m S] : Traced (StateT σ m) (σ × S) where
  Leaves x s P := Leaves (x.run s.1) s.2 fun next now trace => P next.1 (next.2, now) trace
  leaves_pure holds := leaves_pure holds
  leaves_mono hx weaker := leaves_mono hx fun _ _ _ holds => weaker _ _ _ holds
  leaves_bind hx := leaves_bind hx

instance [Wire m] [TracedWire m S] : TracedWire (StateT σ m) (σ × S) where
  leaves_ask holds := leaves_bind (leaves_ask fun answer => leaves_pure (holds answer))
  leaves_overrun := leaves_bind leaves_overrun

end Layers

section Rules

variable {m : Type → Type} {S : Type} [Monad m] {σ α β : Type}

section Steps

variable [Traced m S]

/-- **One step after another.** -/
theorem leaves_seq {x : m α} {f : α → m β} {s : S} {P : α → S → List Exchange → Prop}
    {Q : β → S → List Exchange → Prop} (first : Leaves x s P)
    (next : ∀ a mid trace, P a mid trace →
      Leaves (f a) mid fun b now more => Q b now (trace ++ more)) : Leaves (x >>= f) s Q :=
  leaves_bind (leaves_mono first next)

theorem leaves_map [LawfulMonad m] {f : α → β} {x : m α} {s : S}
    {P : β → S → List Exchange → Prop}
    (h : Leaves x s fun a now trace => P (f a) now trace) : Leaves (f <$> x) s P := by
  rw [map_eq_pure_bind]
  refine leaves_seq h fun a mid trace holds => leaves_pure ?_
  rwa [List.append_nil]

variable {R : S → S → List Exchange → Prop} (refl : ∀ s, R s s [])
  (trans : ∀ {s mid now t u}, R s mid t → R mid now u → R s now (t ++ u))

include refl trans

theorem leaves_forM {f : β → m PUnit} (step : ∀ b s, Leaves (f b) s fun _ => R s) (l : List β)
    (s : S) : Leaves (l.forM f) s fun _ => R s := by
  induction l generalizing s with
  | nil => exact leaves_pure (refl s)
  | cons b l ih =>
    refine leaves_seq (step b s) fun _ mid trace kept => ?_
    exact leaves_mono (ih mid) fun _ now more later => trans kept later

omit refl trans

theorem leaves_foldlM {R : α → α → List Exchange → Prop} (refl : ∀ a, R a a [])
    (trans : ∀ {a b c t u}, R a b t → R b c u → R a c (t ++ u)) {f : α → β → m α}
    (step : ∀ a b s, Leaves (f a b) s fun a' _ => R a a') (l : List β) (a : α) (s : S) :
    Leaves (l.foldlM f a) s fun a' _ => R a a' := by
  induction l generalizing a s with
  | nil => exact leaves_pure (refl a)
  | cons b l ih =>
    refine leaves_seq (step a b s) fun a' mid trace kept => ?_
    exact leaves_mono (ih a' mid) fun _ now more later => trans kept later

end Steps

section State

variable [Traced m S] {P : σ → σ × S → List Exchange → Prop}
  {Q : PUnit → σ × S → List Exchange → Prop} {s : σ × S}

/-- What only looks at the state and changes it asks nothing. -/
theorem leaves_state {α : Type} {a : α} {now : σ} {P : α → σ × S → List Exchange → Prop}
    (holds : P a (now, s.2) []) :
    Leaves (pure (a, now) >>= fun next : α × σ =>
      (pure (Except.ok next.1, next.2) : m (Except Failure α × σ))) s.2
      fun next now trace => ∃ a, next.1 = .ok a ∧ P a (next.2, now) trace :=
  leaves_bind (leaves_pure (leaves_pure ⟨a, rfl, holds⟩))

theorem leaves_get (holds : P s.1 s []) :
    Leaves (get : ExceptT Failure (StateT σ m) σ) s P :=
  leaves_state holds

theorem leaves_modify {f : σ → σ} (holds : Q () (f s.1, s.2) []) :
    Leaves (modify f : ExceptT Failure (StateT σ m) PUnit) s Q :=
  leaves_state holds

theorem leaves_set {now : σ} (holds : Q () (now, s.2) []) :
    Leaves (set now : ExceptT Failure (StateT σ m) PUnit) s Q :=
  leaves_state holds

end State

theorem leaves_discard [Traced m S] {x : ExceptT Failure m α} {s : S}
    {P : Unit → S → List Exchange → Prop} (h : Leaves x s fun _ now trace => P () now trace) :
    Leaves (discard x) s P := by
  refine leaves_seq (m := m) h ?_
  rintro _ now trace ⟨a, rfl, holds⟩
  exact leaves_pure ⟨(), rfl, by rwa [List.append_nil]⟩

theorem leaves_request [Wire m] [TracedWire m S] {command : String} {s : S}
    {P : String → S → List Exchange → Prop}
    (holds : ∀ answer, P answer s [⟨command, .ok answer⟩]) :
    Leaves (Wire.request command : ExceptT Failure m String) s P :=
  leaves_ask fun answer => ⟨answer, rfl, holds answer⟩

end Rules

end DebugLink
