import DebugLink.Proofs.Traced

/-!
# Computations that come to an end

How deep calls may be nested is bounded, and a computation that would go deeper gives up. Here it is
found out that one comes to an end: from some depth on the bound does not matter any more. So the
rules are about families of computations, one for each bound, and say what is left in the end of a
conversation with a peer that gives an answer to everything.

* `Continues`: how a conversation goes on.
* `Ending.Ends`: a computation comes to an end, with rules for `pure`, `bind` and asking.
* `ends_seq`: one step after another.
-/

namespace DebugLink

/-- A conversation goes on from one point by commands of one kind, and what the peer answers. -/
inductive Continues (peer : Peer) (Kind : String → Prop) (past : List Exchange) :
    List Exchange → Prop
  | here : Continues peer Kind past past
  | further {now : List Exchange} {e : Exchange} (before : Continues peer Kind past now)
      (kind : Kind e.command) (said : peer.Says now e) : Continues peer Kind past (e :: now)

namespace Continues

variable {peer : Peer} {Kind Other : String → Prop} {past mid now : List Exchange}

theorem trans (first : Continues peer Kind past mid) (second : Continues peer Kind mid now) :
    Continues peer Kind past now := by
  induction second with
  | here => exact first
  | further _ kind said ih => exact .further ih kind said

/-- Nothing is taken out of a conversation. -/
theorem suffix (continues : Continues peer Kind past now) : past <:+ now := by
  induction continues with
  | here => exact List.suffix_refl _
  | further _ _ _ ih => exact ih.trans (List.suffix_cons _ _)

theorem mono (within : ∀ command, Kind command → Other command)
    (continues : Continues peer Kind past now) : Continues peer Other past now := by
  induction continues with
  | here => exact .here
  | further _ kind said ih => exact .further ih (within _ kind) said

/-- What was said meanwhile. -/
theorem exists_trace (continues : Continues peer Kind past now) :
    ∃ trace : List Exchange, now = trace.reverse ++ past ∧ ∀ e ∈ trace, Kind e.command := by
  induction continues with
  | here => exact ⟨[], rfl, List.forall_mem_nil _⟩
  | @further now e _ kind _ ih =>
    obtain ⟨trace, rfl, kinds⟩ := ih
    refine ⟨trace ++ [e], by simp, ?_⟩
    exact List.forall_mem_append.2 ⟨kinds, List.forall_mem_singleton.2 kind⟩

end Continues

/-- A monad in which computations are found to come to an end, with the rules for how they are put
together. -/
class Ending (m : Type → Type) (S : outParam Type) [Monad m] where
  /-- Started in this state after these exchanges, all computations of the family from some bound on
  come to the same value, state and exchanges, and this holds of them. -/
  Ends {α : Type} : Peer → (Nat → m α) → S → List Exchange → (α → S → List Exchange → Prop) → Prop
  ends_pure {α : Type} {peer : Peer} {a : α} {s : S} {past : List Exchange}
    {P : α → S → List Exchange → Prop} : P a s past → Ends peer (fun _ => pure a) s past P
  ends_mono {α : Type} {peer : Peer} {x : Nat → m α} {s : S} {past : List Exchange}
    {P Q : α → S → List Exchange → Prop} :
    Ends peer x s past P → (∀ a now later, P a now later → Q a now later) → Ends peer x s past Q
  ends_bind {α β : Type} {peer : Peer} {x : Nat → m α} {f : Nat → α → m β} {s : S}
    {past : List Exchange} {P : β → S → List Exchange → Prop} :
    Ends peer x s past (fun a mid later => Ends peer (fun bound => f bound a) mid later P) →
      Ends peer (fun bound => x bound >>= f bound) s past P
  /-- The least bound does not matter. -/
  ends_succ {α : Type} {peer : Peer} {x : Nat → m α} {s : S} {past : List Exchange}
    {P : α → S → List Exchange → Prop} :
    Ends peer (fun bound => x (bound + 1)) s past P → Ends peer x s past P

/-- Asking comes to an end. -/
class EndingWire (m : Type → Type) (S : outParam Type) [Monad m] [Wire m] extends Ending m S where
  ends_ask {peer : Peer} {command : String} {s : S} {past : List Exchange}
    {P : Except Failure String → S → List Exchange → Prop} : peer.Reliable →
    (∀ answer, peer.Says past ⟨command, .ok answer⟩ →
      P (.ok answer) s (⟨command, .ok answer⟩ :: past)) →
    Ends peer (fun _ => Wire.ask command) s past P

open Ending EndingWire

instance : EndingWire Dialogue Unit where
  Ends peer x _ past P := ∃ depth a now, P a () now ∧
    ∀ bound, depth ≤ bound → ((x bound).run peer).run past = .ok a now
  ends_pure holds := ⟨0, _, _, holds, fun _ _ => rfl⟩
  ends_mono := by
    rintro α peer x - past P Q ⟨depth, a, now, holds, run⟩ weaker
    exact ⟨depth, a, now, weaker a () now holds, run⟩
  ends_bind := by
    rintro α β peer x f - past P ⟨depth, a, mid, ⟨depth', b, now, holds, second⟩, first⟩
    -- from the larger of both depths on, neither step looks at the bound any more
    refine ⟨max depth depth', b, now, holds, fun bound enough => ?_⟩
    exact (Dialogue.run_bind (first bound (Nat.max_le.1 enough).1)).trans
      (second bound (Nat.max_le.1 enough).2)
  ends_succ := by
    rintro α peer x - past P ⟨depth, a, now, holds, run⟩
    refine ⟨depth + 1, a, now, holds, fun bound enough => ?_⟩
    -- no bound that is large enough is the least one
    cases bound with
    | zero => cases enough
    | succ bound => exact run bound (Nat.le_of_succ_le_succ enough)
  ends_ask := by
    intro peer command _ past P reliable holds
    obtain ⟨answer, given⟩ := reliable (past.map fun e => .request e.command) command
    refine ⟨0, _, _, holds answer given, fun _ _ => ?_⟩
    have asked : ((Wire.ask command >>= pure : Dialogue _).run peer).run past =
        .ok (.ok answer) (⟨command, .ok answer⟩ :: past) :=
      Dialogue.run_ask (e := ⟨command, .ok answer⟩) given pure
    rwa [bind_pure] at asked

section Layers

variable {m : Type → Type} {S : Type} [Monad m] {σ : Type}

/-- Nothing fails, as no request does. -/
instance [Ending m S] : Ending (ExceptT Failure m) S where
  Ends peer x s past P := Ends peer (fun bound => (x bound).run) s past
    fun outcome now later => ∃ a, outcome = .ok a ∧ P a now later
  ends_pure holds := ends_pure ⟨_, rfl, holds⟩
  ends_mono hx weaker := by
    refine ends_mono hx ?_
    rintro outcome now later ⟨a, rfl, holds⟩
    exact ⟨a, rfl, weaker a now later holds⟩
  ends_bind hx := by
    refine ends_bind (ends_mono hx ?_)
    rintro outcome mid later ⟨a, rfl, next⟩
    exact next
  ends_succ hx := ends_succ hx

instance [Ending m S] : Ending (StateT σ m) (σ × S) where
  Ends peer x s past P := Ends peer (fun bound => (x bound).run s.1) s.2 past
    fun next now later => P next.1 (next.2, now) later
  ends_pure holds := ends_pure holds
  ends_mono hx weaker := ends_mono hx fun _ _ _ holds => weaker _ _ _ holds
  ends_bind hx := ends_bind hx
  ends_succ hx := ends_succ hx

instance [Wire m] [EndingWire m S] : EndingWire (StateT σ m) (σ × S) where
  ends_ask reliable holds := ends_bind (ends_ask reliable fun answer said =>
    ends_pure (holds answer said))

end Layers

section Rules

variable {m : Type → Type} {S : Type} [Monad m] {σ α β : Type} {peer : Peer} {s : S}
  {past : List Exchange}

section Steps

variable [Ending m S]

/-- **One step after another.** -/
theorem ends_seq {x : Nat → m α} {f : Nat → α → m β} {P : α → S → List Exchange → Prop}
    {Q : β → S → List Exchange → Prop} (first : Ends peer x s past P)
    (next : ∀ a mid later, P a mid later → Ends peer (fun bound => f bound a) mid later Q) :
    Ends peer (fun bound => x bound >>= f bound) s past Q :=
  ends_bind (ends_mono first next)

theorem ends_map [LawfulMonad m] {f : α → β} {x : Nat → m α} {P : β → S → List Exchange → Prop}
    (h : Ends peer x s past fun a now later => P (f a) now later) :
    Ends peer (fun bound => f <$> x bound) s past P := by
  simp only [map_eq_pure_bind]
  exact ends_seq h fun _ _ _ holds => ends_pure holds

theorem ends_ite {c : Prop} [Decidable c] {x y : Nat → m α} {P : α → S → List Exchange → Prop}
    (yes : c → Ends peer x s past P) (no : ¬c → Ends peer y s past P) :
    Ends peer (fun bound => if c then x bound else y bound) s past P := by
  by_cases h : c
  · simpa only [if_pos h] using yes h
  · simpa only [if_neg h] using no h

end Steps

section State

variable [Ending m S] {P : σ → σ × S → List Exchange → Prop}
  {Q : PUnit → σ × S → List Exchange → Prop} {s : σ × S}

/-- What only looks at the state and changes it asks nothing. -/
theorem ends_state {a : α} {now : σ} {P : α → σ × S → List Exchange → Prop}
    (holds : P a (now, s.2) past) :
    Ends peer (fun _ => (pure (a, now) >>= fun next : α × σ =>
      (pure (Except.ok next.1, next.2) : m (Except Failure α × σ)))) s.2 past
      fun next now later => ∃ a, next.1 = .ok a ∧ P a (next.2, now) later :=
  ends_bind (ends_pure (ends_pure ⟨a, rfl, holds⟩))

theorem ends_get (holds : P s.1 s past) :
    Ends peer (fun _ => (get : ExceptT Failure (StateT σ m) σ)) s past P :=
  ends_state holds

theorem ends_modify {f : σ → σ} (holds : Q () (f s.1, s.2) past) :
    Ends peer (fun _ => (modify f : ExceptT Failure (StateT σ m) PUnit)) s past Q :=
  ends_state holds

theorem ends_set {now : σ} (holds : Q () (now, s.2) past) :
    Ends peer (fun _ => (set now : ExceptT Failure (StateT σ m) PUnit)) s past Q :=
  ends_state holds

end State

theorem ends_discard [Ending m S] {x : Nat → ExceptT Failure m α}
    {P : Unit → S → List Exchange → Prop}
    (h : Ends peer x s past fun _ now later => P () now later) :
    Ends peer (fun bound => discard (x bound)) s past P := by
  refine ends_seq (m := m) h ?_
  rintro _ now later ⟨a, rfl, holds⟩
  exact ends_pure ⟨(), rfl, holds⟩

theorem ends_request [Wire m] [EndingWire m S] {command : String}
    {P : String → S → List Exchange → Prop} (reliable : peer.Reliable)
    (holds : ∀ answer, peer.Says past ⟨command, .ok answer⟩ →
      P answer s (⟨command, .ok answer⟩ :: past)) :
    Ends peer (fun _ => (Wire.request command : ExceptT Failure m String)) s past P :=
  ends_ask reliable fun answer said => ⟨answer, rfl, holds answer said⟩

end Rules

end DebugLink
