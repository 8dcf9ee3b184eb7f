/-!
# The gates of a breakpoint

Two gates guard a bound breakpoint: one its hit count, one its condition. Whoever changes either
holds the gate meanwhile. A set of gates is taken as a whole or not at all, and what was taken is
recorded under the slot of its holder, so that it can be given back.

* `held_tryTake`, `tryTake_isSome_iff`: a set is taken exactly when all of it is free, and then
  held as well.
* `not_meets_without`: after a set was given back, none of it is held.
-/

namespace DebugLink.Breakpoint

/-- A set of gates. -/
structure Gates where
  hitCount : Bool := false
  condition : Bool := false
  deriving DecidableEq, Repr

namespace Gates

/-- Both gates. -/
def both : Gates := ⟨true, true⟩

/-- The gate of the hit count alone. -/
def hitCountOnly : Gates := ⟨true, false⟩

/-- The gate of the condition alone. -/
def conditionOnly : Gates := ⟨false, true⟩

/-- Whether two sets have a gate in common. -/
def meets (a b : Gates) : Bool := a.hitCount && b.hitCount || a.condition && b.condition

/-- The gates of either set. -/
def union (a b : Gates) : Gates := ⟨a.hitCount || b.hitCount, a.condition || b.condition⟩

/-- The gates of the first set that are not in the second. -/
def without (a b : Gates) : Gates := ⟨a.hitCount && !b.hitCount, a.condition && !b.condition⟩

/-- The held gates after `wanted` was taken, when none of it was held. -/
def tryTake (held wanted : Gates) : Option Gates :=
  if held.meets wanted then none else some (held.union wanted)

theorem tryTake_isSome_iff {held wanted : Gates} :
    (held.tryTake wanted).isSome ↔ held.meets wanted = false := by
  cases h : held.meets wanted <;> simp [tryTake, h]

theorem held_tryTake {held wanted now : Gates} (h : held.tryTake wanted = some now) :
    now = held.union wanted ∧ now.without wanted = held := by
  obtain ⟨a, b⟩ := held
  obtain ⟨c, d⟩ := wanted
  cases a <;> cases b <;> cases c <;> cases d <;>
    simp_all [tryTake, meets, union, without, eq_comm]

theorem not_meets_without (a b : Gates) : (a.without b).meets b = false := by
  obtain ⟨a, c⟩ := a
  obtain ⟨b, d⟩ := b
  cases a <;> cases b <;> cases c <;> cases d <;> rfl

/-- Where both gates are free, none is held. -/
theorem eq_empty {g : Gates} (h : g.meets both = false) : g = {} := by
  obtain ⟨a, c⟩ := g
  cases a <;> cases c <;> simp_all [meets, both]

end Gates

/-- The gates of one breakpoint and who holds them: each holder has a slot. -/
structure Holders where
  held : Gates := {}
  guards : List (Nat × Gates) := []
  deriving DecidableEq, Repr

namespace Holders

/-- The gates held from one slot. -/
def guard? (h : Holders) (slot : Nat) : Option Gates := h.guards.lookup slot

/-- Gives back what is held from a slot. -/
def drop (h : Holders) (slot : Nat) : Holders :=
  match h.guard? slot with
  | some gates => ⟨h.held.without gates, h.guards.filter (·.1 != slot)⟩
  | none => h

/-- Takes a set of gates for a slot, when all of it is free; what the slot held before is then
given back. -/
def tryLock (h : Holders) (gates : Gates) (slot : Nat) : Option Holders :=
  (h.held.tryTake gates).map fun held =>
    let dropped := { h with held }.drop slot
    ⟨dropped.held, (slot, gates) :: dropped.guards⟩

end Holders

end DebugLink.Breakpoint
