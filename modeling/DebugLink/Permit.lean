/-!
# Permits

A permit is taken by one holder at a time and may be released by another. It stands for a gate
that is open or shut and for a region that is free or entered.

* `tryTake_isSome_iff`: a permit is taken exactly when it is free.
* `release_of_tryTake`: releasing a permit that was taken restores it.
-/

namespace DebugLink

/-- A permit for one holder. -/
structure Permit where
  isFree : Bool := true
  deriving DecidableEq, Repr

namespace Permit

/-- The permit after it was taken, when it was free. -/
def tryTake (p : Permit) : Option Permit := if p.isFree then some ⟨false⟩ else none

/-- The permit after it was released; releasing a free one changes nothing. -/
def release (_ : Permit) : Permit := ⟨true⟩

theorem tryTake_isSome_iff {p : Permit} : p.tryTake.isSome ↔ p.isFree := by
  cases h : p.isFree <;> simp [tryTake, h]

theorem release_of_tryTake {p q : Permit} (h : p.tryTake = some q) : q.release = p := by
  cases p with
  | mk free => cases free <;> simp_all [tryTake, release]

end Permit

end DebugLink
