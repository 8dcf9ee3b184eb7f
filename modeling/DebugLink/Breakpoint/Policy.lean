/-!
# When a breakpoint stops

Two policies that the user gives a breakpoint: a pass count, which says at which hits it stops, and
a condition.
-/

namespace DebugLink.Breakpoint

/-- At which hits a breakpoint stops, compared with a count. -/
inductive PassStyle
  /-- At every hit. -/
  | always
  | equal
  | atLeast
  /-- At the multiples of the count. -/
  | multiple
  deriving DecidableEq, Repr

/-- The hits at which a breakpoint stops. -/
structure PassCount where
  style : PassStyle := .always
  count : Nat := 0
  deriving DecidableEq, Repr

/-- Whether a stop is allowed at the hit with this number. -/
def PassCount.allows (p : PassCount) (hits : Nat) : Bool :=
  match p.style with
  | .always => true
  | .equal => hits == p.count
  | .atLeast => p.count ≤ hits
  | .multiple => p.count != 0 && hits % p.count == 0

/-- How the expression of a condition is used. -/
inductive ConditionStyle
  /-- There is no condition. -/
  | unconditional
  | whenTrue
  /-- The breakpoint stops when the value of the expression differs from that at the last hit. gdb
  cannot do this: it stops every time and the session compares. -/
  | whenChanged
  deriving DecidableEq, Repr

/-- The condition under which a breakpoint stops. -/
structure Condition where
  style : ConditionStyle := .unconditional
  expression : String := ""
  deriving DecidableEq, Repr

/-- A condition on the truth of an expression. -/
def Condition.whenTrue (expression : String) : Condition := ⟨.whenTrue, expression⟩

/-- A condition on the change of an expression. -/
def Condition.whenChanged (expression : String) : Condition := ⟨.whenChanged, expression⟩

end DebugLink.Breakpoint
