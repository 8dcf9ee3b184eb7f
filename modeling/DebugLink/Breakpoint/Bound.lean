import DebugLink.Breakpoint.Basic
import DebugLink.Breakpoint.Policy
import DebugLink.Breakpoint.Gates

/-!
# Bound breakpoints

A breakpoint of the user interface that is bound to a number of gdb. The number changes when the
breakpoint is created anew; the rest is what the user configured and what the session remembers
from one hit to the next.
-/

namespace DebugLink.Breakpoint

/-- A breakpoint of the user interface, bound to a number of gdb. -/
structure Bound where
  gdbId : Nat
  location : Location
  /-- The gates held at the moment. -/
  held : Gates := {}
  hits : Nat := 0
  passCount : PassCount := {}
  condition : Condition := {}
  /-- Whether the session compares values at every hit. -/
  comparesValues : Bool := false
  /-- The value of the expression at the last hit. -/
  previousValue : String := ""
  /-- Whether the pass count stops at one hit only. -/
  stopsOnce : Bool := false
  /-- The count of which every multiple stops; none when it is `0`. -/
  stopsEvery : Nat := 0
  deriving DecidableEq, Repr

namespace Bound

/-- The breakpoint with a set of gates taken, when all of it was free. -/
def tryHold (b : Bound) (gates : Gates) : Option Bound :=
  (b.held.tryTake gates).map fun held => { b with held }

/-- The breakpoint with a set of gates given back. -/
def free (b : Bound) (gates : Gates) : Bound := { b with held := b.held.without gates }

/-- The breakpoint with a pass count, and what the session remembers of it for the next hit. -/
def withPassCount (b : Bound) (p : PassCount) : Bound :=
  { b with
    passCount := p
    stopsOnce := p.style = .equal
    stopsEvery := if p.style = .multiple then p.count else 0 }

/-- The breakpoint with a condition that gdb checks, or with none. -/
def withGdbCondition (b : Bound) (c : Condition) : Bound :=
  { b with comparesValues := false, previousValue := "", condition := c }

/-- The breakpoint with a condition that the session checks. The expression itself stands for the
value at the hit before the first. -/
def withComparison (b : Bound) (c : Condition) : Bound :=
  { b with comparesValues := true, previousValue := c.expression, condition := c }

end Bound

end DebugLink.Breakpoint
