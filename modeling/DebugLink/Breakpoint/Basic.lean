import DebugLink.Record.Cursor

/-!
# Breakpoints as gdb reports them

The latest state of one breakpoint, its address, and the place it was asked for. The number `0`
addresses every breakpoint at once.
-/

namespace DebugLink.Breakpoint

open Text

/-- The number that addresses every breakpoint in records that speak of them in bulk. -/
def allBreakpoints : Nat := 0

/-- Where a breakpoint is in memory. -/
inductive Address
  /-- No symbols for its location are loaded yet. -/
  | pending
  | resolved (address : Nat)
  deriving DecidableEq, Repr, Inhabited

/-- The address as it is shown, with at least eight digits. -/
def Address.display : Address → String
  | pending => Record.pendingAddress
  | resolved address => "0x" ++ hexDigits 8 address

/-- The latest state of one breakpoint. -/
structure Snapshot where
  id : Nat
  enabled : Bool
  address : Address
  function : String := ""
  file : String := ""
  line : Nat := 0
  hits : Nat := 0
  ignoreCount : Nat := 0
  condition : String := ""
  deriving DecidableEq, Repr

/-- Whether the location of the breakpoint is not known yet. -/
def Snapshot.isPending (s : Snapshot) : Bool := s.address = .pending

/-- The place at which a breakpoint is asked for. -/
inductive Location
  | line (file fullPath : String) (line : Nat)
  | function (name : String)
  deriving DecidableEq, Repr

/-- The place as it is shown to the user. -/
def Location.describe : Location → String
  | line _ fullPath n => s!"{fullPath}:{n}"
  | function name => name

end DebugLink.Breakpoint
