import DebugLink.Breakpoint.Basic

/-!
# Records about breakpoints

What a record of the category `2` says. The kind alone tells the forms apart: `0` and `1` carry a
snapshot, `2` to `5` a number or nothing, `6` an ignore count, `7` a hit, `8` a condition.
-/

namespace DebugLink.Breakpoint

open Record Reading

/-- What a record about breakpoints says. -/
inductive Notice
  | inserted (snapshot : Snapshot)
  | modified (snapshot : Snapshot)
  | deleted (id : Nat)
  | enabled (id : Nat)
  | disabled (id : Nat)
  /-- The next `count` hits pass. -/
  | ignoreCount (id count : Nat)
  | hit (id : Nat) (file : String) (line thread : Nat)
  /-- An empty condition is none. -/
  | condition (id : Nat) (condition : String)
  /-- gdb could not evaluate a condition, and says so on its console. -/
  | conditionError
  | unused
  deriving DecidableEq, Repr

namespace Notice

/-- The fields `id;enabled;address;function;file;line;hits`. A breakpoint without a location, where
one may be, ends with the literal that stands for its address. -/
def snapshot (mayBePending : Bool) : Reading Snapshot := do
  let id ← numberField "id"
  let enabled := (← field "enabled") == "y"
  let raw ← fieldOrRest "address"
  if mayBePending && raw == pendingAddress then
    return { id, enabled, address := .pending, function := unknownFunction }
  let address := .resolved (← Reading.address raw "address")
  let function ← field "function"
  let file ← field "file"
  let line ← numberField "line"
  let hits ← numberRest "hits"
  return { id, enabled, address, function, file, line, hits }

/-- A number; every breakpoint when there is none. -/
def optionalId : Reading Nat := do
  match ← rest? with
  | some raw => number raw "id"
  | none => return allBreakpoints

/-- The fields of a record about breakpoints. -/
def reading : Reading Notice := do
  let cursor ← get
  match cursor.tag.kind with
  | 0 => return inserted (← snapshot true)
  | 1 => return modified (← snapshot false)
  | 2 | 5 => return deleted (← optionalId)
  | 3 => return enabled (← optionalId)
  | 4 => return disabled (← optionalId)
  | 6 =>
    let id ← numberField "id"
    return ignoreCount id (← numberRest "ignore count")
  | 7 =>
    let id ← numberField "id"
    let file ← field "file"
    let line ← numberField "line"
    return hit id file line (← numberRest "thread")
  | 8 =>
    if cursor.hasDelimiter then
      let id ← numberField "id"
      return condition id ((← rest?).getD "")
    else
      return condition (← numberRest "id") ""
  | 9 => return conditionError
  | _ => return unused

/-- What a record about breakpoints says. -/
def read (record : String) : Except Defect Notice := reading.run record

end Notice

end DebugLink.Breakpoint
