import DebugLink.Mi.Field

/-!
# Tuples of gdb output

A field may hold a tuple in braces or a list in brackets. Its tuples are the tuple itself, or those
that are elements of the list, each with its braces and as it is written. Brackets inside quoted
strings do not count.
-/

namespace DebugLink.Mi

/-- Where a scan for tuples is. -/
structure TupleScan where
  /-- The number of open brackets of either kind. -/
  depth : Nat := 0
  inString : Bool := false
  /-- Whether the last character was a backslash that escapes the next one. -/
  escaped : Bool := false
  /-- The text since the last tuple was opened, last character first. -/
  since : List Char := []
  deriving DecidableEq, Repr

/-- The tuples at depth `level` of a text that starts with an opening bracket, up to the bracket
that closes it. -/
def tuplesAt (level : Nat) : TupleScan → List Char → List (List Char)
  | _, [] => []
  | scan, c :: s =>
    let scan := { scan with since := c :: scan.since }
    if scan.inString then
      if scan.escaped then tuplesAt level { scan with escaped := false } s
      else if c = '\\' then tuplesAt level { scan with escaped := true } s
      else if c = '"' then tuplesAt level { scan with inString := false } s
      else tuplesAt level scan s
    else if c = '"' then tuplesAt level { scan with inString := true } s
    else if c = '{' ∨ c = '[' then
      let depth := scan.depth + 1
      let since := if c = '{' ∧ depth = level then [c] else scan.since
      tuplesAt level { scan with depth, since } s
    else if c = '}' ∨ c = ']' then
      let found := if c = '}' ∧ scan.depth = level then [scan.since.reverse] else []
      let depth := scan.depth - 1
      if depth = 0 then found else found ++ tuplesAt level { scan with depth } s
    else tuplesAt level scan s

/-- The tuples that a field holds. -/
def tuples (key : String) (s : List Char) : List (List Char) :=
  match valueAt? key s with
  | some ('[' :: r) => tuplesAt 2 {} ('[' :: r)
  | some ('{' :: r) => tuplesAt 1 {} ('{' :: r)
  | _ => []

/-- The first tuple that a field holds. -/
def tuple? (key : String) (s : List Char) : Option (List Char) := (tuples key s).head?

end DebugLink.Mi
