import DebugLink.Mi.Quoted

/-!
# Fields of gdb output

gdb writes results as `name="value"` between commas, inside braces and inside brackets. A name is
found where a field may start: at the beginning of the text or after a comma or an opening bracket.

* `quotedBody?_escape`: the body of a quoted string is found whatever follows it.
-/

namespace DebugLink.Mi

open Text

/-- Whether a field may start after this character. -/
def startsField (before : Char) : Bool := before == ',' || before == '{' || before == '['

/-- What follows the first occurrence of `pat` that starts a field. Occurrences do not overlap:
after one that starts no field, the search goes on behind its `skip` characters. -/
def afterField? (pat : List Char) : Char → Nat → List Char → Option (List Char)
  | _, _, [] => none
  | _, skip + 1, c :: s => afterField? pat c skip s
  | before, 0, c :: s =>
    if pat.isPrefixOf (c :: s) then
      if startsField before then some ((c :: s).drop pat.length)
      else afterField? pat c (pat.length - 1) s
    else afterField? pat c 0 s

/-- What follows the equal sign of the first field with this name. -/
def valueAt? (key : String) (s : List Char) : Option (List Char) :=
  afterField? (key.toList ++ ['=']) ',' 0 s

/-- The body of a quoted string, after its opening quote and with its escapes. A backslash escapes
any character but a line feed. -/
def quotedBody? : List Char → Option (List Char)
  | [] => none
  | '"' :: _ => some []
  | '\\' :: c :: s => if c = '\n' then none else (quotedBody? s).map fun r => '\\' :: c :: r
  | ['\\'] => none
  | c :: s => (quotedBody? s).map (c :: ·)

/-- The string that a field holds, with its escapes. -/
def rawField? (key : String) (s : List Char) : Option (List Char) :=
  match valueAt? key s with
  | some ('"' :: r) => quotedBody? r
  | _ => none

/-- The string that a field holds. -/
def field? (key : String) (s : List Char) : Option (List Char) := (rawField? key s).map unescape

/-- The number of 32 bits that a field holds between blanks. -/
def numberField? (key : String) (s : List Char) : Option Nat :=
  (rawField? key s).bind readTrimmed32

theorem quotedBody?_escape (s rest : List Char) :
    quotedBody? (escape s ++ '"' :: rest) = some (escape s) := by
  induction s with
  | nil => rfl
  | cons c s ih =>
    have e : escape (c :: s) = escapeChar c ++ escape s := by simp [escape]
    rw [e]
    by_cases h1 : c = '\\'
    · simp [escapeChar, h1, quotedBody?, ih]
    by_cases h2 : c = '"'
    · simp [escapeChar, h2, quotedBody?, ih]
    by_cases h3 : c = '\n'
    · simp [escapeChar, h3, quotedBody?, ih]
    by_cases h4 : c = '\t'
    · simp [escapeChar, h4, quotedBody?, ih]
    simp [escapeChar, h1, h2, h3, h4, quotedBody?, ih]

end DebugLink.Mi
