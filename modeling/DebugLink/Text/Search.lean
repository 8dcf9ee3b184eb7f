/-!
# Finding and cutting text

Patterns and single characters are looked for in a list of characters, from the left. The cut
functions return the text on both sides of what they found, so nothing is counted in positions.

* `eq_append_of_cut?`: a cut puts the two sides and the pattern back together.
* `length_of_cut?`: both sides together are shorter than the text by the pattern.
-/

namespace DebugLink.Text

/-- The text before and after the first occurrence of `pat`. -/
def cut? (pat : List Char) : List Char → Option (List Char × List Char)
  | [] => if pat.isEmpty then some ([], []) else none
  | c :: s =>
    if pat.isPrefixOf (c :: s) then some ([], (c :: s).drop pat.length)
    else (cut? pat s).map fun cut => (c :: cut.1, cut.2)

/-- The text before and after the last occurrence of `pat`. -/
def cutLast? (pat : List Char) : List Char → Option (List Char × List Char)
  | [] => if pat.isEmpty then some ([], []) else none
  | c :: s =>
    match cutLast? pat s with
    | some cut => some (c :: cut.1, cut.2)
    | none => if pat.isPrefixOf (c :: s) then some ([], (c :: s).drop pat.length) else none

/-- The text before and after the first character that satisfies `p`. -/
def cutWhere? (p : Char → Bool) : List Char → Option (List Char × List Char)
  | [] => none
  | c :: s => if p c then some ([], s) else (cutWhere? p s).map fun cut => (c :: cut.1, cut.2)

/-- Whether `pat` occurs in the text. -/
def contains (pat s : List Char) : Bool := (cut? pat s).isSome

/-- Whether the string `s` starts with `lead`. -/
def startsWith (lead s : String) : Bool := lead.toList.isPrefixOf s.toList

/-- What follows `lead` at the start of the text. -/
def after? (lead s : List Char) : Option (List Char) :=
  if lead.isPrefixOf s then some (s.drop lead.length) else none

/-- What precedes `tail` at the end of the text. -/
def before? (tail s : List Char) : Option (List Char) :=
  if tail.isSuffixOf s then some (s.take (s.length - tail.length)) else none

/-- The text between a quote at its start and one at its end; all of it without such a pair. -/
def withoutQuotes (s : List Char) : List Char :=
  ((after? ['"'] s).bind (before? ['"'])).getD s

/-- The text with every occurrence of `pat` replaced, after `skip` characters of the occurrence
that has just been replaced. -/
def replaceFrom (pat new : List Char) : Nat → List Char → List Char
  | _, [] => []
  | skip + 1, _ :: s => replaceFrom pat new skip s
  | 0, c :: s =>
    if pat.isPrefixOf (c :: s) then new ++ replaceFrom pat new (pat.length - 1) s
    else c :: replaceFrom pat new 0 s

/-- The text with every occurrence of the non-empty `pat` replaced by `new`, from the left and
without overlaps. -/
def replace (pat new s : List Char) : List Char := replaceFrom pat new 0 s

/-- The fields between occurrences of the character `sep`; there is always at least one. -/
def fields (sep : Char) : List Char → List (List Char)
  | [] => [[]]
  | c :: s =>
    if c = sep then [] :: fields sep s
    else match fields sep s with
      | [] => [[c]]
      | f :: fs => (c :: f) :: fs

/-- The first `n` fields, the last of them reaching to the end of the text. -/
def fieldsUpTo (sep : Char) : Nat → List Char → List (List Char)
  | 0, _ => []
  | 1, s => [s]
  | n + 2, s =>
    match cutWhere? (· == sep) s with
    | none => [s]
    | some cut => cut.1 :: fieldsUpTo sep (n + 1) cut.2

/-- The pieces between occurrences of a carriage return with a line feed. -/
def splitCrlf : List Char → List (List Char)
  | [] => [[]]
  | '\r' :: '\n' :: s => [] :: splitCrlf s
  | c :: s =>
    match splitCrlf s with
    | [] => [[c]]
    | f :: fs => (c :: f) :: fs

/-- The number of bytes of the text in UTF-8. -/
def utf8Length (s : List Char) : Nat := s.foldl (fun n c => n + c.utf8Size) 0

/-- The text from byte `n` on; empty when that byte is not the first of a character. -/
def fromByte : Nat → List Char → List Char
  | 0, s => s
  | _ + 1, [] => []
  | n + 1, c :: s => if c.utf8Size ≤ n + 1 then fromByte (n + 1 - c.utf8Size) s else []

theorem eq_append_of_cut? {pat s a b : List Char} (h : cut? pat s = some (a, b)) :
    s = a ++ pat ++ b := by
  induction s generalizing a b with
  | nil =>
    simp only [cut?] at h
    split at h
    · simp_all
    · simp at h
  | cons c s ih =>
    simp only [cut?] at h
    split at h
    · rename_i hp
      simp only [Option.some.injEq, Prod.mk.injEq] at h
      obtain ⟨rfl, rfl⟩ := h
      simpa using List.prefix_iff_eq_append.1 (List.isPrefixOf_iff_prefix.1 hp) |>.symm
    · obtain ⟨cut, hc, he⟩ := Option.map_eq_some_iff.1 h
      simp only [Prod.mk.injEq] at he
      obtain ⟨rfl, rfl⟩ := he
      simp [ih hc]

theorem length_of_cut? {pat s a b : List Char} (h : cut? pat s = some (a, b)) :
    a.length + pat.length + b.length = s.length := by
  rw [eq_append_of_cut? h]
  simp only [List.length_append]

end DebugLink.Text
