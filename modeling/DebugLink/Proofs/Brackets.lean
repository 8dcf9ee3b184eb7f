import DebugLink.Mi.Tuple

/-!
# Brackets and quotes under the scan

The scan for tuples counts the open brackets of both kinds together and skips quoted strings. A text
that closes every bracket it opens, and in which no tuple is at the level that is looked for, takes
the scan from one place to the next and leaves it as it was.

* `Passed`: the scan passes the text. There is one rule for each way in which such a text is made.
* `tuplesAt_found`: a tuple at the level that is looked for.
-/

namespace DebugLink.Mi

/-- With `depth` open brackets and outside of strings, the scan for tuples at depth `level` finds
none in the text and is at the same depth behind it. -/
def Passed (level depth : Nat) (s : List Char) : Prop :=
  ∀ since rest : List Char, tuplesAt level ⟨depth, false, false, since⟩ (s ++ rest) =
    tuplesAt level ⟨depth, false, false, s.reverse ++ since⟩ rest

/-- The characters that the scan does not pass by. -/
def scanMarks : List Char := ['"', '{', '[', '}', ']']

/-- **Inside a string** the scan comes to its end, whatever the string holds: behind a backslash
there is always one more character of the string. -/
theorem tuplesAt_inString (level depth : Nat) (s since rest : List Char) :
    tuplesAt level ⟨depth, true, false, since⟩ (escape s ++ '"' :: rest) =
      tuplesAt level ⟨depth, false, false, '"' :: ((escape s).reverse ++ since)⟩ rest := by
  induction s generalizing since with
  | nil => simp [escape, tuplesAt]
  | cons c s ih =>
    rw [escape_cons]
    obtain ⟨plain, slash, quote⟩ | ⟨letter, -, escaped⟩ := escapeChar_cases c
    · simp [plain, slash, quote, tuplesAt, ih]
    · simp [escaped, tuplesAt, ih]

namespace Passed

variable {level depth : Nat}

theorem nil : Passed level depth [] := fun _ _ => rfl

theorem append {a b : List Char} (ha : Passed level depth a) (hb : Passed level depth b) :
    Passed level depth (a ++ b) := by
  intro since rest
  rw [List.append_assoc, ha, hb, List.reverse_append, List.append_assoc]

theorem char {c : Char} (unmarked : c ∉ scanMarks) : Passed level depth [c] := by
  intro since rest
  simp only [scanMarks, List.mem_cons, List.not_mem_nil, or_false, not_or] at unmarked
  obtain ⟨quote, brace, bracket, close, close'⟩ := unmarked
  rw [List.singleton_append, tuplesAt]
  simp [quote, brace, bracket, close, close']

theorem of_forall {s : List Char} (unmarked : ∀ c ∈ s, c ∉ scanMarks) : Passed level depth s := by
  induction s with
  | nil => exact nil
  | cons c s ih =>
    have head : Passed level depth [c] := char (unmarked c List.mem_cons_self)
    exact head.append (ih fun d mem => unmarked d (List.mem_cons_of_mem c mem))

/-- A string, whatever brackets it holds. -/
theorem quoted (s : List Char) : Passed level depth ('"' :: (escape s ++ ['"'])) := by
  intro since rest
  rw [List.cons_append, tuplesAt]
  simp [tuplesAt_inString]

variable {s : List Char} (inner : Passed level (depth + 1) s) (inside : depth ≠ 0)

include inner inside

theorem brackets : Passed level depth ('[' :: (s ++ [']'])) := by
  intro since rest
  rw [List.cons_append, tuplesAt, List.append_assoc]
  simp [inner _ _, tuplesAt, inside]

/-- A tuple at another level than the one that is looked for. -/
theorem braces (other : depth + 1 ≠ level) : Passed level depth ('{' :: (s ++ ['}'])) := by
  intro since rest
  rw [List.cons_append, tuplesAt, List.append_assoc]
  simp [inner _ _, tuplesAt, inside, other]

end Passed

/-- **A tuple at the level that is looked for** is found as it is written. -/
theorem tuplesAt_found {depth : Nat} {s : List Char} (inner : Passed (depth + 1) (depth + 1) s)
    (since rest : List Char) :
    ∃ later, tuplesAt (depth + 1) ⟨depth, false, false, since⟩ ('{' :: (s ++ '}' :: rest)) =
      ('{' :: (s ++ ['}'])) ::
        if depth = 0 then [] else tuplesAt (depth + 1) ⟨depth, false, false, later⟩ rest := by
  have opened : tuplesAt (depth + 1) ⟨depth, false, false, since⟩ ('{' :: (s ++ '}' :: rest)) =
      tuplesAt (depth + 1) ⟨depth + 1, false, false, ['{']⟩ (s ++ '}' :: rest) := by
    rw [tuplesAt]
    simp
  refine ⟨'}' :: (s.reverse ++ ['{']), ?_⟩
  rw [opened, inner, tuplesAt]
  by_cases outermost : depth = 0
  · simp [outermost]
  · simp [outermost]

end DebugLink.Mi
