import DebugLink.Text.Search

/-!
# Positions in a text

A position is a number of bytes of a text in UTF-8. A text is cut only where a character starts or
at its end: anywhere else, and beyond the end, what cuts or searches has no result at all.

* `eq_append_of_splitByte?`: a cut puts both sides together again, at its position.
* `bounds_of_search?`: what is found stands behind where the search starts, and fits the text.
* `utf8Length_of_removeBetween?`: a text does not get longer when something is removed.
-/

namespace DebugLink.Text

theorem utf8Length_cons (c : Char) (s : List Char) :
    utf8Length (c :: s) = c.utf8Size + utf8Length s := by
  -- the fold is stated for any start, as the induction needs it
  have shift : ∀ (s : List Char) (n : Nat),
      s.foldl (fun n c => n + c.utf8Size) n = n + utf8Length s := by
    intro s
    induction s with
    | nil => intro n; rfl
    | cons c s ih =>
      intro n
      unfold utf8Length
      rw [List.foldl_cons, List.foldl_cons, ih, ih (0 + c.utf8Size)]
      omega
  show s.foldl (fun n c => n + c.utf8Size) (0 + c.utf8Size) = _
  rw [shift, Nat.zero_add]

theorem utf8Length_append (s t : List Char) :
    utf8Length (s ++ t) = utf8Length s + utf8Length t := by
  induction s with
  | nil => exact (Nat.zero_add _).symm
  | cons c s ih => rw [List.cons_append, utf8Length_cons, utf8Length_cons, ih, Nat.add_assoc]

/-- The text before and behind a position. -/
def splitByte? : Nat → List Char → Option (List Char × List Char)
  | 0, s => some ([], s)
  | _ + 1, [] => none
  | n + 1, c :: s =>
    if c.utf8Size ≤ n + 1 then
      (splitByte? (n + 1 - c.utf8Size) s).map fun cut => (c :: cut.1, cut.2)
    else none

/-- A split takes nothing away, and its front has the bytes asked for. -/
theorem eq_append_of_splitByte? {n : Nat} {s a b : List Char} (cut : splitByte? n s = some (a, b)) :
    s = a ++ b ∧ utf8Length a = n := by
  induction s generalizing n a b with
  | nil =>
    cases n with
    | zero => cases cut; exact ⟨rfl, rfl⟩
    | succ n => cases cut
  | cons c s ih =>
    cases n with
    | zero => cases cut; exact ⟨rfl, rfl⟩
    | succ n =>
      rw [splitByte?] at cut
      split at cut
      · rename_i fits
        obtain ⟨⟨a', b'⟩, cut', e⟩ := Option.map_eq_some_iff.1 cut
        cases e
        obtain ⟨rfl, length⟩ := ih cut'
        refine ⟨rfl, ?_⟩
        rw [utf8Length_cons, length]
        omega
      · cases cut

/-- The bytes of the text. -/
def bytes (s : List Char) : List UInt8 := s.flatMap String.utf8EncodeChar

/-- The position of the first occurrence of `pat` that starts at a position or behind it, if there
is one. -/
def search? (pat : List Char) (start : Nat) (s : List Char) : Option (Option Nat) :=
  (splitByte? start s).map fun cut =>
    (cut? pat cut.2).map fun found => start + utf8Length found.1

/-- What is found lies between the start and the end. -/
theorem bounds_of_search? {pat s : List Char} {start pos : Nat}
    (found : search? pat start s = some (some pos)) :
    start ≤ pos ∧ pos + utf8Length pat ≤ utf8Length s := by
  obtain ⟨⟨a, b⟩, cut, found⟩ := Option.map_eq_some_iff.1 found
  obtain ⟨⟨lead, rest⟩, here, rfl⟩ := Option.map_eq_some_iff.1 found
  obtain ⟨rfl, rfl⟩ := eq_append_of_splitByte? cut
  have whole : b = lead ++ pat ++ rest := eq_append_of_cut? here
  subst whole
  simp only [utf8Length_append]
  omega

/-- The text without what stands between two positions. -/
def removeBetween? (start stop : Nat) (s : List Char) : Option (List Char) :=
  if start ≤ stop then
    (splitByte? start s).bind fun front => (splitByte? stop s).map fun back => front.1 ++ back.2
  else none

/-- What is left is no longer than what was there. -/
theorem utf8Length_of_removeBetween? {start stop : Nat} {s t : List Char}
    (removed : removeBetween? start stop s = some t) : utf8Length t ≤ utf8Length s := by
  unfold removeBetween? at removed
  split at removed
  · rename_i ordered
    obtain ⟨⟨a, a'⟩, front, removed⟩ := Option.bind_eq_some_iff.1 removed
    obtain ⟨⟨b, b'⟩, back, rfl⟩ := Option.map_eq_some_iff.1 removed
    obtain ⟨-, length⟩ := eq_append_of_splitByte? front
    obtain ⟨rfl, length'⟩ := eq_append_of_splitByte? back
    simp only [utf8Length_append]
    omega
  · cases removed

end DebugLink.Text
