import DebugLink.Text.Range
import DebugLink.Text.Search

/-!
# Blank characters

The characters with the Unicode property `White_Space`, and what is done with them: trimming a text
at its ends and splitting it into words.

* `isBlank_of_isWhitespace`: every blank of ASCII is among them.
-/

namespace DebugLink.Text

/-- The ranges of code points with the property `White_Space`. -/
def blankRanges : List (Nat × Nat) :=
  [(0x09, 0x0D), (0x20, 0x20), (0x85, 0x85), (0xA0, 0xA0), (0x1680, 0x1680), (0x2000, 0x200A),
   (0x2028, 0x2029), (0x202F, 0x202F), (0x205F, 0x205F), (0x3000, 0x3000)]

/-- Whether a character has the property `White_Space`. -/
def isBlank (c : Char) : Bool := inRanges blankRanges c

/-- The text without the blanks at its start. -/
def trimStart (s : List Char) : List Char := s.dropWhile isBlank

/-- The text without the characters at its end that satisfy `p`. -/
def dropEndWhile (p : Char → Bool) : List Char → List Char
  | [] => []
  | c :: s =>
    match dropEndWhile p s with
    | [] => if p c then [] else [c]
    | r => c :: r

/-- The text without the blanks at its end. -/
def trimEnd (s : List Char) : List Char := dropEndWhile isBlank s

/-- The text without the blanks at both ends. -/
def trim (s : List Char) : List Char := trimEnd (trimStart s)

/-- The maximal runs of characters that are not blank. -/
def words (s : List Char) : List (List Char) := go s |>.filter (!·.isEmpty)
where
  /-- The runs between single blanks, the empty ones included. -/
  go : List Char → List (List Char)
    | [] => [[]]
    | c :: s =>
      if isBlank c then [] :: go s
      else match go s with
        | [] => [[c]]
        | w :: ws => (c :: w) :: ws

/-- The first word, empty when there is none. -/
def firstWord (s : List Char) : List Char := (words s).headD []

/-- The text before and after the first blank; all of it when there is none. -/
def splitBlank (s : List Char) : List Char × List Char := (cutWhere? isBlank s).getD (s, [])

/-- The first line, without its line end. -/
def firstLine (s : List Char) : List Char :=
  match cutWhere? (· == '\n') s with
  | none => s
  | some cut => (before? ['\r'] cut.1).getD cut.1

theorem isBlank_of_isWhitespace {c : Char} (h : c.isWhitespace = true) : isBlank c = true := by
  simp only [Char.isWhitespace, Bool.or_eq_true, decide_eq_true_eq] at h
  rcases h with ((rfl | rfl) | rfl) | rfl <;> decide

end DebugLink.Text
