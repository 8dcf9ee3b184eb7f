import DebugLink.Text.Escaped

/-!
# Quoted strings of gdb

gdb writes strings in double quotes with a backslash before quotes and backslashes, and reads them
so as well. Of the other escapes only those for line feed, carriage return and tab are undone; a
backslash before anything else stands for itself.

* `escapeChar_cases`: a character stands for itself, or for it stand a backslash and a letter.
* `unescape_escape`: undoing the escapes gives back the text.
-/

namespace DebugLink.Mi

/-- The text of a string without its escapes. -/
def unescape : List Char → List Char
  | [] => []
  | '\\' :: '\\' :: s => '\\' :: unescape s
  | '\\' :: '"' :: s => '"' :: unescape s
  | '\\' :: 'n' :: s => '\n' :: unescape s
  | '\\' :: 'r' :: s => '\r' :: unescape s
  | '\\' :: 't' :: s => '\t' :: unescape s
  | c :: s => c :: unescape s

/-- The spelling of one character of a string; a carriage return stands for itself. -/
def escapeChar (c : Char) : List Char :=
  if c = '\\' then ['\\', '\\']
  else if c = '"' then ['\\', '"']
  else if c = '\n' then ['\\', 'n']
  else if c = '\t' then ['\\', 't']
  else [c]

/-- The text with its escapes. -/
def escape (s : List Char) : List Char := s.flatMap escapeChar

/-- The text in quotes, as an argument of a command. -/
def quote (s : String) : String := String.ofList ('"' :: escape s.toList ++ ['"'])

theorem escape_cons (c : Char) (s : List Char) : escape (c :: s) = escapeChar c ++ escape s :=
  List.flatMap_cons

theorem escape_append (s t : List Char) : escape (s ++ t) = escape s ++ escape t :=
  List.flatMap_append

theorem escapeChar_cases (c : Char) :
    escapeChar c = [c] ∧ c ≠ '\\' ∧ c ≠ '"' ∨
      ∃ letter ∈ ['\\', '"', 'n', 't'], escapeChar c = ['\\', letter] := by
  by_cases slash : c = '\\'
  · exact .inr ⟨'\\', by decide, by simp [escapeChar, slash]⟩
  by_cases quote : c = '"'
  · exact .inr ⟨'"', by decide, by simp [escapeChar, quote]⟩
  by_cases feed : c = '\n'
  · exact .inr ⟨'n', by decide, by simp [escapeChar, feed]⟩
  by_cases tab : c = '\t'
  · exact .inr ⟨'t', by decide, by simp [escapeChar, tab]⟩
  exact .inl ⟨by simp [escapeChar, slash, quote, feed, tab], slash, quote⟩

theorem unescape_escape (s : List Char) : unescape (escape s) = s := by
  induction s with
  | nil => rfl
  | cons c s ih =>
    have e : escape (c :: s) = escapeChar c ++ escape s := by simp [escape]
    rw [e]
    by_cases h1 : c = '\\'
    · simp [escapeChar, h1, unescape, ih]
    by_cases h2 : c = '"'
    · simp [escapeChar, h2, unescape, ih]
    by_cases h3 : c = '\n'
    · simp [escapeChar, h3, unescape, ih]
    by_cases h4 : c = '\t'
    · simp [escapeChar, h4, unescape, ih]
    simp [escapeChar, h1, h2, h3, h4, unescape, ih]

end DebugLink.Mi
