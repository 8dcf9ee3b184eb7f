import DebugLink.Text.Ignorable
import DebugLink.Text.Mark
import DebugLink.Text.Numeral
import DebugLink.Text.Unseen

/-!
# Text quoted in messages

A message quotes the text it speaks of: in double quotes, with a backslash before a quote and a
backslash, short escapes for the usual controls, and the code point of any other character that
would not show.

* `escaped_eq_self`: a character that shows by itself and is neither quote nor backslash stands for
  itself.
-/

namespace DebugLink.Text

/-- Whether a character joins the one before it, and would do so with a quote. The sound marks of
halfwidth kana are marks as well, but they have a place of their own. -/
def isJoining (c : Char) : Bool := isMark c && c != '\uFF9E' && c != '\uFF9F'

/-- Whether a character is spelled by its code point, because it would not show by itself. -/
def needsCode (c : Char) : Bool := isUnseen c || isIgnorable c || isJoining c

/-- The spelling of one character inside quotes. -/
def escaped (c : Char) : List Char :=
  if c = '"' ∨ c = '\\' then ['\\', c]
  else if c = '\n' then ['\\', 'n']
  else if c = '\r' then ['\\', 'r']
  else if c = '\t' then ['\\', 't']
  else if c = '\x00' then ['\\', '0']
  else if needsCode c then "\\u\x7b".toList ++ Nat.toDigits 16 c.toNat ++ ['}']
  else [c]

/-- The text in double quotes, as messages show it. -/
def quoted (s : String) : String :=
  String.ofList ('"' :: s.toList.flatMap escaped ++ ['"'])

theorem escaped_eq_self {c : Char} (quote : c ≠ '"') (slash : c ≠ '\\')
    (shows : needsCode c = false) : escaped c = [c] := by
  have hn : c ≠ '\n' := by rintro rfl; exact absurd shows (by decide)
  have hr : c ≠ '\r' := by rintro rfl; exact absurd shows (by decide)
  have ht : c ≠ '\t' := by rintro rfl; exact absurd shows (by decide)
  have h0 : c ≠ '\x00' := by rintro rfl; exact absurd shows (by decide)
  simp [escaped, quote, slash, hn, hr, ht, h0, shows]

end DebugLink.Text
