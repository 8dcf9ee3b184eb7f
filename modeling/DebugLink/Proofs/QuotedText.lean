import DebugLink.Mi.Line
import DebugLink.Proofs.FieldSearch

/-!
# Quoted text is read back

A string is written in quotes in one way and read in three: as the string of a field, without its
quotes, and as the text of a stream. Each of them gives back the text, whatever characters it holds.

* `valueAt?_own`: a name at the start of a text is found there, whatever it is.
* `rawField?_quote`: the string of a field ends where its quotes end.
* `quoted_read_back`: every reader gives back the text.
-/

namespace DebugLink.Mi

open Text

theorem toList_quote (s : String) : (quote s).toList = '"' :: (escape s.toList ++ ['"']) := by
  rw [quote, String.toList_ofList, List.cons_append]

/-- A name at the start of the text is found there, also when it is no name that gdb gives. -/
theorem valueAt?_own (key : String) (rest : List Char) :
    valueAt? key (key.toList ++ '=' :: rest) = some rest :=
  lookUp_found rfl rest

/-- **The string of a field** ends where its quotes end, whatever follows. -/
theorem rawField?_quote (key s : String) (rest : List Char) :
    rawField? key (key.toList ++ '=' :: ((quote s).toList ++ rest)) = some (escape s.toList) := by
  rw [rawField?, valueAt?_own, toList_quote, List.cons_append, List.append_assoc]
  exact quotedBody?_escape s.toList rest

theorem withoutQuotes_quoted (s : List Char) : withoutQuotes ('"' :: (s ++ ['"'])) = s := by
  have opened : after? ['"'] ('"' :: (s ++ ['"'])) = some (s ++ ['"']) := by simp [after?]
  have closed : before? ['"'] (s ++ ['"']) = some s := by simp [before?]
  rw [withoutQuotes, opened, Option.bind_some, closed, Option.getD_some]

theorem streamText_quote (s : String) : streamText (quote s).toList = s := by
  rw [streamText, toList_quote, withoutQuotes_quoted, unescape_escape, String.ofList_toList]

/-- A line is told by the mark of the stream before the quotes. -/
theorem classify_quote (s : String) :
    Line.classify ("~" ++ quote s) = .console s ∧ Line.classify ("@" ++ quote s) = .target s ∧
      Line.classify ("&" ++ quote s) = .log s := by
  have text := streamText_quote s
  have line : ∀ (mark : String) (c : Char), mark.toList = [c] → c ≠ '(' →
      mark ++ quote s ≠ "(gdb)" ∧ (mark ++ quote s).toList = c :: (quote s).toList := by
    intro mark c one other
    have written : (mark ++ quote s).toList = c :: (quote s).toList := by
      rw [String.toList_append, one, List.singleton_append]
    refine ⟨fun prompt => other ?_, written⟩
    rw [prompt] at written
    exact (List.cons.inj written).1.symm
  obtain ⟨console, console'⟩ := line "~" '~' rfl (by decide)
  obtain ⟨target, target'⟩ := line "@" '@' rfl (by decide)
  obtain ⟨log, log'⟩ := line "&" '&' rfl (by decide)
  refine ⟨?_, ?_, ?_⟩
  · simp [Line.classify, console, console', text]
  · simp [Line.classify, target, target', text]
  · simp [Line.classify, log, log', text]

/-- **Quoted text is read back** by every reader of it. Behind any name with an equal sign it is the
string of that field, whatever follows it; between its two quotes there is what stands for the text
without its escapes; and behind the mark of a stream it is the text of that stream. -/
theorem quoted_read_back (key s rest : String) :
    field? key (key ++ "=" ++ quote s ++ rest).toList = some s.toList ∧
      (∃ body, (quote s).toList = '"' :: (body ++ ['"']) ∧ unescape body = s.toList) ∧
      Line.classify ("~" ++ quote s) = .console s ∧ Line.classify ("@" ++ quote s) = .target s ∧
      Line.classify ("&" ++ quote s) = .log s := by
  refine ⟨?_, ⟨escape s.toList, toList_quote s, unescape_escape s.toList⟩, classify_quote s⟩
  have written : (key ++ "=" ++ quote s ++ rest).toList =
      key.toList ++ '=' :: ((quote s).toList ++ rest.toList) := by simp
  rw [field?, written, rawField?_quote, Option.map_some, unescape_escape]

end DebugLink.Mi
