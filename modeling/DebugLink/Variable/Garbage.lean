import DebugLink.Text.Position

/-!
# Garbage behind strings

gdb prints a character array beyond the end of the string in it: behind the end there is an escaped
zero character, and garbage up to the closing quote. Both are removed from every quoted string of
a value. A quote counts unless a backslash precedes it; outside of quotes nothing is removed.

The strings are cut in place: the text is changed while it is searched, and the positions at which
the search goes on are those in the changed text. Beside that stands the same in one pass.

* `cutStrings?`: the strings cut in place, from a position on.
* `withoutGarbage`: the text in one pass.
* `toQuote_length`: what follows a quote is shorter than the text before it was looked for.
-/

namespace DebugLink.Variable

open Text

/-- The spelling of the zero character that ends a string. -/
def endMarker : List Char := ['\\', '\\', '0', '0', '0']

/-! ## In place -/

/-- Whether the quote at a position counts. -/
def countsAt (pos : Nat) (s : List Char) : Bool := pos == 0 || (bytes s)[pos - 1]? != some 92

/-- The position of the next quote that counts, at a position or behind it, if there is one. -/
def quoteFrom? (start : Nat) (s : List Char) : Option (Option Nat) :=
  match _ : search? ['"'] start s with
  | none => none
  | some none => some none
  | some (some pos) => if countsAt pos s then some (some pos) else quoteFrom? (pos + 1) s
termination_by utf8Length s - start
decreasing_by
  have := bounds_of_search? ‹search? ['"'] start s = some (some pos)›
  have : utf8Length ['"'] = 1 := rfl
  omega

/-- The position of the first end marker behind the position `opening`, if there is one; `mark` is
the position of a marker. -/
def markBehind? (opening mark : Nat) (s : List Char) : Option (Option Nat) :=
  if mark < opening then
    match _ : search? endMarker (mark + 1) s with
    | none => none
    | some none => some none
    | some (some next) => markBehind? opening next s
  else some (some mark)
termination_by opening - mark
decreasing_by
  have := bounds_of_search? ‹search? endMarker (mark + 1) s = some (some next)›
  omega

theorem bounds_of_quoteFrom? {start pos : Nat} {s : List Char}
    (found : quoteFrom? start s = some (some pos)) : start ≤ pos ∧ pos < utf8Length s := by
  fun_induction quoteFrom? start s with
  | case1 => cases found
  | case2 => cases found
  | case3 start pos' here counts =>
    cases found
    exact bounds_of_search? here
  | case4 start pos' here counts ih =>
    have later := ih found
    have first := bounds_of_search? here
    omega

theorem le_of_markBehind? {opening mark pos : Nat} {s : List Char}
    (found : markBehind? opening mark s = some (some pos)) : opening ≤ pos := by
  fun_induction markBehind? opening mark s with
  | case1 => cases found
  | case2 => cases found
  | case3 mark before next here ih => exact ih found
  | case4 mark behind =>
    cases found
    exact Nat.le_of_not_lt behind

/-- The text with its strings cut, from the position `start` on, where `mark` is the position of the
first end marker from there on. Behind a string that was cut the search goes on at the place to
which its closing quote has moved. -/
def cutStrings? (mark : Option Nat) (start : Nat) (s : List Char) : Option (List Char) :=
  match mark with
  | none => some s
  | some mark =>
    match _ : quoteFrom? start s with
    | none => none
    | some none => some s
    | some (some opening) =>
      match _ : quoteFrom? (opening + 1) s with
      | none => none
      | some none => some s
      | some (some closing) =>
        match _ : markBehind? opening mark s with
        | none => none
        | some none => some s
        | some (some mark) =>
          if mark < closing then
            match _ : removeBetween? mark closing s with
            | none => none
            | some cut =>
              match search? endMarker mark cut with
              | none => none
              | some next => cutStrings? next (mark + 1) cut
          else cutStrings? (some mark) (closing + 1) s
termination_by utf8Length s - start
decreasing_by
  · have := bounds_of_quoteFrom? ‹quoteFrom? start s = some (some opening)›
    have := le_of_markBehind? ‹markBehind? opening _ s = some (some mark)›
    have := utf8Length_of_removeBetween? ‹removeBetween? mark closing s = some cut›
    omega
  · have := bounds_of_quoteFrom? ‹quoteFrom? start s = some (some opening)›
    have := bounds_of_quoteFrom? ‹quoteFrom? (opening + 1) s = some (some closing)›
    omega

/-- The value without garbage behind its strings, unless a text is cut inside of a character. -/
def stripGarbage? (value : String) : Option String := do
  let mark ← search? endMarker 0 value.toList
  let cut ← cutStrings? mark 0 value.toList
  return String.ofList cut

/-- The value without garbage behind its strings. -/
def stripGarbage (value : String) : String := (stripGarbage? value).getD value

/-! ## In one pass -/

/-- The text before and after the next quote without a backslash before it, where `before` is the
character in front of the text. -/
def toQuote (before : Char) : List Char → Option (List Char × List Char)
  | [] => none
  | c :: s =>
    if c = '"' ∧ before ≠ '\\' then some ([], s)
    else (toQuote c s).map fun cut => (c :: cut.1, cut.2)

theorem toQuote_length {before : Char} {s a b : List Char} (h : toQuote before s = some (a, b)) :
    a.length + b.length + 1 = s.length := by
  induction s generalizing before a b with
  | nil => simp [toQuote] at h
  | cons c s ih =>
    simp only [toQuote] at h
    split at h
    · simp only [Option.some.injEq, Prod.mk.injEq] at h
      obtain ⟨rfl, rfl⟩ := h
      simp
    · obtain ⟨cut, hc, he⟩ := Option.map_eq_some_iff.1 h
      simp only [Prod.mk.injEq] at he
      obtain ⟨rfl, rfl⟩ := he
      have := ih hc
      simp only [List.length_cons]
      omega

/-- The text up to the first end of a string in it. -/
def upToEnd (s : List Char) : List Char :=
  match cut? endMarker s with
  | some (kept, _) => kept
  | none => s

/-- The text with every quoted string cut at its end, where the character in front of the text is
`before`. A string that is not closed is left alone. -/
def withoutGarbage (before : Char) (s : List Char) : List Char :=
  match _ : toQuote before s with
  | none => s
  | some (outside, r) =>
    match _ : toQuote '"' r with
    | none => s
    | some (inside, rest) =>
      outside ++ '"' :: upToEnd inside ++ '"' :: withoutGarbage '"' rest
termination_by s.length
decreasing_by
  have := toQuote_length ‹toQuote before s = some (outside, r)›
  have := toQuote_length ‹toQuote '"' r = some (inside, rest)›
  omega

end DebugLink.Variable
