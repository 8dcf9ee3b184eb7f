import DebugLink.Proofs.StringGarbage
import Mathlib.Algebra.Ring.Parity

/-!
# Garbage stripped twice

When a string is cut, its closing quote moves up to the end of what is kept of it. If that ends with
a backslash, the quote no longer counts: the string is **severed** from it. Read once more, the
value has its quotes paired in another way from there on, up to the next severed string: what stood
between two strings is now inside of one. An end marker there is taken for the end of a string then,
and only then something more is removed.

* `beforeQuotes`: the texts before the quotes that count, by turns outside and inside of strings.
* `Severed`, `GapsUnmarked`: what shifts the quotes, and what must not stand between strings then.
* `reread_quote`, `reread_string`: a quote, and a string that was cut, read once more.
* `stripped_twice_iff`: **when nothing more is removed** the second time.
* `stripped_twice_severed`: a value of which more is removed.
-/

namespace DebugLink.Variable

open Text

/-- The texts in front of the quotes that count, where `before` is the character in front of all. -/
def beforeQuotes (before : Char) (s : List Char) : List (List Char) :=
  match _ : toQuote before s with
  | none => []
  | some (text, rest) => text :: beforeQuotes '"' rest
termination_by s.length
decreasing_by
  have := toQuote_length ‹toQuote before s = some (text, rest)›
  omega

/-- What stands outside of strings in front of a quote. -/
def gaps : List (List Char) → List (List Char)
  | gap :: _ :: texts => gap :: gaps texts
  | texts => texts

/-- What stands inside of strings. -/
def insides : List (List Char) → List (List Char)
  | _ :: inside :: texts => inside :: insides texts
  | _ => []

/-- What is kept of the string ends with a backslash, and something was cut off. -/
def Severed (inside : List Char) : Prop :=
  contains endMarker inside = true ∧ (upToEnd inside).getLast? = some '\\'

instance (inside : List Char) : Decidable (Severed inside) :=
  inferInstanceAs (Decidable (_ ∧ _))

/-- No end marker stands in a gap behind an odd number of severed strings; `shifted` says whether
the number was odd in front of the texts already. -/
def GapsUnmarked : Bool → List (List Char) → Prop
  | shifted, gap :: inside :: texts =>
    (shifted = true → contains endMarker gap = false) ∧
      GapsUnmarked (xor shifted (decide (Severed inside))) texts
  | shifted, [gap] => shifted = true → contains endMarker gap = false
  | _, [] => True

theorem beforeQuotes_eq (before : Char) (s : List Char) :
    beforeQuotes before s =
      match toQuote before s with
      | none => []
      | some (text, rest) => text :: beforeQuotes '"' rest := by
  rw [beforeQuotes]
  split <;> simp [*]

/-! ## Reading a text that was cut -/

/-- **The next quote** is the first one that counts. -/
theorem toQuote_eq_some_iff {before : Char} {s a b : List Char} :
    toQuote before s = some (a, b) ↔
      s = a ++ '"' :: b ∧ toQuote before a = none ∧ a.getLastD before ≠ '\\' := by
  constructor
  · intro found
    -- on what is before the quote: each character there is passed over
    induction s generalizing before a with
    | nil => cases found
    | cons c s ih =>
      rw [toQuote] at found
      split at found
      · rename_i quote
        cases found
        exact ⟨by rw [quote.1]; rfl, rfl, quote.2⟩
      · rename_i other
        obtain ⟨⟨a', b'⟩, found', e⟩ := Option.map_eq_some_iff.1 found
        cases e
        obtain ⟨rfl, past, counts⟩ := ih found'
        refine ⟨rfl, ?_, by rwa [List.getLastD_cons]⟩
        rw [toQuote, if_neg other, past]
        rfl
  · rintro ⟨rfl, past, counts⟩
    rw [toQuote_append past, toQuote_quote counts]
    simp

/-- Without a closing quote in a text there is none in its beginning. -/
theorem toQuote_eq_none_of_append {before : Char} {s t : List Char}
    (none_in : toQuote before (s ++ t) = none) : toQuote before s = none := by
  cases found : toQuote before s with
  | none => rfl
  | some cut =>
    obtain ⟨rfl, past, counts⟩ := toQuote_eq_some_iff.1 found
    have found' := toQuote_eq_some_iff.2
      ⟨List.append_assoc cut.1 ('"' :: cut.2) t, past, counts⟩
    rw [none_in] at found'
    cases found'

/-- Behind what holds no quote that counts, the rest is read on its own. -/
theorem withoutGarbage_append {before : Char} {s : List Char}
    (none_in : toQuote before s = none) (t : List Char) :
    withoutGarbage before (s ++ t) = s ++ withoutGarbage (s.getLastD before) t := by
  rw [withoutGarbage_eq, withoutGarbage_eq, toQuote_append none_in]
  cases toQuote (s.getLastD before) t with
  | none => rfl
  | some cut =>
    dsimp only [Option.map_some]
    cases toQuote '"' cut.2 with
    | none => rfl
    | some cut' => simp

/-- What is kept of a quoted text is its beginning. -/
theorem upToEnd_leads (s : List Char) : upToEnd s <+: s := by
  unfold upToEnd
  split
  · rename_i kept rest cut
    exact ⟨endMarker ++ rest, by rw [eq_append_of_cut? cut, List.append_assoc]⟩
  · exact List.prefix_rfl

/-- All of it is kept exactly if the marker is nowhere in it. -/
theorem upToEnd_eq_self_iff {s : List Char} :
    upToEnd s = s ↔ contains endMarker s = false := by
  unfold upToEnd contains
  cases cut : cut? endMarker s with
  | none => simp
  | some parts =>
    have shorter := length_of_cut? cut
    have room : 0 < endMarker.length := by decide
    constructor
    · intro same
      have := congrArg List.length same
      dsimp only at this
      omega
    · exact nofun

/-- What is kept of a string has no end in it. -/
theorem contains_upToEnd (s : List Char) : contains endMarker (upToEnd s) = false := by
  unfold upToEnd
  cases cut : cut? endMarker s with
  | none => simp [contains, cut]
  | some parts =>
    obtain ⟨kept, rest⟩ := parts
    cases again : cut? endMarker kept with
    | none => simp [contains, again]
    | some parts =>
      -- an end in what is kept would be an earlier one of the whole
      obtain ⟨a, b⟩ := parts
      have whole := eq_append_of_cut? again
      have shorter := length_of_cut? again
      have room : 0 < endMarker.length := by decide
      refine absurd ?_ (not_prefix_drop_of_cut? cut (m := a.length) (by omega))
      rw [eq_append_of_cut? cut, whole, List.append_assoc, List.append_assoc, List.append_assoc,
        List.drop_left]
      exact List.prefix_append _ _

/-- The cut passes over a quote as long as no marker came before it. -/
theorem upToEnd_quote {s : List Char} (unmarked : contains endMarker s = false) (t : List Char) :
    upToEnd (s ++ '"' :: t) = s ++ '"' :: upToEnd t := by
  have none_in : cut? endMarker s = none := by simpa [contains] using unmarked
  have parts := cut?_append_cons endMarker_ne_nil quote_not_mem_endMarker s t
  rw [none_in] at parts
  unfold upToEnd
  rw [parts]
  cases cut? endMarker t <;> rfl

/-- Removing garbage makes no text longer. -/
theorem length_withoutGarbage_le (before : Char) (s : List Char) :
    (withoutGarbage before s).length ≤ s.length := by
  fun_induction withoutGarbage before s with
  | case1 => exact Nat.le_refl _
  | case2 => exact Nat.le_refl _
  | case3 before s outside r opened inside rest closed ih =>
    have kept := (upToEnd_leads inside).length_le
    have first := toQuote_length opened
    have second := toQuote_length closed
    simp only [List.length_append, List.length_cons]
    omega

/-! ## The second time -/

/-- The text without garbage, where `shifted` says whether the place in front of it is inside of a
string. -/
def reread (shifted : Bool) (before : Char) (s : List Char) : List Char :=
  match shifted, toQuote before s with
  | false, _ => withoutGarbage before s
  | true, none => s
  | true, some (inside, rest) => upToEnd inside ++ '"' :: withoutGarbage '"' rest

/-- The second pass makes no text longer either, however it reads the first quote. -/
theorem length_reread_le (shifted : Bool) (before : Char) (s : List Char) :
    (reread shifted before s).length ≤ s.length := by
  unfold reread
  split
  · exact length_withoutGarbage_le before s
  · exact Nat.le_refl _
  · rename_i inside rest found
    have first := toQuote_length found
    have kept := (upToEnd_leads inside).length_le
    have later := length_withoutGarbage_le '"' rest
    simp only [List.length_append, List.length_cons]
    omega

/-- Without a quote there is nothing to read anew. -/
theorem reread_of_unquoted {before : Char} {s : List Char} (unquoted : toQuote before s = none)
    (shifted : Bool) : reread shifted before s = s := by
  unfold reread
  cases shifted with
  | false => rw [withoutGarbage_eq, unquoted]
  | true => rw [unquoted]

/-- **At a quote** outside and inside change places. -/
theorem reread_quote {before : Char} {text : List Char} (past : toQuote before text = none)
    (counts : text.getLastD before ≠ '\\') (shifted : Bool) (t : List Char) :
    reread shifted before (text ++ '"' :: t) =
      (if shifted then upToEnd text else text) ++ '"' :: reread (!shifted) '"' t := by
  have found : toQuote before (text ++ '"' :: t) = some (text, t) :=
    toQuote_eq_some_iff.2 ⟨rfl, past, counts⟩
  cases shifted with
  | true => simp [reread, found]
  | false =>
    show withoutGarbage before _ = _
    rw [withoutGarbage_eq, found]
    dsimp only
    cases closed : toQuote '"' t with
    | none =>
      rw [reread_of_unquoted closed]
      rfl
    | some cut =>
      simp [reread, closed]

/-- **A string that was cut** is left at its closing quote, unless it is severed from it. -/
theorem reread_string {inside : List Char} (past : toQuote '"' inside = none)
    (counts : inside.getLastD '"' ≠ '\\') (shifted : Bool) (t : List Char) :
    reread (!shifted) '"' (upToEnd inside ++ '"' :: t) =
      upToEnd inside ++ '"' :: reread (xor shifted (decide (Severed inside))) '"' t := by
  obtain ⟨cutOff, whole⟩ := upToEnd_leads inside
  have past' : toQuote '"' (upToEnd inside) = none :=
    toQuote_eq_none_of_append (t := cutOff) (by rwa [whole])
  have again : upToEnd (upToEnd inside) = upToEnd inside :=
    upToEnd_eq_self_iff.2 (contains_upToEnd inside)
  by_cases severed : Severed inside
  · -- the closing quote is passed over, and belongs to what follows
    have last : (upToEnd inside).getLastD '"' = '\\' := by
      rw [List.getLastD_eq_getLast?, severed.2]
      rfl
    have passed : toQuote '"' (upToEnd inside ++ ['"']) = none := by
      rw [toQuote_append past', last]
      rfl
    have ends : (upToEnd inside ++ ['"']).getLastD '"' = '"' := by simp
    have split : upToEnd inside ++ '"' :: t = upToEnd inside ++ ['"'] ++ t := by simp
    rw [split, decide_eq_true severed, Bool.xor_true]
    cases shifted with
    | true =>
      show withoutGarbage '"' _ = _
      rw [withoutGarbage_append passed, ends]
      simp [reread]
    | false =>
      show reread true '"' _ = _
      unfold reread
      rw [toQuote_append passed, ends]
      cases toQuote '"' t with
      | none => simp
      | some cut => simp [upToEnd_quote (contains_upToEnd inside)]
  · have ends : (upToEnd inside).getLastD '"' ≠ '\\' := by
      intro last
      refine severed ⟨?_, ?_⟩
      · by_contra uncut
        rw [upToEnd_eq_self_iff.2 (by simpa using uncut)] at last
        exact counts last
      · rw [List.getLastD_eq_getLast?] at last
        cases found : (upToEnd inside).getLast? with
        | none =>
          rw [found] at last
          cases last
        | some c =>
          rw [found] at last
          exact congrArg some last
    rw [reread_quote past' ends, again, ite_self, decide_eq_false severed, Bool.xor_false,
      Bool.not_not]

/-- What is cut off a gap is not made up for by what follows. -/
theorem cut_gap_iff {shifted : Bool} {gap t t' : List Char} (shorter : t'.length ≤ t.length) :
    (if shifted then upToEnd gap else gap) ++ '"' :: t' = gap ++ '"' :: t ↔
      (shifted = true → contains endMarker gap = false) ∧ t' = t := by
  cases shifted with
  | false => simp
  | true =>
    have kept := (upToEnd_leads gap).length_le
    constructor
    · intro same
      have lengths := congrArg List.length same
      simp only [if_true, List.length_append, List.length_cons] at lengths
      obtain ⟨first, second⟩ := List.append_inj same (by simp only [if_true]; omega)
      exact ⟨fun _ => upToEnd_eq_self_iff.1 first, (List.cons.inj second).2⟩
    · rintro ⟨unmarked, rfl⟩
      rw [if_pos rfl, upToEnd_eq_self_iff.2 (unmarked rfl)]

/-- **The text read once more** is the same if the gaps that are inside now hold no end marker. -/
theorem reread_eq_self_iff (shifted : Bool) (before : Char) (s : List Char) :
    reread shifted before (withoutGarbage before s) = withoutGarbage before s ↔
      GapsUnmarked shifted (beforeQuotes before s) := by
  fun_induction withoutGarbage before s generalizing shifted with
  | case1 before s unquoted =>
    rw [reread_of_unquoted unquoted, beforeQuotes_eq, unquoted]
    simp [GapsUnmarked]
  | case2 before s outside r opened unclosed =>
    obtain ⟨rfl, past, counts⟩ := toQuote_eq_some_iff.1 opened
    rw [reread_quote past counts, reread_of_unquoted unclosed, beforeQuotes_eq, opened]
    dsimp only
    rw [beforeQuotes_eq, unclosed, cut_gap_iff (Nat.le_refl _)]
    simp [GapsUnmarked]
  | case3 before s outside r opened inside rest closed ih =>
    obtain ⟨rfl, past, counts⟩ := toQuote_eq_some_iff.1 opened
    obtain ⟨rfl, past', counts'⟩ := toQuote_eq_some_iff.1 closed
    rw [List.append_assoc, List.cons_append, reread_quote past counts, reread_string past' counts',
      beforeQuotes_eq, opened]
    dsimp only
    rw [beforeQuotes_eq, closed]
    -- the rest gets no longer, so a cut in this text cannot be made up for by the next
    have shorter := length_reread_le (xor shifted (decide (Severed inside))) '"'
      (withoutGarbage '"' rest)
    rw [cut_gap_iff (by simpa using shorter), List.append_cancel_left_eq, List.cons.injEq,
      eq_self, true_and, ih, GapsUnmarked]

/-! ## Which gaps are inside -/

/-- The gaps that are inside are those behind an odd number of severed strings. -/
theorem gapsUnmarked_iff (shifted : Bool) (texts : List (List Char)) :
    GapsUnmarked shifted texts ↔ ∀ i gap, (gaps texts)[i]? = some gap →
      (Odd (((insides texts).take i).countP (Severed ·)) ↔ shifted = false) →
        contains endMarker gap = false := by
  fun_induction GapsUnmarked shifted texts with
  | case1 shifted gap inside texts ih =>
    have first : (∀ g, (gaps (gap :: inside :: texts))[0]? = some g →
        (Odd (((insides (gap :: inside :: texts)).take 0).countP (Severed ·)) ↔ shifted = false) →
          contains endMarker g = false) ↔ (shifted = true → contains endMarker gap = false) := by
      simp [gaps]
    have later : ∀ i, (Odd (((insides (gap :: inside :: texts)).take (i + 1)).countP (Severed ·)) ↔
        shifted = false) ↔ (Odd (((insides texts).take i).countP (Severed ·)) ↔
          xor shifted (decide (Severed inside)) = false) := by
      intro i
      rw [insides, List.take_succ_cons, List.countP_cons]
      by_cases severed : Severed inside <;> cases shifted <;> simp [severed, Nat.odd_add_one]
    rw [← Nat.and_forall_add_one, first, ih]
    simp only [later]
    rfl
  | case2 shifted gap =>
    simp [gaps, List.getElem?_singleton, insides]
  | case3 shifted => simp [gaps]

/-- **Nothing more is removed** from a value that was stripped of its garbage already, exactly if no
end marker stands in a gap between strings, or in front of the first or of a quote behind the last,
behind an odd number of severed strings. -/
theorem stripped_twice_iff (value : String) :
    stripGarbage (stripGarbage value) = stripGarbage value ↔
      ∀ i gap, (gaps (beforeQuotes '"' value.toList))[i]? = some gap →
        Odd (((insides (beforeQuotes '"' value.toList)).take i).countP (Severed ·)) →
          contains endMarker gap = false := by
  rw [stripGarbage_eq, stripGarbage_eq, String.toList_ofList, String.ofList_inj]
  have twice := reread_eq_self_iff false '"' value.toList
  rw [gapsUnmarked_iff] at twice
  simpa [reread] using twice

/-- A string that ends with a backslash of its own, a zero character, and another string: what
stands between the two is read as a string the second time, and cut at the zero character. -/
theorem stripped_twice_severed :
    let value := "\x7bs = \"ab\\\\\\\\\\\\000zz\", c = 0 '\\\\000', t = \"d\"\x7d"
    let once := "\x7bs = \"ab\\\\\\\\\", c = 0 '\\\\000', t = \"d\"\x7d"
    stripGarbage value = once ∧ stripGarbage once = "\x7bs = \"ab\\\\\\\\\", c = 0 '\"d\"\x7d" ∧
      stripGarbage (stripGarbage value) ≠ stripGarbage value := by
  intro value once
  have first : stripGarbage value = once := by
    rw [stripGarbage_eq, ← String.toList_inj, String.toList_ofList]
    decide +kernel
  have second : stripGarbage once = "\x7bs = \"ab\\\\\\\\\", c = 0 '\"d\"\x7d" := by
    rw [stripGarbage_eq, ← String.toList_inj, String.toList_ofList]
    decide +kernel
  refine ⟨first, second, ?_⟩
  rw [first, second]
  decide

end DebugLink.Variable
