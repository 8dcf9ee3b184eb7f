import DebugLink.Proofs.Separated
import DebugLink.Variable.Evaluate

/-!
# The text of an evaluated value

Of the escapes in which gdb writes a value, those of its quotes are undone when it is evaluated, and
the others stay. What looks like garbage behind a string is removed then. So the text is that of the
value if nothing in it is written with a backslash, and never otherwise: a removal does not make up
for the backslashes that were put in.

* `escapeButQuotes`, `replace_escape`: what is left of the escapes.
* `withoutGarbage_cases`: either nothing is removed, or a quote stands in the place of an end.
* `evaluatedText_eq_iff`: when the text is that of the value.
-/

namespace DebugLink.Variable

open Text Mi

/-! ## Escapes -/

/-- The characters other than quotes that are written with a backslash. -/
def slashed : List Char := ['\\', '\n', '\t']

/-- The text with the escapes of gdb, but for those of quotes. -/
def escapeButQuotes (s : List Char) : List Char :=
  s.flatMap fun c => if c ∈ slashed then escapeChar c else [c]

theorem escapeButQuotes_cons_of_not_mem {c : Char} (plain : c ∉ slashed) (s : List Char) :
    escapeButQuotes (c :: s) = c :: escapeButQuotes s := by
  rw [escapeButQuotes, List.flatMap_cons, if_neg plain]
  rfl

/-- An escape is a backslash and a letter that is no quote. -/
theorem exists_escapeChar {c : Char} (special : c ∈ slashed) :
    ∃ letter, letter ≠ '"' ∧ (c = '\\' → letter = '\\') ∧ escapeChar c = ['\\', letter] := by
  have cases : c = '\\' ∨ c = '\n' ∨ c = '\t' := by simpa [slashed] using special
  obtain rfl | rfl | rfl := cases
  · exact ⟨'\\', by decide, fun _ => rfl, rfl⟩
  · exact ⟨'n', by decide, fun impossible => absurd impossible (by decide), rfl⟩
  · exact ⟨'t', by decide, fun impossible => absurd impossible (by decide), rfl⟩

theorem escapeButQuotes_cons_of_mem {c letter : Char} (special : c ∈ slashed)
    (written : escapeChar c = ['\\', letter]) (s : List Char) :
    escapeButQuotes (c :: s) = '\\' :: letter :: escapeButQuotes s := by
  rw [escapeButQuotes, List.flatMap_cons, if_pos special, written]
  rfl

theorem escapeButQuotes_append (s t : List Char) :
    escapeButQuotes (s ++ t) = escapeButQuotes s ++ escapeButQuotes t := List.flatMap_append

theorem escapeChar_of_not_mem {c : Char} (plain : c ∉ slashed) (quote : c ≠ '"') :
    escapeChar c = [c] := by
  simp only [slashed, List.mem_cons, List.not_mem_nil, or_false, not_or] at plain
  simp [escapeChar, plain, quote]

/-- An escaped text never begins with a quote of its own. -/
theorem head?_escape_ne (s : List Char) : (escape s).head? ≠ some '"' := by
  cases s with
  | nil => simp [escape]
  | cons c s =>
    rw [escape_cons]
    obtain ⟨itself, -, quote⟩ | ⟨letter, -, written⟩ := escapeChar_cases c
    · simp [itself, quote]
    · simp [written]

/-- **The escapes of quotes are undone**, and no others: a backslash that belongs to another escape
is never taken for that of a quote. -/
theorem replace_escape (s : List Char) :
    replace ['\\', '"'] ['"'] (escape s) = escapeButQuotes s := by
  have pass : ∀ {c : Char} {s : List Char}, (c = '\\' → s.head? ≠ some '"') →
      replaceFrom ['\\', '"'] ['"'] 0 (c :: s) = c :: replaceFrom ['\\', '"'] ['"'] 0 s := by
    intro c s apart
    have other : ¬(['\\', '"'].isPrefixOf (c :: s) = true) := by
      rw [List.isPrefixOf_iff_prefix]
      rintro ⟨t, e⟩
      cases e
      exact apart rfl rfl
    rw [replaceFrom, if_neg other]
  unfold replace
  induction s with
  | nil => rfl
  | cons c s ih =>
    rw [escape_cons]
    by_cases special : c ∈ slashed
    · obtain ⟨letter, other, -, written⟩ := exists_escapeChar special
      rw [written, escapeButQuotes_cons_of_mem special written, ← ih]
      -- the letter may be a backslash, but no quote follows it
      exact (pass fun _ => by simpa using other).trans
        (congrArg ('\\' :: ·) (pass fun _ => head?_escape_ne s))
    rw [escapeButQuotes_cons_of_not_mem special, ← ih]
    by_cases quote : c = '"'
    · subst quote
      rfl
    · rw [escapeChar_of_not_mem special quote]
      exact pass fun slash => absurd (slash ▸ special) (by decide)

/-- A text with escapes in it is longer than without. -/
theorem escapeButQuotes_eq_self_iff {s : List Char} :
    escapeButQuotes s = s ↔ ∀ c ∈ s, c ∉ slashed := by
  -- a character that is escaped makes the text longer, and nothing makes it shorter
  have longer : ∀ s : List Char, s.length ≤ (escapeButQuotes s).length := by
    intro s
    induction s with
    | nil => exact Nat.le_refl 0
    | cons c s ih =>
      by_cases special : c ∈ slashed
      · obtain ⟨letter, -, -, written⟩ := exists_escapeChar special
        rw [escapeButQuotes_cons_of_mem special written]
        exact Nat.le_succ_of_le (Nat.succ_le_succ ih)
      · rw [escapeButQuotes_cons_of_not_mem special]
        exact Nat.succ_le_succ ih
  induction s with
  | nil => exact iff_of_true rfl (List.forall_mem_nil _)
  | cons c s ih =>
    rw [List.forall_mem_cons]
    by_cases special : c ∈ slashed
    · refine iff_of_false (fun same => ?_) fun plain => plain.1 special
      obtain ⟨letter, -, -, written⟩ := exists_escapeChar special
      rw [escapeButQuotes_cons_of_mem special written] at same
      have length := congrArg List.length same
      have least := longer s
      simp only [List.length_cons] at length
      omega
    · rw [escapeButQuotes_cons_of_not_mem special, and_iff_right special, List.cons_inj_right]
      exact ih

/-! ## Garbage -/

/-- The cut at a quote loses nothing but the quote. -/
theorem eq_append_of_toQuote {before : Char} {s a b : List Char}
    (cut : toQuote before s = some (a, b)) : s = a ++ '"' :: b := by
  induction s generalizing before a with
  | nil => cases cut
  | cons c s ih =>
    rw [toQuote] at cut
    split at cut
    · rename_i quote
      cases cut
      rw [quote.1, List.nil_append]
    · obtain ⟨⟨a', b'⟩, cut', e⟩ := Option.map_eq_some_iff.1 cut
      cases e
      rw [ih cut', List.cons_append]

/-- Either nothing is removed, or the first thing that is starts with an end marker and leaves a
quote in its place. -/
theorem withoutGarbage_cases (before : Char) (s : List Char) :
    withoutGarbage before s = s ∨
      ∃ lead garbage rest, s = lead ++ endMarker ++ garbage ∧
        withoutGarbage before s = lead ++ '"' :: rest := by
  fun_induction withoutGarbage before s with
  | case1 => exact .inl rfl
  | case2 => exact .inl rfl
  | case3 before s outside r opened inside rest closed ih =>
    have whole : s = outside ++ '"' :: (inside ++ '"' :: rest) := by
      rw [← eq_append_of_toQuote closed, ← eq_append_of_toQuote opened]
    unfold upToEnd
    -- garbage in the first text, or in the rest behind it
    cases cut : cut? endMarker inside with
    | some parts =>
      obtain ⟨kept, garbage⟩ := parts
      refine .inr ⟨outside ++ '"' :: kept, garbage ++ '"' :: rest, withoutGarbage '"' rest, ?_, ?_⟩
      · rw [whole, eq_append_of_cut? cut]
        simp
      · simp
    | none =>
      obtain same | ⟨lead, garbage, rest', split, removed⟩ := ih
      · refine .inl ?_
        simp [same, whole]
      · refine .inr ⟨outside ++ '"' :: (inside ++ '"' :: lead), garbage, rest', ?_, ?_⟩
        · rw [whole, split]
          simp
        · simp [removed]

/-! ## Evaluated text -/

/-- The text that a value has when it is evaluated. -/
def evaluatedText (s : List Char) : List Char := withoutGarbage '"' (escapeButQuotes s)

/-- Where an end marker stands behind a text, no quote stands behind that text with its escapes, not
even if it comes behind any number of backslashes. -/
theorem marker_ne_quote (lead : List Char) (n : Nat) (garbage rest : List Char) :
    lead ++ endMarker ++ garbage ≠
      List.replicate n '\\' ++ (escapeButQuotes lead ++ '"' :: rest) := by
  induction lead generalizing n with
  | nil =>
    intro same
    match n with
    | 0 => cases same
    | 1 => cases same
    | 2 => cases same
    | n + 3 => cases same
  | cons c lead ih =>
    intro same
    -- a backslash of the text is written twice, so it never stands alone before a quote
    by_cases special : c ∈ slashed
    · obtain ⟨letter, -, doubled, written⟩ := exists_escapeChar special
      have through : ∀ s, List.replicate n '\\' ++ '\\' :: s =
          '\\' :: (List.replicate n '\\' ++ s) := fun s => by
        rw [← List.cons_append, ← List.replicate_succ, List.replicate_succ', List.append_assoc]
        rfl
      rw [escapeButQuotes_cons_of_mem special written] at same
      have same := same.trans (through (letter :: (escapeButQuotes lead ++ '"' :: rest)))
      obtain ⟨slash, same⟩ := List.cons.inj same
      rw [doubled slash, through] at same
      exact ih (n + 1) same
    · rw [escapeButQuotes_cons_of_not_mem special] at same
      cases n with
      | zero => exact ih 0 (List.cons.inj same).2
      | succ n => exact special ((List.cons.inj same).1 ▸ by decide)

/-- **The evaluated text is that of the value** exactly if nothing in the value, but for quotes, is
written with a backslash. -/
theorem evaluatedText_eq_iff {s : List Char} : evaluatedText s = s ↔ ∀ c ∈ s, c ∉ slashed := by
  unfold evaluatedText
  obtain same | ⟨lead, garbage, rest, split, removed⟩ :=
    withoutGarbage_cases '"' (escapeButQuotes s)
  · rw [same, escapeButQuotes_eq_self_iff]
  · refine iff_of_false (fun back => ?_) fun plain => ?_
    · -- the text would be that before the marker, a quote, and more, both with and without escapes
      rw [removed] at back
      rw [← back, escapeButQuotes_append,
        escapeButQuotes_cons_of_not_mem (by decide)] at split
      exact marker_ne_quote lead 0 garbage _ split.symm
    · rw [escapeButQuotes_eq_self_iff.2 plain] at split
      exact plain '\\' (split ▸ by simp [endMarker]) (by decide)

end DebugLink.Variable
