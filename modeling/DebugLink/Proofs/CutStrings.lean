import DebugLink.Proofs.EvaluatedText
import DebugLink.Proofs.TextPositions

/-!
# Strings that are cut in place

The strings of a text are cut while it is searched. Where the search goes on there is always a
beginning of the text as it is by then, the characters behind it are those of the text as it was,
and the marker at hand is the first one among them. So the text comes out as in one pass, and it is
never cut inside of a character.

* `toQuote_append`: a quote is looked for piece by piece.
* `quoteFrom?_append`, `markBehind?_append`: the next quote and the next marker.
* `cutStrings?_append`: **the strings are cut** as in one pass.
* `stripGarbage?_eq`, `stripGarbage_eq`: what is removed from a value.
-/

namespace DebugLink.Variable

open Text

/-! ## Quotes -/

theorem getLastD_append {α : Type} (s t : List α) (a : α) :
    (s ++ t).getLastD a = t.getLastD (s.getLastD a) := by
  induction s generalizing a with
  | nil => rfl
  | cons b s ih => rw [List.cons_append, List.getLastD_cons, List.getLastD_cons, ih]

/-- A text without quotes has no closing one. -/
theorem toQuote_of_not_mem {before : Char} {s : List Char} (absent : '"' ∉ s) :
    toQuote before s = none := by
  induction s generalizing before with
  | nil => rfl
  | cons c s ih =>
    obtain ⟨other, later⟩ := List.ne_and_not_mem_of_not_mem_cons absent
    rw [toQuote, if_neg fun quote => other quote.1.symm, ih later]
    rfl

/-- Behind what holds no quote that counts, a quote is looked for in the rest. -/
theorem toQuote_append {before : Char} {s : List Char} (none_in : toQuote before s = none)
    (t : List Char) :
    toQuote before (s ++ t) =
      (toQuote (s.getLastD before) t).map fun cut => (s ++ cut.1, cut.2) := by
  induction s generalizing before with
  | nil => simp
  | cons c s ih =>
    rw [toQuote] at none_in
    split at none_in
    · cases none_in
    · rename_i other
      rw [List.cons_append, toQuote, if_neg other, ih (Option.map_eq_none_iff.1 none_in),
        List.getLastD_cons, Option.map_map]
      rfl

theorem toQuote_quote {before : Char} (counts : before ≠ '\\') (s : List Char) :
    toQuote before ('"' :: s) = some ([], s) := by
  rw [toQuote, if_pos ⟨rfl, counts⟩]

/-- The search for a quote goes on behind each one that does not count. -/
theorem quoteFrom?_eq (start : Nat) (s : List Char) :
    quoteFrom? start s =
      match search? ['"'] start s with
      | none => none
      | some none => some none
      | some (some pos) => if countsAt pos s then some (some pos) else quoteFrom? (pos + 1) s := by
  rw [quoteFrom?]
  split <;> simp [*]

/-- Whether a quote counts is seen in the one byte before it, and that is the last character's. -/
theorem countsAt_append (a b : List Char) :
    countsAt (utf8Length a) (a ++ b) = true ↔ a.getLastD '"' ≠ '\\' := by
  obtain rfl | ⟨a, c, rfl⟩ := List.eq_nil_or_concat' a
  · exact iff_of_true rfl (by decide)
  · have later : utf8Length (a ++ [c]) ≠ 0 := by
      rw [utf8Length_append, utf8Length_cons]
      have := Char.utf8Size_pos c
      omega
    have ascii : ('\\' : Char).utf8Size = 1 := rfl
    have byte := bytes_getElem?_last ascii a b c
    rw [show ('\\' : Char).val.toUInt8 = 92 from rfl] at byte
    rw [List.append_assoc, List.singleton_append, List.getLastD_concat]
    simp [countsAt, later, byte]

/-- **The next quote** behind a beginning of the text is looked for in the rest. -/
theorem quoteFrom?_append (a b : List Char) :
    quoteFrom? (utf8Length a) (a ++ b) =
      some ((toQuote (a.getLastD '"') b).map fun cut => utf8Length a + utf8Length cut.1) := by
  -- on the text behind the start, as the search begins anew behind a quote that does not count
  induction length : b.length using Nat.strongRecOn generalizing a b with
  | _ n ih =>
  subst length
  have next := search?_append ['"'] a b
  cases found : cut? ['"'] b with
  | none =>
    rw [quoteFrom?_eq, next, found, toQuote_of_not_mem (not_mem_of_cut?_eq_none found)]
    rfl
  | some cut =>
    obtain ⟨x, y⟩ := cut
    have whole : b = x ++ '"' :: y := by
      rw [eq_append_of_cut? found, List.append_assoc]
      rfl
    subst whole
    have past : toQuote (a.getLastD '"') x = none := toQuote_of_not_mem (not_mem_of_cut? found)
    have counts := countsAt_append (a ++ x) ('"' :: y)
    rw [utf8Length_append, List.append_assoc] at counts
    rw [quoteFrom?_eq, next, found, toQuote_append past]
    rw [getLastD_append] at counts
    dsimp only [Option.map_some]
    by_cases counted : x.getLastD (a.getLastD '"') ≠ '\\'
    · rw [if_pos (counts.2 counted), toQuote_quote counted]
      simp
    · -- the search goes on behind a quote that does not count
      rw [if_neg (mt counts.1 counted), toQuote, if_neg fun quote => counted quote.2]
      have behind := ih y.length (by simp; omega) (a ++ (x ++ ['"'])) y rfl
      simp only [utf8Length_append, List.append_assoc, List.singleton_append] at behind
      rw [getLastD_append, List.getLastD_concat, show utf8Length ['"'] = 1 from rfl,
        ← Nat.add_assoc] at behind
      rw [behind]
      simp only [Option.map_map, Function.comp_def, utf8Length_append, utf8Length_cons,
        show ('"' : Char).utf8Size = 1 from rfl, Nat.add_assoc]

/-! ## Markers -/

/-- The marker is looked for behind the opening quote. -/
theorem markBehind?_eq (opening mark : Nat) (s : List Char) :
    markBehind? opening mark s =
      if mark < opening then
        match search? endMarker (mark + 1) s with
        | none => none
        | some none => some none
        | some (some next) => markBehind? opening next s
      else some (some mark) := by
  rw [markBehind?]
  split
  · split <;> simp [*]
  · rfl

theorem quote_not_mem_endMarker : '"' ∉ endMarker := by decide

theorem endMarker_ne_nil : endMarker ≠ [] := by decide

/-- The position behind a quote. -/
theorem utf8Length_quote (a b : List Char) :
    utf8Length a + utf8Length b + 1 = utf8Length (a ++ (b ++ ['"'])) := by
  simp only [utf8Length_append, Nat.add_assoc]
  rfl

/-- From a quote on, the first marker is the first one behind it. -/
theorem search?_quote (a rest : List Char) :
    search? endMarker (utf8Length a) (a ++ '"' :: rest) =
      some ((cut? endMarker rest).map fun found =>
        utf8Length (a ++ ['"']) + utf8Length found.1) := by
  have other : ¬endMarker <+: '"' :: rest := fun leads =>
    endMarker_ne_nil (List.prefix_nil.1
      ((prefix_append_cons_iff (s := []) quote_not_mem_endMarker).1 leads))
  rw [search?_append, cut?_of_not_leads other, Option.map_map]
  simp only [Function.comp_def, utf8Length_append, utf8Length_cons, Nat.add_assoc,
    show utf8Length [] = 0 from rfl, Nat.zero_add]

/-- **The next marker** behind a quote is the first one there, if the one at hand is the first from
where the search for the quote began. -/
theorem markBehind?_append {x r a b : List Char}
    (found : cut? endMarker (x ++ '"' :: r) = some (a, b)) (front : List Char) :
    markBehind? (utf8Length front + utf8Length x) (utf8Length front + utf8Length a)
        (front ++ (x ++ '"' :: r)) =
      some ((cut? endMarker r).map fun cut =>
        utf8Length front + utf8Length x + 1 + utf8Length cut.1) := by
  induction length : x.length using Nat.strongRecOn generalizing x a b front with
  | _ n ih =>
  subst length
  rw [markBehind?_eq]
  have where_found := cut?_append_cons endMarker_ne_nil quote_not_mem_endMarker x r
  rw [found] at where_found
  cases inside : cut? endMarker x with
  | some cut =>
    obtain ⟨a', b'⟩ := cut
    rw [inside] at where_found
    cases where_found
    -- a marker before the quote: the next one is looked for from its second character on
    let next := ['\\', '0', '0', '0'] ++ b'
    have whole : x = a ++ '\\' :: next := by
      rw [eq_append_of_cut? inside, List.append_assoc]
      rfl
    have text : front ++ (x ++ '"' :: r) = front ++ (a ++ ['\\']) ++ (next ++ '"' :: r) := by
      simp [whole]
    have mark : utf8Length front + utf8Length a + 1 = utf8Length (front ++ (a ++ ['\\'])) := by
      simp only [utf8Length_append, Nat.add_assoc]
      rfl
    have opening : utf8Length front + utf8Length x =
        utf8Length (front ++ (a ++ ['\\'])) + utf8Length next := by
      rw [← mark, whole, utf8Length_append, utf8Length_cons,
        show ('\\' : Char).utf8Size = 1 from rfl]
      omega
    rw [if_pos (by rw [opening, ← mark]; omega), mark, text, search?_append]
    cases later : cut? endMarker (next ++ '"' :: r) with
    | none =>
      have parts := cut?_append_cons endMarker_ne_nil quote_not_mem_endMarker next r
      rw [later] at parts
      split at parts
      · cases parts
      · rw [Option.map_eq_none_iff.1 parts.symm]
        rfl
    | some cut =>
      obtain ⟨a₂, b₂⟩ := cut
      have shorter : next.length < x.length := by
        rw [whole]
        simp only [List.length_append, List.length_cons]
        omega
      rw [opening]
      exact ih next.length shorter later (front ++ (a ++ ['\\'])) rfl
  | none =>
    rw [inside] at where_found
    obtain ⟨⟨a', b'⟩, behind, e⟩ := Option.map_eq_some_iff.1 where_found.symm
    cases e
    have past : ¬utf8Length front + utf8Length (x ++ '"' :: a') <
        utf8Length front + utf8Length x := by
      rw [utf8Length_append]
      omega
    rw [if_neg past, behind]
    simp only [Option.map_some, utf8Length_append, utf8Length_cons,
      show ('"' : Char).utf8Size = 1 from rfl, Nat.add_assoc]

/-! ## One pass -/

/-- A text with two quotes is cut between them and read on behind them. -/
theorem withoutGarbage_eq (before : Char) (s : List Char) :
    withoutGarbage before s =
      match toQuote before s with
      | none => s
      | some (outside, r) =>
        match toQuote '"' r with
        | none => s
        | some (inside, rest) =>
          outside ++ '"' :: upToEnd inside ++ '"' :: withoutGarbage '"' rest := by
  rw [withoutGarbage]
  split
  · simp [*]
  · split <;> simp [*]

theorem upToEnd_of_unmarked {s : List Char} (unmarked : cut? endMarker s = none) :
    upToEnd s = s := by
  rw [upToEnd, unmarked]

/-- Without a marker nothing is removed. -/
theorem withoutGarbage_of_unmarked {s : List Char} (unmarked : cut? endMarker s = none)
    (before : Char) : withoutGarbage before s = s := by
  obtain same | ⟨lead, garbage, rest, split, -⟩ := withoutGarbage_cases before s
  · exact same
  · refine absurd ?_ (not_prefix_drop_of_cut?_eq_none endMarker_ne_nil unmarked lead.length)
    rw [split, List.append_assoc, List.drop_left]
    exact List.prefix_append _ _

theorem cutStrings?_none_eq (start : Nat) (s : List Char) :
    cutStrings? none start s = some s := by
  rw [cutStrings?]

/-- One round: two quotes, the marker behind the first, the cut, and the next round. -/
theorem cutStrings?_some_eq (mark start : Nat) (s : List Char) :
    cutStrings? (some mark) start s =
      match quoteFrom? start s with
      | none => none
      | some none => some s
      | some (some opening) =>
        match quoteFrom? (opening + 1) s with
        | none => none
        | some none => some s
        | some (some closing) =>
          match markBehind? opening mark s with
          | none => none
          | some none => some s
          | some (some mark) =>
            if mark < closing then
              match removeBetween? mark closing s with
              | none => none
              | some cut =>
                match search? endMarker mark cut with
                | none => none
                | some next => cutStrings? next (mark + 1) cut
            else cutStrings? (some mark) (closing + 1) s := by
  rw [cutStrings?]
  split
  · simp [*]
  · simp [*]
  split
  · simp [*]
  · simp [*]
  split
  · simp [*]
  · simp [*]
  split
  · split
    · simp [*]
    · simp only [*]
      rfl
  · simp [*]

/-- **One round** cuts the next string at its end, and what follows is the same for the text behind
its closing quote. -/
theorem cutStrings?_round {front s a b outside r inside rest : List Char}
    (found : cut? endMarker s = some (a, b))
    (opened : toQuote (front.getLastD '"') s = some (outside, r))
    (closed : toQuote '"' r = some (inside, rest)) {next : List Char}
    (going : next = front ++ (outside ++ ['"']) ++ (upToEnd inside ++ ['"'])) :
    cutStrings? (some (utf8Length front + utf8Length a)) (utf8Length front) (front ++ s) =
      cutStrings? ((cut? endMarker rest).map fun found => utf8Length next + utf8Length found.1)
        (utf8Length next) (next ++ rest) := by
  have whole := eq_append_of_toQuote opened
  have whole' := eq_append_of_toQuote closed
  subst whole whole'
  have mark := markBehind?_append found front
  -- the text up to the opening quote stays, and all positions from now on are behind it
  obtain ⟨lead, given⟩ : ∃ lead, lead = front ++ (outside ++ ['"']) := ⟨_, rfl⟩
  have behind : utf8Length front + utf8Length outside + 1 = utf8Length lead :=
    (utf8Length_quote front outside).trans (congrArg utf8Length given.symm)
  have last : lead.getLastD '"' = '"' := by
    rw [given, getLastD_append, List.getLastD_concat]
  have text : front ++ (outside ++ '"' :: (inside ++ '"' :: rest)) =
      lead ++ (inside ++ '"' :: rest) := by simp [given]
  rw [← given] at going
  rw [cutStrings?_some_eq, quoteFrom?_append, opened]
  dsimp only [Option.map_some]
  rw [mark, text, behind, quoteFrom?_append, last, closed]
  dsimp only [Option.map_some]
  have parts := cut?_append_cons endMarker_ne_nil quote_not_mem_endMarker inside rest
  rw [parts]
  cases within : cut? endMarker inside with
  | some cut =>
    obtain ⟨kept, garbage⟩ := cut
    have whole : inside = kept ++ (endMarker ++ garbage) := by
      rw [eq_append_of_cut? within, List.append_assoc]
    have ends : upToEnd inside = kept := by rw [upToEnd, within]
    have start : utf8Length lead + utf8Length kept = utf8Length (lead ++ kept) :=
      (utf8Length_append lead kept).symm
    have stop : utf8Length lead + utf8Length inside =
        utf8Length (lead ++ kept) + utf8Length (endMarker ++ garbage) := by
      rw [whole, utf8Length_append, utf8Length_append lead kept, Nat.add_assoc]
    have text : lead ++ (inside ++ '"' :: rest) =
        lead ++ kept ++ ((endMarker ++ garbage) ++ '"' :: rest) := by simp [whole]
    have room : 0 < utf8Length (endMarker ++ garbage) := by
      rw [utf8Length_append]
      exact Nat.add_pos_left (by decide) _
    dsimp only [Option.map_some]
    rw [stop, start, text, if_pos (by omega), removeBetween?_append]
    dsimp only
    have moved : utf8Length (lead ++ kept) + 1 = utf8Length (lead ++ (kept ++ ['"'])) := by
      rw [utf8Length_append, utf8Length_quote]
    have same : lead ++ (kept ++ ['"']) ++ rest = lead ++ kept ++ '"' :: rest := by simp
    rw [search?_quote, going, ends, moved, same, List.append_assoc]
  | none =>
    have ends : upToEnd inside = inside := upToEnd_of_unmarked within
    have moved := utf8Length_quote lead inside
    have same : lead ++ (inside ++ ['"']) ++ rest = lead ++ (inside ++ '"' :: rest) := by simp
    rw [going, ends, same]
    cases later : cut? endMarker rest with
    | none =>
      dsimp only [Option.map_none]
      rw [cutStrings?_none_eq]
    | some cut =>
      obtain ⟨a', b'⟩ := cut
      have past : ¬utf8Length lead + utf8Length (inside ++ '"' :: a') <
          utf8Length lead + utf8Length inside := by
        rw [utf8Length_append inside]
        omega
      dsimp only [Option.map_some]
      rw [if_neg past, moved, ← moved, utf8Length_append, utf8Length_cons]
      simp only [show ('"' : Char).utf8Size = 1 from rfl, Nat.add_assoc]

/-- **The strings are cut as in one pass**, from a beginning of the text on that stays as it is. -/
theorem cutStrings?_append (front s : List Char) :
    cutStrings? ((cut? endMarker s).map fun found => utf8Length front + utf8Length found.1)
        (utf8Length front) (front ++ s) =
      some (front ++ withoutGarbage (front.getLastD '"') s) := by
  -- on the text that is left, with what was passed kept in front of it
  induction length : s.length using Nat.strongRecOn generalizing s front with
  | _ n ih =>
  subst length
  cases found : cut? endMarker s with
  | none => rw [withoutGarbage_of_unmarked found, Option.map_none, cutStrings?_none_eq]
  | some first =>
    obtain ⟨a, b⟩ := first
    rw [Option.map_some, withoutGarbage_eq]
    cases opened : toQuote (front.getLastD '"') s with
    | none =>
      rw [cutStrings?_some_eq, quoteFrom?_append, opened]
      rfl
    | some cut =>
      obtain ⟨outside, r⟩ := cut
      have shorter := toQuote_length opened
      cases closed : toQuote '"' r with
      | none =>
        have whole := eq_append_of_toQuote opened
        have behind := utf8Length_quote front outside
        have text : front ++ s = front ++ (outside ++ ['"']) ++ r := by simp [whole]
        rw [cutStrings?_some_eq, quoteFrom?_append, opened]
        dsimp only [Option.map_some]
        rw [behind, text, quoteFrom?_append, getLastD_append, List.getLastD_concat, closed]
        dsimp only [Option.map_none]
        rw [← text]
      | some cut =>
        obtain ⟨inside, rest⟩ := cut
        have shorter' := toQuote_length closed
        let next := front ++ (outside ++ ['"']) ++ (upToEnd inside ++ ['"'])
        have last : next.getLastD '"' = '"' := by
          rw [getLastD_append, getLastD_append]
          rfl
        rw [cutStrings?_round found opened closed rfl, ih rest.length (by omega) next rest rfl,
          last]
        dsimp only
        rw [closed]
        simp [next]

/-- What comes out of a value: nothing is ever cut inside of a character. -/
theorem stripGarbage?_eq (value : String) :
    stripGarbage? value = some (String.ofList (withoutGarbage '"' value.toList)) := by
  have mark := search?_append endMarker [] value.toList
  have cut := cutStrings?_append [] value.toList
  rw [List.nil_append, show utf8Length [] = 0 from rfl] at mark cut
  rw [stripGarbage?, mark, Option.bind_eq_bind, Option.bind_some, cut]
  rfl

theorem stripGarbage_eq (value : String) :
    stripGarbage value = String.ofList (withoutGarbage '"' value.toList) := by
  rw [stripGarbage, stripGarbage?_eq, Option.getD_some]

end DebugLink.Variable
