import DebugLink.Proofs.CutStrings

/-!
# What is garbage

Which characters of a value are garbage is said by their places alone. A quote counts if it is the
first character or no backslash stands before it. The quotes that count are paired from the left,
and what stands between the two of a pair is garbage from the first end marker on. Exactly that is
removed when the strings are cut.

* `RealQuote`, `inPairs`, `IsGarbage`, `ungarbled`: the text without its garbage.
* `realQuotes_append`: the quotes that count are found one after another.
* `withoutGarbage_eq_ungarbled`: what one pass leaves.
* `garbage_removed_exactly`: **what is removed** from a value.
-/

namespace DebugLink.Variable

open Text

/-- The character at this place is a quote that counts. -/
def RealQuote (s : List Char) (i : Nat) : Prop :=
  s[i]? = some '"' ∧ (i = 0 ∨ s[i - 1]? ≠ some '\\')

instance (s : List Char) (i : Nat) : Decidable (RealQuote s i) :=
  inferInstanceAs (Decidable (_ ∧ _))

/-- The places of the quotes that count, from one place on. -/
def realQuotesFrom (s : List Char) (start : Nat) : List Nat :=
  (List.range' start (s.length - start)).filter (RealQuote s ·)

/-- The members of a list two by two. A last one without another is left out. -/
def inPairs {α : Type} : List α → List (α × α)
  | a :: b :: l => (a, b) :: inPairs l
  | _ => []

/-- The place is between these quotes, in an end marker there or behind one. -/
def Garbled (s : List Char) (quotes : Nat × Nat) (i : Nat) : Prop :=
  ∃ mark ≤ i, quotes.1 < mark ∧ mark + endMarker.length ≤ quotes.2 ∧
    endMarker <+: s.drop mark ∧ i < quotes.2

instance (s : List Char) (quotes : Nat × Nat) (i : Nat) : Decidable (Garbled s quotes i) :=
  inferInstanceAs (Decidable (∃ mark ≤ i, _))

/-- The character at this place is garbage. -/
def IsGarbage (s : List Char) (i : Nat) : Prop :=
  ∃ quotes ∈ inPairs (realQuotesFrom s 0), Garbled s quotes i

instance (s : List Char) (i : Nat) : Decidable (IsGarbage s i) :=
  inferInstanceAs (Decidable (∃ quotes ∈ _, _))

/-- The characters at the places without a property, in their order, where the text starts at the
place `n`. -/
def outsideOf (P : Nat → Prop) [DecidablePred P] (n : Nat) (s : List Char) : List Char :=
  ((s.zipIdx n).filter fun c => ¬P c.2).map (·.1)

/-- The characters that are no garbage. -/
def ungarbled (s : List Char) : List Char := outsideOf (IsGarbage s) 0 s

/-! ## Quotes -/

/-- Whether a quote is real is seen in the character before it. -/
theorem realQuote_append {front : List Char} {c : Char} {s : List Char} :
    RealQuote (front ++ c :: s) front.length ↔ c = '"' ∧ front.getLastD '"' ≠ '\\' := by
  unfold RealQuote
  rw [List.getElem?_append_right (Nat.le_refl _), Nat.sub_self, List.getElem?_cons_zero,
    Option.some_inj]
  refine and_congr_right fun _ => ?_
  obtain rfl | ⟨front, d, rfl⟩ := List.eq_nil_or_concat' front
  · exact iff_of_true (.inl rfl) (by decide)
  · rw [List.getLastD_concat, List.length_append, List.length_singleton, Nat.add_sub_cancel,
      List.append_assoc, List.getElem?_append_right (Nat.le_refl _), Nat.sub_self]
    simp

/-- **The quotes that count** are the next one and those behind it. -/
theorem realQuotes_append (front s : List Char) :
    realQuotesFrom (front ++ s) front.length =
      match toQuote (front.getLastD '"') s with
      | none => []
      | some (outside, _) => (front.length + outside.length) ::
          realQuotesFrom (front ++ s) (front.length + outside.length + 1) := by
  induction s generalizing front with
  | nil => simp [realQuotesFrom, toQuote]
  | cons c s ih =>
    have behind := ih (front ++ [c])
    -- the first place is a real quote, or the places begin behind it
    have places : realQuotesFrom (front ++ c :: s) front.length =
        if RealQuote (front ++ c :: s) front.length then
          front.length :: realQuotesFrom (front ++ c :: s) (front.length + 1)
        else realQuotesFrom (front ++ c :: s) (front.length + 1) := by
      have length : (front ++ c :: s).length - front.length =
          (front ++ c :: s).length - (front.length + 1) + 1 := by
        simp only [List.length_append, List.length_cons]
        omega
      rw [realQuotesFrom, length, List.range'_succ, List.filter_cons]
      simp only [decide_eq_true_eq]
      rfl
    rw [places, toQuote]
    rw [List.append_assoc, List.singleton_append, List.length_append, List.length_singleton,
      List.getLastD_concat] at behind
    split
    · rename_i real
      rw [if_pos (realQuote_append.1 real)]
      rfl
    · rename_i other
      rw [if_neg (mt realQuote_append.2 other), behind]
      cases toQuote c s with
      | none => rfl
      | some cut =>
        obtain ⟨outside, r⟩ := cut
        simp only [Option.map_some, List.length_cons]
        rw [Nat.add_assoc front.length 1, Nat.add_comm 1]

/-- Pairs are made of what is there. -/
theorem le_of_mem_inPairs {l : List Nat} {n : Nat} (least : ∀ i ∈ l, n ≤ i) {quotes : Nat × Nat}
    (mem : quotes ∈ inPairs l) : n ≤ quotes.1 := by
  fun_induction inPairs l with
  | case1 a b l ih =>
    obtain ⟨first, second, later⟩ :
        n ≤ a ∧ n ≤ b ∧ ∀ i ∈ l, n ≤ i := by simpa using least
    obtain rfl | mem := List.mem_cons.1 mem
    · exact first
    · exact ih later mem
  | case2 => cases mem

theorem le_of_mem_realQuotesFrom {s : List Char} {start i : Nat}
    (mem : i ∈ realQuotesFrom s start) : start ≤ i :=
  (List.mem_range'_1.1 (List.mem_of_mem_filter mem)).1

/-! ## Garbage -/

theorem not_garbled_before {s : List Char} {quotes : Nat × Nat} {i : Nat} (before : i ≤ quotes.1) :
    ¬Garbled s quotes i := by
  rintro ⟨mark, reached, behind, -⟩
  omega

theorem not_garbled_behind {s : List Char} {quotes : Nat × Nat} {i : Nat}
    (behind : quotes.2 ≤ i) : ¬Garbled s quotes i := by
  rintro ⟨mark, -, -, -, -, before⟩
  omega

section OutsideOf

variable {P Q : Nat → Prop} [DecidablePred P] [DecidablePred Q] {s t : List Char} {n : Nat}

theorem outsideOf_append :
    outsideOf P n (s ++ t) = outsideOf P n s ++ outsideOf P (n + s.length) t := by
  unfold outsideOf
  rw [List.zipIdx_append, List.filter_append, List.map_append]

theorem outsideOf_cons {c : Char} (clean : ¬P n) :
    outsideOf P n (c :: s) = c :: outsideOf P (n + 1) s := by
  unfold outsideOf
  rw [List.zipIdx_cons, List.filter_cons_of_pos (by simpa using clean), List.map_cons]

/-- Only the places within the text matter. -/
theorem outsideOf_congr (same : ∀ i, n ≤ i → i < n + s.length → (P i ↔ Q i)) :
    outsideOf P n s = outsideOf Q n s := by
  unfold outsideOf
  refine congrArg (List.map _) (List.filter_congr fun c mem => ?_)
  obtain ⟨least, most, -⟩ := List.mem_zipIdx mem
  simp only [same c.2 least most]

/-- With no place taken out all of it stays. -/
theorem outsideOf_eq_self (clean : ∀ i, n ≤ i → i < n + s.length → ¬P i) :
    outsideOf P n s = s := by
  unfold outsideOf
  rw [List.filter_eq_self.2, List.zipIdx_map_fst]
  intro c mem
  obtain ⟨least, most, -⟩ := List.mem_zipIdx mem
  exact decide_eq_true (clean c.2 least most)

/-- With every place taken out nothing stays. -/
theorem outsideOf_eq_nil (full : ∀ i, n ≤ i → i < n + s.length → P i) :
    outsideOf P n s = [] := by
  unfold outsideOf
  rw [List.filter_eq_nil_iff.2, List.map_nil]
  intro c mem
  obtain ⟨least, most, -⟩ := List.mem_zipIdx mem
  simpa using full c.2 least most

end OutsideOf

/-- **In a string**, what stands from its end on is garbage. -/
theorem outsideOf_garbled (lead inside rest : List Char) :
    outsideOf (Garbled (lead ++ '"' :: (inside ++ '"' :: rest))
        (lead.length, lead.length + 1 + inside.length)) (lead.length + 1) inside =
      upToEnd inside := by
  -- a marker between the quotes is one in the string, at the place that it has there
  have marker : ∀ j, j ≤ inside.length →
      (endMarker <+: (lead ++ '"' :: (inside ++ '"' :: rest)).drop (lead.length + 1 + j) ↔
        endMarker <+: inside.drop j) := by
    intro j fits
    rw [Nat.add_assoc, ← List.drop_drop, List.drop_left, Nat.add_comm 1, List.drop_succ_cons,
      List.drop_append_of_le_length fits, prefix_append_cons_iff quote_not_mem_endMarker]
  have absent : ∀ i, (∀ j < i, ¬endMarker <+: inside.drop j) → i ≤ inside.length →
      ∀ k, lead.length + 1 ≤ k → k < lead.length + 1 + i →
      ¬Garbled (lead ++ '"' :: (inside ++ '"' :: rest))
          (lead.length, lead.length + 1 + inside.length) k := by
    rintro i unmarked fits k - most ⟨mark, reached, behind, room, here, -⟩
    dsimp only at behind room
    obtain ⟨j, rfl⟩ : ∃ j, mark = lead.length + 1 + j := Nat.exists_eq_add_of_le behind
    exact unmarked j (by omega) ((marker j (by omega)).1 here)
  unfold upToEnd
  cases cut : cut? endMarker inside with
  | none =>
    exact outsideOf_eq_self
      (absent _ (fun j _ => not_prefix_drop_of_cut?_eq_none endMarker_ne_nil cut j) (Nat.le_refl _))
  | some parts =>
    obtain ⟨kept, garbage⟩ := parts
    have whole : inside = kept ++ (endMarker ++ garbage) := by
      rw [eq_append_of_cut? cut, List.append_assoc]
    have length : inside.length = kept.length + (endMarker.length + garbage.length) := by
      rw [whole, List.length_append, List.length_append]
    have clean := absent kept.length (fun j before => not_prefix_drop_of_cut? cut before)
      (by omega)
    have full : ∀ k, lead.length + 1 + kept.length ≤ k →
        k < lead.length + 1 + kept.length + (endMarker ++ garbage).length →
        Garbled (lead ++ '"' :: (inside ++ '"' :: rest))
          (lead.length, lead.length + 1 + inside.length) k := by
      intro k least most
      rw [List.length_append] at most
      refine ⟨lead.length + 1 + kept.length, least, by dsimp only; omega, by dsimp only; omega, ?_,
        by dsimp only; omega⟩
      rw [marker kept.length (by omega), whole, List.drop_left]
      exact List.prefix_append _ _
    conv_lhs => arg 3; rw [whole]
    rw [outsideOf_append, outsideOf_eq_self clean, outsideOf_eq_nil full, List.append_nil]

/-- Up to the closing quote of a string, only what is in the string is garbage. -/
theorem outsideOf_string {P : Nat → Prop} [DecidablePred P] (front outside inside rest : List Char)
    {lead : List Char} (given : lead = front ++ outside)
    (first : ∀ i, i < lead.length + 1 + inside.length + 1 →
      (P i ↔ Garbled (lead ++ '"' :: (inside ++ '"' :: rest))
        (lead.length, lead.length + 1 + inside.length) i)) :
    outsideOf P front.length (outside ++ '"' :: (inside ++ '"' :: rest)) =
      outside ++ '"' :: (upToEnd inside ++
        '"' :: outsideOf P (lead.length + 1 + inside.length + 1) rest) := by
  have start : front.length + outside.length = lead.length := by rw [given, List.length_append]
  have before : ∀ i, front.length ≤ i → i < front.length + outside.length → ¬P i := by
    intro i _ most
    rw [first i (by omega)]
    exact not_garbled_before (by dsimp only; omega)
  have opening : ¬P lead.length := by
    rw [first _ (by omega)]
    exact not_garbled_before (Nat.le_refl _)
  have closing : ¬P (lead.length + 1 + inside.length) := by
    rw [first _ (by omega)]
    exact not_garbled_behind (Nat.le_refl _)
  rw [outsideOf_append, outsideOf_eq_self before, start, outsideOf_cons opening, outsideOf_append,
    outsideOf_congr (s := inside) fun i _ most => first i (by omega), outsideOf_garbled,
    outsideOf_cons closing]

/-- The quotes behind an opening one. -/
theorem realQuotes_behind (front outside r : List Char) :
    realQuotesFrom (front ++ (outside ++ '"' :: r)) (front.length + outside.length + 1) =
      match toQuote '"' r with
      | none => []
      | some (inside, _) => (front.length + outside.length + 1 + inside.length) ::
          realQuotesFrom (front ++ (outside ++ '"' :: r))
            (front.length + outside.length + 1 + inside.length + 1) := by
  have quotes := realQuotes_append (front ++ (outside ++ ['"'])) r
  have text : front ++ (outside ++ ['"']) ++ r = front ++ (outside ++ '"' :: r) := by simp
  have length : (front ++ (outside ++ ['"'])).length = front.length + outside.length + 1 := by
    simp [Nat.add_assoc]
  rwa [text, length, getLastD_append, List.getLastD_concat] at quotes

/-- **One pass** leaves what is no garbage, behind a beginning of the text. -/
theorem withoutGarbage_eq_outsideOf {before : Char} {s : List Char} (front : List Char)
    (last : before = front.getLastD '"') {pairs : List (Nat × Nat)}
    (paired : inPairs (realQuotesFrom (front ++ s) front.length) = pairs) :
    withoutGarbage before s =
      outsideOf (fun i => ∃ quotes ∈ pairs, Garbled (front ++ s) quotes i) front.length s := by
  fun_induction withoutGarbage before s generalizing front pairs with
  | case1 before s missing =>
    rw [realQuotes_append, ← last, missing] at paired
    subst paired
    exact (outsideOf_eq_self (by simp [inPairs])).symm
  | case2 before s outside r opened missing =>
    rw [realQuotes_append, ← last, opened, eq_append_of_toQuote opened] at paired
    dsimp only at paired
    rw [realQuotes_behind, missing] at paired
    subst paired
    exact (outsideOf_eq_self (by simp [inPairs])).symm
  | case3 before s outside r opened inside rest closed ih =>
    have whole := eq_append_of_toQuote opened
    have whole' := eq_append_of_toQuote closed
    rw [realQuotes_append, ← last, opened] at paired
    dsimp only at paired
    subst whole
    rw [realQuotes_behind, closed] at paired
    dsimp only at paired
    subst whole' paired
    rw [inPairs]
    obtain ⟨lead, given⟩ : ∃ lead, lead = front ++ outside := ⟨_, rfl⟩
    obtain ⟨next, given'⟩ : ∃ next, next = lead ++ '"' :: (inside ++ ['"']) := ⟨_, rfl⟩
    obtain ⟨text, given''⟩ : ∃ text, text = lead ++ '"' :: (inside ++ '"' :: rest) := ⟨_, rfl⟩
    have start : front.length + outside.length = lead.length := by rw [given, List.length_append]
    have stop : lead.length + 1 + inside.length + 1 = next.length := by
      simp only [given', List.length_append, List.length_cons, List.length_nil]
      omega
    have whole : front ++ (outside ++ '"' :: (inside ++ '"' :: rest)) = text := by
      simp [given'', given]
    have whole' : next ++ rest = text := by simp [given'', given']
    have later := ih next
      (by rw [given', ← List.cons_append, ← List.append_assoc, List.getLastD_concat]) rfl
    rw [whole'] at later
    rw [whole, start, stop]
    -- the first pair has its garbage before its closing quote, the others have theirs behind it
    have early : ∀ i, i < next.length →
        ((∃ quotes ∈ (lead.length, lead.length + 1 + inside.length) ::
            inPairs (realQuotesFrom text next.length), Garbled text quotes i) ↔
          Garbled text (lead.length, lead.length + 1 + inside.length) i) := by
      intro i before
      rw [List.exists_mem_cons_iff, or_iff_left]
      rintro ⟨quotes, mem, garbled⟩
      have behind := le_of_mem_inPairs (fun _ => le_of_mem_realQuotesFrom) mem
      exact not_garbled_before (by omega) garbled
    have late : ∀ i, next.length ≤ i →
        ((∃ quotes ∈ (lead.length, lead.length + 1 + inside.length) ::
            inPairs (realQuotesFrom text next.length), Garbled text quotes i) ↔
          ∃ quotes ∈ inPairs (realQuotesFrom text next.length), Garbled text quotes i) := by
      intro i behind
      rw [List.exists_mem_cons_iff, or_iff_right (not_garbled_behind (by dsimp only; omega))]
    rw [outsideOf_string front outside inside rest given fun i before => ?_, stop,
      outsideOf_congr fun i least _ => late i least, ← later]
    · simp
    · rw [← given'']
      exact early i (stop ▸ before)

/-- The text without its garbage is what one pass leaves. -/
theorem withoutGarbage_eq_ungarbled (s : List Char) : withoutGarbage '"' s = ungarbled s :=
  withoutGarbage_eq_outsideOf [] rfl rfl

/-- **What is removed** from a value is its garbage: of every two quotes that count, paired from the
left, the characters between them from the first end marker on. Everything else is left as it is,
and no text is ever cut inside of a character. -/
theorem garbage_removed_exactly (value : String) :
    stripGarbage? value = some (String.ofList (ungarbled value.toList)) ∧
      stripGarbage value = String.ofList (ungarbled value.toList) := by
  rw [stripGarbage?_eq, stripGarbage_eq, withoutGarbage_eq_ungarbled]
  exact ⟨rfl, rfl⟩

end DebugLink.Variable
