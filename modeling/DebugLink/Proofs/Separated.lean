import DebugLink.Proofs.Written

/-!
# Texts with separators

Pieces are put together with a separator between each two, and a text is cut at every separator or
at the first few. Pieces without separators come back as they were; and whatever the text is, no
piece that it is cut into holds one, but for the last of those that are limited in number.

* `fields_intercalate`: pieces without separators come back.
* `intercalate_fields`: the pieces of a text are put together to the text.
* `not_mem_of_mem_fields`: no piece holds a separator.
* `not_mem_of_fieldsUpTo`: where the number of pieces is limited, none but the last does.
* `replace_nothing`: a text without the pattern stays as it is.
* `not_infix_intercalate`: a separator stands only before the start of a piece.
-/

namespace DebugLink.Text

/-! ## Every separator -/

/-- Every text has a field, the empty text an empty one. -/
theorem fields_ne_nil (sep : Char) (s : List Char) : fields sep s ≠ [] := by
  cases s with
  | nil => exact List.cons_ne_nil _ _
  | cons c s =>
    rw [fields]
    split
    · exact List.cons_ne_nil _ _
    · split <;> exact List.cons_ne_nil _ _

/-- A character that is no separator belongs to the first piece. -/
theorem fields_cons_of_ne {sep c : Char} (other : c ≠ sep) (s : List Char) :
    ∃ f fs, fields sep s = f :: fs ∧ fields sep (c :: s) = (c :: f) :: fs := by
  obtain ⟨f, fs, e⟩ := List.exists_cons_of_ne_nil (fields_ne_nil sep s)
  refine ⟨f, fs, e, ?_⟩
  rw [fields, if_neg other, e]

/-- A text without the separator is one field. -/
theorem fields_of_not_mem {sep : Char} {s : List Char} (absent : sep ∉ s) : fields sep s = [s] := by
  induction s with
  | nil => rfl
  | cons c s ih =>
    obtain ⟨other, later⟩ := List.ne_and_not_mem_of_not_mem_cons absent
    obtain ⟨f, fs, e, first⟩ := fields_cons_of_ne other.symm s
    rw [ih later] at e
    cases e
    exact first

/-- Up to the first separator the text is the first field. -/
theorem fields_append {sep : Char} {s : List Char} (absent : sep ∉ s) (rest : List Char) :
    fields sep (s ++ sep :: rest) = s :: fields sep rest := by
  induction s with
  | nil => rw [List.nil_append, fields, if_pos rfl]
  | cons c s ih =>
    obtain ⟨other, later⟩ := List.ne_and_not_mem_of_not_mem_cons absent
    obtain ⟨f, fs, e, first⟩ := fields_cons_of_ne other.symm (s ++ sep :: rest)
    rw [ih later] at e
    cases e
    exact first

/-- **Pieces without separators** come back when they are put together and cut again. -/
theorem fields_intercalate {sep : Char} {pieces : List (List Char)} (some_piece : pieces ≠ [])
    (absent : ∀ piece ∈ pieces, sep ∉ piece) :
    fields sep ([sep].intercalate pieces) = pieces := by
  induction pieces with
  | nil => exact absurd rfl some_piece
  | cons piece pieces ih =>
    obtain ⟨first, later⟩ := List.forall_mem_cons.1 absent
    cases pieces with
    | nil => rw [List.intercalate_singleton, fields_of_not_mem first]
    | cons next pieces =>
      rw [List.intercalate_cons_cons, List.append_assoc, List.singleton_append,
        fields_append first, ih (List.cons_ne_nil _ _) later]

/-- The pieces of a text are put together to the text. -/
theorem intercalate_fields (sep : Char) (s : List Char) : [sep].intercalate (fields sep s) = s := by
  induction s with
  | nil => rfl
  | cons c s ih =>
    by_cases here : c = sep
    · obtain ⟨f, fs, e⟩ := List.exists_cons_of_ne_nil (fields_ne_nil sep s)
      rw [fields, if_pos here, e, List.intercalate_cons_cons, ← e, ih, here]
      rfl
    · obtain ⟨f, fs, e, first⟩ := fields_cons_of_ne here s
      rw [e] at ih
      rw [first, ← ih]
      cases fs with
      | nil => rw [List.intercalate_singleton, List.intercalate_singleton]
      | cons g fs => rw [List.intercalate_cons_cons, List.intercalate_cons_cons]; rfl

/-- A character that is in no piece and not the separator is not in the pieces joined. -/
theorem not_mem_intercalate {c sep : Char} (other : c ≠ sep) {pieces : List (List Char)}
    (absent : ∀ piece ∈ pieces, c ∉ piece) : c ∉ [sep].intercalate pieces := by
  induction pieces with
  | nil => exact List.not_mem_nil
  | cons piece pieces ih =>
    obtain ⟨first, later⟩ := List.forall_mem_cons.1 absent
    cases pieces with
    | nil => rwa [List.intercalate_singleton]
    | cons next pieces =>
      have rest := ih later
      rw [List.intercalate_cons_cons]
      simp [first, other, rest]

/-- **No piece holds a separator**, and none holds what the text does not hold. -/
theorem not_mem_of_mem_fields {sep : Char} {s f : List Char} (mem : f ∈ fields sep s) :
    sep ∉ f ∧ f ⊆ s := by
  induction s generalizing f with
  | nil =>
    cases List.mem_singleton.1 mem
    exact ⟨List.not_mem_nil, List.nil_subset _⟩
  | cons c s ih =>
    by_cases here : c = sep
    · rw [fields, if_pos here] at mem
      obtain rfl | later := List.mem_cons.1 mem
      · exact ⟨List.not_mem_nil, List.nil_subset _⟩
      · obtain ⟨absent, inside⟩ := ih later
        exact ⟨absent, List.subset_cons_of_subset c inside⟩
    · obtain ⟨g, gs, e, first⟩ := fields_cons_of_ne here s
      rw [e] at ih
      rw [first] at mem
      obtain rfl | later := List.mem_cons.1 mem
      · obtain ⟨absent, inside⟩ := ih List.mem_cons_self
        exact ⟨List.not_mem_cons_of_ne_of_not_mem (Ne.symm here) absent,
          List.cons_subset_cons c inside⟩
      · obtain ⟨absent, inside⟩ := ih (List.mem_cons_of_mem g later)
        exact ⟨absent, List.subset_cons_of_subset c inside⟩

/-- A separator anywhere cuts the text into the fields of its two sides. -/
theorem fields_append_cons (sep : Char) (s rest : List Char) :
    fields sep (s ++ sep :: rest) = fields sep s ++ fields sep rest := by
  induction s with
  | nil => exact if_pos rfl
  | cons c s ih =>
    by_cases here : c = sep
    · rw [List.cons_append, fields, if_pos here, ih, fields, if_pos here, List.cons_append]
    · obtain ⟨f, fs, e, first⟩ := fields_cons_of_ne here s
      rw [e] at ih
      rw [List.cons_append, first, fields, if_neg here, ih, List.cons_append, List.cons_append]

/-! ## The first separators -/

theorem fieldsUpTo_append {sep : Char} {s : List Char} (absent : sep ∉ s) (n : Nat)
    (rest : List Char) :
    fieldsUpTo sep (n + 2) (s ++ sep :: rest) = s :: fieldsUpTo sep (n + 1) rest := by
  rw [fieldsUpTo, cutWhere?_append absent]

/-- **Of a limited number of pieces** none but the last holds a separator, and none holds what the
text does not hold. -/
theorem not_mem_of_fieldsUpTo {sep : Char} {n i : Nat} {s f : List Char}
    (here : (fieldsUpTo sep n s)[i]? = some f) : (i + 1 < n → sep ∉ f) ∧ f ⊆ s := by
  induction n generalizing i s with
  | zero => cases here
  | succ n ih =>
    cases n with
    | zero =>
      cases i with
      | zero => cases here; exact ⟨fun less => absurd less (Nat.lt_irrefl _), List.Subset.refl _⟩
      | succ i => cases here
    | succ n =>
      -- the last field takes all that is left, separators included
      by_cases broken : sep ∈ s
      · obtain ⟨a, b, rfl, absent⟩ := List.eq_append_cons_of_mem broken
        rw [fieldsUpTo_append absent] at here
        cases i with
        | zero =>
          cases here
          exact ⟨fun _ => absent, List.subset_append_left _ _⟩
        | succ i =>
          obtain ⟨separate, inside⟩ := ih here
          refine ⟨fun less => separate (Nat.lt_of_succ_lt_succ less), fun d mem => ?_⟩
          exact List.mem_append_right a (List.mem_cons_of_mem sep (inside mem))
      · rw [fieldsUpTo, cutWhere?_eq_none broken] at here
        cases i with
        | zero =>
          cases here
          exact ⟨fun _ => broken, List.Subset.refl _⟩
        | succ i => cases here

/-! ## Replacing -/

/-- A pattern whose first character is missing from the front lies behind it. -/
theorem infix_of_infix_append {x : Char} {pat a b : List Char} (absent : x ∉ a)
    (inside : x :: pat <:+: a ++ b) : x :: pat <:+: b := by
  induction a with
  | nil => exact inside
  | cons c a ih =>
    obtain ⟨other, later⟩ := List.ne_and_not_mem_of_not_mem_cons absent
    obtain first | rest := List.infix_cons_iff.1 inside
    · exact absurd (List.cons_prefix_cons.1 first).1 other
    · exact ih later rest

/-- What ends in a character that does not come later was there before. -/
theorem infix_of_append_infix {x : Char} {pat a b : List Char} (absent : x ∉ b)
    (inside : pat ++ [x] <:+: a ++ b) : pat ++ [x] <:+: a := by
  have mirrored := List.reverse_infix.2 inside
  rw [List.reverse_append, List.reverse_append] at mirrored
  have rest := infix_of_infix_append (by simpa using absent) mirrored
  rw [← List.reverse_infix, List.reverse_append]
  exact rest

/-- A pattern without the separator that leads the text ends before it. -/
theorem prefix_of_prefix_append_cons {sep : Char} {pat a b : List Char} (absent : sep ∉ pat)
    (leads : pat <+: a ++ sep :: b) : pat <+: a := by
  refine List.prefix_of_prefix_length_le leads (List.prefix_append a _) ?_
  refine Nat.le_of_not_lt fun long => ?_
  have whole : a ++ [sep] <+: pat := List.prefix_of_prefix_length_le
    ⟨b, by simp⟩ leads (by rw [List.length_append, List.length_singleton]; omega)
  exact absent (whole.subset (List.mem_append_right a (List.mem_singleton_self sep)))

/-- What holds no separator is in one of the pieces. -/
theorem infix_append_cons {sep : Char} {pat a b : List Char} (absent : sep ∉ pat)
    (inside : pat <:+: a ++ sep :: b) : pat <:+: a ∨ pat <:+: b := by
  induction a with
  | nil =>
    obtain first | rest := List.infix_cons_iff.1 inside
    · exact .inl (prefix_of_prefix_append_cons absent first).isInfix
    · exact .inr rest
  | cons c a ih =>
    obtain first | rest := List.infix_cons_iff.1 inside
    · exact .inl (prefix_of_prefix_append_cons (a := c :: a) absent first).isInfix
    · exact (ih rest).imp_left fun here => List.infix_cons here

/-- A separator stands only before the start of a piece. -/
theorem not_infix_intercalate {sep c : Char} {pat : List Char} {pieces : List (List Char)}
    (absent : ∀ piece ∈ pieces, sep ∉ piece)
    (starts : ∀ piece ∈ pieces, ∃ d s, piece = d :: s ∧ d ≠ c) :
    ¬sep :: c :: pat <:+: [sep].intercalate pieces := by
  intro inside
  induction pieces with
  | nil => cases List.infix_nil.1 inside
  | cons piece pieces ih =>
    obtain ⟨first, later⟩ := List.forall_mem_cons.1 absent
    cases pieces with
    | nil =>
      rw [List.intercalate_singleton] at inside
      exact first (inside.subset List.mem_cons_self)
    | cons next pieces =>
      obtain ⟨-, starts'⟩ := List.forall_mem_cons.1 starts
      rw [List.intercalate_cons_cons, List.append_assoc] at inside
      obtain here | rest := List.infix_cons_iff.1 (infix_of_infix_append first inside)
      · obtain ⟨d, s, rfl, other⟩ := starts' next List.mem_cons_self
        have leads : c :: pat <+: [sep].intercalate ((d :: s) :: pieces) :=
          (List.cons_prefix_cons.1 here).2
        have start : ∃ t, [sep].intercalate ((d :: s) :: pieces) = d :: t := by
          cases pieces with
          | nil => exact ⟨s, List.intercalate_singleton⟩
          | cons e pieces => exact ⟨_, List.intercalate_cons_cons⟩
        obtain ⟨t, e⟩ := start
        rw [e] at leads
        exact other (List.cons_prefix_cons.1 leads).1.symm
      · exact ih later starts' rest

/-- A text in which the pattern does not occur stays as it is. -/
theorem replace_nothing {pat s : List Char} (new : List Char) (absent : ¬pat <:+: s) :
    replace pat new s = s := by
  unfold replace
  induction s with
  | nil => rfl
  | cons c s ih =>
    have elsewhere : ¬pat.isPrefixOf (c :: s) = true := fun leads =>
      absent (List.isPrefixOf_iff_prefix.1 leads).isInfix
    rw [replaceFrom, if_neg elsewhere,
      ih fun inside => absent (inside.trans (List.suffix_cons c s).isInfix)]

end DebugLink.Text
