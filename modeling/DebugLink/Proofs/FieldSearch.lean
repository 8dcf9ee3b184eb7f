import Mathlib.Data.List.Infix
import DebugLink.Mi.Field

/-!
# Looking for a name in a text

A name is looked for in the text alone. It is found at the first place where it stands with an equal
sign behind it and a field may start: what else is written around that place makes no difference.

* `lookUp_cons`: one step of the search.
* `Resembles`: something in a text looks like a field of this name.
* `lookUp_past`: where nothing does, the search passes the text.
* `lookUp_found`, `lookUp_other`: it stops at the name that it looks for, and passes any other.
-/

namespace DebugLink.Mi

/-! ## A prefix with one special character -/

theorem prefix_of_prefix_append_cons {l a r : List Char} {c : Char} (absent : c ∉ l)
    (leads : l <+: a ++ c :: r) : l <+: a := by
  obtain short | long := List.prefix_or_prefix_of_prefix leads (List.prefix_append a (c :: r))
  · exact short
  obtain ⟨t, rfl⟩ := long
  cases t with
  | nil => exact (List.append_nil a).symm ▸ List.prefix_rfl
  | cons x t =>
    obtain ⟨more, e⟩ := (List.prefix_append_right_inj a).1 leads
    cases e
    exact absurd (List.mem_append_right a List.mem_cons_self) absent

theorem eq_of_prefix_cons {a b r : List Char} {c : Char} (ha : c ∉ a) (hb : c ∉ b)
    (leads : a ++ [c] <+: b ++ c :: r) : a = b := by
  obtain ⟨t, rfl⟩ := prefix_of_prefix_append_cons ha ((List.prefix_append a [c]).trans leads)
  rw [List.append_assoc] at leads
  cases t with
  | nil => rw [List.append_nil]
  | cons x t =>
    obtain ⟨more, e⟩ := (List.prefix_append_right_inj a).1 leads
    cases e
    exact absurd (List.mem_append_right a List.mem_cons_self) hb

/-! ## Steps of the search -/

/-- What follows the equal sign of the name, where the text comes after a given character. -/
def lookUp (key : String) (before : Char) (s : List Char) : Option (List Char) :=
  afterField? (key.toList ++ ['=']) before 0 s

theorem afterField?_skip (pat : List Char) (before : Char) (s : List Char) (c : Char)
    (rest : List Char) :
    afterField? pat before (s.length + 1) (s ++ c :: rest) = afterField? pat c 0 rest := by
  induction s generalizing before with
  | nil => rfl
  | cons x s ih => exact ih x

/-- The characters after which a field may start. -/
def fieldMarks : List Char := [',', '{', '[']

theorem startsField_iff {c : Char} : startsField c = true ↔ c ∈ fieldMarks := by
  simp [startsField, fieldMarks, or_assoc]

/-- Something in the text looks like a field of this name: behind a character after which a field
may start, there is the name and an equal sign. -/
def Resembles (key : String) (s : List Char) : Prop :=
  ∃ mark ∈ fieldMarks, mark :: (key.toList ++ ['=']) <:+: s

instance (key : String) (s : List Char) : Decidable (Resembles key s) :=
  List.decidableBEx (fun mark => mark :: (key.toList ++ ['=']) <:+: s) fieldMarks

section Search

variable {key : String}

/-- Nothing looks like a field where there is no equal sign behind the first character. -/
theorem not_resembles_of_undivided {s : List Char} (undivided : '=' ∉ s) (before : Char) :
    ¬Resembles key (before :: s) := by
  have equal : '=' ∈ key.toList ++ ['='] := List.mem_append_right _ List.mem_cons_self
  rintro ⟨mark, -, here⟩
  obtain first | later := List.infix_cons_iff.1 here
  · exact undivided ((List.cons_prefix_cons.1 first).2.subset equal)
  · exact undivided (later.subset (List.mem_cons_of_mem mark equal))

theorem lookUp_cons_of_apart {before c : Char} {s : List Char}
    (apart : ¬key.toList ++ ['='] <+: c :: s) : lookUp key before (c :: s) = lookUp key c s := by
  unfold lookUp
  rw [afterField?, if_neg fun leads => apart (List.isPrefixOf_iff_prefix.1 leads)]

/-- Between two characters that start fields, it does not matter which of them comes before. -/
theorem lookUp_of_startsField {b c : Char} (hb : startsField b = true) (hc : startsField c = true)
    (s : List Char) : lookUp key b s = lookUp key c s := by
  unfold lookUp
  cases s with
  | nil => rfl
  | cons x s => rw [afterField?, afterField?, hb, hc]

/-- **The name is found** where a field may start with it, whatever it is. -/
theorem lookUp_found {before : Char} (starts : startsField before = true) (rest : List Char) :
    lookUp key before (key.toList ++ '=' :: rest) = some rest := by
  have split : key.toList ++ '=' :: rest = key.toList ++ ['='] ++ rest := by simp
  obtain ⟨c, s, e⟩ := List.exists_cons_of_ne_nil
    (List.append_ne_nil_of_right_ne_nil key.toList (List.cons_ne_nil '=' rest))
  have leads : (key.toList ++ ['=']).isPrefixOf (c :: s) = true := by
    rw [List.isPrefixOf_iff_prefix, ← e, split]
    exact List.prefix_append _ rest
  rw [lookUp, e, afterField?, if_pos leads, if_pos starts, ← e, split, List.drop_left]

variable (free : '=' ∉ key.toList)

include free

/-- A name is not found in what is shorter. -/
theorem lookUp_shorter {s : List Char} (short : s.length < key.toList.length) (undivided : '=' ∉ s)
    (before : Char) (rest : List Char) :
    lookUp key before (s ++ '=' :: rest) = lookUp key '=' rest := by
  have apart : ¬key.toList ++ ['='] <+: s ++ '=' :: rest := fun leads =>
    absurd (congrArg List.length (eq_of_prefix_cons free undivided leads)) (Nat.ne_of_gt short)
  induction s generalizing before with
  | nil => exact lookUp_cons_of_apart apart
  | cons x s ih =>
    have short' : s.length < key.toList.length := Nat.lt_of_succ_lt short
    have undivided' : '=' ∉ s := fun mem => undivided (List.mem_cons_of_mem x mem)
    refine (lookUp_cons_of_apart apart).trans (ih short' undivided' x fun leads => ?_)
    exact absurd (congrArg List.length (eq_of_prefix_cons free undivided' leads))
      (Nat.ne_of_gt short')

/-- **One step of the search.** The name is found here, or looked for from the next character on.
That occurrences do not overlap makes no difference, since the equal sign comes last. -/
theorem lookUp_cons (before c : Char) (s : List Char) :
    lookUp key before (c :: s) =
      if startsField before = true ∧ key.toList ++ ['='] <+: c :: s then
        some ((c :: s).drop (key.toList.length + 1))
      else lookUp key c s := by
  by_cases leads : key.toList ++ ['='] <+: c :: s
  case neg => rw [if_neg fun both => leads both.2, lookUp_cons_of_apart leads]
  have first : (key.toList ++ ['=']).isPrefixOf (c :: s) = true :=
    List.isPrefixOf_iff_prefix.2 leads
  by_cases starts : startsField before = true
  · rw [if_pos ⟨starts, leads⟩, lookUp, afterField?, if_pos first, if_pos starts,
      List.length_append]
    rfl
  rw [if_neg fun both => starts both.1, lookUp, afterField?, if_pos first, if_neg starts]
  -- the search goes on behind the name that stands here in the wrong place
  obtain ⟨rest, e⟩ := leads
  cases name : key.toList with
  | nil =>
    rw [lookUp, name]
    rfl
  | cons x t =>
    rw [name, List.append_assoc, List.cons_append] at e
    obtain ⟨rfl, rfl⟩ := List.cons.inj e
    have length : (x :: t ++ ['=']).length - 1 = t.length + 1 := by simp
    have skipped := afterField?_skip (x :: t ++ ['=']) x t '=' rest
    have short : t.length < key.toList.length := by simp [name]
    have undivided : '=' ∉ t := fun mem => free (name ▸ List.mem_cons_of_mem x mem)
    have walked := lookUp_shorter free short undivided x rest
    rw [length, List.singleton_append, skipped, walked, lookUp, name]

/-- **Past a text** in which nothing looks like the field, the search goes on. -/
theorem lookUp_past {before : Char} {s : List Char} (plain : ¬Resembles key (before :: s))
    {c : Char} (foreign : c ∉ key.toList) (unequal : c ≠ '=') (rest : List Char) :
    lookUp key before (s ++ c :: rest) = lookUp key c rest := by
  have absent : c ∉ key.toList ++ ['='] := by simpa [foreign] using unequal
  induction s generalizing before with
  | nil =>
    refine lookUp_cons_of_apart fun leads => ?_
    have empty := prefix_of_prefix_append_cons (a := []) absent leads
    exact absurd (List.prefix_nil.1 empty) (by simp)
  | cons x s ih =>
    rw [List.cons_append, lookUp_cons free]
    split
    · rename_i found
      have inside : key.toList ++ ['='] <+: x :: s :=
        prefix_of_prefix_append_cons absent found.2
      refine absurd ⟨before, startsField_iff.1 found.1, ?_⟩ plain
      exact (List.prefix_cons_inj before).2 inside |>.isInfix
    · refine ih fun later => plain ?_
      obtain ⟨mark, starts, inside⟩ := later
      exact ⟨mark, starts, inside.trans (List.suffix_cons before _).isInfix⟩

/-- **Another name** is passed, if no field may start inside it. -/
theorem lookUp_other {before : Char} {s : List Char} (undivided : '=' ∉ s)
    (whole : ∀ c ∈ s, startsField c = false) (other : key.toList ≠ s ∨ startsField before = false)
    (rest : List Char) : lookUp key before (s ++ '=' :: rest) = lookUp key '=' rest := by
  have passed : ¬(startsField before = true ∧ key.toList ++ ['='] <+: s ++ '=' :: rest) := by
    rintro ⟨starts, leads⟩
    obtain differs | unstarted := other
    · exact differs (eq_of_prefix_cons free undivided leads)
    · rw [starts] at unstarted
      cases unstarted
  induction s generalizing before with
  | nil => exact (lookUp_cons free before '=' rest).trans (if_neg passed)
  | cons x s ih =>
    have inside : startsField x = false := whole x List.mem_cons_self
    refine (lookUp_cons free before x (s ++ '=' :: rest)).trans ((if_neg passed).trans ?_)
    refine ih (fun mem => undivided (List.mem_cons_of_mem x mem))
      (fun c mem => whole c (List.mem_cons_of_mem x mem)) (.inr inside) ?_
    rintro ⟨starts, -⟩
    rw [inside] at starts
    cases starts

end Search

end DebugLink.Mi
