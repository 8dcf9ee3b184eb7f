import DebugLink.Text.Blank

/-!
# Numerals

Unsigned numbers of a fixed width in a radix up to 16, as gdb and the user write them: an optional
plus sign and at least one digit. A number that does not fit its width is refused.

* `lt_of_readWord`: a number that was read fits its width.
* `readNat32_toString`: a number is read back as it is written.
-/

namespace DebugLink.Text

/-- The value of a digit in the given radix. -/
def digit? (radix : Nat) (c : Char) : Option Nat :=
  let value :=
    if '0' ≤ c ∧ c ≤ '9' then some (c.toNat - '0'.toNat)
    else if 'a' ≤ c ∧ c ≤ 'f' then some (c.toNat - 'a'.toNat + 10)
    else if 'A' ≤ c ∧ c ≤ 'F' then some (c.toNat - 'A'.toNat + 10)
    else none
  value.filter (· < radix)

/-- The value of a run of digits that continues a number already read. -/
def readDigits (radix : Nat) : Nat → List Char → Option Nat
  | value, [] => some value
  | value, c :: s => (digit? radix c).bind fun d => readDigits radix (value * radix + d) s

/-- The first number that 32 bits do not hold. -/
def limit32 : Nat := 4294967296

/-- The first number that 64 bits do not hold. -/
def limit64 : Nat := 18446744073709551616

/-- The number written in `s`, when it is below the limit of its width. -/
def readWord (radix limit : Nat) (s : List Char) : Option Nat :=
  let digits := (after? ['+'] s).getD s
  if digits.isEmpty then none else (readDigits radix 0 digits).filter (· < limit)

/-- The decimal number of 32 bits written in `s`, without any blanks. -/
def readNat32 (s : List Char) : Option Nat := readWord 10 limit32 s

/-- The decimal number of 32 bits written in `s` between blanks. -/
def readTrimmed32 (s : List Char) : Option Nat := readNat32 (trim s)

/-- Lower case hexadecimal digits, at least `width` of them. -/
def hexDigits (width n : Nat) : String :=
  let digits := Nat.toDigits 16 n
  String.ofList (List.replicate (width - digits.length) '0' ++ digits)

theorem lt_of_readWord {radix limit n : Nat} {s : List Char} (h : readWord radix limit s = some n) :
    n < limit := by
  simp only [readWord] at h
  split at h
  · simp at h
  · simpa using (Option.filter_eq_some_iff.1 h).2

theorem bounds_of_isDigit {c : Char} (h : c.isDigit = true) : '0' ≤ c ∧ c ≤ '9' := by
  simpa [Char.isDigit, Char.le_def, UInt32.le_iff_toNat_le] using h

theorem digit?_of_isDigit {c : Char} (h : c.isDigit = true) :
    digit? 10 c = some (c.toNat - '0'.toNat) := by
  have bounds := bounds_of_isDigit h
  have small : c.toNat - '0'.toNat < 10 := by
    have upper : c.toNat ≤ '9'.toNat := bounds.2
    have zero : '0'.toNat = 48 := rfl
    have nine : '9'.toNat = 57 := rfl
    omega
  unfold digit?
  simp only [bounds, and_self, if_true]
  exact Option.filter_some_pos (by simpa using small)

/-- A decimal digit is told by its value. -/
theorem eq_of_digit? {c : Char} {n : Nat} (h : digit? 10 c = some n) : c.toNat = 48 + n := by
  obtain ⟨value, small⟩ := Option.filter_eq_some_iff.1 h
  have below : n < 10 := by simpa using small
  split at value
  · rename_i bounds
    have lower : '0'.toNat ≤ c.toNat := bounds.1
    have zero : '0'.toNat = 48 := rfl
    simp only [Option.some.injEq] at value
    omega
  · split at value
    · simp only [Option.some.injEq] at value
      omega
    · split at value
      · simp only [Option.some.injEq] at value
        omega
      · cases value

theorem utf8Size_of_digit? {c : Char} {n : Nat} (h : digit? 10 c = some n) : c.utf8Size = 1 := by
  have value := eq_of_digit? h
  have below : n < 10 := by simpa using (Option.filter_eq_some_iff.1 h).2
  rw [Char.utf8Size_eq_one_iff, UInt32.le_iff_toNat_le]
  show c.toNat ≤ 127
  omega

/-- A text of digits is read as the number that it writes. -/
theorem readDigits_of_isDigit {s : List Char} (h : ∀ c ∈ s, c.isDigit = true) (value : Nat) :
    readDigits 10 value s = some (Nat.ofDigitChars 10 s value) := by
  induction s generalizing value with
  | nil => rfl
  | cons c s ih =>
    have head := digit?_of_isDigit (h c List.mem_cons_self)
    simp only [readDigits, head, Option.bind_some]
    rw [ih fun d hd => h d (List.mem_cons_of_mem c hd), Nat.ofDigitChars_cons, Nat.mul_comm]

theorem toList_toString (n : Nat) : (toString n).toList = Nat.toDigits 10 n := by
  rw [Nat.toString_eq_repr, Nat.repr_eq_ofList_toDigits, String.toList_ofList]

theorem isDigit_of_mem_toString {n : Nat} {c : Char} (h : c ∈ (toString n).toList) :
    c.isDigit = true := by
  rw [toList_toString] at h
  exact Nat.isDigit_of_mem_toDigits (by decide) (by decide) h

/-- No digit is a blank. -/
theorem isBlank_of_isDigit {c : Char} (h : c.isDigit = true) : isBlank c = false := by
  have lower : '0'.toNat ≤ c.toNat := (bounds_of_isDigit h).1
  have upper : c.toNat ≤ '9'.toNat := (bounds_of_isDigit h).2
  have apart : ∀ r ∈ blankRanges, r.2 < '0'.toNat ∨ '9'.toNat < r.1 := by decide
  refine Bool.eq_false_iff.2 fun blank => ?_
  obtain ⟨r, mem, low, high⟩ := inRanges_iff.1 blank
  rcases apart r mem with below | above
  · omega
  · omega

theorem toString_ne_nil (n : Nat) : (toString n).toList ≠ [] := by
  rw [toList_toString]
  exact Nat.toDigits_ne_nil

theorem toString_inj {m n : Nat} (h : toString m = toString n) : m = n := by
  have digits : Nat.toDigits 10 m = Nat.toDigits 10 n := by
    rw [← toList_toString, ← toList_toString, h]
  rw [← Nat.ofDigitChars_ten_toDigits (n := m), digits, Nat.ofDigitChars_ten_toDigits]

/-- **A number is read back as it is written.** -/
theorem readNat32_toString {n : Nat} (h : n < limit32) :
    readNat32 (toString n).toList = some n := by
  have digits : ∀ c ∈ (toString n).toList, c.isDigit = true := fun _ => isDigit_of_mem_toString
  have unsigned : after? ['+'] (toString n).toList = none := by
    unfold after?
    refine if_neg fun sign => ?_
    -- the sign would be the first of the digits
    obtain ⟨rest, e⟩ := List.isPrefixOf_iff_prefix.1 sign
    exact absurd (digits '+' (e ▸ List.mem_cons_self)) (by decide)
  have value : readDigits 10 0 (toString n).toList = some n := by
    rw [readDigits_of_isDigit digits, toList_toString, Nat.ofDigitChars_ten_toDigits]
  unfold readNat32 readWord
  simp only [unsigned, Option.getD_none, List.isEmpty_iff, toString_ne_nil, if_false, value]
  exact Option.filter_some_pos (by simpa using h)

end DebugLink.Text
