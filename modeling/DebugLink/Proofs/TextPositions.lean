import DebugLink.Text.Position
import Mathlib.Data.List.Basic

/-!
# Cutting at positions

A position that is the length of a beginning of the text is one to cut at, and what is searched for
from there on is searched for in the rest. What cannot be seen in the middle of a text, where a
position is good for nothing, is that a character takes several bytes.

* `splitByte?_append`, `search?_append`, `removeBetween?_append`: cutting behind a beginning.
* `isSome_splitByte?_iff`: a text can be cut exactly at the positions of the string.
* `cut?_append_cons`: what does not hold a sign is found before it or behind it.
* `bytes_getElem?_last`: the byte before a position belongs to the character before it.
-/

namespace DebugLink.Text

/-! ## Bytes -/

theorem bytes_append (s t : List Char) : bytes (s ++ t) = bytes s ++ bytes t := List.flatMap_append

/-- A text has as many bytes as its positions count. -/
theorem length_bytes (s : List Char) : (bytes s).length = utf8Length s := by
  induction s with
  | nil => rfl
  | cons c s ih =>
    rw [utf8Length_cons, ← ih, ← String.length_utf8EncodeChar c, ← List.length_append]
    rfl

theorem utf8Length_toList (s : String) : utf8Length s.toList = s.utf8ByteSize := by
  rw [← length_bytes, bytes, ← String.size_toByteArray, ← String.utf8Encode_toList,
    List.utf8Encode, List.size_toByteArray]

/-- Where every character has one byte, bytes are counted as characters. -/
theorem utf8Length_of_single {s : List Char} (single : ∀ c ∈ s, c.utf8Size = 1) :
    utf8Length s = s.length := by
  induction s with
  | nil => rfl
  | cons c s ih =>
    obtain ⟨first, later⟩ := List.forall_mem_cons.1 single
    rw [utf8Length_cons, first, ih later, List.length_cons, Nat.add_comm]

/-! ## Behind a beginning -/

/-- A split at the end of a character gives the text on both sides. -/
theorem splitByte?_append (a b : List Char) : splitByte? (utf8Length a) (a ++ b) = some (a, b) := by
  induction a with
  | nil => cases b <;> rfl
  | cons c a ih =>
    obtain ⟨n, length⟩ : ∃ n, c.utf8Size + utf8Length a = n + 1 :=
      Nat.exists_eq_succ_of_ne_zero (by have := Char.utf8Size_pos c; omega)
    have behind : n + 1 - c.utf8Size = utf8Length a := by omega
    rw [utf8Length_cons, length, List.cons_append, splitByte?, if_pos (by omega), behind, ih]
    rfl

/-- **A text can be cut** exactly at the positions of the string. -/
theorem isSome_splitByte?_iff {n : Nat} {s : String} :
    (splitByte? n s.toList).isSome = true ↔ String.Pos.Raw.IsValid s ⟨n⟩ := by
  rw [Option.isSome_iff_exists]
  constructor
  · rintro ⟨⟨a, b⟩, cut⟩
    obtain ⟨whole, rfl⟩ := eq_append_of_splitByte? cut
    have ends := String.Pos.Raw.isValid_rawEndPos (s := String.ofList a)
    have within := ends.append_right (String.ofList b)
    rw [← String.ofList_append, ← whole, String.ofList_toList] at within
    have length := utf8Length_toList (String.ofList a)
    rw [String.toList_ofList] at length
    rw [length]
    exact within
  · intro valid
    -- a position of the string has whole characters before it
    obtain ⟨a, b, encoded, rfl⟩ := valid.exists
    have within : n ≤ (String.ofList (a ++ b)).utf8ByteSize := valid.le_utf8ByteSize
    have length : utf8Length a = n := by
      have size := congrArg ByteArray.size encoded
      rw [← String.toByteArray_ofList, String.size_toByteArray, ← utf8Length_toList,
        String.toList_ofList, ByteArray.size_extract, String.size_toByteArray] at size
      exact size.trans (Nat.min_eq_left within)
    exact ⟨(a, b), by rw [String.toList_ofList, ← length, splitByte?_append]⟩

theorem search?_append (pat a b : List Char) :
    search? pat (utf8Length a) (a ++ b) =
      some ((cut? pat b).map fun found => utf8Length a + utf8Length found.1) := by
  rw [search?, splitByte?_append]
  rfl

/-- What lies between two ends of characters can be removed. -/
theorem removeBetween?_append (a b c : List Char) :
    removeBetween? (utf8Length a) (utf8Length a + utf8Length b) (a ++ (b ++ c)) =
      some (a ++ c) := by
  have back : splitByte? (utf8Length a + utf8Length b) (a ++ (b ++ c)) = some (a ++ b, c) := by
    rw [← utf8Length_append, ← List.append_assoc, splitByte?_append]
  rw [removeBetween?, if_pos (Nat.le_add_right _ _), splitByte?_append, back]
  rfl

/-! ## Occurrences -/

theorem cut?_of_leads {pat s : List Char} (given : pat ≠ []) (leads : pat <+: s) :
    cut? pat s = some ([], s.drop pat.length) := by
  cases s with
  | nil => exact absurd (List.prefix_nil.1 leads) given
  | cons c s => rw [cut?, if_pos (List.isPrefixOf_iff_prefix.2 leads)]

theorem cut?_of_not_leads {pat : List Char} {c : Char} {s : List Char}
    (other : ¬pat <+: c :: s) :
    cut? pat (c :: s) = (cut? pat s).map fun cut => (c :: cut.1, cut.2) := by
  rw [cut?, if_neg (mt List.isPrefixOf_iff_prefix.1 other)]

/-- What does not hold a sign and leads a text leads what stands before the sign. -/
theorem prefix_append_cons_iff {pat s rest : List Char} {sign : Char} (absent : sign ∉ pat) :
    pat <+: s ++ sign :: rest ↔ pat <+: s := by
  refine ⟨fun leads => ?_, fun leads => leads.trans (List.prefix_append _ _)⟩
  obtain short | long := Nat.le_total pat.length s.length
  · exact List.prefix_of_prefix_length_le leads (List.prefix_append _ _) short
  · obtain ⟨more, rfl⟩ := List.prefix_of_prefix_length_le (List.prefix_append _ _) leads long
    cases more with
    | nil => exact ⟨[], by rw [List.append_nil, List.append_nil]⟩
    | cons c more =>
      rw [List.prefix_append_right_inj, List.cons_prefix_cons] at leads
      exact absurd (by simp [leads.1]) absent

/-- **What does not hold a sign** is found before it, or else behind it. -/
theorem cut?_append_cons {pat : List Char} {sign : Char} (given : pat ≠ []) (absent : sign ∉ pat)
    (s rest : List Char) :
    cut? pat (s ++ sign :: rest) =
      match cut? pat s with
      | some (a, b) => some (a, b ++ sign :: rest)
      | none => (cut? pat rest).map fun cut => (s ++ sign :: cut.1, cut.2) := by
  induction s with
  | nil =>
    have alone : cut? pat [] = none := by rw [cut?, if_neg (by simpa using given)]
    have other : ¬pat <+: sign :: rest := fun leads =>
      given (List.prefix_nil.1 ((prefix_append_cons_iff (s := []) absent).1 leads))
    rw [List.nil_append, cut?_of_not_leads other, alone]
    rfl
  | cons c s ih =>
    by_cases leads : pat <+: c :: s
    · have whole := leads.trans (List.prefix_append _ (sign :: rest))
      rw [cut?_of_leads given leads, cut?_of_leads given whole,
        List.drop_append_of_le_length leads.length_le]
    · rw [cut?_of_not_leads leads, List.cons_append, cut?_of_not_leads, ih]
      · cases cut? pat s with
        | some cut => rfl
        | none => cases cut? pat rest <;> rfl
      · rwa [← List.cons_append, prefix_append_cons_iff absent]

/-- One character is looked for as a text of its own. -/
theorem cut?_singleton (stop : Char) (s : List Char) :
    cut? [stop] s = cutWhere? (· == stop) s := by
  induction s with
  | nil => rfl
  | cons c s ih =>
    by_cases here : c = stop
    · subst here
      simp [cut?, cutWhere?]
    · simp [cut?, cutWhere?, here, Ne.symm here, ih]

/-- The occurrence that is found is the first one. -/
theorem not_prefix_drop_of_cut? {pat s a b : List Char} (found : cut? pat s = some (a, b)) {m : Nat}
    (before : m < a.length) : ¬pat <+: s.drop m := by
  induction s generalizing a b m with
  | nil =>
    simp only [cut?] at found
    split at found
    · cases found
      cases before
    · cases found
  | cons c s ih =>
    by_cases leads : pat <+: c :: s
    · rw [cut?, if_pos (List.isPrefixOf_iff_prefix.2 leads)] at found
      cases found
      cases before
    · rw [cut?_of_not_leads leads] at found
      obtain ⟨⟨a', b'⟩, found', e⟩ := Option.map_eq_some_iff.1 found
      cases e
      cases m with
      | zero => exact leads
      | succ m => exact ih found' (Nat.lt_of_succ_lt_succ before)

/-- A pattern that is not found leads no rest of the text. -/
theorem not_prefix_drop_of_cut?_eq_none {pat s : List Char} (given : pat ≠ [])
    (missing : cut? pat s = none) (m : Nat) : ¬pat <+: s.drop m := by
  induction s generalizing m with
  | nil => simpa using given
  | cons c s ih =>
    by_cases leads : pat <+: c :: s
    · rw [cut?_of_leads given leads] at missing
      cases missing
    · rw [cut?_of_not_leads leads, Option.map_eq_none_iff] at missing
      cases m with
      | zero => exact leads
      | succ m => exact ih missing m

theorem not_mem_of_cut?_eq_none {sign : Char} {s : List Char} (missing : cut? [sign] s = none) :
    sign ∉ s := by
  induction s with
  | nil => exact List.not_mem_nil
  | cons c s ih =>
    by_cases leads : [sign] <+: c :: s
    · rw [cut?_of_leads (List.cons_ne_nil _ _) leads] at missing
      cases missing
    · rw [cut?_of_not_leads leads, Option.map_eq_none_iff] at missing
      refine List.not_mem_cons_of_ne_of_not_mem (fun here => leads ?_) (ih missing)
      exact here ▸ List.prefix_append [sign] s

/-- A sign is found with none before it. -/
theorem not_mem_of_cut? {sign : Char} {s a b : List Char} (found : cut? [sign] s = some (a, b)) :
    sign ∉ a := by
  intro mem
  obtain ⟨m, before, here⟩ := List.mem_iff_getElem.1 mem
  refine not_prefix_drop_of_cut? found before ?_
  rw [eq_append_of_cut? found, List.append_assoc,
    List.drop_append_of_le_length (Nat.le_of_lt before), List.drop_eq_getElem_cons before, here]
  exact ⟨_, rfl⟩

/-! ## The last byte -/

/-- The last byte of a character is that of an ASCII character only for this character itself. -/
theorem getLast?_utf8EncodeChar {sign : Char} (ascii : sign.utf8Size = 1) (c : Char) :
    (String.utf8EncodeChar c).getLast? = some sign.val.toUInt8 ↔ c = sign := by
  have small : sign.val.toNat ≤ 127 := by
    have := Char.utf8Size_eq_one_iff.1 ascii
    simpa [UInt32.le_iff_toNat_le] using this
  have code : sign.val.toUInt8.toNat = sign.val.toNat := by
    rw [UInt32.toNat_toUInt8]
    omega
  -- the last one of several bytes is none of ASCII
  have tail : ∀ n : Nat, UInt8.ofNat (n % 64 + 128) ≠ sign.val.toUInt8 := fun n same => by
    have same := congrArg UInt8.toNat same
    rw [UInt8.toNat_ofNat', code] at same
    omega
  constructor
  · intro last
    unfold String.utf8EncodeChar at last
    simp only at last
    split at last
    · rename_i below
      have byte : UInt8.ofNat c.val.toNat = sign.val.toUInt8 := Option.some.inj last
      have same := congrArg UInt8.toNat byte
      rw [UInt8.toNat_ofNat', code] at same
      refine Char.ext (UInt32.toNat_inj.1 ?_)
      omega
    split at last
    · exact absurd (Option.some.inj last) (tail _)
    split at last
    · exact absurd (Option.some.inj last) (tail _)
    · exact absurd (Option.some.inj last) (tail _)
  · rintro rfl
    rw [String.utf8EncodeChar_eq_singleton ascii]
    rfl

/-- **The byte before a position** is that of an ASCII character exactly if the character before it
is this one. -/
theorem bytes_getElem?_last {sign : Char} (ascii : sign.utf8Size = 1) (a b : List Char) (c : Char) :
    (bytes (a ++ c :: b))[utf8Length (a ++ [c]) - 1]? = some sign.val.toUInt8 ↔ c = sign := by
  have whole : bytes (a ++ c :: b) = bytes (a ++ [c]) ++ bytes b := by
    rw [← bytes_append, List.append_assoc]
    rfl
  have some_byte : 0 < utf8Length (a ++ [c]) := by
    rw [utf8Length_append, utf8Length_cons]
    have := Char.utf8Size_pos c
    omega
  have ends : (bytes (a ++ [c])).getLast? = (String.utf8EncodeChar c).getLast? := by
    have one : bytes [c] = String.utf8EncodeChar c := by
      rw [bytes, List.flatMap_cons, List.flatMap_nil, List.append_nil]
    have given : String.utf8EncodeChar c ≠ [] := fun empty => by
      have length := String.length_utf8EncodeChar c
      rw [empty] at length
      exact absurd length (Nat.ne_of_lt (Char.utf8Size_pos c))
    rw [bytes_append, one, List.getLast?_append_of_ne_nil _ given]
  rw [whole, ← getLast?_utf8EncodeChar ascii, ← ends, List.getLast?_eq_getElem?, ← length_bytes,
    List.getElem?_append_left (by rw [length_bytes]; omega)]

end DebugLink.Text
