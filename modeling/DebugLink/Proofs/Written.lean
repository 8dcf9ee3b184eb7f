import DebugLink.Proofs.Answer
import DebugLink.Text.Position

/-!
# Records as they are written

A record is written as two digits, a delimiter and its fields. What is read of it then is what was
written, field by field, whatever the fields hold that come last.

* `start_written`: reading begins after the delimiter.
* `field_written`, `number_written`: a field is read up to its delimiter, a number as it is written.
* `readWord_paddedDigits`, `address_written`: so are numbers of other radices, with zeros before
  them.
* `read_deleted`, `read_enabled`, `read_disabled`, `read_ignoreCount`, `read_condition`: the records
  that repeat a command.
-/

namespace DebugLink

open Text Record Reading

namespace Text

theorem dropEndWhile_eq_self {p : Char → Bool} {s : List Char} (h : ∀ c ∈ s, p c = false) :
    dropEndWhile p s = s := by
  induction s with
  | nil => rfl
  | cons c s ih =>
    have head := h c List.mem_cons_self
    rw [dropEndWhile, ih fun d hd => h d (List.mem_cons_of_mem c hd)]
    cases s with
    | nil => simp [head]
    | cons _ _ => rfl

/-- A text without blanks has none at its ends. -/
theorem trim_eq_self {s : List Char} (h : ∀ c ∈ s, isBlank c = false) : trim s = s := by
  have start : trimStart s = s := by
    cases s with
    | nil => rfl
    | cons c s => exact List.dropWhile_cons_of_neg (by simp [h c List.mem_cons_self])
  unfold trim trimEnd
  rw [start, dropEndWhile_eq_self h]

/-- A number is read back as it is written, also where blanks around it do not count. -/
theorem readTrimmed32_toString {n : Nat} (h : n < limit32) :
    readTrimmed32 (toString n).toList = some n := by
  unfold readTrimmed32
  rw [trim_eq_self fun _ hc => isBlank_of_isDigit (isDigit_of_mem_toString hc)]
  exact readNat32_toString h

/-- A text is cut at a sign that it does not hold before. -/
theorem cutWhere?_append {sign : Char} {s : List Char} (absent : sign ∉ s) (rest : List Char) :
    cutWhere? (· == sign) (s ++ sign :: rest) = some (s, rest) := by
  induction s with
  | nil => simp [cutWhere?]
  | cons c s ih =>
    obtain ⟨other, later⟩ := List.ne_and_not_mem_of_not_mem_cons absent
    rw [List.cons_append, cutWhere?, ih later]
    simp [other.symm]

/-- A text is not cut at a sign that it does not hold. -/
theorem cutWhere?_eq_none {sign : Char} {s : List Char} (absent : sign ∉ s) :
    cutWhere? (· == sign) s = none := by
  induction s with
  | nil => rfl
  | cons c s ih =>
    obtain ⟨other, later⟩ := List.ne_and_not_mem_of_not_mem_cons absent
    rw [cutWhere?, ih later]
    simp [other.symm]

/-- Two characters take two bytes at least. -/
theorem one_lt_utf8Length (c d : Char) (s : List Char) : 1 < utf8Length (c :: d :: s) := by
  have first := Char.utf8Size_pos c
  have second := Char.utf8Size_pos d
  rw [utf8Length_cons, utf8Length_cons]
  omega

theorem fromByte_ascii {c : Char} (ascii : c.utf8Size = 1) (n : Nat) (s : List Char) :
    fromByte (n + 1) (c :: s) = fromByte n s := by
  rw [fromByte, ascii, if_pos (Nat.le_add_left 1 n), Nat.add_sub_cancel]

theorem not_mem_toString {c : Char} (h : c.isDigit = false) (n : Nat) :
    c ∉ (toString n).toList := fun mem => by
  rw [isDigit_of_mem_toString mem] at h
  cases h

/-- The digits of a number in a radix, at least `width` of them. -/
def paddedDigits (radix width n : Nat) : List Char :=
  let digits := Nat.toDigits radix n
  List.replicate (width - digits.length) '0' ++ digits

/-- Digits are read from left to right. -/
theorem readDigits_append (radix value : Nat) (s t : List Char) :
    readDigits radix value (s ++ t) = (readDigits radix value s).bind (readDigits radix · t) := by
  induction s generalizing value with
  | nil => rfl
  | cons c s ih =>
    rw [List.cons_append, readDigits, readDigits]
    cases digit? radix c with
    | none => rfl
    | some d => exact ih (value * radix + d)

section Radix

variable {radix : Nat} (two : 1 < radix) (sixteen : radix ≤ 16)

include sixteen

/-- Each digit is read back, up to sixteen of them. -/
theorem digit?_digitChar {d : Nat} (h : d < radix) : digit? radix d.digitChar = some d := by
  have value : ∀ d < 16, digit? 16 d.digitChar = some d := by decide
  have hex := value d (Nat.lt_of_lt_of_le h sixteen)
  unfold digit? at hex ⊢
  simp only [Option.filter_eq_some_iff] at hex ⊢
  exact ⟨hex.1, by simpa using h⟩

include two

/-- **A number is read back from its digits.** -/
theorem readDigits_toDigits (n : Nat) : readDigits radix 0 (Nat.toDigits radix n) = some n := by
  induction n using Nat.strongRecOn with
  | _ n ih =>
    rw [Nat.toDigits_eq_if two]
    split
    · rename_i small
      rw [readDigits, digit?_digitChar sixteen small, Option.bind_some, readDigits, Nat.zero_mul,
        Nat.zero_add]
    · rename_i large
      have less : n / radix < n := Nat.div_lt_self (by omega) two
      have last : n % radix < radix := Nat.mod_lt n (by omega)
      rw [readDigits_append, ih _ less, Option.bind_some, readDigits,
        digit?_digitChar sixteen last, Nat.mul_comm]
      simp [readDigits, Nat.div_add_mod]

/-- Nothing but digits is written. -/
theorem exists_of_mem_toDigits {n : Nat} {c : Char} (h : c ∈ Nat.toDigits radix n) :
    ∃ d < 16, c = d.digitChar := by
  induction n using Nat.strongRecOn with
  | _ n ih =>
    rw [Nat.toDigits_eq_if two] at h
    split at h
    · rename_i small
      exact ⟨n, Nat.lt_of_lt_of_le small sixteen, List.mem_singleton.1 h⟩
    · rename_i large
      obtain front | last := List.mem_append.1 h
      · exact ih _ (Nat.div_lt_self (by omega) two) front
      · exact ⟨n % radix, Nat.lt_of_lt_of_le (Nat.mod_lt n (by omega)) sixteen,
          List.mem_singleton.1 last⟩

/-- What holds of the sixteen digits holds of all characters of a number. -/
theorem of_mem_paddedDigits {P : Char → Prop} (digits : ∀ d < 16, P (Nat.digitChar d))
    {width n : Nat} : ∀ c ∈ paddedDigits radix width n, P c := by
  intro c mem
  obtain zero | digit := List.mem_append.1 mem
  · exact List.eq_of_mem_replicate zero ▸ digits 0 (by decide)
  · obtain ⟨d, small, rfl⟩ := exists_of_mem_toDigits two sixteen digit
    exact digits d small

/-- **A number of any radix is read back as it is written**, also with zeros before it. -/
theorem readWord_paddedDigits {limit width n : Nat} (h : n < limit) :
    readWord radix limit (paddedDigits radix width n) = some n := by
  have unsigned : after? ['+'] (paddedDigits radix width n) = none := by
    unfold after?
    refine if_neg fun sign => ?_
    obtain ⟨rest, e⟩ := List.isPrefixOf_iff_prefix.1 sign
    have plus : '+' ∈ paddedDigits radix width n := e ▸ List.mem_cons_self
    exact of_mem_paddedDigits two sixteen (P := (· ≠ '+')) (by decide) '+' plus rfl
  have zeros : ∀ k, readDigits radix 0 (List.replicate k '0') = some 0 := by
    intro k
    induction k with
    | zero => rfl
    | succ k ih =>
      have zero := digit?_digitChar sixteen (d := 0) (by omega)
      rw [List.replicate_succ, readDigits, show digit? radix '0' = some 0 from zero,
        Option.bind_some, Nat.zero_mul]
      exact ih
  have value : readDigits radix 0 (paddedDigits radix width n) = some n := by
    rw [paddedDigits, readDigits_append, zeros, Option.bind_some,
      readDigits_toDigits two sixteen]
  have given : paddedDigits radix width n ≠ [] :=
    List.append_ne_nil_of_right_ne_nil _ Nat.toDigits_ne_nil
  unfold readWord
  simp only [unsigned, Option.getD_none, List.isEmpty_iff, given, if_false, value]
  exact Option.filter_some_pos (by simpa using h)

end Radix

end Text

namespace Record

/-- **Reading begins** after the two digits and the delimiter. -/
theorem start_written {record : String} {c k : Char} {category kind : Nat} {body : List Char}
    (h : record.toList = c :: k :: ';' :: body) (hc : digit? 10 c = some category)
    (hk : digit? 10 k = some kind) :
    Cursor.start record = .ok ⟨record, ⟨category, kind⟩, ';', body⟩ := by
  have tag : Tag.read record = .ok ⟨category, kind⟩ :=
    Tag.read_eq_ok_iff.2 ⟨c, k, _, h, hc, hk⟩
  unfold Cursor.start
  rw [tag, h]
  rfl

namespace Reading

variable {α β : Type}

/-- A reading goes on after what it gave. -/
theorem bind_read {reading : Reading α} {next : α → Reading β} {c d : Cursor} {a : α}
    (h : reading c = .ok a d) : (reading >>= next) c = next a d := by
  show EStateM.bind reading next c = _
  unfold EStateM.bind
  rw [h]

theorem run_written {reading : Reading α} {record : String} {c d : Cursor} {a : α}
    (start : Cursor.start record = .ok c) (h : reading c = .ok a d) :
    reading.run record = .ok a := by
  unfold Reading.run
  rw [start]
  dsimp only [bind, Except.bind, EStateM.run]
  rw [h]

theorem toList_address (width n : Nat) :
    ("0x" ++ hexDigits width n).toList = '0' :: 'x' :: paddedDigits 16 width n := by
  have digits : (hexDigits width n).toList = paddedDigits 16 width n := String.toList_ofList
  rw [String.toList_append, digits]
  rfl

/-- An address is read back as it is written, with any number of zeros before it. -/
theorem readAddress_written {width n : Nat} (h : n < limit64) :
    readAddress ("0x" ++ hexDigits width n) = some n := by
  have unspaced : ∀ c ∈ '0' :: 'x' :: paddedDigits 16 width n, isBlank c = false := by
    intro c mem
    obtain rfl | mem := List.mem_cons.1 mem
    · decide
    obtain rfl | mem := List.mem_cons.1 mem
    · decide
    exact of_mem_paddedDigits (P := (isBlank · = false)) (by decide) (by decide) (by decide) c mem
  unfold readAddress
  rw [toList_address, trim_eq_self unspaced]
  exact readWord_paddedDigits (by decide) (by decide) h

theorem address_written {width n : Nat} (h : n < limit64) (name : String) (c : Cursor) :
    address ("0x" ++ hexDigits width n) name c = .ok n c := by
  unfold address
  rw [readAddress_written h]

theorem hasMore_iff_ne_nil {c : Cursor} : c.hasMore = true ↔ c.unread ≠ [] := by
  simp [Cursor.hasMore]

/-- **All that follows** is read, if there is something. -/
theorem rest_of_more {c : Cursor} (more : c.unread ≠ []) (name : String) :
    rest name c = .ok (String.ofList c.unread) { c with unread := [] } :=
  if_pos (hasMore_iff_ne_nil.2 more)

theorem rest?_of_more {c : Cursor} (more : c.unread ≠ []) :
    rest? c = .ok (some (String.ofList c.unread)) { c with unread := [] } :=
  if_pos (hasMore_iff_ne_nil.2 more)

section Fields

variable {record : String} {tag : Tag}

/-- **A field is read** up to the delimiter that ends it. -/
theorem field_written {delimiter : Char} {value : List Char} (h : delimiter ∉ value)
    (unread : List Char) (name : String) :
    field name ⟨record, tag, delimiter, value ++ delimiter :: unread⟩ =
      .ok (String.ofList value) ⟨record, tag, delimiter, unread⟩ := by
  unfold field fieldUntil
  dsimp only
  rw [cutWhere?_append h]

/-- **A number is read** as it is written. -/
theorem number_written {n : Nat} (h : n < limit32) (name : String) (c : Cursor) :
    number (toString n) name c = .ok n c := by
  unfold number
  rw [readTrimmed32_toString h]

/-- A number that was written as a field is read back. -/
theorem numberField_written {n : Nat} (h : n < limit32) (unread : List Char) (name : String) :
    numberField name ⟨record, tag, ';', (toString n).toList ++ ';' :: unread⟩ =
      .ok n ⟨record, tag, ';', unread⟩ := by
  have apart : ';' ∉ (toString n).toList := not_mem_toString (by decide) n
  have read : field name ⟨record, tag, ';', (toString n).toList ++ ';' :: unread⟩ =
      .ok (toString n) ⟨record, tag, ';', unread⟩ := by
    rw [field_written apart, String.ofList_toList]
  exact (bind_read read).trans (number_written h name _)

/-- So is one that ends the record. -/
theorem numberRest_written {delimiter : Char} {n : Nat} (h : n < limit32) (name : String) :
    numberRest name ⟨record, tag, delimiter, (toString n).toList⟩ =
      .ok n ⟨record, tag, delimiter, []⟩ := by
  have read : rest name ⟨record, tag, delimiter, (toString n).toList⟩ =
      .ok (toString n) ⟨record, tag, delimiter, []⟩ := by
    rw [rest_of_more (toString_ne_nil n), String.ofList_toList]
  exact (bind_read read).trans (number_written h name _)

end Fields

end Reading

end Record

namespace Breakpoint.Notice

/-! ## Records that repeat a command -/

/-- A record of this kind is read as its fields are. -/
theorem read_written {record : String} {k : Char} {kind : Nat} {body : List Char} {n : Notice}
    (h : record.toList = '2' :: k :: ';' :: body) (hk : digit? 10 k = some kind)
    (reads : ∃ d, reading ⟨record, ⟨2, kind⟩, ';', body⟩ = .ok n d) : read record = .ok n := by
  obtain ⟨d, reads⟩ := reads
  exact run_written (start_written h rfl hk) reads

/-- What is read of a condition, with a text after its number or without. -/
theorem reading_condition (record : String) (body : List Char) :
    reading ⟨record, ⟨2, 8⟩, ';', body⟩ =
      (if body.contains ';' then numberField "id" >>= fun id => rest? >>= fun text =>
        pure (condition id (text.getD ""))
      else numberRest "id" >>= fun id => pure (condition id "") : Reading Notice)
        ⟨record, ⟨2, 8⟩, ';', body⟩ := rfl

/-- What says something of breakpoints has room for a tag. -/
theorem one_lt_of_read {record : String} {n : Notice} (h : read record = .ok n) :
    1 < utf8Length record.toList := by
  obtain ⟨c, d, start, -⟩ := of_run h
  obtain ⟨x, y, rest, written, -⟩ := Tag.read_eq_ok_iff.1 (tag_of_start start)
  rw [written]
  exact one_lt_utf8Length x y rest

section Numbers

variable {id : Nat} (small : id < limit32)

include small

theorem optionalId_written {record : String} {tag : Tag} {delimiter : Char} :
    optionalId ⟨record, tag, delimiter, (toString id).toList⟩ =
      .ok id ⟨record, tag, delimiter, []⟩ := by
  refine (bind_read (rest?_of_more (toString_ne_nil id))).trans ?_
  rw [String.ofList_toList]
  exact number_written small "id" _

/-- What is said of one breakpoint is read back, where all of them could be meant. -/
theorem read_aboutOne {lead : String} {k : Char} {kind : Nat} {notice : Nat → Notice}
    (digits : lead.toList = ['2', k, ';']) (hk : digit? 10 k = some kind)
    (reads : ∀ record unread, reading ⟨record, ⟨2, kind⟩, ';', unread⟩ =
      (optionalId >>= fun id => pure (notice id)) ⟨record, ⟨2, kind⟩, ';', unread⟩) :
    read (lead ++ toString id) = .ok (notice id) := by
  have written : (lead ++ toString id).toList = '2' :: k :: ';' :: (toString id).toList := by
    rw [String.toList_append, digits]
    rfl
  exact read_written written hk ⟨_, (reads _ _).trans (bind_read (optionalId_written small))⟩

/-- A breakpoint was deleted. -/
theorem read_deleted : read ("25;" ++ toString id) = .ok (.deleted id) :=
  read_aboutOne small rfl (show digit? 10 '5' = some 5 from rfl) fun _ _ => rfl

/-- A breakpoint was enabled. -/
theorem read_enabled : read ("23;" ++ toString id) = .ok (.enabled id) :=
  read_aboutOne small rfl (show digit? 10 '3' = some 3 from rfl) fun _ _ => rfl

/-- A breakpoint was disabled. -/
theorem read_disabled : read ("24;" ++ toString id) = .ok (.disabled id) :=
  read_aboutOne small rfl (show digit? 10 '4' = some 4 from rfl) fun _ _ => rfl

/-- An ignore count was given. -/
theorem read_ignoreCount {count : Nat} (bounded : count < limit32) :
    read ("26;" ++ toString id ++ ";" ++ toString count) = .ok (.ignoreCount id count) := by
  have written : ("26;" ++ toString id ++ ";" ++ toString count).toList =
      '2' :: '6' :: ';' :: ((toString id).toList ++ ';' :: (toString count).toList) := by
    simp only [String.toList_append, List.append_assoc]
    rfl
  exact read_written written (show digit? 10 '6' = some 6 from rfl)
    ⟨_, (bind_read (numberField_written small _ "id")).trans
      (bind_read (numberRest_written bounded "ignore count"))⟩

/-- A condition was set, whatever its text holds. -/
theorem read_condition {text : List Char} (given : text ≠ []) :
    read ("28;" ++ String.ofList ((toString id).toList ++ ';' :: text)) =
      .ok (.condition id (String.ofList text)) := by
  let record := "28;" ++ String.ofList ((toString id).toList ++ ';' :: text)
  have written : record.toList = '2' :: '8' :: ';' :: ((toString id).toList ++ ';' :: text) := by
    have lead : "28;".toList = ['2', '8', ';'] := rfl
    rw [String.toList_append, lead, String.toList_ofList]
    rfl
  -- any delimiter tells that a text follows the number, also one that the text holds
  have delimited : ((toString id).toList ++ ';' :: text).contains ';' = true :=
    List.contains_iff_mem.2 (List.mem_append_right _ List.mem_cons_self)
  have reads : reading ⟨record, ⟨2, 8⟩, ';', (toString id).toList ++ ';' :: text⟩ =
      .ok (condition id (String.ofList text)) ⟨record, ⟨2, 8⟩, ';', []⟩ := by
    rw [reading_condition, if_pos delimited]
    refine (bind_read (numberField_written small text "id")).trans ?_
    exact bind_read (rest?_of_more given)
  exact read_written written (show digit? 10 '8' = some 8 from rfl) ⟨_, reads⟩

/-- A condition was taken away. -/
theorem read_noCondition : read ("28;" ++ toString id) = .ok (.condition id "") := by
  let record := "28;" ++ toString id
  have written : record.toList = '2' :: '8' :: ';' :: (toString id).toList :=
    String.toList_append
  have undelimited : (toString id).toList.contains ';' = false := by
    rw [List.contains_eq_mem]
    exact decide_eq_false (not_mem_toString (by decide) id)
  have reads : reading ⟨record, ⟨2, 8⟩, ';', (toString id).toList⟩ =
      .ok (condition id "") ⟨record, ⟨2, 8⟩, ';', []⟩ := by
    rw [reading_condition, undelimited, if_neg Bool.false_ne_true]
    exact bind_read (numberRest_written small "id")
  exact read_written written (show digit? 10 '8' = some 8 from rfl) ⟨_, reads⟩

end Numbers

end Breakpoint.Notice

end DebugLink
