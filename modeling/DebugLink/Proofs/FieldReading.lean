import DebugLink.Proofs.Separated
import Mathlib.Data.Bool.AllAny
import Mathlib.Data.List.TakeWhile

/-!
# Reading fields

Where a reader stands in a record is told by the fields before it, so each step of reading is a
condition on these fields: a field is read if there is another one behind it, and a number to the
end of the record if there is no other. The rules are equivalences, to be rewritten with: they take
a reading apart until nothing but the fields is spoken of.

* `Piece`, `Cursor.facing`: where a reader stands.
* `Reads`: a reading succeeds and ends so; `reads_bind` takes its steps apart.
* `not_mem_of_readTrimmed32`: a number holds no delimiter.
* `reads_field`, `reads_fieldOrRest`, `reads_numberRest`: what the steps ask of the fields.
-/

namespace DebugLink

open Text Record Reading

namespace Text

/-- A character that is not dropped stays, wherever it stands. -/
theorem mem_dropEndWhile {p : Char → Bool} {c : Char} (other : p c = false) {s : List Char}
    (mem : c ∈ s) : c ∈ dropEndWhile p s := by
  induction s with
  | nil => cases mem
  | cons d s ih =>
    unfold dropEndWhile
    obtain rfl | later := List.mem_cons.1 mem
    · split
      · rw [other, if_neg Bool.false_ne_true]
        exact List.mem_cons_self
      · exact List.mem_cons_self
    · have kept := ih later
      split
      · rename_i dropped
        rw [dropped] at kept
        cases kept
      · exact List.mem_cons_of_mem d kept

/-- Trimming takes nothing away but blanks. -/
theorem mem_trim {c : Char} (other : isBlank c = false) {s : List Char} (mem : c ∈ s) :
    c ∈ trim s := by
  refine mem_dropEndWhile other ?_
  rw [← List.takeWhile_append_dropWhile (p := isBlank) (l := s)] at mem
  refine (List.mem_append.1 mem).resolve_left fun blank => ?_
  rw [List.mem_takeWhile_imp blank] at other
  cases other

/-- What is read as a number has nothing but digits. -/
theorem isSome_digit? {radix value n : Nat} {s : List Char}
    (read : readDigits radix value s = some n) {c : Char} (mem : c ∈ s) :
    (digit? radix c).isSome = true := by
  induction s generalizing value with
  | nil => cases mem
  | cons d s ih =>
    obtain ⟨digit, here, rest⟩ := Option.bind_eq_some_iff.1 read
    obtain rfl | later := List.mem_cons.1 mem
    · rw [here]
      rfl
    · exact ih rest later

theorem ne_nil_of_readTrimmed32 {s : List Char} {n : Nat} (read : readTrimmed32 s = some n) :
    s ≠ [] := by
  rintro rfl
  cases read

/-- The characters that fields are delimited by. -/
def delimiters : List Char := [',', ';']

/-- **A number holds no delimiter.** -/
theorem not_mem_of_readTrimmed32 {d : Char} (sign : d ∈ delimiters) {s : List Char} {n : Nat}
    (read : readTrimmed32 s = some n) : d ∉ s := by
  have foreign : ∀ d ∈ delimiters, isBlank d = false ∧ digit? 10 d = none ∧ d ≠ '+' :=
    List.all_iff_forall_prop.1 (by decide)
  obtain ⟨shown, other, unsigned⟩ := foreign d sign
  intro mem
  have inside : d ∈ trim s := mem_trim shown mem
  unfold readTrimmed32 readNat32 readWord at read
  dsimp only at read
  split at read
  · cases read
  · have digits := (Option.filter_eq_some_iff.1 read).1
    have among : d ∈ (after? ['+'] (trim s)).getD (trim s) := by
      unfold after?
      split
      · rename_i leads
        obtain ⟨rest, e⟩ := List.isPrefixOf_iff_prefix.1 leads
        rw [← e] at inside ⊢
        simpa [unsigned] using inside
      · exact inside
    have digit := isSome_digit? digits among
    rw [other] at digit
    cases digit

end Text

namespace Record

/-! ## Where a reader stands -/

/-- A field of a record with this delimiter. -/
abbrev Piece (d : Char) := { f : List Char // d ∉ f }

/-- The fields of a text. -/
def pieces (d : Char) (s : List Char) : List (Piece d) :=
  (fields d s).attachWith _ fun _ mem => (not_mem_of_mem_fields mem).1

theorem map_pieces (d : Char) (s : List Char) : (pieces d s).map Subtype.val = fields d s :=
  List.attachWith_map_subtype_val _

theorem pieces_ne_nil (d : Char) (s : List Char) : pieces d s ≠ [] := fun none =>
  fields_ne_nil d s (by rw [← map_pieces, none]; rfl)

/-- The fields in one text. -/
def text {d : Char} (fs : List (Piece d)) : List Char := [d].intercalate (fs.map Subtype.val)

section Text

variable {d : Char} (f g : Piece d) (fs : List (Piece d))

theorem text_singleton : text [f] = f.1 := List.intercalate_singleton

theorem text_cons_cons : text (f :: g :: fs) = f.1 ++ d :: text (g :: fs) := by
  rw [text, List.map_cons, List.map_cons, List.intercalate_cons_cons, List.append_assoc]
  rfl

theorem mem_text : d ∈ text (f :: g :: fs) := by
  rw [text_cons_cons]
  exact List.mem_append_right _ List.mem_cons_self

/-- A text without a delimiter is one field. -/
theorem eq_singleton_of_not_mem {fs : List (Piece d)} (some_field : fs ≠ [])
    (absent : d ∉ text fs) : ∃ f, fs = [f] := by
  match fs with
  | [] => exact absurd rfl some_field
  | [f] => exact ⟨f, rfl⟩
  | f :: g :: rest => exact absurd (mem_text f g rest) absent

/-- A text of fields has one delimiter fewer than fields. -/
theorem count_text : (text (f :: fs)).count d = fs.length := by
  induction fs generalizing f with
  | nil =>
    rw [text_singleton]
    exact List.count_eq_zero_of_not_mem f.2
  | cons g fs ih =>
    rw [text_cons_cons, List.count_append, List.count_eq_zero_of_not_mem f.2, List.count_cons_self,
      ih, Nat.zero_add, List.length_cons]

end Text

/-- The cursor before these fields. -/
def Cursor.facing (record : String) (tag : Tag) {d : Char} (fs : List (Piece d)) : Cursor :=
  ⟨record, tag, d, text fs⟩

namespace Reading

variable {α β : Type}

/-- The reading succeeds, with such a value and such a cursor. -/
def Reads (reading : Reading α) (c : Cursor) (P : α → Cursor → Prop) : Prop :=
  ∃ a d, reading c = .ok a d ∧ P a d

/-- Running a reading on a record is reading from its start. -/
theorem run_eq_ok_iff {reading : Reading α} {record : String} {c : Cursor} {a : α}
    (start : Cursor.start record = .ok c) :
    reading.run record = .ok a ↔ Reads reading c fun b _ => b = a := by
  constructor
  · intro run
    obtain ⟨c', d, start', read⟩ := of_run run
    cases start.symm.trans start'
    exact ⟨a, d, read, rfl⟩
  · rintro ⟨_, d, read, rfl⟩
    exact run_written start read

/-- A reading that reads nothing stays where it stands. -/
theorem reads_pure {a : α} {c : Cursor} {P : α → Cursor → Prop} :
    Reads (pure a) c P ↔ P a c := by
  constructor
  · rintro ⟨_, _, ⟨⟩, h⟩
    exact h
  · exact fun h => ⟨a, c, rfl, h⟩

/-- **One step after another.** -/
theorem reads_bind {reading : Reading α} {next : α → Reading β} {c : Cursor}
    {P : β → Cursor → Prop} :
    Reads (reading >>= next) c P ↔ Reads reading c fun a d => Reads (next a) d P := by
  constructor
  · rintro ⟨b, e, read, h⟩
    change EStateM.bind reading next c = .ok b e at read
    unfold EStateM.bind at read
    cases first : reading c with
    | ok a d =>
      rw [first] at read
      exact ⟨a, d, first, b, e, read, h⟩
    | error defect d =>
      rw [first] at read
      cases read
  · rintro ⟨a, d, first, b, e, read, h⟩
    exact ⟨b, e, (bind_read first).trans read, h⟩

/-- Looking at the cursor does not move it. -/
theorem reads_get {c : Cursor} {P : Cursor → Cursor → Prop} :
    Reads (get : Reading Cursor) c P ↔ P c c := by
  constructor
  · rintro ⟨_, _, ⟨⟩, h⟩
    exact h
  · exact fun h => ⟨c, c, rfl, h⟩

theorem not_reads_throw {defect : Defect} {c : Cursor} {P : α → Cursor → Prop} :
    ¬Reads (throw defect : Reading α) c P := by
  rintro ⟨_, _, ⟨⟩, _⟩

theorem reads_ite {p : Prop} [Decidable p] {yes no : Reading α} {c : Cursor}
    {P : α → Cursor → Prop} :
    Reads (if p then yes else no) c P ↔ if p then Reads yes c P else Reads no c P := by
  split <;> rfl

/-- A number is read or the reading fails; the cursor stays. -/
theorem reads_number {raw name : String} {c : Cursor} {P : Nat → Cursor → Prop} :
    Reads (number raw name) c P ↔ ∃ n, readTrimmed32 raw.toList = some n ∧ P n c := by
  unfold Reads number
  cases readTrimmed32 raw.toList with
  | none =>
    constructor
    · rintro ⟨_, _, ⟨⟩, _⟩
    · rintro ⟨_, ⟨⟩, _⟩
  | some n =>
    constructor
    · rintro ⟨_, _, ⟨⟩, h⟩
      exact ⟨n, rfl, h⟩
    · rintro ⟨_, ⟨⟩, h⟩
      exact ⟨n, c, rfl, h⟩

/-- The same for an address. -/
theorem reads_address {raw name : String} {c : Cursor} {P : Nat → Cursor → Prop} :
    Reads (address raw name) c P ↔ ∃ n, readAddress raw = some n ∧ P n c := by
  unfold Reads address
  cases readAddress raw with
  | none =>
    constructor
    · rintro ⟨_, _, ⟨⟩, _⟩
    · rintro ⟨_, ⟨⟩, _⟩
  | some n =>
    constructor
    · rintro ⟨_, _, ⟨⟩, h⟩
      exact ⟨n, rfl, h⟩
    · rintro ⟨_, ⟨⟩, h⟩
      exact ⟨n, c, rfl, h⟩

section Fields

variable {record : String} {tag : Tag} {d : Char} {fs : List (Piece d)} {name : String}

/-- A delimiter is ahead exactly if a further field is. -/
theorem hasDelimiter_facing :
    (Cursor.facing record tag fs).hasDelimiter = true ↔ ∃ f g rest, fs = f :: g :: rest := by
  unfold Cursor.hasDelimiter Cursor.facing
  rw [List.contains_iff_mem]
  constructor
  · intro mem
    match fs with
    | [] => cases mem
    | [f] => exact absurd (text_singleton f ▸ mem) f.2
    | f :: g :: rest => exact ⟨f, g, rest, rfl⟩
  · rintro ⟨f, g, rest, rfl⟩
    exact mem_text f g rest

theorem not_hasDelimiter_last {f : Piece d} :
    ¬(Cursor.facing record tag [f]).hasDelimiter = true := by
  simp [hasDelimiter_facing]

/-- A field is read up to the next one. -/
theorem field_facing (f g : Piece d) (rest : List (Piece d)) :
    field name (.facing record tag (f :: g :: rest)) =
      .ok (String.ofList f.1) (.facing record tag (g :: rest)) := by
  have unread : Cursor.facing record tag (f :: g :: rest) =
      ⟨record, tag, d, f.1 ++ d :: text (g :: rest)⟩ :=
    congrArg (Cursor.mk record tag d) (text_cons_cons f g rest)
  rw [unread, field_written f.2]
  rfl

/-- **A field is read** if there is another one behind it. -/
theorem reads_field {P : String → Cursor → Prop} :
    Reads (field name) (.facing record tag fs) P ↔
      ∃ f g rest, fs = f :: g :: rest ∧ P (String.ofList f.1) (.facing record tag (g :: rest)) := by
  constructor
  · rintro ⟨a, c, read, h⟩
    match fs with
    | [] => cases read
    | [f] =>
      obtain ⟨split, -⟩ := unread_of_fieldUntil read
      refine absurd (?_ : d ∈ text [f]) (text_singleton f ▸ f.2)
      rw [show text [f] = _ from split]
      exact List.mem_append_right _ List.mem_cons_self
    | f :: g :: rest =>
      cases (field_facing f g rest).symm.trans read
      exact ⟨f, g, rest, rfl, h⟩
  · rintro ⟨f, g, rest, rfl, h⟩
    exact ⟨_, _, field_facing f g rest, h⟩

/-- The rest is what is left, and it must not be empty. -/
theorem reads_rest {P : String → Cursor → Prop} :
    Reads (rest name) (.facing record tag fs) P ↔
      text fs ≠ [] ∧ P (String.ofList (text fs)) (.facing record tag ([] : List (Piece d))) := by
  unfold Reads rest Cursor.hasMore Cursor.facing
  dsimp only
  cases given : (text fs).isEmpty with
  | true => simp_all
  | false =>
    rw [Bool.not_false, if_pos rfl]
    have some_text : text fs ≠ [] := by simpa using given
    constructor
    · rintro ⟨_, _, ⟨⟩, h⟩
      exact ⟨some_text, h⟩
    · exact fun h => ⟨_, _, rfl, h.2⟩

/-- **A field is read** also if it is the last one, unless it is empty then. -/
theorem reads_fieldOrRest {P : String → Cursor → Prop} :
    Reads (fieldOrRest name) (.facing record tag fs) P ↔
      ∃ f rest, fs = f :: rest ∧ (rest = [] → f.1 ≠ []) ∧
        P (String.ofList f.1) (.facing record tag rest) := by
  have choice : Reads (fieldOrRest name) (.facing record tag fs) P ↔
      if (Cursor.facing record tag fs).hasDelimiter then
        Reads (field name) (.facing record tag fs) P
      else Reads (rest name) (.facing record tag fs) P := by
    unfold fieldOrRest Reads
    dsimp only
    split <;> rfl
  rw [choice]
  -- the last field is read as the rest, so it alone must not be empty
  match fs with
  | [] =>
    have last : ¬(Cursor.facing record tag ([] : List (Piece d))).hasDelimiter = true := by
      simp [hasDelimiter_facing]
    rw [if_neg last, reads_rest]
    simp [text]
  | [f] =>
    rw [if_neg not_hasDelimiter_last, reads_rest, text_singleton]
    constructor
    · exact fun h => ⟨f, [], rfl, fun _ => h.1, h.2⟩
    · rintro ⟨_, _, ⟨⟩, given, h⟩
      exact ⟨given rfl, h⟩
  | f :: g :: rest =>
    rw [if_pos (hasDelimiter_facing.2 ⟨f, g, rest, rfl⟩), reads_field]
    constructor
    · rintro ⟨_, _, _, ⟨⟩, h⟩
      exact ⟨f, g :: rest, rfl, nofun, h⟩
    · rintro ⟨_, _, ⟨⟩, -, h⟩
      exact ⟨f, g, rest, rfl, h⟩

/-- A number with another field behind it. -/
theorem reads_numberField {P : Nat → Cursor → Prop} :
    Reads (numberField name) (.facing record tag fs) P ↔
      ∃ f g rest, fs = f :: g :: rest ∧
        ∃ n, readTrimmed32 f.1 = some n ∧ P n (.facing record tag (g :: rest)) := by
  unfold numberField
  simp only [reads_bind, reads_field, reads_number, String.toList_ofList]

/-- **A number to the end of the record** is the last field. -/
theorem reads_numberRest (sign : d ∈ delimiters) {P : Nat → Cursor → Prop} :
    Reads (numberRest name) (.facing record tag fs) P ↔
      ∃ f, fs = [f] ∧ ∃ n, readTrimmed32 f.1 = some n ∧
        P n (.facing record tag ([] : List (Piece d))) := by
  unfold numberRest
  simp only [reads_bind, reads_rest, reads_number, String.toList_ofList]
  constructor
  · rintro ⟨given, n, read, h⟩
    have some_field : fs ≠ [] := by
      rintro rfl
      exact given rfl
    obtain ⟨f, rfl⟩ := eq_singleton_of_not_mem some_field (not_mem_of_readTrimmed32 sign read)
    exact ⟨f, rfl, n, text_singleton f ▸ read, h⟩
  · rintro ⟨f, rfl, n, read, h⟩
    rw [text_singleton]
    exact ⟨ne_nil_of_readTrimmed32 read, n, read, h⟩

/-- All that is left, nothing included. -/
theorem reads_rest? {P : Option String → Cursor → Prop} :
    Reads rest? (.facing record tag fs) P ↔
      P (if text fs = [] then none else some (String.ofList (text fs)))
        (.facing record tag ([] : List (Piece d))) := by
  unfold Reads rest? Cursor.hasMore Cursor.facing
  dsimp only
  by_cases given : text fs = []
  · rw [if_neg (by simp [given]), if_pos given, given]
    constructor
    · rintro ⟨_, _, ⟨⟩, h⟩
      exact h
    · exact fun h => ⟨_, _, rfl, h⟩
  · rw [if_pos (by simp [given]), if_neg given]
    constructor
    · rintro ⟨_, _, ⟨⟩, h⟩
      exact h
    · exact fun h => ⟨_, _, rfl, h⟩

end Fields

end Reading

end Record

end DebugLink
