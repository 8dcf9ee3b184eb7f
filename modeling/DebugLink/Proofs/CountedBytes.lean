import DebugLink.Proofs.CursorCalls
import DebugLink.Proofs.TextPositions

/-!
# Cursors that count bytes

The place of a cursor can be kept as a number of bytes of the record. Then nothing but the calls
themselves makes it stand where a character starts, and a call that cuts the record anywhere else
has no result at all: a position is moved by the length of what was found and that of a delimiter
which may be any character. Both kinds of cursors say the same, and stand at the same place, after
any calls.

* `ByteCursor`, `readAllCounting`: the same calls with positions; `none` when a cut is impossible.
* `isSome_splitByte?_iff`: where a text can be cut.
* `start_counted`, `readCounting_counted`: both start alike, and one call keeps them together.
* `record_reassembled`: **the slices and what is left are the record**, and every cut succeeds.
-/

namespace DebugLink

open Text

namespace Text

/-- The text between two positions. -/
def between? (start stop : Nat) (s : List Char) : Option (List Char) :=
  (splitByte? stop s).bind fun front => (splitByte? start front.1).map (·.2)

theorem between?_append (a b c : List Char) :
    between? (utf8Length a) (utf8Length (a ++ b)) (a ++ (b ++ c)) = some b := by
  rw [between?, ← List.append_assoc, splitByte?_append, Option.bind_some, splitByte?_append]
  rfl

end Text

namespace Record

/-- A cursor whose place is a number of bytes. -/
structure ByteCursor where
  record : String
  position : Nat
  delimiter : Char
  deriving DecidableEq, Repr

namespace ByteCursor

/-- The cursor after the tag and the delimiter, which is told from its byte. -/
def start (record : String) : Except Defect ByteCursor := do
  let _ ← Tag.read record
  let position := min 3 record.utf8ByteSize
  if (splitByte? position record.toList).isSome then
    .ok ⟨record, position, if (bytes record.toList)[2]? = some 44 then ',' else ';'⟩
  else .error (.badTag record)

variable (c : ByteCursor)

/-- Whether the position is not yet the end. -/
def hasMore : Bool := c.position < c.record.utf8ByteSize

/-- Whether a delimiter follows the position. -/
def hasDelimiter? : Option Bool :=
  (search? [c.delimiter] c.position c.record.toList).map Option.isSome

/-- What a step of reading comes to, if every cut in it is possible. -/
abbrev Result := Option (EStateM.Result Defect ByteCursor (Option Slice))

/-- The text from the position to the next `stop`. -/
def fieldUntil (stop : Char) (name : String) : Result :=
  (search? [stop] c.position c.record.toList).bind fun
    | some found => (between? c.position found c.record.toList).map fun text =>
        .ok (some ⟨String.ofList text, some stop⟩) { c with position := found + stop.utf8Size }
    | none => some (.error (.missing c.record name) c)

/-- The text from the position to the end, unless the position is the end. -/
def rest? : Result :=
  if c.hasMore then
    (splitByte? c.position c.record.toList).map fun cut =>
      .ok (some ⟨String.ofList cut.2, none⟩) { c with position := c.record.utf8ByteSize }
  else some (.ok none c)

/-- The text from the position to the end. -/
def rest (name : String) : Result :=
  c.rest?.map fun
    | .ok none c => .error (.missing c.record name) c
    | result => result

/-- The text from the position to the next delimiter, or else to the end. -/
def fieldOrRest (name : String) : Result :=
  c.hasDelimiter?.bind fun ahead =>
    if ahead then c.fieldUntil c.delimiter name else c.rest name

end ByteCursor

/-- What the call reads when bytes are counted. -/
def Call.readCounting (c : ByteCursor) : Call → ByteCursor.Result
  | field name => c.fieldUntil c.delimiter name
  | fieldUntil stop name => c.fieldUntil stop name
  | fieldOrRest name => c.fieldOrRest name
  | rest name => c.rest name
  | rest? => c.rest?

/-- What the calls say one after another when bytes are counted, if every cut is possible. -/
def readAllCounting : List Call → ByteCursor →
    Option (List (Except Defect (Option Slice)) × ByteCursor)
  | [], c => some ([], c)
  | call :: calls, c => do
    let result ← call.readCounting c
    let (answers, last) ← readAllCounting calls (left result)
    return (said result :: answers, last)

/-- The cursor with its place as a number of bytes. -/
def Cursor.counted (c : Cursor) : ByteCursor :=
  ⟨c.record, utf8Length c.record.toList - utf8Length c.unread, c.delimiter⟩

/-- A result with the place of its cursor as a number of bytes. -/
def counted {α : Type} : EStateM.Result Defect Cursor α → EStateM.Result Defect ByteCursor α
  | .ok a c => .ok a c.counted
  | .error defect c => .error defect c.counted

/-- What is unread is the end of the record. -/
def Cursor.Within (c : Cursor) : Prop := c.unread <:+ c.record.toList

/-! ## One call -/

section Step

variable {c : Cursor} {head : List Char}

theorem position_counted (whole : c.record.toList = head ++ c.unread) :
    c.counted.position = utf8Length head := by
  unfold Cursor.counted
  rw [whole, utf8Length_append, Nat.add_sub_cancel]

/-- A character is searched for where the cursor stands. -/
theorem search?_counted (stop : Char) (whole : c.record.toList = head ++ c.unread) :
    search? [stop] c.counted.position c.record.toList =
      some ((cutWhere? (· == stop) c.unread).map fun cut => utf8Length (head ++ cut.1)) := by
  rw [position_counted whole, whole, search?_append, cut?_singleton]
  simp only [utf8Length_append]

/-- The field before a delimiter is the same whether characters or bytes are counted. -/
theorem fieldUntil_counted (stop : Char) (name : String) (within : c.Within) :
    c.counted.fieldUntil stop name = some (counted ((Call.fieldUntil stop name).reading c)) := by
  obtain ⟨head, whole⟩ := within
  have searched := search?_counted stop whole.symm
  unfold ByteCursor.fieldUntil
  obtain ⟨text, unread, cut, absent, read⟩ | ⟨absent, read⟩ :=
    Reading.fieldUntil_cases stop name c
  · -- the position counts bytes, so a character of several bytes is passed as a whole
    have between : between? c.counted.position (utf8Length (head ++ text)) c.record.toList =
        some text := by
      rw [position_counted whole.symm, ← whole, cut, between?_append]
    -- the position moves by the bytes of the text and of `stop`, which is to the end of a character
    have behind : c.record.toList = (head ++ text ++ [stop]) ++ unread := by
      rw [← whole, cut]
      simp
    have place : ({ c with unread } : Cursor).counted.position =
        utf8Length (head ++ text) + stop.utf8Size := by
      rw [position_counted behind, utf8Length_append _ [stop], utf8Length_cons]
      rfl
    rw [cut, cutWhere?_append absent] at searched
    rw [Call.reading_fieldUntil_of_cut read, show c.counted.record = c.record from rfl, searched]
    simp only [Option.map_some, Option.bind_some, between]
    rw [counted, ← place]
    rfl
  · rw [cutWhere?_eq_none absent] at searched
    rw [Call.reading_fieldUntil_of_missing read, show c.counted.record = c.record from rfl,
      searched]
    rfl

/-- Both cursors stand at the end at the same time. -/
theorem hasMore_counted (within : c.Within) : c.counted.hasMore = c.hasMore := by
  obtain ⟨head, whole⟩ := within
  have size : c.record.utf8ByteSize = utf8Length head + utf8Length c.unread := by
    rw [← utf8Length_toList, ← whole, utf8Length_append]
  rw [Bool.eq_iff_iff, Reading.hasMore_iff_ne_nil, ByteCursor.hasMore, decide_eq_true_eq,
    position_counted whole.symm, show c.counted.record = c.record from rfl, size]
  cases c.unread with
  | nil => exact iff_of_false (Nat.lt_irrefl _) (not_not_intro rfl)
  | cons d unread =>
    refine iff_of_true ?_ (List.cons_ne_nil _ _)
    have := Char.utf8Size_pos d
    rw [utf8Length_cons]
    omega

/-- Both cursors find a delimiter ahead at the same time. -/
theorem hasDelimiter?_counted (within : c.Within) :
    c.counted.hasDelimiter? = some c.hasDelimiter := by
  obtain ⟨head, whole⟩ := within
  have searched := search?_counted c.delimiter whole.symm
  rw [ByteCursor.hasDelimiter?, show c.counted.record = c.record from rfl,
    show c.counted.delimiter = c.delimiter from rfl, searched, Option.map_some, Option.isSome_map]
  congr 1
  rw [Bool.eq_iff_iff, Reading.hasDelimiter_iff_mem]
  by_cases ahead : c.delimiter ∈ c.unread
  · obtain ⟨text, unread, cut, absent⟩ := List.eq_append_cons_of_mem ahead
    rw [cut, cutWhere?_append absent]
    exact iff_of_true rfl (by simp)
  · rw [cutWhere?_eq_none ahead]
    exact iff_of_false Bool.false_ne_true ahead

/-- The rest of the record is the same text. -/
theorem rest?_counted (within : c.Within) :
    c.counted.rest? = some (counted (Call.rest?.reading c)) := by
  have more := hasMore_counted within
  obtain ⟨head, whole⟩ := within
  unfold ByteCursor.rest?
  rw [more]
  by_cases ends : c.unread = []
  · rw [if_neg (by simpa [Cursor.hasMore] using ends), Call.reading_rest?_of_end ends]
    rfl
  · have cut : splitByte? c.counted.position c.record.toList = some (head, c.unread) := by
      rw [position_counted whole.symm, ← whole, splitByte?_append]
    have place : ({ c with unread := [] } : Cursor).counted.position = c.record.utf8ByteSize :=
      utf8Length_toList c.record
    rw [if_pos (Reading.hasMore_iff_ne_nil.2 ends), Call.reading_rest?_of_more ends,
      show c.counted.record = c.record from rfl, cut, ← place]
    rfl

/-- The rest that has to be there is the same text, or missing in both. -/
theorem rest_counted (name : String) (within : c.Within) :
    c.counted.rest name = some (counted ((Call.rest name).reading c)) := by
  rw [ByteCursor.rest, rest?_counted within]
  by_cases ends : c.unread = []
  · rw [Call.reading_rest?_of_end ends, Call.reading_rest_of_end ends]
    rfl
  · rw [Call.reading_rest?_of_more ends, Call.reading_rest_of_more ends]
    rfl

/-- **One call** says the same to both cursors and leaves them at the same place. In particular no
cut in it is impossible. -/
theorem readCounting_counted (call : Call) (within : c.Within) :
    call.readCounting c.counted = some (counted (call.reading c)) := by
  cases call with
  | field name => exact fieldUntil_counted c.delimiter name within
  | fieldUntil stop name => exact fieldUntil_counted stop name within
  | fieldOrRest name =>
    rw [Call.readCounting, ByteCursor.fieldOrRest, hasDelimiter?_counted within, Option.bind_some]
    by_cases ahead : c.delimiter ∈ c.unread
    · rw [if_pos (Reading.hasDelimiter_iff_mem.2 ahead), Call.reading_fieldOrRest_of_mem ahead]
      exact fieldUntil_counted c.delimiter name within
    · rw [if_neg (mt Reading.hasDelimiter_iff_mem.1 ahead),
        Call.reading_fieldOrRest_of_not_mem ahead]
      exact rest_counted name within
  | rest name => exact rest_counted name within
  | rest? => exact rest?_counted within

theorem Moved.within {name? : Option String}
    {result : EStateM.Result Defect Cursor (Option Slice)} (moved : Moved name? c result)
    (within : c.Within) : (left result).Within := by
  cases moved with
  | taken slice unread whole => exact (whole ▸ List.suffix_append _ unread).trans within
  | nothing => exact within
  | missing => exact within

end Step

/-! ## Any calls -/

/-- **Step by step the cursor that counts bytes follows the one that reads characters.** -/
theorem readAllCounting_counted (calls : List Call) {c : Cursor} (within : c.Within) :
    readAllCounting calls c.counted = some ((readAll calls c).1, (readAll calls c).2.counted) := by
  induction calls generalizing c with
  | nil => rfl
  | cons call calls ih =>
    have next : (left (call.reading c)).Within := (call.moved c).within within
    have place : left (counted (call.reading c)) = (left (call.reading c)).counted := by
      cases call.reading c <;> rfl
    have answer : said (counted (call.reading c)) = said (call.reading c) := by
      cases call.reading c <;> rfl
    rw [readAllCounting, readCounting_counted call within, Option.bind_eq_bind, Option.bind_some,
      place, ih next, answer]
    rfl

/-- A cursor never leaves its record. -/
theorem readAll_within (calls : List Call) {c : Cursor} (within : c.Within) :
    (readAll calls c).2.Within ∧ (readAll calls c).2.record = c.record := by
  induction calls generalizing c with
  | nil => exact ⟨within, rfl⟩
  | cons call calls ih =>
    obtain ⟨later, same⟩ := ih ((call.moved c).within within)
    exact ⟨later, same.trans (call.moved c).record_eq⟩

/-! ## The start -/

section Start

variable {record : String} {tag : Tag}

/-- Behind the two digits, the cursor starts at the end or behind a character of one byte. -/
theorem start_of_tag (read : Tag.read record = .ok tag) :
    ∃ a b, a.utf8Size = 1 ∧ b.utf8Size = 1 ∧
      (record.toList = [a, b] ∧ Cursor.start record = .ok ⟨record, tag, ';', []⟩ ∨
        ∃ d body, record.toList = a :: b :: d :: body ∧
          Cursor.start record =
            if d.utf8Size = 1 then .ok ⟨record, tag, if d = ',' then ',' else ';', body⟩
            else .error (.badTag record)) := by
  obtain ⟨a, b, behind, whole, first, second⟩ := Tag.read_eq_ok_iff.1 read
  refine ⟨a, b, utf8Size_of_digit? first, utf8Size_of_digit? second, ?_⟩
  unfold Cursor.start
  rw [read, whole]
  cases behind with
  | nil => exact .inl ⟨rfl, rfl⟩
  | cons d body => exact .inr ⟨d, body, rfl, rfl⟩

theorem startCounting_of_tag (read : Tag.read record = .ok tag) :
    ByteCursor.start record =
      if (splitByte? (min 3 (utf8Length record.toList)) record.toList).isSome then
        .ok ⟨record, min 3 (utf8Length record.toList),
          if (bytes record.toList)[2]? = some 44 then ',' else ';'⟩
      else .error (.badTag record) := by
  unfold ByteCursor.start
  rw [read, utf8Length_toList]
  rfl

section Third

variable {a b d : Char} {body : List Char} (first : a.utf8Size = 1) (second : b.utf8Size = 1)

include first second

/-- Behind the third byte a character ends exactly if the third character has one byte. -/
theorem splitByte?_third :
    splitByte? 3 (a :: b :: d :: body) =
      if d.utf8Size = 1 then some ([a, b, d], body) else none := by
  by_cases single : d.utf8Size = 1
  · have three : utf8Length [a, b, d] = 3 := utf8Length_of_single (by simp [first, second, single])
    rw [if_pos single]
    exact three ▸ splitByte?_append [a, b, d] body
  · have some_byte := Char.utf8Size_pos d
    have big : ¬d.utf8Size ≤ 1 := by omega
    rw [if_neg single]
    simp [splitByte?, first, second, big]

/-- The third byte is a comma exactly if the third character is one. -/
theorem third_byte_iff (single : d.utf8Size = 1) :
    (bytes (a :: b :: d :: body))[2]? = some 44 ↔ d = ',' := by
  have three : utf8Length ([a, b] ++ [d]) = 3 :=
    utf8Length_of_single (by simp [first, second, single])
  have ascii : (',' : Char).utf8Size = 1 := rfl
  have byte := bytes_getElem?_last ascii [a, b] body d
  rwa [three] at byte

end Third

/-- **Both cursors** are refused the same records, and start at the same place of the others. -/
theorem start_counted (record : String) :
    ByteCursor.start record = (Cursor.start record).map Cursor.counted := by
  cases read : Tag.read record with
  | error defect =>
    unfold ByteCursor.start Cursor.start
    rw [read]
    rfl
  | ok tag =>
    rw [startCounting_of_tag read]
    obtain ⟨a, b, first, second, ⟨whole, started⟩ | ⟨d, body, whole, started⟩⟩ := start_of_tag read
    · -- there is no third byte: the position is the end, and the delimiter a semicolon
      have two : utf8Length [a, b] = 2 := utf8Length_of_single (by simp [first, second])
      have cut : splitByte? 2 [a, b] = some ([a, b], []) := two ▸ splitByte?_append [a, b] []
      have none_third : (bytes [a, b])[2]? = none :=
        List.getElem?_eq_none (by rw [length_bytes]; omega)
      have place : (⟨record, tag, ';', []⟩ : Cursor).counted = ⟨record, 2, ';'⟩ := by
        unfold Cursor.counted
        rw [whole, two]
        rfl
      rw [started, whole, two, show min 3 2 = 2 from rfl, cut, none_third,
        Option.isSome_some, if_pos rfl, if_neg nofun, Except.map, place]
    · have size : utf8Length record.toList = 2 + d.utf8Size + utf8Length body := by
        rw [whole, utf8Length_cons, utf8Length_cons, utf8Length_cons, first, second]
        omega
      have some_byte := Char.utf8Size_pos d
      have third : min 3 (utf8Length record.toList) = 3 := by omega
      rw [started, third, whole, splitByte?_third first second]
      by_cases single : d.utf8Size = 1
      · have place : (⟨record, tag, if d = ',' then ',' else ';', body⟩ : Cursor).counted =
            ⟨record, 3, if d = ',' then ',' else ';'⟩ := by
          unfold Cursor.counted
          rw [size, single, Nat.add_sub_cancel]
        rw [if_pos single, if_pos single, Option.isSome_some, if_pos rfl, Except.map, place]
        simp only [third_byte_iff first second single]
      · -- the third byte is inside of a character, so both refuse the record
        rw [if_neg single, if_neg single]
        rfl

/-- Where an accepted record starts to be read: behind its third byte. -/
theorem of_start {c : Cursor} (accepted : Cursor.start record = .ok c) :
    c.record = record ∧ c.Within ∧ bytes c.unread = (bytes record.toList).drop 3 := by
  obtain ⟨tag, read⟩ : ∃ tag, Tag.read record = .ok tag := ⟨c.tag, tag_of_start accepted⟩
  obtain ⟨a, b, first, second, ⟨whole, started⟩ | ⟨d, body, whole, started⟩⟩ := start_of_tag read
  · cases accepted.symm.trans started
    refine ⟨rfl, List.nil_suffix, ?_⟩
    have two : (bytes record.toList).length = 2 := by
      rw [length_bytes, whole, utf8Length_of_single (by simp [first, second])]
      rfl
    exact (List.drop_eq_nil_of_le (by omega)).symm
  · by_cases single : d.utf8Size = 1
    · rw [if_pos single] at started
      cases accepted.symm.trans started
      refine ⟨rfl, ⟨[a, b, d], whole.symm⟩, ?_⟩
      have three : (bytes [a, b, d]).length = 3 := by
        rw [length_bytes, utf8Length_of_single (by simp [first, second, single])]
        rfl
      rw [whole, show a :: b :: d :: body = [a, b, d] ++ body from rfl, bytes_append,
        List.drop_left' three]
    · rw [if_neg single] at started
      cases accepted.symm.trans started

end Start

/-! ## Records are put together again -/

/-- **What the calls to a cursor come to**, if `answers` is what they said and `last` where they
left it. -/
structure Reassembled (record : String) (calls : List Call)
    (answers : List (Except Defect (Option Slice))) (last : Cursor) : Prop where
  /-- Behind its third byte, the record is the slices, each with the character that was passed over
  behind it, and what is left. -/
  whole : bytes ((slices answers).flatMap Slice.written ++ last.unread) =
    (bytes record.toList).drop 3
  /-- A slice ends before the first character that was looked for. -/
  unsplit : ∀ slice ∈ slices answers, ∀ stop ∈ slice.stop, stop ∉ slice.text.toList
  /-- A further call that hands out nothing leaves the cursor where it was. -/
  stays : ∀ (call : Call) (next : Cursor), call.reading last = .ok none next → next = last
  /-- So does one that is refused, and what it misses is what it was to read. -/
  stays_refused : ∀ (call : Call) (defect : Defect) (next : Cursor),
    call.reading last = .error defect next →
      next = last ∧ ∃ name ∈ call.name?, defect = .missing record name
  /-- The same calls to a cursor that counts bytes say the same and lead to the same place, and the
  record can be cut wherever they cut it. -/
  counted : (ByteCursor.start record).toOption.bind (readAllCounting calls) =
    some (answers, last.counted)
  /-- Its position is not behind the end. -/
  inside : last.counted.position ≤ record.utf8ByteSize
  /-- A character starts there, or it is the end. -/
  boundary : String.Pos.Raw.IsValid record ⟨last.counted.position⟩
  /-- There is more exactly if all that follows would be handed out. -/
  more : last.hasMore = true ↔ ∃ text next, Reading.rest? last = .ok (some text) next
  /-- There is a delimiter exactly if a field would be handed out. -/
  delimited : ∀ name, last.hasDelimiter = true ↔
    ∃ text next, Reading.field name last = .ok text next
  /-- Both are found out from the position as well. -/
  told : last.counted.hasMore = last.hasMore ∧
    last.counted.hasDelimiter? = some last.hasDelimiter

theorem Cursor.Within.boundary {c : Cursor} (within : c.Within) :
    String.Pos.Raw.IsValid c.record ⟨c.counted.position⟩ := by
  obtain ⟨head, whole⟩ := within
  rw [← isSome_splitByte?_iff, position_counted whole.symm, ← whole, splitByte?_append]
  rfl

/-- **A record is put together again** from the slices that were handed out and what is left, after
any calls to a cursor of it, and no position gets inside of a character. -/
theorem record_reassembled {record : String} {first : Cursor}
    (accepted : Cursor.start record = .ok first) (calls : List Call) :
    Reassembled record calls (readAll calls first).1 (readAll calls first).2 := by
  obtain ⟨same, within, behind⟩ := of_start accepted
  obtain ⟨still, record_eq⟩ := readAll_within calls within
  have boundary := still.boundary
  rw [record_eq, same] at boundary
  -- a call that fails names what it missed and leaves the cursor
  have refused : ∀ (call : Call) (defect : Defect) (next : Cursor),
      call.reading (readAll calls first).2 = .error defect next →
        next = (readAll calls first).2 ∧ ∃ name ∈ call.name?, defect = .missing record name := by
    intro call defect next read
    have stays := call.stays_refused read
    rwa [record_eq, same] at stays
  have counted : (ByteCursor.start record).toOption.bind (readAllCounting calls) =
      some ((readAll calls first).1, (readAll calls first).2.counted) := by
    rw [start_counted, accepted]
    exact readAllCounting_counted calls within
  exact {
    whole := by rw [← readAll_unread, behind]
    unsplit := readAll_unsplit calls first
    stays := fun _ _ => Call.stays
    stays_refused := refused
    counted := counted
    inside := boundary.le_utf8ByteSize
    boundary := boundary
    more := hasMore_iff
    delimited := hasDelimiter_iff
    told := ⟨hasMore_counted still, hasDelimiter?_counted still⟩ }

/-- A record with characters of two and of three bytes. -/
def arrowRecord : String := "27;é→b;c"

/-- Where it starts to be read. -/
def arrowCursor : Cursor := ⟨arrowRecord, ⟨2, 7⟩, ';', ['é', '→', 'b', ';', 'c']⟩

/-- Calls of every kind, one of them for a character that is not there. -/
def arrowCalls : List Call :=
  [.fieldUntil '→' "file", .field "line", .fieldUntil '→' "thread", .fieldOrRest "thread", .rest?,
    .rest "more"]

/-- What they say. -/
def arrowAnswers : List (Except Defect (Option Slice)) :=
  [.ok (some ⟨"é", some '→'⟩), .ok (some ⟨"b", some ';'⟩), .error (.missing arrowRecord "thread"),
    .ok (some ⟨"c", none⟩), .ok none, .error (.missing arrowRecord "more")]

theorem record_reassembled_arrow :
    Cursor.start arrowRecord = .ok arrowCursor ∧
      Reassembled arrowRecord arrowCalls arrowAnswers { arrowCursor with unread := [] } := by
  have accepted : Cursor.start arrowRecord = .ok arrowCursor := rfl
  have read : readAll arrowCalls arrowCursor =
      (arrowAnswers, { arrowCursor with unread := [] }) := rfl
  have reassembled := record_reassembled accepted arrowCalls
  rw [read] at reassembled
  exact ⟨accepted, reassembled⟩

end Record

end DebugLink
