import DebugLink.Breakpoint.Notice
import DebugLink.Execution.Notice
import DebugLink.Proofs.FieldReading

/-!
# The forms of records

A record is two digits, a character that delimits its fields if it is a comma or a semicolon, and
the fields. Which fields a record must have, what has to be written in them and what they then say
is its form. The readers never see the fields together: they tell forms apart by counting delimiters
in the whole record, by asking whether there is one ahead, and by taking all that is left for one
number. They accept the forms and nothing else.

* `Tagged`, `delimiter`: the parts of a record, whatever stands in place of the delimiter.
* `Breakpoint.Notice.Form`, `Execution.Notice.Form`: the forms, and what they say.
* `Breakpoint.Notice.reads_snapshot`, `Execution.Notice.reads_stop`,
  `Execution.Notice.reads_stepEnd`: the fields that several forms share.
* `forms_read_exactly`: a record is read exactly if it has a form.
-/

namespace DebugLink

open Text Record Reading

namespace Record

/-- Two digits, and what is behind them: nothing, or first a character of one byte. -/
structure Tagged (record : String) (category kind : Nat) (behind : List Char) : Prop where
  digits : ∃ c k, record.toList = c :: k :: behind ∧
    digit? 10 c = some category ∧ digit? 10 k = some kind
  single : ∀ c ∈ behind.head?, c.utf8Size = 1

/-- The delimiter of a record, told from what is behind its digits. -/
def delimiter (behind : List Char) : Char := if behind.head? = some ',' then ',' else ';'

/-- The fields of a record, with any one character between them and the digits. -/
def recordFields (behind : List Char) : List (Piece (delimiter behind)) :=
  pieces (delimiter behind) behind.tail

theorem delimiter_mem (behind : List Char) : delimiter behind ∈ delimiters := by
  unfold delimiter
  split <;> decide

section Tagged

variable {record : String} {category kind : Nat} {behind : List Char}

/-- The reader starts before the first field. -/
theorem start_tagged (tagged : Tagged record category kind behind) :
    Cursor.start record = .ok (.facing record ⟨category, kind⟩ (recordFields behind)) := by
  obtain ⟨c, k, written, hc, hk⟩ := tagged.digits
  have tag : Tag.read record = .ok ⟨category, kind⟩ :=
    Tag.read_eq_ok_iff.2 ⟨c, k, behind, written, hc, hk⟩
  have body : text (recordFields behind) = behind.tail := by
    unfold text recordFields
    rw [map_pieces, intercalate_fields]
  unfold Cursor.start Cursor.facing
  rw [tag, written, body]
  cases behind with
  | nil => rfl
  | cons d behind =>
    have single : d.utf8Size = 1 := tagged.single d rfl
    simp [delimiter, single, bind, Except.bind]

/-- **All delimiters of a record** stand between its fields, but for the one that opens them. -/
theorem count_tagged (tagged : Tagged record category kind behind) :
    record.toList.count (delimiter behind) + 1 =
      (recordFields behind).length + if behind.head? = some (delimiter behind) then 1 else 0 := by
  obtain ⟨c, k, written, hc, hk⟩ := tagged.digits
  have digit : ∀ e n, digit? 10 e = some n → e ≠ delimiter behind := by
    rintro e n read rfl
    have foreign : ∀ d ∈ delimiters, digit? 10 d = none := List.all_iff_forall_prop.1 (by decide)
    rw [foreign _ (delimiter_mem behind)] at read
    cases read
  have body : behind.tail = text (recordFields behind) := by
    unfold text recordFields
    rw [map_pieces, intercalate_fields]
  obtain ⟨f, fs, shape⟩ := List.exists_cons_of_ne_nil (pieces_ne_nil (delimiter behind) behind.tail)
  have inside : behind.tail.count (delimiter behind) + 1 = (recordFields behind).length := by
    rw [body, show recordFields behind = f :: fs from shape, count_text, List.length_cons]
  rw [written, List.count_cons_of_ne (digit c _ hc), List.count_cons_of_ne (digit k _ hk), ← inside]
  cases behind with
  | nil => simp
  | cons d behind =>
    rw [List.count_cons, List.tail_cons, List.head?_cons]
    simp only [beq_iff_eq, Option.some.injEq]
    omega

end Tagged

end Record

namespace Breakpoint.Notice

variable {d : Char} {record : String} {tag : Tag} {fs : List (Piece d)}

/-- The seven fields of a breakpoint with a location. -/
inductive Located : List (Piece d) → Snapshot → Prop
  | fields {id enabled address function file line hits : Piece d} {i a l h : Nat}
      (id_read : readTrimmed32 id.1 = some i)
      (address_read : readAddress (String.ofList address.1) = some a)
      (line_read : readTrimmed32 line.1 = some l) (hits_read : readTrimmed32 hits.1 = some h) :
      Located [id, enabled, address, function, file, line, hits]
        { id := i, enabled := String.ofList enabled.1 == "y", address := .resolved a,
          function := String.ofList function.1, file := String.ofList file.1, line := l, hits := h }

/-- The fields of a breakpoint without a location: behind the literal for its address may stand
anything. -/
inductive Unlocated : List (Piece d) → Snapshot → Prop
  | fields {id enabled address : Piece d} {more : List (Piece d)} {i : Nat}
      (id_read : readTrimmed32 id.1 = some i) (literal : address.1 = pendingAddress.toList) :
      Unlocated (id :: enabled :: address :: more)
        { id := i, enabled := String.ofList enabled.1 == "y", address := .pending,
          function := unknownFunction }

/-- A number alone; for an empty text, the number of all breakpoints. -/
inductive Bulk : List (Piece d) → Nat → Prop
  | all {nothing : Piece d} (empty : nothing.1 = []) : Bulk [nothing] allBreakpoints
  | one {id : Piece d} {i : Nat} (id_read : readTrimmed32 id.1 = some i) : Bulk [id] i

/-- **The forms of records about breakpoints**, by their kind, and what they say. A condition is all
that follows the number of its breakpoint. -/
inductive Form : Nat → List (Piece d) → Notice → Prop
  | inserted {fs : List (Piece d)} {s : Snapshot} (located : Located fs s) : Form 0 fs (.inserted s)
  | pending {fs : List (Piece d)} {s : Snapshot} (unlocated : Unlocated fs s) :
      Form 0 fs (.inserted s)
  | modified {fs : List (Piece d)} {s : Snapshot} (located : Located fs s) : Form 1 fs (.modified s)
  | deleted {fs : List (Piece d)} {i : Nat} (bulk : Bulk fs i) : Form 2 fs (.deleted i)
  | deletedOnHit {fs : List (Piece d)} {i : Nat} (bulk : Bulk fs i) : Form 5 fs (.deleted i)
  | enabled {fs : List (Piece d)} {i : Nat} (bulk : Bulk fs i) : Form 3 fs (.enabled i)
  | disabled {fs : List (Piece d)} {i : Nat} (bulk : Bulk fs i) : Form 4 fs (.disabled i)
  | ignoreCount {id count : Piece d} {i n : Nat} (id_read : readTrimmed32 id.1 = some i)
      (count_read : readTrimmed32 count.1 = some n) : Form 6 [id, count] (.ignoreCount i n)
  | hit {id file line thread : Piece d} {i l t : Nat} (id_read : readTrimmed32 id.1 = some i)
      (line_read : readTrimmed32 line.1 = some l) (thread_read : readTrimmed32 thread.1 = some t) :
      Form 7 [id, file, line, thread] (.hit i (String.ofList file.1) l t)
  | condition {id : Piece d} {rest : List (Piece d)} {i : Nat}
      (id_read : readTrimmed32 id.1 = some i) :
      Form 8 (id :: rest) (.condition i (String.ofList (text rest)))
  | conditionError {fs : List (Piece d)} : Form 9 fs .conditionError

/-- The literal that stands for an address is none. -/
theorem beq_pendingAddress_of_readAddress {raw : String} {a : Nat}
    (read : readAddress raw = some a) : (raw == pendingAddress) = false := by
  have literal : readAddress pendingAddress = none := by decide
  refine beq_false_of_ne ?_
  rintro rfl
  rw [literal] at read
  cases read

/-- **The fields of a snapshot**, for a breakpoint that may have no location or must have one. -/
theorem reads_snapshot (sign : d ∈ delimiters) {mayBePending : Bool} {P : Snapshot → Prop} :
    Reads (snapshot mayBePending) (.facing record tag fs) (fun s _ => P s) ↔
      ∃ s, (Located fs s ∨ mayBePending = true ∧ Unlocated fs s) ∧ P s := by
  unfold snapshot
  simp only [reads_bind, reads_numberField, reads_field, reads_fieldOrRest, reads_ite, reads_pure,
    reads_address, reads_numberRest sign]
  constructor
  · rintro ⟨id, _, _, rfl, i, id_read, flag, address, more, ⟨⟩, _, _, ⟨⟩, -, h⟩
    split at h
    · rename_i bare
      obtain ⟨may, unlocated⟩ := Bool.and_eq_true_iff.1 bare
      have literal : address.1 = pendingAddress.toList := by
        rw [← eq_of_beq unlocated, String.toList_ofList]
      exact ⟨_, .inr ⟨may, .fields id_read literal⟩, h⟩
    · obtain ⟨a, address_read, function, _, _, rfl, file, _, _, ⟨⟩, line, _, _, ⟨⟩, l, line_read,
        hits, ⟨⟩, h, hits_read, holds⟩ := h
      exact ⟨_, .inl (.fields id_read address_read line_read hits_read), holds⟩
  · rintro ⟨s, located | ⟨rfl, unlocated⟩, holds⟩
    · obtain ⟨id_read, address_read, line_read, hits_read⟩ := located
      -- what is read as an address is not the literal, so the record goes on behind it
      refine ⟨_, _, _, rfl, _, id_read, _, _, _, rfl, _, _, rfl, nofun, ?_⟩
      rw [beq_pendingAddress_of_readAddress address_read, Bool.and_false,
        if_neg Bool.false_ne_true]
      exact ⟨_, address_read, _, _, _, rfl, _, _, _, rfl, _, _, _, rfl, _, line_read, _, rfl, _,
        hits_read, holds⟩
    · obtain ⟨id_read, literal⟩ := unlocated
      refine ⟨_, _, _, rfl, _, id_read, _, _, _, rfl, _, _, rfl, ?_, ?_⟩
      · rw [literal]
        exact fun _ => by decide
      · rwa [literal, String.ofList_toList, if_pos (by simp)]

/-- A number, or nothing at all. -/
theorem reads_optionalId (sign : d ∈ delimiters) (some_field : fs ≠ []) {P : Nat → Prop} :
    Reads optionalId (.facing record tag fs) (fun i _ => P i) ↔ ∃ i, Bulk fs i ∧ P i := by
  unfold optionalId
  rw [reads_bind, reads_rest?]
  by_cases empty : text fs = []
  · rw [if_pos empty]
    dsimp only
    rw [reads_pure]
    -- no text at all is that of one empty field
    obtain ⟨f, rfl⟩ := eq_singleton_of_not_mem some_field (empty ▸ List.not_mem_nil)
    rw [text_singleton] at empty
    constructor
    · exact fun holds => ⟨_, .all empty, holds⟩
    · rintro ⟨_, _ | id_read, holds⟩
      · exact holds
      · exact absurd empty (ne_nil_of_readTrimmed32 id_read)
  · rw [if_neg empty]
    dsimp only
    rw [reads_number, String.toList_ofList]
    constructor
    · rintro ⟨i, read, holds⟩
      obtain ⟨id, rfl⟩ :=
        eq_singleton_of_not_mem some_field (not_mem_of_readTrimmed32 sign read)
      exact ⟨i, .one (text_singleton id ▸ read), holds⟩
    · rintro ⟨i, empty' | id_read, holds⟩
      · exact absurd (text_singleton _ ▸ empty') empty
      · exact ⟨i, text_singleton (d := d) _ ▸ id_read, holds⟩

theorem reads_bulk (sign : d ∈ delimiters) (some_field : fs ≠ []) {say : Nat → Notice}
    {n : Notice} :
    Reads (optionalId >>= fun i => pure (say i)) (.facing record tag fs) (fun r _ => r = n) ↔
      ∃ i, Bulk fs i ∧ say i = n := by
  simp only [reads_bind, reads_pure, reads_optionalId sign some_field]

/-- A number and a condition, which may be missing together with its delimiter. -/
theorem reads_condition (sign : d ∈ delimiters) (some_field : fs ≠ []) {n : Notice} :
    Reads reading (.facing record ⟨2, 8⟩ fs) (fun r _ => r = n) ↔
      ∃ id rest i, fs = id :: rest ∧ readTrimmed32 id.1 = some i ∧
        condition i (String.ofList (text rest)) = n := by
  change Reads (if (Cursor.facing record ⟨2, 8⟩ fs).hasDelimiter = true then
    numberField "id" >>= fun i => rest? >>= fun text => pure (condition i (text.getD ""))
    else numberRest "id" >>= fun i => pure (condition i "")) _ _ ↔ _
  simp only [reads_ite, reads_bind, reads_pure, reads_numberField, reads_numberRest sign,
    reads_rest?]
  have shown : ∀ rest : List (Piece d),
      (if text rest = [] then none else some (String.ofList (text rest))).getD "" =
        String.ofList (text rest) := by
    intro rest
    split
    · rename_i empty
      rw [empty]
      rfl
    · rfl
  -- the identifier alone is read as a removed condition, and with more fields the rest is the text
  match fs with
  | [] => exact absurd rfl some_field
  | [id] =>
    rw [if_neg not_hasDelimiter_last]
    constructor
    · rintro ⟨_, ⟨⟩, i, id_read, rfl⟩
      exact ⟨id, [], i, rfl, id_read, rfl⟩
    · rintro ⟨_, _, i, ⟨⟩, id_read, rfl⟩
      exact ⟨id, rfl, i, id_read, rfl⟩
  | id :: g :: more =>
    rw [if_pos (hasDelimiter_facing.2 ⟨id, g, more, rfl⟩)]
    simp only [shown]
    constructor
    · rintro ⟨_, _, _, ⟨⟩, i, id_read, rfl⟩
      exact ⟨id, g :: more, i, rfl, id_read, rfl⟩
    · rintro ⟨_, _, i, ⟨⟩, id_read, rfl⟩
      exact ⟨id, g, more, rfl, i, id_read, rfl⟩

/-- **Each form is read**, and nothing else is. -/
theorem reads_form (sign : d ∈ delimiters) (some_field : fs ≠ []) {kind : Nat} (digit : kind < 10)
    {n : Notice} :
    Reads reading (.facing record ⟨2, kind⟩ fs) (fun r _ => r = n) ↔ Form kind fs n := by
  -- one kind at a time: the reader of each is a chain of fields, and its form lists the same fields
  match kind, digit with
  | 0, _ =>
    change Reads (snapshot true >>= fun s => pure (inserted s)) _ _ ↔ _
    simp only [reads_bind, reads_pure, reads_snapshot sign]
    constructor
    · rintro ⟨s, located | ⟨-, unlocated⟩, rfl⟩
      · exact .inserted located
      · exact .pending unlocated
    · intro form
      cases form with
      | inserted located => exact ⟨_, .inl located, rfl⟩
      | pending unlocated => exact ⟨_, .inr ⟨trivial, unlocated⟩, rfl⟩
  | 1, _ =>
    change Reads (snapshot false >>= fun s => pure (modified s)) _ _ ↔ _
    simp only [reads_bind, reads_pure, reads_snapshot sign]
    constructor
    · rintro ⟨s, located | ⟨⟨⟩, -⟩, rfl⟩
      exact .modified located
    · intro form
      cases form with
      | modified located => exact ⟨_, .inl located, rfl⟩
  | 2, _ =>
    refine (reads_bulk sign some_field).trans ⟨?_, ?_⟩
    · rintro ⟨i, bulk, rfl⟩
      exact .deleted bulk
    · intro form
      cases form with
      | deleted bulk => exact ⟨_, bulk, rfl⟩
  | 3, _ =>
    refine (reads_bulk sign some_field).trans ⟨?_, ?_⟩
    · rintro ⟨i, bulk, rfl⟩
      exact .enabled bulk
    · intro form
      cases form with
      | enabled bulk => exact ⟨_, bulk, rfl⟩
  | 4, _ =>
    refine (reads_bulk sign some_field).trans ⟨?_, ?_⟩
    · rintro ⟨i, bulk, rfl⟩
      exact .disabled bulk
    · intro form
      cases form with
      | disabled bulk => exact ⟨_, bulk, rfl⟩
  | 5, _ =>
    refine (reads_bulk sign some_field).trans ⟨?_, ?_⟩
    · rintro ⟨i, bulk, rfl⟩
      exact .deletedOnHit bulk
    · intro form
      cases form with
      | deletedOnHit bulk => exact ⟨_, bulk, rfl⟩
  | 6, _ =>
    change Reads (numberField "id" >>= fun i =>
      numberRest "ignore count" >>= fun count => pure (ignoreCount i count)) _ _ ↔ _
    simp only [reads_bind, reads_pure, reads_numberField, reads_numberRest sign]
    constructor
    · rintro ⟨id, _, _, rfl, i, id_read, count, ⟨⟩, n, count_read, rfl⟩
      exact .ignoreCount id_read count_read
    · intro form
      cases form with
      | ignoreCount id_read count_read =>
        exact ⟨_, _, _, rfl, _, id_read, _, rfl, _, count_read, rfl⟩
  | 7, _ =>
    change Reads (numberField "id" >>= fun i => field "file" >>= fun file =>
      numberField "line" >>= fun line => numberRest "thread" >>= fun thread =>
      pure (hit i file line thread)) _ _ ↔ _
    simp only [reads_bind, reads_pure, reads_numberField, reads_numberRest sign, reads_field]
    constructor
    · rintro ⟨id, _, _, rfl, i, id_read, file, _, _, ⟨⟩, line, _, _, ⟨⟩, l, line_read, thread, ⟨⟩,
        t, thread_read, rfl⟩
      exact .hit id_read line_read thread_read
    · intro form
      cases form with
      | hit id_read line_read thread_read =>
        exact ⟨_, _, _, rfl, _, id_read, _, _, _, rfl, _, _, _, rfl, _, line_read, _, rfl, _,
          thread_read, rfl⟩
  | 8, _ =>
    refine (reads_condition sign some_field).trans ⟨?_, ?_⟩
    · rintro ⟨id, rest, i, rfl, id_read, rfl⟩
      exact .condition id_read
    · intro form
      cases form with
      | condition id_read => exact ⟨_, _, _, rfl, id_read, rfl⟩
  | 9, _ =>
    change Reads (pure conditionError) _ _ ↔ _
    rw [reads_pure]
    constructor
    · rintro rfl
      exact .conditionError
    · rintro ⟨⟩
      rfl

end Breakpoint.Notice

namespace Execution.Notice

variable {d : Char} {record : String} {tag : Tag} {fs : List (Piece d)}

/-- Where the target stopped: without source or without a thread some fields are missing. -/
inductive Stopped : List (Piece d) → Stop → Prop
  | bare {address function thread : Piece d} {a t : Nat}
      (address_read : readAddress (String.ofList address.1) = some a)
      (thread_read : readTrimmed32 thread.1 = some t) :
      Stopped [address, function, thread]
        { address := a, function := String.ofList function.1, thread := t, unknownCode := true }
  | threadless {address function file line : Piece d} {a l : Nat}
      (address_read : readAddress (String.ofList address.1) = some a)
      (line_read : readTrimmed32 line.1 = some l) :
      Stopped [address, function, file, line]
        { address := a, function := String.ofList function.1, file := String.ofList file.1,
          line := l, unknownCode := String.ofList function.1 == unknownFunction }
  | full {address function file line thread : Piece d} {a l t : Nat}
      (address_read : readAddress (String.ofList address.1) = some a)
      (line_read : readTrimmed32 line.1 = some l) (thread_read : readTrimmed32 thread.1 = some t) :
      Stopped [address, function, file, line, thread]
        { address := a, function := String.ofList function.1, file := String.ofList file.1,
          line := l, thread := t, unknownCode := String.ofList function.1 == unknownFunction }

/-- Where a step ended: without source there is only the thread. -/
inductive Ended : List (Piece d) → StepEnd → Prop
  | bare {thread : Piece d} {t : Nat} (thread_read : readTrimmed32 thread.1 = some t) :
      Ended [thread] ⟨"", 1, t, true⟩
  | full {file line thread : Piece d} {l t : Nat} (line_read : readTrimmed32 line.1 = some l)
      (thread_read : readTrimmed32 thread.1 = some t) :
      Ended [file, line, thread] ⟨String.ofList file.1, l, t, false⟩

/-- **The forms of records of stops**, by their digits, and what they say. Where the target stopped
is told only by a record whose delimiter stands behind its digits. -/
inductive Form (opened : Prop) : Nat → Nat → List (Piece d) → Notice → Prop
  | interrupted {fs : List (Piece d)} {s : Stop} (first : opened) (stopped : Stopped fs s) :
      Form opened 4 4 fs (.interrupted s)
  | segfault {fs : List (Piece d)} {s : Stop} (first : opened) (stopped : Stopped fs s) :
      Form opened 5 4 fs (.segfault s)
  | steppingEnded {fs : List (Piece d)} {e : StepEnd} (ended : Ended fs e) :
      Form opened 4 5 fs (.steppingEnded e)
  | functionFinished {fs : List (Piece d)} {e : StepEnd} (ended : Ended fs e) :
      Form opened 4 6 fs (.functionFinished e)

theorem opened_of_count {opened : Prop} [Decidable opened] {count length : Nat}
    (same : count = length) (counted : count + 1 = length + if opened then 1 else 0) : opened := by
  split at counted
  · assumption
  · omega

/-- **The fields of a stop**, of as many as the delimiters of the whole record say. -/
theorem reads_stop (sign : d ∈ delimiters) {opened : Prop} [Decidable opened]
    (counted : record.toList.count d + 1 = fs.length + if opened then 1 else 0)
    {P : Stop → Prop} :
    Reads stop (.facing record tag fs) (fun s _ => P s) ↔ opened ∧ ∃ s, Stopped fs s ∧ P s := by
  unfold stop
  simp only [reads_bind, reads_get, reads_field, reads_address]
  have delimiters_eq : (Cursor.facing record tag fs).delimiterCount = record.toList.count d := rfl
  constructor
  · rintro ⟨address, _, _, rfl, a, address_read, function, _, _, ⟨⟩, h⟩
    rw [delimiters_eq] at h
    split at h
    · -- three delimiters: no file and no line, so what is last is the thread
      rename_i three
      simp only [reads_bind, reads_pure, reads_numberRest sign] at h
      obtain ⟨thread, ⟨⟩, t, thread_read, holds⟩ := h
      exact ⟨opened_of_count three counted, _, .bare address_read thread_read, holds⟩
    · rename_i four
      simp only [reads_bind, reads_pure, reads_field, reads_numberRest sign] at h
      obtain ⟨file, _, _, ⟨⟩, line, ⟨⟩, l, line_read, holds⟩ := h
      exact ⟨opened_of_count four counted, _, .threadless address_read line_read, holds⟩
    · rename_i five
      simp only [reads_bind, reads_pure, reads_field, reads_numberField, reads_numberRest sign] at h
      obtain ⟨file, _, _, ⟨⟩, line, _, _, ⟨⟩, l, line_read, thread, ⟨⟩, t, thread_read, holds⟩ := h
      exact ⟨opened_of_count five counted, _, .full address_read line_read thread_read, holds⟩
    · exact absurd h not_reads_throw
  · rintro ⟨first, s, stopped, holds⟩
    rw [if_pos first] at counted
    have count : record.toList.count d = fs.length := Nat.succ.inj counted
    cases stopped with
    | bare address_read thread_read =>
      refine ⟨_, _, _, rfl, _, address_read, _, _, _, rfl, ?_⟩
      rw [delimiters_eq, show record.toList.count d = 3 from count]
      simp only [reads_bind, reads_pure, reads_numberRest sign]
      exact ⟨_, rfl, _, thread_read, holds⟩
    | threadless address_read line_read =>
      refine ⟨_, _, _, rfl, _, address_read, _, _, _, rfl, ?_⟩
      rw [delimiters_eq, show record.toList.count d = 4 from count]
      simp only [reads_bind, reads_pure, reads_field, reads_numberRest sign]
      exact ⟨_, _, _, rfl, _, rfl, _, line_read, holds⟩
    | full address_read line_read thread_read =>
      refine ⟨_, _, _, rfl, _, address_read, _, _, _, rfl, ?_⟩
      rw [delimiters_eq, show record.toList.count d = 5 from count]
      simp only [reads_bind, reads_pure, reads_field, reads_numberField, reads_numberRest sign]
      exact ⟨_, _, _, rfl, _, _, _, rfl, _, line_read, _, rfl, _, thread_read, holds⟩

/-- **The fields of the end of a step.** -/
theorem reads_stepEnd (sign : d ∈ delimiters) (some_field : fs ≠ []) {P : StepEnd → Prop} :
    Reads stepEnd (.facing record tag fs) (fun e _ => P e) ↔ ∃ e, Ended fs e ∧ P e := by
  unfold stepEnd
  simp only [reads_bind, reads_get, reads_ite, reads_field, reads_pure, reads_numberField,
    reads_numberRest sign]
  -- the thread alone, or a place in front of it
  match fs with
  | [] => exact absurd rfl some_field
  | [thread] =>
    rw [if_neg not_hasDelimiter_last]
    constructor
    · rintro ⟨_, ⟨⟩, t, thread_read, holds⟩
      exact ⟨_, .bare thread_read, holds⟩
    · rintro ⟨_, ⟨thread_read⟩, holds⟩
      exact ⟨_, rfl, _, thread_read, holds⟩
  | file :: line :: more =>
    rw [if_pos (hasDelimiter_facing.2 ⟨file, line, more, rfl⟩)]
    constructor
    · rintro ⟨_, _, _, ⟨⟩, _, _, _, ⟨⟩, l, line_read, thread, ⟨⟩, t, thread_read, holds⟩
      exact ⟨_, .full line_read thread_read, holds⟩
    · rintro ⟨_, ended, holds⟩
      cases ended with
      | full line_read thread_read =>
        exact ⟨_, _, _, rfl, _, _, _, rfl, _, line_read, _, rfl, _, thread_read, holds⟩

/-- The digits of the records that tell of stops. -/
def stopTags : List (Nat × Nat) := [(4, 4), (5, 4), (4, 5), (4, 6)]

/-- **Each form is read**, and nothing else is. -/
theorem reads_form (sign : d ∈ delimiters) (some_field : fs ≠ []) {opened : Prop}
    [Decidable opened] (counted : record.toList.count d + 1 = fs.length + if opened then 1 else 0)
    {category kind : Nat} (stops : (category, kind) ∈ stopTags) {n : Notice} :
    Reads reading (.facing record ⟨category, kind⟩ fs) (fun r _ => r = n) ↔
      Form opened category kind fs n := by
  obtain ⟨rfl, rfl⟩ | ⟨rfl, rfl⟩ | ⟨rfl, rfl⟩ | ⟨rfl, rfl⟩ :
      category = 4 ∧ kind = 4 ∨ category = 5 ∧ kind = 4 ∨ category = 4 ∧ kind = 5 ∨
        category = 4 ∧ kind = 6 := by simpa [stopTags] using stops
  · change Reads (stop >>= fun s => pure (interrupted s)) _ _ ↔ _
    simp only [reads_bind, reads_pure, reads_stop sign counted]
    constructor
    · rintro ⟨first, s, stopped, rfl⟩
      exact .interrupted first stopped
    · rintro ⟨first, stopped⟩
      exact ⟨first, _, stopped, rfl⟩
  · change Reads (stop >>= fun s => pure (segfault s)) _ _ ↔ _
    simp only [reads_bind, reads_pure, reads_stop sign counted]
    constructor
    · rintro ⟨first, s, stopped, rfl⟩
      exact .segfault first stopped
    · intro form
      cases form with
      | segfault first stopped => exact ⟨first, _, stopped, rfl⟩
  · change Reads (stepEnd >>= fun e => pure (steppingEnded e)) _ _ ↔ _
    simp only [reads_bind, reads_pure, reads_stepEnd sign some_field]
    constructor
    · rintro ⟨e, ended, rfl⟩
      exact .steppingEnded ended
    · intro form
      cases form with
      | steppingEnded ended => exact ⟨_, ended, rfl⟩
  · change Reads (stepEnd >>= fun e => pure (functionFinished e)) _ _ ↔ _
    simp only [reads_bind, reads_pure, reads_stepEnd sign some_field]
    constructor
    · rintro ⟨e, ended, rfl⟩
      exact .functionFinished ended
    · intro form
      cases form with
      | functionFinished ended => exact ⟨_, ended, rfl⟩

end Execution.Notice

/-- **A record is read exactly if it has a form**, and what is read is what the form says. -/
theorem forms_read_exactly {record : String} {category kind : Nat} {behind : List Char}
    (tagged : Tagged record category kind behind) :
    (category = 2 → ∀ n, Breakpoint.Notice.read record = .ok n ↔
      Breakpoint.Notice.Form kind (recordFields behind) n) ∧
    ((category, kind) ∈ Execution.Notice.stopTags → ∀ n, Execution.Notice.read record = .ok n ↔
      Execution.Notice.Form (behind.head? = some (delimiter behind)) category kind
        (recordFields behind) n) := by
  have start := start_tagged tagged
  have sign := delimiter_mem behind
  have some_field : recordFields behind ≠ [] := pieces_ne_nil _ _
  constructor
  · rintro rfl n
    obtain ⟨_, k, -, -, digit⟩ := tagged.digits
    have small : kind < 10 := by
      simpa using (Option.filter_eq_some_iff.1 digit).2
    exact (run_eq_ok_iff start).trans (Breakpoint.Notice.reads_form sign some_field small)
  · intro stops n
    exact (run_eq_ok_iff start).trans
      (Execution.Notice.reads_form sign some_field (count_tagged tagged) stops)

/-- A breakpoint with a location, and a stop without a thread. -/
theorem forms_read_exactly_of_two :
    Breakpoint.Notice.read "20,7,y,0x08048400,main,/tmp/a.c,42,0" = .ok (.inserted
      { id := 7, enabled := true, address := .resolved 0x08048400, function := "main",
        file := "/tmp/a.c", line := 42, hits := 0 }) ∧
    Execution.Notice.read "44;0xb8f3;main;/tmp/a.c;42" = .ok (.interrupted
      { address := 0xb8f3, function := "main", file := "/tmp/a.c", line := 42,
        unknownCode := false }) := by
  have located : Tagged "20,7,y,0x08048400,main,/tmp/a.c,42,0" 2 0
      ",7,y,0x08048400,main,/tmp/a.c,42,0".toList :=
    ⟨⟨'2', '0', rfl, rfl, rfl⟩, by rintro _ ⟨⟩; rfl⟩
  have stopped : Tagged "44;0xb8f3;main;/tmp/a.c;42" 4 4 ";0xb8f3;main;/tmp/a.c;42".toList :=
    ⟨⟨'4', '4', rfl, rfl, rfl⟩, by rintro _ ⟨⟩; rfl⟩
  exact ⟨((forms_read_exactly located).1 rfl _).2 (.inserted (.fields rfl rfl rfl rfl)),
    ((forms_read_exactly stopped).2 (by decide) _).2 (.interrupted rfl (.threadless rfl rfl))⟩

end DebugLink
