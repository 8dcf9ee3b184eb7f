import DebugLink.Proofs.Separated

/-!
# Calls to a cursor

A record is read by calls to one cursor, in any order, and calls may go on after one that came to
nothing. What a call hands out is a slice: a text, and the character that was passed over behind it
if the call looked for one. Whatever the calls were, the slices and what is left are what there was
to read.

* `Moved`, `Call.moved`: a call hands out a slice of what was unread, or it leaves the cursor alone.
* `readAll_unread`, `readAll_unsplit`: **no text is lost, repeated or split**, by any calls.
* `hasMore_iff`, `hasDelimiter_iff`: what a cursor tells of the next call.
-/

namespace DebugLink.Record

open Text

/-- A text that was handed out, and the character that was passed over behind it. -/
structure Slice where
  text : String
  stop : Option Char
  deriving DecidableEq, Repr

/-- The part of the record that the slice was cut from. -/
def Slice.written (slice : Slice) : List Char := slice.text.toList ++ slice.stop.toList

/-- A call to a cursor. -/
inductive Call
  /-- The field up to the next delimiter. -/
  | field (name : String)
  /-- The field up to the next `stop`. -/
  | fieldUntil (stop : Char) (name : String)
  /-- The field up to the next delimiter, or all that follows. -/
  | fieldOrRest (name : String)
  /-- All that follows. -/
  | rest (name : String)
  /-- All that follows, unless it is nothing. -/
  | rest?
  deriving DecidableEq, Repr

/-- The name of what is read, for a defect. -/
def Call.name? : Call → Option String
  | field name | fieldUntil _ name | fieldOrRest name | rest name => some name
  | rest? => none

/-- What the call reads. -/
def Call.reading : Call → Reading (Option Slice)
  | field name => do
    let c ← get
    return some ⟨← Reading.field name, some c.delimiter⟩
  | fieldUntil stop name => do
    return some ⟨← Reading.fieldUntil stop name, some stop⟩
  | fieldOrRest name => do
    let c ← get
    return some ⟨← Reading.fieldOrRest name, if c.hasDelimiter then some c.delimiter else none⟩
  | rest name => do
    return some ⟨← Reading.rest name, none⟩
  | rest? => do
    return (← Reading.rest?).map (⟨·, none⟩)

section Result

variable {α σ : Type}

/-- What a step of reading says. -/
def said : EStateM.Result Defect σ α → Except Defect α
  | .ok a _ => .ok a
  | .error defect _ => .error defect

/-- Where a step of reading leaves the one who reads. -/
def left : EStateM.Result Defect σ α → σ
  | .ok _ place | .error _ place => place

end Result

/-- What the calls say one after another, and where they leave the cursor. -/
def readAll : List Call → Cursor → List (Except Defect (Option Slice)) × Cursor
  | [], c => ([], c)
  | call :: calls, c =>
    let result := call.reading c
    let (answers, last) := readAll calls (left result)
    (said result :: answers, last)

/-- The slice that an answer hands out. -/
def slice? : Except Defect (Option Slice) → Option Slice
  | .ok slice => slice
  | .error _ => none

/-- The slices that were handed out. -/
def slices (answers : List (Except Defect (Option Slice))) : List Slice := answers.filterMap slice?

/-! ## One call -/

namespace Reading

variable {α β : Type}

theorem bind_refused {reading : Reading α} {next : α → Reading β} {c d : Cursor} {defect : Defect}
    (refused : reading c = .error defect d) : (reading >>= next) c = .error defect d := by
  show EStateM.bind reading next c = _
  unfold EStateM.bind
  rw [refused]

/-- A field ends at the first stop character, or there is none ahead. -/
theorem fieldUntil_cases (stop : Char) (name : String) (c : Cursor) :
    (∃ text unread, c.unread = text ++ stop :: unread ∧ stop ∉ text ∧
      fieldUntil stop name c = .ok (String.ofList text) { c with unread }) ∨
      stop ∉ c.unread ∧ fieldUntil stop name c = .error (.missing c.record name) c := by
  by_cases ahead : stop ∈ c.unread
  · obtain ⟨text, unread, whole, absent⟩ := List.eq_append_cons_of_mem ahead
    exact .inl ⟨text, unread, whole, absent, by rw [fieldUntil, whole, cutWhere?_append absent]⟩
  · exact .inr ⟨ahead, by rw [fieldUntil, cutWhere?_eq_none ahead]⟩

theorem rest_of_end {c : Cursor} (ends : c.unread = []) (name : String) :
    rest name c = .error (.missing c.record name) c :=
  if_neg (mt hasMore_iff_ne_nil.1 (not_not_intro ends))

theorem rest?_of_end {c : Cursor} (ends : c.unread = []) : rest? c = .ok none c :=
  if_neg (mt hasMore_iff_ne_nil.1 (not_not_intro ends))

theorem hasDelimiter_iff_mem {c : Cursor} : c.hasDelimiter = true ↔ c.delimiter ∈ c.unread := by
  simp [Cursor.hasDelimiter]

end Reading

/-- What a call can come to: it hands out a slice of what was unread, and the cursor moves behind
it, or it hands out nothing and the cursor stays. -/
inductive Moved (name? : Option String) (c : Cursor) :
    EStateM.Result Defect Cursor (Option Slice) → Prop
  | taken (slice : Slice) (unread : List Char) (whole : c.unread = slice.written ++ unread)
      (unsplit : ∀ stop ∈ slice.stop, stop ∉ slice.text.toList) :
      Moved name? c (.ok (some slice) { c with unread })
  | nothing : Moved name? c (.ok none c)
  | missing (name : String) (named : name? = some name) :
      Moved name? c (.error (.missing c.record name) c)

namespace Call

open Reading

variable {c : Cursor} {name : String}

theorem reading_fieldOrRest_of_mem (ahead : c.delimiter ∈ c.unread) :
    (fieldOrRest name).reading c = (field name).reading c := by
  have more := hasDelimiter_iff_mem.2 ahead
  have read : Reading.fieldOrRest name c = Reading.field name c := by
    rw [Reading.fieldOrRest, if_pos more]
  show EStateM.bind (Reading.fieldOrRest name) _ c = EStateM.bind (Reading.field name) _ c
  unfold EStateM.bind
  rw [read, if_pos more]

theorem reading_fieldOrRest_of_not_mem (last : c.delimiter ∉ c.unread) :
    (fieldOrRest name).reading c = (rest name).reading c := by
  have none_ahead : ¬c.hasDelimiter = true := mt hasDelimiter_iff_mem.1 last
  have read : Reading.fieldOrRest name c = Reading.rest name c := by
    rw [Reading.fieldOrRest, if_neg none_ahead]
  show EStateM.bind (Reading.fieldOrRest name) _ c = EStateM.bind (Reading.rest name) _ c
  unfold EStateM.bind
  rw [read, if_neg none_ahead]

theorem reading_fieldUntil_of_cut {stop : Char} {text unread : List Char}
    (read : Reading.fieldUntil stop name c = .ok (String.ofList text) { c with unread }) :
    (fieldUntil stop name).reading c =
      .ok (some ⟨String.ofList text, some stop⟩) { c with unread } :=
  bind_read read

theorem reading_fieldUntil_of_missing {stop : Char}
    (read : Reading.fieldUntil stop name c = .error (.missing c.record name) c) :
    (fieldUntil stop name).reading c = .error (.missing c.record name) c :=
  bind_refused read

theorem reading_rest_of_more (more : c.unread ≠ []) :
    (rest name).reading c =
      .ok (some ⟨String.ofList c.unread, none⟩) { c with unread := [] } :=
  bind_read (rest_of_more more name)

theorem reading_rest_of_end (ends : c.unread = []) :
    (rest name).reading c = .error (.missing c.record name) c :=
  bind_refused (rest_of_end ends name)

theorem reading_rest?_of_more (more : c.unread ≠ []) :
    rest?.reading c = .ok (some ⟨String.ofList c.unread, none⟩) { c with unread := [] } := by
  unfold reading
  exact bind_read (rest?_of_more more)

theorem reading_rest?_of_end (ends : c.unread = []) : rest?.reading c = .ok none c := by
  unfold reading
  exact bind_read (rest?_of_end ends)

/-- Reading a field takes it with its stop character, or leaves the cursor. -/
theorem moved_fieldUntil (stop : Char) (name : String) (c : Cursor) :
    Moved (some name) c ((fieldUntil stop name).reading c) := by
  obtain ⟨text, unread, whole, absent, read⟩ | ⟨-, read⟩ := fieldUntil_cases stop name c
  · rw [reading_fieldUntil_of_cut read]
    refine .taken _ unread ?_ ?_
    · simpa [Slice.written] using whole
    · simpa using absent
  · rw [reading_fieldUntil_of_missing read]
    exact .missing name rfl

/-- Reading the rest takes all of it, or leaves the cursor at the end. -/
theorem moved_rest (name : String) (c : Cursor) :
    Moved (some name) c ((rest name).reading c) := by
  by_cases ends : c.unread = []
  · rw [reading_rest_of_end ends]
    exact .missing name rfl
  · rw [reading_rest_of_more ends]
    exact .taken _ [] (by simp [Slice.written]) nofun

/-- **One call** hands out a slice of what was unread, or it leaves the cursor where it was. -/
theorem moved (call : Call) (c : Cursor) : Moved call.name? c (call.reading c) := by
  cases call with
  | field name => exact moved_fieldUntil c.delimiter name c
  | fieldUntil stop name => exact moved_fieldUntil stop name c
  | fieldOrRest name =>
    by_cases ahead : c.delimiter ∈ c.unread
    · rw [reading_fieldOrRest_of_mem ahead]
      exact moved_fieldUntil c.delimiter name c
    · rw [reading_fieldOrRest_of_not_mem ahead]
      exact moved_rest name c
  | rest name => exact moved_rest name c
  | rest? =>
    by_cases ends : c.unread = []
    · rw [reading_rest?_of_end ends]
      exact .nothing
    · rw [reading_rest?_of_more ends]
      exact .taken _ [] (by simp [Slice.written]) nofun

end Call

namespace Moved

variable {name? : Option String} {c : Cursor} {result : EStateM.Result Defect Cursor (Option Slice)}
  (moved : Moved name? c result)

include moved

/-- **What was unread is what was taken and what is left.** -/
theorem unread_eq :
    c.unread = ((slice? (said result)).toList.flatMap Slice.written) ++ (left result).unread := by
  cases moved with
  | taken slice unread whole => simpa [slice?, said, left] using whole
  | nothing => rfl
  | missing => rfl

/-- What was taken ends at its first stop character. -/
theorem unsplit :
    ∀ slice ∈ slice? (said result), ∀ stop ∈ slice.stop, stop ∉ slice.text.toList := by
  cases moved with
  | taken slice unread whole unsplit =>
    rintro _ ⟨⟩
    exact unsplit
  | nothing => nofun
  | missing => nofun

theorem record_eq : (left result).record = c.record := by
  cases moved <;> rfl

end Moved

/-- A call that hands out nothing leaves the cursor where it was. -/
theorem Call.stays {call : Call} {c next : Cursor} (read : call.reading c = .ok none next) :
    next = c := by
  have moved := call.moved c
  rw [read] at moved
  cases moved
  rfl

/-- So does a call that is refused, and what it misses is what it was to read. -/
theorem Call.stays_refused {call : Call} {c next : Cursor} {defect : Defect}
    (refused : call.reading c = .error defect next) :
    next = c ∧ ∃ name ∈ call.name?, defect = .missing c.record name := by
  have moved := call.moved c
  rw [refused] at moved
  cases moved with
  | missing name named => exact ⟨rfl, name, named, rfl⟩

/-! ## Any calls -/

/-- **No text is lost or repeated**: the slices, each with the character passed over behind it, and
what is left are what there was to read. -/
theorem readAll_unread (calls : List Call) (c : Cursor) :
    c.unread =
      (slices (readAll calls c).1).flatMap Slice.written ++ (readAll calls c).2.unread := by
  induction calls generalizing c with
  | nil => rfl
  | cons call calls ih =>
    -- the first call takes its slice off the front, the others theirs off what it left
    have first := (call.moved c).unread_eq
    have later := ih (left (call.reading c))
    rw [first, later]
    cases handed : slice? (said (call.reading c)) <;> simp [readAll, slices, handed]

/-- No text is split: a slice ends before the first character that the call looked for. -/
theorem readAll_unsplit (calls : List Call) (c : Cursor) :
    ∀ slice ∈ slices (readAll calls c).1, ∀ stop ∈ slice.stop, stop ∉ slice.text.toList := by
  induction calls generalizing c with
  | nil => nofun
  | cons call calls ih =>
    intro slice mem
    obtain ⟨answer, among, handed⟩ := List.mem_filterMap.1 mem
    obtain rfl | later := List.mem_cons.1 among
    · exact (call.moved c).unsplit slice handed
    · exact ih _ slice (List.mem_filterMap.2 ⟨answer, later, handed⟩)

/-! ## What a cursor tells -/

section Ahead

variable {c : Cursor}

/-- **There is more** exactly if all that follows would be handed out. -/
theorem hasMore_iff : c.hasMore = true ↔ ∃ text next, Reading.rest? c = .ok (some text) next := by
  rw [Reading.hasMore_iff_ne_nil]
  constructor
  · exact fun more => ⟨_, _, Reading.rest?_of_more more⟩
  · rintro ⟨text, next, read⟩ ends
    cases (Reading.rest?_of_end ends).symm.trans read

/-- **There is a delimiter** exactly if a field would be handed out. -/
theorem hasDelimiter_iff (name : String) :
    c.hasDelimiter = true ↔ ∃ text next, Reading.field name c = .ok text next := by
  rw [Reading.hasDelimiter_iff_mem]
  obtain ⟨text, unread, whole, -, read⟩ | ⟨absent, read⟩ :=
    Reading.fieldUntil_cases c.delimiter name c
  · exact iff_of_true (by simp [whole]) ⟨_, _, read⟩
  · exact iff_of_false absent fun ⟨_, _, found⟩ => nomatch read.symm.trans found

end Ahead

end DebugLink.Record
