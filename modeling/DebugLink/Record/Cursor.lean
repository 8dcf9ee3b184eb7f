import DebugLink.Record.Basic

/-!
# Reading the fields of a record

A cursor stands at the unread part of one record and moves forward only. Reading is a step that
gives a field and a cursor, or a defect and the cursor at which it showed.

* `unread_of_fieldUntil`: a field, the delimiter after it and the new unread text are the old
  unread text.
* `fieldUntil_missing`: a field that is missing leaves the cursor where it was.
-/

namespace DebugLink.Record

open Text

/-- The literal that stands for the address of a breakpoint without a location. -/
def pendingAddress : String := "<PENDING>"

/-- The name of a function without symbols. -/
def unknownFunction : String := "??"

/-- A place in a record, together with what holds of the whole record. -/
structure Cursor where
  record : String
  tag : Tag
  /-- The character between two fields. -/
  delimiter : Char
  /-- What follows the cursor. -/
  unread : List Char
  deriving DecidableEq, Repr

/-- A step of reading: it gives a value or a defect, and moves the cursor. -/
abbrev Reading := EStateM Defect Cursor

namespace Cursor

/-- The cursor after the tag and the delimiter. A comma in the third place delimits the fields; with
anything else there they are delimited by semicolons. -/
def start (record : String) : Except Defect Cursor := do
  let tag ← Tag.read record
  match record.toList with
  | _ :: _ :: c :: body =>
    if c.utf8Size = 1 then .ok ⟨record, tag, if c = ',' then ',' else ';', body⟩
    else .error (.badTag record)
  | _ => .ok ⟨record, tag, ';', []⟩

/-- Whether anything follows the cursor. -/
def hasMore (c : Cursor) : Bool := !c.unread.isEmpty

/-- Whether a delimiter follows the cursor. -/
def hasDelimiter (c : Cursor) : Bool := c.unread.contains c.delimiter

/-- The number of delimiters in the whole record. -/
def delimiterCount (c : Cursor) : Nat := c.record.toList.count c.delimiter

/-- The defect of a record with a number of fields that none of its forms has. -/
def shapeDefect (c : Cursor) : Defect := .shape c.record c.delimiterCount

end Cursor

namespace Reading

/-- The field up to the next `stop`, whatever the delimiter of the record. -/
def fieldUntil (stop : Char) (name : String) : Reading String := fun c =>
  match cutWhere? (· == stop) c.unread with
  | some cut => .ok (String.ofList cut.1) { c with unread := cut.2 }
  | none => .error (.missing c.record name) c

/-- The field up to the next delimiter. -/
def field (name : String) : Reading String := fun c => fieldUntil c.delimiter name c

/-- All that follows the cursor, unless it is nothing. -/
def rest? : Reading (Option String) := fun c =>
  if c.hasMore then .ok (some (String.ofList c.unread)) { c with unread := [] }
  else .ok none c

/-- All that follows the cursor. -/
def rest (name : String) : Reading String := fun c =>
  if c.hasMore then .ok (String.ofList c.unread) { c with unread := [] }
  else .error (.missing c.record name) c

/-- The field up to the next delimiter, or all that follows when it is the last one. -/
def fieldOrRest (name : String) : Reading String := fun c =>
  if c.hasDelimiter then field name c else rest name c

/-- The number of 32 bits written in `raw`. -/
def number (raw name : String) : Reading Nat := fun c =>
  match readTrimmed32 raw.toList with
  | some n => .ok n c
  | none => .error (.notNumeric c.record name raw) c

/-- The number written in `raw` in hexadecimal digits, with or without a leading `0x`. -/
def readAddress (raw : String) : Option Nat :=
  let text := trim raw.toList
  let digits := (after? ['0', 'x'] text).getD ((after? ['0', 'X'] text).getD text)
  readWord 16 limit64 digits

/-- The address of 64 bits written in `raw`. -/
def address (raw name : String) : Reading Nat := fun c =>
  match readAddress raw with
  | some n => .ok n c
  | none => .error (.notNumeric c.record name raw) c

/-- The number up to the next delimiter. -/
def numberField (name : String) : Reading Nat := do number (← field name) name

/-- The number in all that follows. -/
def numberRest (name : String) : Reading Nat := do number (← rest name) name

/-- Reads a whole record. -/
def run {α : Type} (reading : Reading α) (record : String) : Except Defect α := do
  match EStateM.run reading (← Cursor.start record) with
  | .ok value _ => .ok value
  | .error defect _ => .error defect

theorem unread_of_fieldUntil {stop : Char} {name : String} {c d : Cursor} {value : String}
    (h : fieldUntil stop name c = .ok value d) :
    c.unread = value.toList ++ stop :: d.unread ∧ stop ∉ value.toList := by
  have cut_spec : ∀ {s a b : List Char}, cutWhere? (· == stop) s = some (a, b) →
      s = a ++ stop :: b ∧ stop ∉ a := by
    intro s
    induction s with
    | nil => simp [cutWhere?]
    | cons x s ih =>
      intro a b h
      simp only [cutWhere?] at h
      split at h
      · simp_all
      · rename_i hx
        obtain ⟨cut, hc, he⟩ := Option.map_eq_some_iff.1 h
        simp only [Prod.mk.injEq] at he
        obtain ⟨rfl, rfl⟩ := he
        obtain ⟨hs, hstop⟩ := ih hc
        have hne : stop ≠ x := fun e => hx (by simp [e])
        exact ⟨by rw [hs, List.cons_append], by simp [hne, hstop]⟩
  simp only [fieldUntil] at h
  split at h
  · rename_i cut hcut
    simp only [EStateM.Result.ok.injEq] at h
    obtain ⟨rfl, rfl⟩ := h
    simpa using cut_spec hcut
  · simp at h

theorem fieldUntil_missing {stop : Char} {name : String} {c d : Cursor} {defect : Defect}
    (h : fieldUntil stop name c = .error defect d) :
    d = c ∧ defect = .missing c.record name := by
  simp only [fieldUntil] at h
  split at h
  · simp at h
  · simp only [EStateM.Result.error.injEq] at h
    exact ⟨h.2.symm, h.1.symm⟩

end Reading

end DebugLink.Record
