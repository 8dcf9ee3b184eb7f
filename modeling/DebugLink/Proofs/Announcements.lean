import DebugLink.Proofs.FieldText
import DebugLink.Proofs.NewsRecords

/-!
# What gdb announces

What gdb announces is a few data: a place, a frame, a breakpoint, the cause of a stop. It writes
them as named fields, among others, and the names lead back to them. A record of a frame or of a
breakpoint holds all that the positional format has room for.

* `Announcement`: what gdb announces, and its fields. `Announced`: a line with them.
* `Frame.stop`, `Frame.stepEnd`, `Bkpt.snapshot`: what is to be understood.
* `shown_place`: the source of a place in a text that shows its fields.
* `Frame.interrupt_laid`, `Frame.step_laid`, `Bkpt.snapshot_located`: the records are read as this.
-/

namespace DebugLink.Mi

open Text Record

/-! ## Strings for data -/

theorem lt_limit32 (n : UInt32) : n.toNat < limit32 := n.toNat_lt

theorem lt_limit64 (n : UInt64) : n.toNat < limit64 := n.toNat_lt

namespace Plain

/-- An address, with at least `width` digits. -/
def address (width : Nat) (a : UInt64) : Plain where
  text := "0x" ++ hexDigits width a.toNat
  plain := by
    refine List.all_eq_true.2 fun c mem => ?_
    rw [Reading.toList_address] at mem
    obtain rfl | mem := List.mem_cons.1 mem
    · decide
    obtain rfl | mem := List.mem_cons.1 mem
    · decide
    exact of_mem_paddedDigits (P := (isPlainChar · = true)) (by decide) (by decide)
      isPlainChar_digit c mem

/-- The code with which a program ended: at least `width` octal digits. -/
def octal (width : Nat) (code : UInt32) : Plain where
  text := String.ofList (paddedDigits 8 width code.toNat)
  plain := by
    rw [String.toList_ofList, List.all_eq_true]
    exact of_mem_paddedDigits (P := (isPlainChar · = true)) (by decide) (by decide)
      isPlainChar_digit

/-- Whether a breakpoint is enabled. -/
def flag (enabled : Bool) : Plain where
  text := Breakpoint.Notice.enabledText enabled
  plain := by cases enabled <;> decide

theorem whole (value : Plain) : Whole value.text := value.not_mem rfl

/-- A text that may be missing can be a field, if what stands for it can. -/
theorem whole_getD (value? : Option Plain) {other : String} (whole : Whole other) :
    Whole ((value?.map (·.text)).getD other) := by
  cases value? with
  | none => exact whole
  | some value => exact value.whole

end Plain

/-- A field with a string. -/
def field (name : Name) (value : Plain) : Name × Value := (name, .text value)

/-- A field that may be missing. -/
def optional (name : Name) (value? : Option Plain) : List (Name × Value) :=
  (value?.map (field name)).toList

@[simp]
theorem findField?_field (key : String) (name : Name) (value : Plain)
    (fields : List (Name × Value)) : findField? key (field name value :: fields) =
      if name.text = key then some (.text value) else findField? key fields := by
  simp [field, findField?, Value.find?]

@[simp]
theorem findField?_nil (key : String) : findField? key [] = none := rfl

@[simp]
theorem findField?_tuple (key : String) (name : Name) (inner fields : List (Name × Value)) :
    findField? key ((name, .tuple inner) :: fields) =
      if name.text = key then some (.tuple inner)
      else (findField? key inner).or (findField? key fields) := by
  rw [findField?, Value.find?]

@[simp]
theorem findField?_optional (key : String) (name : Name) (value? : Option Plain) :
    findField? key (optional name value?) =
      if name.text = key then value?.map .text else none := by
  cases value? with
  | none => simp [optional]
  | some value => simp [optional]

/-! ## Places, frames and breakpoints -/

/-- Where the source of a place in the program is, as far as gdb knows. -/
structure Place where
  file? : Option Plain := none
  fullPath? : Option Plain := none
  line? : Option UInt32 := none

namespace Place

/-- The file with its full path, or else with its name. -/
def path? (p : Place) : Option Plain := p.fullPath?.or p.file?

/-- The file and the line, if both are known. -/
def source? (p : Place) : Option (String × Nat) :=
  match p.path?, p.line? with
  | some path, some line => some (path.text, line.toNat)
  | _, _ => none

def fields (p : Place) : List (Name × Value) :=
  optional ⟨"file", rfl⟩ p.file? ++ optional ⟨"fullname", rfl⟩ p.fullPath? ++
    optional ⟨"line", rfl⟩ (p.line?.map .number)

theorem named (p : Place) : Named p.fields := by
  obtain ⟨file?, fullPath?, line?⟩ := p
  cases file? <;> cases fullPath? <;> cases line? <;> rfl

end Place

/-- The frame in which a thread stopped. -/
structure Frame where
  address : UInt64
  /-- The least number of digits of the address. -/
  width : Nat := 0
  function : Plain
  place : Place
  fields : List (Name × Value)
  carries : Carries fields ([field ⟨"addr", rfl⟩ (.address width address),
    field ⟨"func", rfl⟩ function] ++ place.fields)

namespace Frame

/-- The frame with no other fields. -/
def plain (address : UInt64) (width : Nat) (function : Plain) (place : Place) : Frame where
  address
  width
  function
  place
  fields := _
  carries := by
    have first : Named [field ⟨"addr", rfl⟩ (.address width address),
        field ⟨"func", rfl⟩ function] := rfl
    exact (first.append place.named).carries

/-- Where the target stopped. There is no code for a frame without source, or without a name. -/
def stop (f : Frame) (thread : UInt32) : Execution.Stop :=
  let (file, line) := f.place.source?.getD ("", 0)
  { address := f.address.toNat, function := f.function.text, file, line, thread := thread.toNat,
    unknownCode := f.place.source?.isNone || f.function.text == unknownFunction }

/-- Where a step ended. There is no code for a frame without source. -/
def stepEnd (f : Frame) (thread : UInt32) : Execution.StepEnd :=
  let (file, line) := f.place.source?.getD ("", 1)
  { file, line, thread := thread.toNat, unknownCode := f.place.source?.isNone }

end Frame

/-- Where a breakpoint is, once its location is known. -/
structure Location where
  address : UInt64
  /-- The least number of digits of the address. -/
  width : Nat := 16
  function? : Option Plain := none
  place : Place
  times : UInt32

namespace Location

def fields (l : Location) : List (Name × Value) :=
  (field ⟨"addr", rfl⟩ (.address l.width l.address) :: optional ⟨"func", rfl⟩ l.function?) ++
    l.place.fields ++ [field ⟨"times", rfl⟩ (.number l.times)]

/-- What stands in place of the location of a pending breakpoint. -/
def missing (times? : Option UInt32) : List (Name × Value) :=
  field ⟨"addr", rfl⟩ ⟨"<PENDING>", by decide⟩ :: optional ⟨"times", rfl⟩ (times?.map .number)

/-- The fields of a place have names that a field may have. -/
theorem named (location? : Option Location) (times? : Option UInt32) :
    Named ((location?.map (·.fields)).getD (missing times?)) := by
  cases location? with
  | none => cases times? <;> rfl
  | some l =>
    obtain ⟨address, width, function?, place, times⟩ := l
    refine Named.append (Named.append ?_ place.named) rfl
    cases function? <;> rfl

end Location

/-- A breakpoint. -/
structure Bkpt where
  number : UInt32
  enabled : Bool
  /-- Unknown while the breakpoint is pending. -/
  location? : Option Location
  /-- A pending breakpoint was not hit, which is said or not. -/
  times? : Option UInt32 := none
  fields : List (Name × Value)
  carries : Carries fields ([field ⟨"number", rfl⟩ (.number number),
    field ⟨"enabled", rfl⟩ (.flag enabled)] ++
      (location?.map (·.fields)).getD (Location.missing times?))

namespace Bkpt

/-- The breakpoint with no other fields. -/
def plain (number : UInt32) (enabled : Bool) (location? : Option Location) : Bkpt where
  number
  enabled
  location?
  fields := _
  carries := by
    have first : Named [field ⟨"number", rfl⟩ (.number number),
        field ⟨"enabled", rfl⟩ (.flag enabled)] := rfl
    exact (first.append (Location.named location? none)).carries

/-- What is known of a breakpoint. -/
def snapshot (b : Bkpt) : Breakpoint.Snapshot :=
  match b.location? with
  | some l =>
    { id := b.number.toNat, enabled := b.enabled, address := .resolved l.address.toNat
      function := (l.function?.map (·.text)).getD unknownFunction
      file := (l.place.path?.map (·.text)).getD ""
      line := (l.place.line?.map (·.toNat)).getD 0, hits := l.times.toNat }
  | none =>
    { id := b.number.toNat, enabled := b.enabled, address := .pending,
      function := unknownFunction }

end Bkpt

/-! ## Announcements -/

/-- The reasons for a stop that have a meaning of their own. -/
def knownReasons : List String :=
  ["breakpoint-hit", "end-stepping-range", "function-finished", "exited-normally", "exited",
    "exited-signalled", "signal-received"]

/-- Why a thread stopped. -/
inductive Cause
  | breakpointHit (number : UInt32)
  | steppingEnded
  | functionFinished
  | signal (name meaning : Plain)
  | other (reason : Plain) (unknown : reason.text ∉ knownReasons)

/-- How the program ended. -/
inductive Ending
  | normally
  | exited (width : Nat) (code : UInt32)
  | signalled (name meaning : Plain)

/-- What gdb announces. -/
inductive Announcement
  /-- A thread runs, or all of them. -/
  | running (thread? : Option UInt32)
  | stopped (cause : Cause) (frame : Frame) (thread : UInt32)
  /-- A thread stopped for no reason that gdb gives. -/
  | halted (frame? : Option Frame) (thread : UInt32)
  | ended (ending : Ending)
  | created (bkpt : Bkpt)
  | modified (bkpt : Bkpt)
  | deleted (number : UInt32)
  | groupStarted (group : Plain) (pid : UInt32)
  | threadCreated (thread : UInt32)
  | threadExited (thread : UInt32)

namespace Cause

/-- The reason, as gdb names it. -/
def reason : Cause → Plain
  | breakpointHit _ => ⟨"breakpoint-hit", by decide⟩
  | steppingEnded => ⟨"end-stepping-range", by decide⟩
  | functionFinished => ⟨"function-finished", by decide⟩
  | signal _ _ => ⟨"signal-received", by decide⟩
  | other reason _ => reason

def details : Cause → List (Name × Value)
  | breakpointHit number => [field ⟨"bkptno", rfl⟩ (.number number)]
  | signal name meaning =>
    [field ⟨"signal-name", rfl⟩ name, field ⟨"signal-meaning", rfl⟩ meaning]
  | _ => []

end Cause

def Ending.fields : Ending → List (Name × Value)
  | normally => [field ⟨"reason", rfl⟩ ⟨"exited-normally", by decide⟩]
  | exited width code =>
    [field ⟨"reason", rfl⟩ ⟨"exited", by decide⟩, field ⟨"exit-code", rfl⟩ (.octal width code)]
  | signalled name meaning =>
    [field ⟨"reason", rfl⟩ ⟨"exited-signalled", by decide⟩, field ⟨"signal-name", rfl⟩ name,
      field ⟨"signal-meaning", rfl⟩ meaning]

namespace Announcement

/-- The first word of the line. -/
def kind : Announcement → String
  | running _ => "*running"
  | stopped .. | halted .. | ended _ => "*stopped"
  | created _ => "=breakpoint-created"
  | modified _ => "=breakpoint-modified"
  | deleted _ => "=breakpoint-deleted"
  | groupStarted .. => "=thread-group-started"
  | threadCreated _ => "=thread-created"
  | threadExited _ => "=thread-exited"

def fields : Announcement → List (Name × Value)
  | running thread? => [field ⟨"thread-id", rfl⟩ ((thread?.map .number).getD ⟨"all", by decide⟩)]
  | stopped cause frame thread =>
    field ⟨"reason", rfl⟩ cause.reason :: cause.details ++
      [(⟨"frame", rfl⟩, .tuple frame.fields), field ⟨"thread-id", rfl⟩ (.number thread)]
  | halted frame? thread =>
    (frame?.map fun frame => (⟨"frame", rfl⟩, Value.tuple frame.fields)).toList ++
      [field ⟨"thread-id", rfl⟩ (.number thread)]
  | ended ending => ending.fields
  | created b | modified b => [(⟨"bkpt", rfl⟩, .tuple b.fields)]
  | groupStarted group pid => [field ⟨"id", rfl⟩ group, field ⟨"pid", rfl⟩ (.number pid)]
  | deleted number | threadCreated number | threadExited number =>
    [field ⟨"id", rfl⟩ (.number number)]

/-- No announcement is without fields. -/
theorem fields_ne_nil (n : Announcement) : n.fields ≠ [] := by
  cases n with
  | halted frame? thread => cases frame? <;> exact List.cons_ne_nil _ _
  | ended ending => cases ending <;> exact List.cons_ne_nil _ _
  | _ => exact List.cons_ne_nil _ _

/-- So do the fields of every announcement. -/
theorem named (n : Announcement) : Named n.fields := by
  cases n with
  | stopped cause frame thread => cases cause <;> rfl
  | halted frame? thread => cases frame? <;> rfl
  | ended ending => cases ending <;> rfl
  | _ => rfl

end Announcement

/-- An announcement with all that stands in its line. -/
structure Announced where
  announcement : Announcement
  fields : List (Name × Value)
  carries : Carries fields announcement.fields

/-- The announcement with no other fields. -/
def Announcement.plain (n : Announcement) : Announced := ⟨n, _, n.named.carries⟩

/-- The line as gdb writes it. -/
def Announced.line (n : Announced) : String :=
  String.ofList (n.announcement.kind.toList ++ writtenFields n.fields)

/-! ## The source of a place -/

/-- Nothing among the fields is taken for the source of a place. -/
def Sourceless (fields : List (Name × Value)) : Prop :=
  ∀ key ∈ ["file", "fullname", "line"], findField? key fields = none

section Source

variable {before after : List (Name × Value)} (place : Place) {s : List Char}

/-- What a text shows of a place. -/
theorem shown_place (hb : Sourceless before) (ha : Sourceless after)
    (shows : Shows (before ++ place.fields ++ after) s) :
    (string? "fullname" s).or (string? "file" s) = place.path?.map (·.text) ∧
      numberField? "line" s = place.line?.map (·.toNat) := by
  have file : string? "file" s = place.file?.map (·.text) :=
    shows.string?_eq (by decide) _ (by
      simp [findField?_append, Place.fields, hb "file" (by decide), ha "file" (by decide)])
  have fullPath : string? "fullname" s = place.fullPath?.map (·.text) :=
    shows.string?_eq (by decide) _ (by
      simp [findField?_append, Place.fields, hb "fullname" (by decide), ha "fullname" (by decide)])
  have line : numberField? "line" s = place.line?.map (·.toNat) :=
    shows.numberField?_eq (by decide) _ (by
      simp [findField?_append, Place.fields, hb "line" (by decide), ha "line" (by decide)])
  refine ⟨?_, line⟩
  rw [file, fullPath, Place.path?]
  cases place.fullPath? <;> rfl

/-- The source of a place is a text that can be a field, and a number. -/
theorem source_bounds {source : String × Nat} (known : place.source? = some source) :
    Whole source.1 ∧ source.2 < limit32 := by
  unfold Place.source? at known
  split at known
  · rename_i path line _ _
    cases known
    exact ⟨path.whole, lt_limit32 line⟩
  · cases known

end Source

/-! ## Frames -/

namespace Frame

variable {f : Frame} {s : List Char} (shows : Shows f.fields s)

include shows

/-- **A frame's place is read back**: a path and a line, or neither. -/
theorem source?_eq : Mi.source? s = f.place.source? := by
  have before : Sourceless [field ⟨"addr", rfl⟩ (.address f.width f.address),
      field ⟨"func", rfl⟩ f.function] := by
    simp [Sourceless]
  have after : Sourceless [] := fun _ _ => rfl
  obtain ⟨path, line⟩ := shown_place f.place before after (by simpa using shows.carried f.carries)
  rw [Mi.source?, path, line, Place.source?]
  cases f.place.path? <;> cases f.place.line? <;> rfl

theorem function_eq : rawString? "func" s = some f.function.text :=
  (shows.carried f.carries).rawString?_eq (by decide) (some f.function) (by simp)

theorem address_eq : rawString? "addr" s = some ("0x" ++ hexDigits f.width f.address.toNat) :=
  (shows.carried f.carries).rawString?_eq (by decide) (some (.address f.width f.address))
    (by simp)

variable (tag : String) {c k : Char} (digits : tag.toList = [c, k])

include digits

/-- **The record of an interrupt** holds where the target stopped. -/
theorem interrupt_laid (hc : c.isDigit = true) (hk : k.isDigit = true) (thread : UInt32) :
    let record := interruptRecord tag s thread.toNat
    ∃ fields, Laid record c k fields ∧ ∀ t : Tag,
      Execution.Notice.stop ⟨record, t, ';', joined fields⟩ =
        .ok (f.stop thread) ⟨record, t, ';', []⟩ := by
  intro record
  let address := "0x" ++ hexDigits f.width f.address.toNat
  have whole : Whole address := whole_address f.width f.address.toNat
  have name := f.function.whole
  have number := whole_toString
  -- a frame without a source has fewer fields, and the reader counts delimiters
  cases known : f.place.source? with
  | none =>
    have written : record = composed tag [address, f.function.text, toString thread.toNat] := by
      simp only [record, interruptRecord, address_eq shows, function_eq shows, source?_eq shows,
        known, Option.getD_some]
      rfl
    have laid := laid_composed written digits
    have three := count_of_laid laid hc hk
      (by simp only [List.forall_mem_cons]; exact ⟨whole, name, number _, nofun⟩)
    refine ⟨_, laid, fun t => ?_⟩
    rw [Frame.stop, known]
    exact Execution.Notice.stop_unknown (lt_limit64 _) name (lt_limit32 _) three
  | some source =>
    obtain ⟨file, line⟩ := source
    obtain ⟨hs, hl⟩ := source_bounds f.place known
    have written : record = composed tag
        [address, f.function.text, file, toString line, toString thread.toNat] := by
      simp only [record, interruptRecord, address_eq shows, function_eq shows, source?_eq shows,
        known, Option.getD_some]
      rfl
    have laid := laid_composed written digits
    have five := count_of_laid laid hc hk
      (by simp only [List.forall_mem_cons]
          exact ⟨whole, name, hs, number _, number _, nofun⟩)
    refine ⟨_, laid, fun t => ?_⟩
    rw [Frame.stop, known]
    exact Execution.Notice.stop_known (lt_limit64 _) name hs hl (lt_limit32 _) five

/-- **The record of the end of a step** holds where it ended. -/
theorem step_laid (thread : UInt32) :
    let record := stepRecord tag s thread.toNat
    ∃ fields, Laid record c k fields ∧ ∀ t : Tag,
      Execution.Notice.stepEnd ⟨record, t, ';', joined fields⟩ =
        .ok (f.stepEnd thread) ⟨record, t, ';', []⟩ := by
  intro record
  cases known : f.place.source? with
  | none =>
    have written : record = composed tag [toString thread.toNat] := by
      simp only [record, stepRecord, source?_eq shows, known]
      rfl
    refine ⟨_, laid_composed written digits, fun t => ?_⟩
    rw [Frame.stepEnd, known]
    exact Execution.Notice.stepEnd_unknown (lt_limit32 _)
  | some source =>
    obtain ⟨file, line⟩ := source
    obtain ⟨hs, hl⟩ := source_bounds f.place known
    have written : record = composed tag [file, toString line, toString thread.toNat] := by
      simp only [record, stepRecord, source?_eq shows, known]
      rfl
    refine ⟨_, laid_composed written digits, fun t => ?_⟩
    rw [Frame.stepEnd, known]
    exact Execution.Notice.stepEnd_known hs hl (lt_limit32 _)

end Frame

/-! ## Breakpoints -/

namespace Bkpt

variable {b : Bkpt} {s : List Char} (shows : Shows b.fields s)

include shows

theorem number_eq : rawString? "number" s = some (toString b.number.toNat) :=
  (shows.carried b.carries).rawString?_eq (by decide) (some (.number b.number)) (by simp)

theorem enabled_eq :
    rawString? "enabled" s = some (Breakpoint.Notice.enabledText b.enabled) :=
  (shows.carried b.carries).rawString?_eq (by decide) (some (.flag b.enabled)) (by simp)

section Located

variable {l : Location} (located : b.location? = some l)

include located

theorem address_eq :
    rawField? "addr" s = some ("0x" ++ hexDigits l.width l.address.toNat).toList :=
  (shows.carried b.carries).rawField?_eq (by decide) (some (.address l.width l.address))
    (by simp [located, Location.fields])

theorem not_pending : isPendingBreakpoint s = false := by
  rw [isPendingBreakpoint, address_eq shows located, Reading.toList_address]
  rfl

/-- The record of a breakpoint with a location. -/
theorem breakpointRecord_located (tag : String) :
    breakpointRecord tag s = composed tag [toString b.number.toNat,
      Breakpoint.Notice.enabledText b.enabled, "0x" ++ hexDigits l.width l.address.toNat,
      (l.function?.map (·.text)).getD unknownFunction, (l.place.path?.map (·.text)).getD "",
      toString ((l.place.line?.map (·.toNat)).getD 0), toString l.times.toNat] := by
  have address : rawString? "addr" s = some ("0x" ++ hexDigits l.width l.address.toNat) := by
    rw [rawString?, address_eq shows located, Option.map_some, String.ofList_toList]
  have shown := shows.carried b.carries
  rw [located, Option.map_some, Option.getD_some, Location.fields] at shown
  have function : rawString? "func" s = l.function?.map (·.text) :=
    shown.rawString?_eq (by decide) _ (by simp [findField?_append, Place.fields])
  have times : numberField? "times" s = some l.times.toNat :=
    shown.numberField?_eq (by decide) (some l.times)
      (by simp [findField?_append, Place.fields])
  -- no field in front of the place is taken for a part of it
  have before : Sourceless (field ⟨"number", rfl⟩ (.number b.number) ::
      field ⟨"enabled", rfl⟩ (.flag b.enabled) ::
      field ⟨"addr", rfl⟩ (.address l.width l.address) ::
      optional ⟨"func", rfl⟩ l.function?) := by
    simp [Sourceless]
  have after : Sourceless [field ⟨"times", rfl⟩ (.number l.times)] := by
    simp [Sourceless]
  obtain ⟨path, line⟩ := shown_place l.place before after (by simpa using shown)
  simp only [breakpointRecord, not_pending shows located, number_eq shows, enabled_eq shows,
    address, function, path, line, times, Option.getD_some, Bool.false_eq_true, if_false]
  rfl

/-- **The record of a breakpoint** with a location is read as what is known of it. -/
theorem snapshot_located (tag : String) {c k : Char} (digits : tag.toList = [c, k])
    (mayBePending : Bool) (t : Tag) :
    ∃ fields, Laid (breakpointRecord tag s) c k fields ∧
      Breakpoint.Notice.snapshot mayBePending ⟨breakpointRecord tag s, t, ';', joined fields⟩ =
        .ok b.snapshot ⟨breakpointRecord tag s, t, ';', []⟩ := by
  have written := breakpointRecord_located shows located tag
  have line : (l.place.line?.map (·.toNat)).getD 0 < limit32 := by
    cases l.place.line? with
    | none => decide
    | some line => exact lt_limit32 line
  refine ⟨_, laid_composed written digits, ?_⟩
  rw [Bkpt.snapshot, located]
  exact Breakpoint.Notice.snapshot_resolved mayBePending b.enabled (lt_limit32 _) (lt_limit64 _)
    (Plain.whole_getD _ (by decide)) (Plain.whole_getD _ (by decide))
    line (lt_limit32 _)

end Located

section Pending

variable (pending : b.location? = none)

include pending

/-- A breakpoint without a place is announced as pending. -/
theorem is_pending : isPendingBreakpoint s = true := by
  have address : rawField? "addr" s = some "<PENDING>".toList :=
    (shows.carried b.carries).rawField?_eq (by decide)
      (some ⟨"<PENDING>", by decide⟩) (by simp [pending, Location.missing])
  rw [isPendingBreakpoint, address]
  rfl

/-- The record of a breakpoint without a location. -/
theorem breakpointRecord_pending (tag : String) :
    breakpointRecord tag s = composed tag
      [toString b.number.toNat, Breakpoint.Notice.enabledText b.enabled, pendingAddress] := by
  simp only [breakpointRecord, is_pending shows pending, number_eq shows, enabled_eq shows,
    Option.getD_some, if_true]
  rfl

end Pending

end Bkpt

end DebugLink.Mi
