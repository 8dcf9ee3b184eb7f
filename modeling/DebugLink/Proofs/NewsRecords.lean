import DebugLink.Breakpoint.Notice
import DebugLink.Execution.Notice
import DebugLink.Proofs.Written

/-!
# Records of news, read back

News of breakpoints and of the execution come in records of many shapes. What is read of each is
what was put into it, field by field: an interrupt is told by the number of its fields, the end of a
step by whether there is a second one.

* `Laid`: a record is a tag and fields with semicolons between them.
* `laid_composed`: records are laid so as they are put together.
* `count_of_laid`: the delimiters are counted by the fields.
* `Execution.Notice.stop_known`, `Execution.Notice.stop_unknown`: where the target stopped.
* `Breakpoint.Notice.snapshot_resolved`, `Breakpoint.Notice.snapshot_pending`: what is said of a
  breakpoint.
-/

namespace DebugLink

open Text Record Reading

namespace Record

/-- Fields with a semicolon between each two. -/
def joined : List String → List Char
  | [] => []
  | [field] => field.toList
  | field :: next :: fields => field.toList ++ ';' :: joined (next :: fields)

/-- The record is this tag with these fields. -/
def Laid (record : String) (c k : Char) (fields : List String) : Prop :=
  record.toList = c :: k :: ';' :: joined fields

/-- A tag with fields behind it. -/
def composed (tag : String) (fields : List String) : String :=
  fields.foldl (fun record field => record ++ ";" ++ field) tag

/-- A record is laid as it is put together, whatever its fields hold. -/
theorem laid_composed {record tag : String} {c k : Char} {field : String} {fields : List String}
    (written : record = composed tag (field :: fields)) (digits : tag.toList = [c, k]) :
    Laid record c k (field :: fields) := by
  have append : ∀ (fields : List String) (field lead : String),
      (composed lead (field :: fields)).toList =
        lead.toList ++ ';' :: joined (field :: fields) := by
    intro fields
    induction fields with
    | nil =>
      intro field lead
      simp [composed, joined]
    | cons next fields ih =>
      intro field lead
      have rest := ih next (lead ++ ";" ++ field)
      rw [composed, List.foldl_cons, joined]
      exact rest.trans (by simp)
  rw [Laid, written, append fields field tag, digits]
  rfl

/-- A text that can be a field: it holds no delimiter. -/
def Whole (field : String) : Prop := ';' ∉ field.toList

instance (field : String) : Decidable (Whole field) :=
  inferInstanceAs (Decidable (';' ∉ field.toList))

theorem whole_toString (n : Nat) : Whole (toString n) := not_mem_toString rfl n

/-- A written address has no semicolon. -/
theorem whole_address (width n : Nat) : Whole ("0x" ++ hexDigits width n) := by
  unfold Whole
  rw [toList_address]
  simp only [List.mem_cons, not_or]
  exact ⟨by decide, by decide, fun mem =>
    of_mem_paddedDigits (P := (· ≠ ';')) (by decide) (by decide) (by decide) ';' mem rfl⟩

/-- Between fields there is one semicolon less than fields. -/
theorem count_joined {field : String} {fields : List String}
    (whole : ∀ f ∈ field :: fields, Whole f) :
    (joined (field :: fields)).count ';' = fields.length := by
  induction fields generalizing field with
  | nil => exact List.count_eq_zero_of_not_mem (whole field List.mem_cons_self)
  | cons next fields ih =>
    have first := List.count_eq_zero_of_not_mem (whole field List.mem_cons_self)
    have rest := ih fun f mem => whole f (List.mem_cons_of_mem field mem)
    rw [joined, List.count_append, first, List.count_cons_self, rest, Nat.zero_add,
      List.length_cons]

/-- **The delimiters are counted by the fields.** -/
theorem count_of_laid {record : String} {c k : Char} {field : String} {fields : List String}
    (laid : Laid record c k (field :: fields)) (hc : c.isDigit = true) (hk : k.isDigit = true)
    (whole : ∀ f ∈ field :: fields, Whole f) :
    record.toList.count ';' = (field :: fields).length := by
  have digit : ∀ d : Char, d.isDigit = true → d ≠ ';' := by
    rintro d h rfl
    exact absurd h (by decide)
  rw [laid, List.count_cons_of_ne (digit c hc), List.count_cons_of_ne (digit k hk),
    List.count_cons_self, count_joined whole, List.length_cons]

namespace Reading

variable {record : String} {tag : Tag} {next : String} {fields : List String} {n : Nat}

theorem field_joined {value : String} (whole : Whole value) (name : String) :
    field name ⟨record, tag, ';', joined (value :: next :: fields)⟩ =
      .ok value ⟨record, tag, ';', joined (next :: fields)⟩ := by
  rw [joined, field_written whole, String.ofList_toList]

theorem numberField_joined (small : n < limit32) (name : String) :
    numberField name ⟨record, tag, ';', joined (toString n :: next :: fields)⟩ =
      .ok n ⟨record, tag, ';', joined (next :: fields)⟩ := by
  rw [joined, numberField_written small]

theorem numberRest_joined (small : n < limit32) (name : String) :
    numberRest name ⟨record, tag, ';', joined [toString n]⟩ = .ok n ⟨record, tag, ';', []⟩ :=
  numberRest_written small name

theorem hasDelimiter_joined {value : String} :
    (⟨record, tag, ';', joined (value :: next :: fields)⟩ : Cursor).hasDelimiter = true := by
  rw [Cursor.hasDelimiter, joined]
  exact List.contains_iff_mem.2 (List.mem_append_right _ List.mem_cons_self)

theorem hasDelimiter_last {value : String} (whole : Whole value) :
    (⟨record, tag, ';', joined [value]⟩ : Cursor).hasDelimiter = false := by
  rw [Cursor.hasDelimiter, joined, List.contains_eq_mem]
  exact decide_eq_false whole

/-- A field is read up to its delimiter also where it could be the last one. -/
theorem fieldOrRest_joined {value : String} (whole : Whole value) (name : String) :
    fieldOrRest name ⟨record, tag, ';', joined (value :: next :: fields)⟩ =
      .ok value ⟨record, tag, ';', joined (next :: fields)⟩ := by
  unfold fieldOrRest
  rw [if_pos hasDelimiter_joined, field_joined whole]

/-- The last field is read to the end. -/
theorem fieldOrRest_last {value : String} (whole : Whole value) (given : value.toList ≠ [])
    (name : String) : fieldOrRest name ⟨record, tag, ';', joined [value]⟩ =
      .ok value ⟨record, tag, ';', []⟩ := by
  unfold fieldOrRest
  rw [hasDelimiter_last whole, if_neg Bool.false_ne_true, joined]
  unfold rest Cursor.hasMore
  rw [if_pos (by simpa using given), String.ofList_toList]

end Reading

end Record

namespace Execution.Notice

variable {record : String} {tag : Tag} {address width line thread : Nat} {function file : String}

/-- **An interrupt at a place with source** has five fields. -/
theorem stop_known (fits : address < limit64) (hf : Whole function) (hs : Whole file)
    (hl : line < limit32) (ht : thread < limit32) (five : record.toList.count ';' = 5) :
    stop ⟨record, tag, ';', joined
        ["0x" ++ hexDigits width address, function, file, toString line, toString thread]⟩ =
      .ok { address, function, file, line, thread, unknownCode := function == unknownFunction }
        ⟨record, tag, ';', []⟩ := by
  unfold stop
  refine (bind_read rfl).trans ?_
  refine (bind_read (field_joined (whole_address width address) "address")).trans ?_
  refine (bind_read (address_written fits "address" _)).trans ?_
  refine (bind_read (field_joined hf "function")).trans ?_
  simp only [Cursor.delimiterCount, five]
  refine (bind_read (field_joined hs "file")).trans ?_
  refine (bind_read (numberField_joined hl "line")).trans ?_
  exact bind_read (numberRest_joined ht "thread")

/-- **An interrupt at a place without source** has three fields. -/
theorem stop_unknown (fits : address < limit64) (hf : Whole function) (ht : thread < limit32)
    (three : record.toList.count ';' = 3) :
    stop ⟨record, tag, ';', joined
        ["0x" ++ hexDigits width address, function, toString thread]⟩ =
      .ok { address, function, thread, unknownCode := true } ⟨record, tag, ';', []⟩ := by
  unfold stop
  refine (bind_read rfl).trans ?_
  refine (bind_read (field_joined (whole_address width address) "address")).trans ?_
  refine (bind_read (address_written fits "address" _)).trans ?_
  refine (bind_read (field_joined hf "function")).trans ?_
  simp only [Cursor.delimiterCount, three]
  exact bind_read (numberRest_joined ht "thread")

/-- **The end of a step at a place with source.** -/
theorem stepEnd_known (hs : Whole file) (hl : line < limit32) (ht : thread < limit32) :
    stepEnd ⟨record, tag, ';', joined [file, toString line, toString thread]⟩ =
      .ok ⟨file, line, thread, false⟩ ⟨record, tag, ';', []⟩ := by
  unfold stepEnd
  refine (bind_read rfl).trans ?_
  rw [if_pos hasDelimiter_joined]
  refine (bind_read (field_joined hs "file")).trans ?_
  refine (bind_read (numberField_joined hl "line")).trans ?_
  exact bind_read (numberRest_joined ht "thread")

/-- **The end of a step at a place without source** has only a thread. -/
theorem stepEnd_unknown (ht : thread < limit32) :
    stepEnd ⟨record, tag, ';', joined [toString thread]⟩ =
      .ok ⟨"", 1, thread, true⟩ ⟨record, tag, ';', []⟩ := by
  unfold stepEnd
  refine (bind_read rfl).trans ?_
  rw [hasDelimiter_last (whole_toString thread), if_neg Bool.false_ne_true]
  exact bind_read (numberRest_joined ht "thread")

/-- A record is read as its fields are. -/
theorem read_laid {c k : Char} (category kind : Nat) {fields : List String} {n : Notice}
    (laid : Laid record c k fields) (hc : digit? 10 c = some category)
    (hk : digit? 10 k = some kind)
    (reads : reading ⟨record, ⟨category, kind⟩, ';', joined fields⟩ =
      .ok n ⟨record, ⟨category, kind⟩, ';', []⟩) : read record = .ok n :=
  run_written (start_written laid hc hk) reads

/-- The record of a new thread is read back, with its process. -/
theorem read_threadCreated {pid : Nat} (ht : thread < limit32) (hp : pid < limit32)
    (laid : Laid record '4' '0' [toString thread, toString pid]) :
    read record = .ok (.threadCreated thread pid) := by
  have last : numberRest? ⟨record, ⟨4, 0⟩, ';', joined [toString pid]⟩ =
      .ok (some pid) ⟨record, ⟨4, 0⟩, ';', []⟩ := by
    have all : Reading.rest? ⟨record, ⟨4, 0⟩, ';', (toString pid).toList⟩ =
        .ok (some (toString pid)) ⟨record, ⟨4, 0⟩, ';', []⟩ := by
      rw [rest?_of_more (toString_ne_nil pid), String.ofList_toList]
    refine (bind_read all).trans ?_
    rw [Option.bind_some, readTrimmed32_toString hp]
    rfl
  refine read_laid 4 0 laid rfl rfl ?_
  refine (bind_read rfl).trans ?_
  refine (bind_read (fieldOrRest_joined (whole_toString thread) "thread")).trans ?_
  refine (bind_read (number_written ht "thread" _)).trans ?_
  exact bind_read last

theorem read_running (ht : thread < limit32) (laid : Laid record '4' '1' [toString thread]) :
    read record = .ok (.running thread) :=
  read_laid 4 1 laid rfl rfl ((bind_read rfl).trans (bind_read (numberRest_joined ht "thread")))

theorem read_execInterrupted (ht : thread < limit32)
    (laid : Laid record '4' '7' [toString thread]) : read record = .ok (.execInterrupted thread) :=
  read_laid 4 7 laid rfl rfl ((bind_read rfl).trans (bind_read (numberRest_joined ht "thread")))

theorem read_threadExited (ht : thread < limit32) (laid : Laid record '5' '1' [toString thread]) :
    read record = .ok (.threadExited thread) :=
  read_laid 5 1 laid rfl rfl ((bind_read rfl).trans (bind_read (numberRest_joined ht "thread")))

/-- So is the exit code, with its empty last field. -/
theorem read_exitCode {code : Nat} (fits : code < limit32)
    (laid : Laid record '4' '3' [toString code, ""]) : read record = .ok (.exited code) := by
  refine read_laid 4 3 laid rfl rfl ?_
  refine (bind_read rfl).trans ?_
  refine (bind_read (fieldOrRest_joined (whole_toString code) "exit code")).trans ?_
  exact bind_read (number_written fits "exit code" _)

/-- A signal that ended the program names no thread. -/
theorem read_signaled {name meaning : String} (hn : Whole name) (hm : Whole meaning)
    (laid : Laid record '5' '5' [name, meaning, ""]) :
    read record = .ok (.signaled name meaning none) := by
  refine read_laid 5 5 laid rfl rfl ?_
  refine (bind_read rfl).trans ?_
  refine (bind_read (field_joined hn "signal name")).trans ?_
  exact bind_read (fieldOrRest_joined hm "signal meaning")

section Stops

variable {fields : List String} {s : Stop} {e : StepEnd}

theorem read_interrupted (laid : Laid record '4' '4' fields)
    (reads : stop ⟨record, ⟨4, 4⟩, ';', joined fields⟩ =
      .ok s ⟨record, ⟨4, 4⟩, ';', []⟩) :
    read record = .ok (.interrupted s) :=
  read_laid 4 4 laid rfl rfl ((bind_read rfl).trans (bind_read reads))

theorem read_segfault (laid : Laid record '5' '4' fields)
    (reads : stop ⟨record, ⟨5, 4⟩, ';', joined fields⟩ =
      .ok s ⟨record, ⟨5, 4⟩, ';', []⟩) :
    read record = .ok (.segfault s) :=
  read_laid 5 4 laid rfl rfl ((bind_read rfl).trans (bind_read reads))

theorem read_steppingEnded (laid : Laid record '4' '5' fields)
    (reads : stepEnd ⟨record, ⟨4, 5⟩, ';', joined fields⟩ =
      .ok e ⟨record, ⟨4, 5⟩, ';', []⟩) :
    read record = .ok (.steppingEnded e) :=
  read_laid 4 5 laid rfl rfl ((bind_read rfl).trans (bind_read reads))

theorem read_functionFinished (laid : Laid record '4' '6' fields)
    (reads : stepEnd ⟨record, ⟨4, 6⟩, ';', joined fields⟩ =
      .ok e ⟨record, ⟨4, 6⟩, ';', []⟩) :
    read record = .ok (.functionFinished e) :=
  read_laid 4 6 laid rfl rfl ((bind_read rfl).trans (bind_read reads))

end Stops

end Execution.Notice

namespace Breakpoint.Notice

variable {record : String} {tag : Tag} {id address width line hits : Nat} {function file : String}

/-- How it is written whether a breakpoint is enabled. -/
def enabledText (enabled : Bool) : String := if enabled then "y" else "n"

theorem whole_enabledText (enabled : Bool) : Whole (enabledText enabled) := by
  cases enabled <;> decide

theorem enabledText_eq (enabled : Bool) : (enabledText enabled == "y") = enabled := by
  cases enabled <;> rfl

/-- **A breakpoint with a location** has all of its fields. -/
theorem snapshot_resolved (mayBePending enabled : Bool) (hi : id < limit32)
    (fits : address < limit64) (hf : Whole function) (hs : Whole file) (hl : line < limit32)
    (hh : hits < limit32) :
    snapshot mayBePending ⟨record, tag, ';', joined [toString id, enabledText enabled,
        "0x" ++ hexDigits width address, function, file, toString line, toString hits]⟩ =
      .ok { id, enabled, address := .resolved address, function, file, line, hits }
        ⟨record, tag, ';', []⟩ := by
  have other : ("0x" ++ hexDigits width address == pendingAddress) = false := by
    refine beq_false_of_ne fun same => ?_
    have digits := congrArg String.toList same
    rw [toList_address] at digits
    exact absurd (List.cons.inj digits).1 (by decide)
  unfold snapshot
  refine (bind_read (numberField_joined hi "id")).trans ?_
  refine (bind_read (field_joined (whole_enabledText enabled) "enabled")).trans ?_
  refine (bind_read (fieldOrRest_joined (whole_address width address) "address")).trans ?_
  simp only [other, Bool.and_false, Bool.false_eq_true, if_false, enabledText_eq]
  refine (bind_read (address_written fits "address" _)).trans ?_
  refine (bind_read (field_joined hf "function")).trans ?_
  refine (bind_read (field_joined hs "file")).trans ?_
  refine (bind_read (numberField_joined hl "line")).trans ?_
  exact bind_read (numberRest_joined hh "hits")

/-- **A breakpoint without a location** ends with the literal that stands for its address. -/
theorem snapshot_pending (enabled : Bool) (hi : id < limit32) :
    snapshot true ⟨record, tag, ';', joined [toString id, enabledText enabled, pendingAddress]⟩ =
      .ok { id, enabled, address := .pending, function := unknownFunction }
        ⟨record, tag, ';', []⟩ := by
  unfold snapshot
  refine (bind_read (numberField_joined hi "id")).trans ?_
  refine (bind_read (field_joined (whole_enabledText enabled) "enabled")).trans ?_
  have whole : Whole pendingAddress := by decide
  refine (bind_read (fieldOrRest_last whole (by decide) "address")).trans ?_
  simp only [beq_self_eq_true, Bool.and_self, if_true, enabledText_eq]
  rfl

theorem read_inserted {fields : List String} {s : Snapshot} (laid : Laid record '2' '0' fields)
    (reads : snapshot true ⟨record, ⟨2, 0⟩, ';', joined fields⟩ =
      .ok s ⟨record, ⟨2, 0⟩, ';', []⟩) : read record = .ok (.inserted s) :=
  read_written laid rfl ⟨_, (bind_read rfl).trans (bind_read reads)⟩

theorem read_modified {fields : List String} {s : Snapshot} (laid : Laid record '2' '1' fields)
    (reads : snapshot false ⟨record, ⟨2, 1⟩, ';', joined fields⟩ =
      .ok s ⟨record, ⟨2, 1⟩, ';', []⟩) : read record = .ok (.modified s) :=
  read_written laid rfl ⟨_, (bind_read rfl).trans (bind_read reads)⟩

/-- **The record of a hit is read back**, with its breakpoint, its place and its thread. -/
theorem read_hit {thread : Nat} (hi : id < limit32) (hs : Whole file) (hl : line < limit32)
    (ht : thread < limit32)
    (laid : Laid record '2' '7' [toString id, file, toString line, toString thread]) :
    read record = .ok (.hit id file line thread) := by
  refine read_written laid rfl ⟨⟨record, ⟨2, 7⟩, ';', []⟩, ?_⟩
  refine (bind_read rfl).trans ?_
  refine (bind_read (numberField_joined hi "id")).trans ?_
  refine (bind_read (field_joined hs "file")).trans ?_
  refine (bind_read (numberField_joined hl "line")).trans ?_
  exact bind_read (numberRest_joined ht "thread")

end Breakpoint.Notice

end DebugLink
