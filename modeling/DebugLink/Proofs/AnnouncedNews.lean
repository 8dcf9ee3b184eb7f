import DebugLink.Proofs.Announcements

/-!
# Announcements, read back

Each announcement becomes the record of a shape that its data choose, and the record is read by the
reader of its topic. Of all that both formats have room for, what is read is what was announced.

* `Announcement.news?`: what is to be understood. `Announcement.news?_eq_none_iff`: only a change
  of a breakpoint that is still pending is passed over, and the start of a process, which is
  remembered.
* `read_stopped`, `read_ended`, `read_created`, `read_modified`: the records of each kind.
* `Announced.told`: one line, after a process was started. `Announced.remembered`: what is
  remembered of many.
* `announced_read_back`: a line after any others.
-/

namespace DebugLink.Mi

open Text Record

/-! ## What is to be understood -/

/-- What a record is read as. -/
inductive News
  | breakpoint (notice : Breakpoint.Notice)
  | execution (notice : Execution.Notice)

/-- The record is handed to the reader for its topic, which reads it as this. -/
def News.ReadFrom (record : String) : News → Prop
  | .breakpoint notice =>
    Topic.ofRecord record = .breakpoint ∧ Breakpoint.Notice.read record = .ok notice
  | .execution notice =>
    Topic.ofRecord record = .execution ∧ Execution.Notice.read record = .ok notice

/-- What is announced when a thread stopped. -/
def Cause.news (frame : Frame) (thread : UInt32) : Cause → News
  | breakpointHit number =>
    let (file, line) := frame.place.source?.getD ("", 0)
    .breakpoint (.hit number.toNat file line thread.toNat)
  | steppingEnded => .execution (.steppingEnded (frame.stepEnd thread))
  | functionFinished => .execution (.functionFinished (frame.stepEnd thread))
  | signal name meaning =>
    if name.text = "SIGKILL" then .execution .killed
    else if meaning.text = "Killed" then .execution (.execInterrupted thread.toNat)
    else if name.text = "SIGSEGV" then .execution (.segfault (frame.stop thread))
    else .execution (.interrupted (frame.stop thread))
  | other _ _ => .execution (.interrupted (frame.stop thread))

/-- What is announced when the program ended. -/
def Ending.notice : Ending → Execution.Notice
  | normally => .exited 0
  | exited _ code => .exited code.toNat
  | signalled name meaning => .signaled name.text meaning.text none

namespace Announcement

/-- What is announced after the process `pid` was started, if it matters. -/
def news? (pid : UInt32) : Announcement → Option News
  | running thread? => some (.execution (.running (thread?.elim 0 (·.toNat))))
  | stopped cause frame thread => some (cause.news frame thread)
  | halted _ thread => some (.execution (.execInterrupted thread.toNat))
  | ended ending => some (.execution ending.notice)
  | created b => some (.breakpoint (.inserted b.snapshot))
  | modified b => b.location?.map fun _ => .breakpoint (.modified b.snapshot)
  | deleted number => some (.breakpoint (.deleted number.toNat))
  | groupStarted _ _ => none
  | threadCreated thread => some (.execution (.threadCreated thread.toNat pid.toNat))
  | threadExited thread => some (.execution (.threadExited thread.toNat))

/-- The process that was started last, also by this. -/
def startedPid (pid : UInt32) : Announcement → UInt32
  | groupStarted _ started => started
  | _ => pid

/-- Only a change of a breakpoint that is still pending is passed over, and the start of a
process. -/
theorem news?_eq_none_iff (pid : UInt32) (n : Announcement) : n.news? pid = none ↔
    (∃ b : Bkpt, n = modified b ∧ b.location? = none) ∨
      ∃ group started, n = groupStarted group started := by
  cases n with
  | modified b => simp [news?]
  | groupStarted group started => simp [news?]
  | _ => simp [news?]

end Announcement

/-! ## Breakpoints -/

section Topics

variable {record : String} {k : Char} {fields : List String}

theorem topic_breakpoint (laid : Laid record '2' k fields) :
    Topic.ofRecord record = .breakpoint := by
  rw [Topic.ofRecord, laid]
  rfl

theorem topic_execution {c : Char} (laid : Laid record c k fields) (hc : c = '4' ∨ c = '5') :
    Topic.ofRecord record = .execution := by
  rw [Topic.ofRecord, laid]
  rcases hc with rfl | rfl <;> rfl

end Topics

section Breakpoints

variable {b : Bkpt} {s : List Char} (shows : Shows b.fields s)

include shows

/-- A new breakpoint is read back whether it is bound to a place or still pending. -/
theorem read_created :
    News.ReadFrom (breakpointRecord "20" s) (.breakpoint (.inserted b.snapshot)) := by
  cases location : b.location? with
  | some l =>
    obtain ⟨fields, laid, reads⟩ := Bkpt.snapshot_located shows location "20" rfl true ⟨2, 0⟩
    exact ⟨topic_breakpoint laid, Breakpoint.Notice.read_inserted laid reads⟩
  | none =>
    have laid : Laid _ '2' '0' _ :=
      laid_composed (Bkpt.breakpointRecord_pending shows location "20") rfl
    refine ⟨topic_breakpoint laid, Breakpoint.Notice.read_inserted laid ?_⟩
    rw [Bkpt.snapshot, location]
    exact Breakpoint.Notice.snapshot_pending b.enabled (lt_limit32 _)

theorem read_modified {l : Location} (located : b.location? = some l) :
    News.ReadFrom (breakpointRecord "21" s) (.breakpoint (.modified b.snapshot)) := by
  obtain ⟨fields, laid, reads⟩ := Bkpt.snapshot_located shows located "21" rfl false ⟨2, 1⟩
  exact ⟨topic_breakpoint laid, Breakpoint.Notice.read_modified laid reads⟩

end Breakpoints

theorem read_deleted (number : UInt32) : (News.breakpoint (.deleted number.toNat)).ReadFrom
    (composed "22" [toString number.toNat]) := by
  have laid : Laid (composed "22" [toString number.toNat]) '2' '2' _ :=
    laid_composed rfl rfl
  exact ⟨topic_breakpoint laid, Breakpoint.Notice.read_aboutOne (lt_limit32 number) rfl
    (show digit? 10 '2' = some 2 from rfl) fun _ _ => rfl⟩

/-! ## Threads -/

section Threads

variable (thread : UInt32)

theorem read_running : (News.execution (.running thread.toNat)).ReadFrom
    (composed "41" [toString thread.toNat]) := by
  have laid : Laid (composed "41" [toString thread.toNat]) '4' '1' _ :=
    laid_composed rfl rfl
  exact ⟨topic_execution laid (.inl rfl), Execution.Notice.read_running (lt_limit32 _) laid⟩

/-- The target stopped because it was asked to. -/
theorem read_asked : (News.execution (.execInterrupted thread.toNat)).ReadFrom
    (composed "47" [toString thread.toNat]) := by
  have laid : Laid (composed "47" [toString thread.toNat]) '4' '7' _ :=
    laid_composed rfl rfl
  exact ⟨topic_execution laid (.inl rfl), Execution.Notice.read_execInterrupted (lt_limit32 _) laid⟩

theorem read_threadCreated (pid : UInt32) :
    (News.execution (.threadCreated thread.toNat pid.toNat)).ReadFrom
      (composed "40" [toString thread.toNat, toString pid.toNat]) := by
  have laid : Laid (composed "40" [toString thread.toNat, toString pid.toNat]) '4' '0' _ :=
    laid_composed rfl rfl
  exact ⟨topic_execution laid (.inl rfl),
    Execution.Notice.read_threadCreated (lt_limit32 _) (lt_limit32 _) laid⟩

theorem read_threadExited : (News.execution (.threadExited thread.toNat)).ReadFrom
    (composed "51" [toString thread.toNat]) := by
  have laid : Laid (composed "51" [toString thread.toNat]) '5' '1' _ :=
    laid_composed rfl rfl
  exact ⟨topic_execution laid (.inr rfl), Execution.Notice.read_threadExited (lt_limit32 _) laid⟩

end Threads

/-! ## Stops -/

/-- A stop for a reason without a meaning of its own is recorded like an interrupt. -/
theorem stopRecord_other {s : List Char} {reason : String}
    (given : rawString? "reason" s = some reason) (unknown : reason ∉ knownReasons) :
    stopRecord s = interruptRecord "44" ((tuple? "frame" s).getD [])
      ((numberField? "thread-id" s).getD 0) := by
  have apart : ∀ known ∈ knownReasons, some reason ≠ some known := by
    rintro known mem e
    exact unknown (Option.some.inj e ▸ mem)
  rw [stopRecord, given]
  split
  case h_8 e => cases e
  case h_9 => rfl
  all_goals
    rename_i e
    exact absurd e (apart _ (by decide))

/-- Nothing in a frame is taken for another detail of a stop. -/
theorem findField?_frame {key : String} (sought : key ∈ soughtNames)
    (other : key ∉ ["addr", "func", "file", "fullname", "line"]) (frame : Frame) :
    findField? key frame.fields = none := by
  simp only [List.mem_cons, List.not_mem_nil, or_false, not_or] at other
  rw [← findField?_sought sought, frame.carries]
  simp [Place.fields, findField?_append, Ne.symm, other]

/-- Where gdb gives no reason, the target stopped because it was asked to. -/
theorem read_halted {frame? : Option Frame} {thread : UInt32} {s : List Char}
    (shows : Shows (Announcement.halted frame? thread).fields s) :
    (News.execution (.execInterrupted thread.toNat)).ReadFrom (stopRecord s) := by
  have reason : rawString? "reason" s = none := by
    refine shows.rawString?_eq (by decide) none ?_
    cases frame? with
    | none => simp [Announcement.fields]
    | some frame =>
      have absent := findField?_frame (by decide : "reason" ∈ soughtNames) (by decide) frame
      simp [Announcement.fields, absent]
  have threadId : numberField? "thread-id" s = some thread.toNat := by
    refine shows.numberField?_eq (by decide) (some thread) ?_
    cases frame? with
    | none => simp [Announcement.fields]
    | some frame =>
      have absent := findField?_frame (by decide : "thread-id" ∈ soughtNames) (by decide) frame
      simp [Announcement.fields, absent]
  have written : stopRecord s = composed "47" [toString thread.toNat] := by
    simp only [stopRecord, reason, threadId, Option.getD_some]
    rfl
  rw [written]
  exact read_asked thread

section Stopped

variable {cause : Cause} {frame : Frame} {thread : UInt32} {s : List Char}
  (shows : Shows (Announcement.stopped cause frame thread).fields s)

include shows

theorem stopped_reason : rawString? "reason" s = some cause.reason.text :=
  shows.rawString?_eq (by decide) (some cause.reason) (by simp [Announcement.fields])

theorem stopped_thread : numberField? "thread-id" s = some thread.toNat := by
  have absent := findField?_frame (by decide : "thread-id" ∈ soughtNames) (by decide) frame
  refine shows.numberField?_eq (by decide) (some thread) ?_
  cases cause <;> simp [Announcement.fields, Cause.details, absent]

theorem stopped_frame : tuple? "frame" s = some (Value.tuple frame.fields).written := by
  refine shows.tuple?_eq (by decide) ?_
  cases cause <;> simp [Announcement.fields, Cause.details]

/-- The record of a stop, for each cause. -/
theorem stopRecord_eq :
    let inFrame := (Value.tuple frame.fields).written
    stopRecord s = match cause with
      | .breakpointHit number =>
        let (file, line) := frame.place.source?.getD ("", 0)
        composed "27" [toString number.toNat, file, toString line, toString thread.toNat]
      | .steppingEnded => stepRecord "45" inFrame thread.toNat
      | .functionFinished => stepRecord "46" inFrame thread.toNat
      | .signal name meaning =>
        if name.text = "SIGKILL" then "48"
        else if meaning.text = "Killed" then composed "47" [toString thread.toNat]
        else if name.text = "SIGSEGV" then interruptRecord "54" inFrame thread.toNat
        else interruptRecord "44" inFrame thread.toNat
      | .other _ _ => interruptRecord "44" inFrame thread.toNat := by
  intro inFrame
  have threadId := stopped_thread shows
  have tuple := stopped_frame shows
  have reason := stopped_reason shows
  -- each cause announces the fields that its own branch looks up, and no others
  cases cause with
  | breakpointHit number =>
    have bkptno : numberField? "bkptno" s = some number.toNat :=
      shows.numberField?_eq (by decide) (some number)
        (by simp [Announcement.fields, Cause.details])
    simp only [stopRecord, reason, threadId, tuple, bkptno, Cause.reason, Option.getD_some,
      Frame.source?_eq (shows_tuple frame.fields)]
    rfl
  | steppingEnded =>
    simp only [stopRecord, reason, threadId, tuple, Cause.reason, Option.getD_some, inFrame]
  | functionFinished =>
    simp only [stopRecord, reason, threadId, tuple, Cause.reason, Option.getD_some, inFrame]
  | signal name meaning =>
    have nameText : rawString? "signal-name" s = some name.text :=
      shows.rawString?_eq (by decide) (some name) (by simp [Announcement.fields, Cause.details])
    have meaningText : rawString? "signal-meaning" s = some meaning.text :=
      shows.rawString?_eq (by decide) (some meaning) (by simp [Announcement.fields, Cause.details])
    simp only [stopRecord, reason, threadId, tuple, nameText, meaningText, Cause.reason,
      Option.getD_some, inFrame]
    rfl
  | other given unknown =>
    rw [stopRecord_other reason unknown, threadId, tuple]
    rfl

/-- **The record of a stop** is read as what was announced. -/
theorem read_stopped : (cause.news frame thread).ReadFrom (stopRecord s) := by
  have shown := shows_tuple frame.fields
  rw [stopRecord_eq shows]
  have interrupted : (News.execution (.interrupted (frame.stop thread))).ReadFrom
      (interruptRecord "44" (Value.tuple frame.fields).written thread.toNat) := by
    obtain ⟨fields, laid, reads⟩ := Frame.interrupt_laid shown "44" rfl rfl rfl thread
    exact ⟨topic_execution laid (.inl rfl), Execution.Notice.read_interrupted laid (reads _)⟩
  cases cause with
  | breakpointHit number =>
    have read : ∀ (file : String) (line : Nat), Whole file → line < limit32 →
        (News.breakpoint (.hit number.toNat file line thread.toNat)).ReadFrom
          (composed "27" [toString number.toNat, file, toString line, toString thread.toNat]) := by
      intro file line whole small
      have laid : Laid (composed "27" [toString number.toNat, file, toString line,
          toString thread.toNat]) '2' '7' _ := laid_composed rfl rfl
      exact ⟨topic_breakpoint laid,
        Breakpoint.Notice.read_hit (lt_limit32 _) whole small (lt_limit32 _) laid⟩
    simp only [Cause.news]
    -- a hit without a source is read with an empty file and no line
    cases known : frame.place.source? with
    | none => exact read "" 0 (by decide) (by decide)
    | some source =>
      obtain ⟨whole, small⟩ := source_bounds frame.place known
      exact read source.1 source.2 whole small
  | steppingEnded =>
    obtain ⟨fields, laid, reads⟩ := Frame.step_laid shown "45" rfl thread
    exact ⟨topic_execution laid (.inl rfl), Execution.Notice.read_steppingEnded laid (reads _)⟩
  | functionFinished =>
    obtain ⟨fields, laid, reads⟩ := Frame.step_laid shown "46" rfl thread
    exact ⟨topic_execution laid (.inl rfl), Execution.Notice.read_functionFinished laid (reads _)⟩
  | signal name meaning =>
    simp only [Cause.news]
    split
    · exact ⟨by decide, by rfl⟩
    split
    · exact read_asked thread
    split
    · obtain ⟨fields, laid, reads⟩ := Frame.interrupt_laid shown "54" rfl rfl rfl thread
      exact ⟨topic_execution laid (.inr rfl), Execution.Notice.read_segfault laid (reads _)⟩
    · exact interrupted
  | other given unknown => exact interrupted

end Stopped

/-- **The record of the end of the program** is read as what was announced. -/
theorem read_ended {ending : Ending} {s : List Char} (shows : Shows ending.fields s) :
    (News.execution ending.notice).ReadFrom (stopRecord s) := by
  cases ending with
  | normally =>
    have reason : rawString? "reason" s = some "exited-normally" :=
      shows.rawString?_eq (by decide) (some ⟨"exited-normally", by decide⟩)
        (by simp [Ending.fields])
    have written : stopRecord s = "42" := by simp only [stopRecord, reason]
    rw [written]
    exact ⟨by decide, by rfl⟩
  | exited width code =>
    have reason : rawString? "reason" s = some "exited" :=
      shows.rawString?_eq (by decide) (some ⟨"exited", by decide⟩) (by simp [Ending.fields])
    -- the exit code travels in octal, padded to the width that gdb prints
    have raw : rawField? "exit-code" s = some (paddedDigits 8 width code.toNat) := by
      rw [shows.rawField?_eq (by decide) (some (.octal width code)) (by simp [Ending.fields]),
        Option.map_some, Plain.octal, String.toList_ofList]
    have read : (rawField? "exit-code" s).bind (readWord 8 limit32) = some code.toNat := by
      rw [raw]
      exact readWord_paddedDigits (by decide) (by decide) (lt_limit32 code)
    have written : stopRecord s = composed "43" [toString code.toNat, ""] := by
      simp only [stopRecord, reason, read, Option.getD_some]
      exact String.append_empty.symm
    have laid : Laid (stopRecord s) '4' '3' _ := laid_composed written rfl
    exact ⟨topic_execution laid (.inl rfl), Execution.Notice.read_exitCode (lt_limit32 _) laid⟩
  | signalled name meaning =>
    have reason : rawString? "reason" s = some "exited-signalled" :=
      shows.rawString?_eq (by decide) (some ⟨"exited-signalled", by decide⟩)
        (by simp [Ending.fields])
    have nameText : string? "signal-name" s = some name.text :=
      shows.string?_eq (by decide) (some name) (by simp [Ending.fields])
    have meaningText : string? "signal-meaning" s = some meaning.text :=
      shows.string?_eq (by decide) (some meaning) (by simp [Ending.fields])
    have written : stopRecord s = composed "55" [name.text, meaning.text, ""] := by
      simp only [stopRecord, reason, nameText, meaningText, Option.getD_some]
      exact String.append_empty.symm
    have laid : Laid (stopRecord s) '5' '5' _ := laid_composed written rfl
    exact ⟨topic_execution laid (.inr rfl),
      Execution.Notice.read_signaled name.whole meaning.whole laid⟩

/-! ## Lines -/

namespace Announced

/-- The first comma of a line ends its first word. -/
theorem cut_line (n : Announced) :
    cutWhere? (· == ',') n.line.toList =
      some (n.announcement.kind.toList, bareFields n.fields) := by
  have given : n.fields ≠ [] := by
    intro empty
    have carries := n.carries
    rw [empty] at carries
    exact n.announcement.fields_ne_nil carries.symm
  obtain ⟨first, rest, e⟩ := List.exists_cons_of_ne_nil given
  have unbroken : ∀ kind ∈ ["*running", "*stopped", "=breakpoint-created", "=breakpoint-modified",
      "=breakpoint-deleted", "=thread-group-started", "=thread-created", "=thread-exited"],
      ',' ∉ kind.toList := by decide
  have word : ',' ∉ n.announcement.kind.toList :=
    unbroken n.announcement.kind (by cases n.announcement <;> simp [Announcement.kind])
  rw [line, String.toList_ofList, e, writtenFields_cons]
  exact cutWhere?_append word _

/-- What becomes of an announcement that is to be understood so. -/
def Told (record? : Option String) : Option News → Prop
  | none => record? = none
  | some news => ∃ record, record? = some record ∧ news.ReadFrom record

/-- **One line**: what is remembered after it, and what it is told as. -/
theorem told (pid : UInt32) (n : Announced) :
    ((⟨pid.toNat⟩ : Announcer).record? n.line).2 = ⟨(n.announcement.startedPid pid).toNat⟩ ∧
      Told ((⟨pid.toNat⟩ : Announcer).record? n.line).1 (n.announcement.news? pid) := by
  have cut := n.cut_line
  have shows := (shows_bare n.fields).carried n.carries
  have id : ∀ number : UInt32, n.announcement.fields = [field ⟨"id", rfl⟩ (.number number)] →
      rawString? "id" (bareFields n.fields) = some (toString number.toNat) := fun number e =>
    shows.rawString?_eq (by decide) (some (.number number)) (by simp [e])
  have bkpt : ∀ b : Bkpt, n.announcement.fields = [(⟨"bkpt", rfl⟩, .tuple b.fields)] →
      tuple? "bkpt" (bareFields n.fields) = some (Value.tuple b.fields).written := fun b e =>
    shows.tuple?_eq (by decide) (by simp [e])
  unfold Announcer.record?
  rw [cut, Option.getD_some]
  obtain ⟨n, fields, carries⟩ := n
  simp only [String.ofList_toList]
  cases n with
  | running thread? =>
    cases thread? with
    | none =>
      have every : rawString? "thread-id" (bareFields fields) = some "all" :=
        shows.rawString?_eq (by decide) (some ⟨"all", by decide⟩) (by simp [Announcement.fields])
      simp only [Announcement.kind, every]
      exact ⟨rfl, _, rfl, by decide, by rfl⟩
    | some thread =>
      have one : rawString? "thread-id" (bareFields fields) = some (toString thread.toNat) :=
        shows.rawString?_eq (by decide) (some (.number thread)) (by simp [Announcement.fields])
      -- the word for all threads is no thread's number
      have number : toString thread.toNat ≠ "all" := fun all => by
        have letter := not_mem_toString (c := 'a') rfl thread.toNat
        rw [all] at letter
        exact letter (by decide)
      simp only [Announcement.kind, one]
      exact ⟨rfl, _, rfl, read_running thread⟩
  | stopped cause frame thread => exact ⟨rfl, _, rfl, read_stopped shows⟩
  | halted frame? thread => exact ⟨rfl, _, rfl, read_halted shows⟩
  | ended ending => exact ⟨rfl, _, rfl, read_ended shows⟩
  | created b =>
    simp only [Announcement.kind, bkpt b rfl]
    exact ⟨rfl, _, rfl, read_created (shows_tuple b.fields)⟩
  | modified b =>
    have shown := shows_tuple b.fields
    simp only [Announcement.kind, bkpt b rfl, Option.filter_some, Announcement.news?]
    cases location : b.location? with
    | none =>
      rw [Bkpt.is_pending shown location]
      exact ⟨rfl, rfl⟩
    | some l =>
      rw [Bkpt.not_pending shown location]
      exact ⟨rfl, _, rfl, read_modified shown location⟩
  | deleted number =>
    simp only [Announcement.kind, id number rfl]
    exact ⟨rfl, _, rfl, read_deleted number⟩
  | groupStarted group started =>
    have pid : numberField? "pid" (bareFields fields) = some started.toNat :=
      shows.numberField?_eq (by decide) (some started) (by simp [Announcement.fields])
    simp only [Announcement.kind, pid]
    exact ⟨rfl, rfl⟩
  | threadCreated thread =>
    simp only [Announcement.kind, id thread rfl]
    exact ⟨rfl, _, rfl, read_threadCreated thread pid⟩
  | threadExited thread =>
    simp only [Announcement.kind, id thread rfl]
    exact ⟨rfl, _, rfl, read_threadExited thread⟩

/-- The process that was started last in these lines. -/
def lastPid (before : List Announced) : UInt32 :=
  before.foldl (fun pid n => n.announcement.startedPid pid) 0

/-- What is remembered of lines is the process that was started last in them. -/
theorem remembered (before : List Announced) :
    before.foldl (fun a n => (a.record? n.line).2) ({} : Announcer) = ⟨(lastPid before).toNat⟩ := by
  have run : ∀ (before : List Announced) (pid : UInt32),
      before.foldl (fun a n => (a.record? n.line).2) (⟨pid.toNat⟩ : Announcer) =
        ⟨(before.foldl (fun pid n => n.announcement.startedPid pid) pid).toNat⟩ := by
    intro before
    induction before with
    | nil => exact fun _ => rfl
    | cons n before ih =>
      intro pid
      rw [List.foldl_cons, List.foldl_cons, (told pid n).1, ih]
  exact run before 0

end Announced

/-- **Announcements are read back.** After any lines, what is told of the next one is nothing for a
change of a breakpoint that is still pending and for the start of a process; for all others it is a
record that its reader reads as what was announced. -/
theorem announced_read_back (before : List Announced) (n : Announced) :
    let a := before.foldl (fun a n => (a.record? n.line).2) ({} : Announcer)
    let record? := (a.record? n.line).1
    Announced.Told record? (n.announcement.news? (Announced.lastPid before)) ∧
      (record? = none ↔
        (∃ b : Bkpt, n.announcement = .modified b ∧ b.location? = none) ∨
          ∃ group pid, n.announcement = .groupStarted group pid) := by
  intro a record?
  have told : Announced.Told record? (n.announcement.news? (Announced.lastPid before)) := by
    have line := (Announced.told (Announced.lastPid before) n).2
    rw [← Announced.remembered before] at line
    exact line
  refine ⟨told, ?_⟩
  rw [← Announcement.news?_eq_none_iff (Announced.lastPid before)]
  cases news : n.announcement.news? (Announced.lastPid before) with
  | none =>
    rw [news] at told
    exact ⟨fun _ => rfl, fun _ => told⟩
  | some news' =>
    rw [news] at told
    obtain ⟨record, e, -⟩ := told
    rw [e]
    exact ⟨nofun, nofun⟩

-- A frame without source, and with arguments, for which no record has room.
example : (Announcement.plain (.stopped .functionFinished
    { address := 0x401136, width := 0, function := ⟨"main", by decide⟩, place := {}
      fields := [field ⟨"addr", rfl⟩ (.address 0 0x401136),
        field ⟨"func", rfl⟩ ⟨"main", by decide⟩,
        (⟨"args", rfl⟩, .list [.tuple [field ⟨"name", rfl⟩ ⟨"argc", by decide⟩]])]
      carries := rfl } 1)).line =
    "*stopped,reason=\"function-finished\",frame=\x7baddr=\"0x401136\",func=\"main\"," ++
      "args=[\x7bname=\"argc\"\x7d]\x7d,thread-id=\"1\"" := rfl

example : (Announcement.plain (.created (.plain 2 true none))).line =
    "=breakpoint-created,bkpt=\x7bnumber=\"2\",enabled=\"y\",addr=\"<PENDING>\"\x7d" := rfl

end DebugLink.Mi
