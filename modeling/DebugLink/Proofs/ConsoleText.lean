import DebugLink.Proofs.Answer
import DebugLink.Proofs.Requests

/-!
# Console text that reaches the queue

Console text goes to the queue at once, unless a request waits. Then it is kept for the request, and
what the answer is not made from follows into the queue behind it.

* `isNews_record?`: no announcement is a record of console text.
* `MadeFrom`, `madeFrom_usedLine?`: the console line that an answer is made from, if it is made from
  one.
* `consoleRecords_foldl`: the console text that lines bring into the queue.
* `console_text_kept_iff`: all other text arrives, once and in order, unless the request is released
  with text that was kept for it, or a query for a type fails after a line that names one.
-/

namespace DebugLink.Mi

open Text

/-! ## Records of console text -/

/-- Whether a record is one of console text. -/
def isConsoleRecord (record : String) : Bool := startsWith "80;" record

/-- A record that starts like those about breakpoints and the execution. -/
def IsNews (record : String) : Prop :=
  record.toList.head? ∈ [some '2', some '4', some '5']

/-- Whether a record is news is seen in its first character. -/
theorem IsNews.append {lead : String} (news : IsNews lead) (rest : String) :
    IsNews (lead ++ rest) := by
  unfold IsNews at news ⊢
  rw [String.toList_append, List.head?_append]
  cases e : lead.toList.head? with
  | none => rw [e] at news; exact absurd news (by decide)
  | some c => rw [e] at news; exact news

/-- A record of console text is no news. -/
theorem IsNews.not_console {record : String} (news : IsNews record) :
    isConsoleRecord record = false := by
  refine Bool.eq_false_iff.2 fun leads => ?_
  obtain ⟨rest, same⟩ := List.isPrefixOf_iff_prefix.1 leads
  rw [IsNews, ← same] at news
  exact absurd news (by simp)

/-- Every record of an interruption is news, with or without a place. -/
theorem isNews_interruptRecord {tag : String} (news : IsNews tag) (frame : List Char)
    (thread : Nat) : IsNews (interruptRecord tag frame thread) := by
  unfold interruptRecord
  simp only [String.append_assoc]
  split
  all_goals exact news.append _

/-- So is that of the end of a step. -/
theorem isNews_stepRecord {tag : String} (news : IsNews tag) (frame : List Char) (thread : Nat) :
    IsNews (stepRecord tag frame thread) := by
  unfold stepRecord
  simp only [String.append_assoc]
  split
  all_goals exact news.append _

/-- Whatever the cause of a stop, its record is news. -/
theorem isNews_stopRecord (fields : List Char) : IsNews (stopRecord fields) := by
  have told : ∀ lead ∈ ["27;", "41;", "43;", "47;", "55;"], IsNews lead := by
    simp [IsNews]
  have plain : ∀ tag ∈ ["42", "44", "45", "46", "48", "54"], IsNews tag := by
    simp [IsNews]
  unfold stopRecord
  simp only [String.append_assoc]
  -- one record for each cause of a stop
  split
  · exact (told "27;" (by decide)).append _
  · exact isNews_stepRecord (plain "45" (by decide)) ..
  · exact isNews_stepRecord (plain "46" (by decide)) ..
  · exact plain "42" (by decide)
  · exact (told "43;" (by decide)).append _
  · exact (told "55;" (by decide)).append _
  · split
    · exact plain "48" (by decide)
    split
    · exact (told "47;" (by decide)).append _
    split
    · exact isNews_interruptRecord (plain "54" (by decide)) ..
    · exact isNews_interruptRecord (plain "44" (by decide)) ..
  · exact (told "47;" (by decide)).append _
  · exact isNews_interruptRecord (plain "44" (by decide)) ..

/-- The record of a breakpoint is news, bound or pending. -/
theorem isNews_breakpointRecord {tag : String} (news : IsNews tag) (bkpt : List Char) :
    IsNews (breakpointRecord tag bkpt) := by
  unfold breakpointRecord
  simp only [String.append_assoc]
  split
  all_goals exact news.append _

/-- **The announcer writes nothing but news.** -/
theorem isNews_record? {a : Announcer} {line record : String}
    (told : record ∈ (a.record? line).1) : IsNews record := by
  have lead : ∀ lead ∈ ["20", "21", "22;", "40;", "41;", "51;", "41;0"], IsNews lead := by
    simp [IsNews]
  unfold Announcer.record? at told
  simp only [String.append_assoc] at told
  -- one record for each kind of line; a line that is dropped gives none
  split at told
  · split at told
    · cases told
      exact lead "41;0" (by decide)
    · cases told
      exact lead "41;0" (by decide)
    · cases told
      exact (lead "41;" (by decide)).append _
  · cases told
    exact isNews_stopRecord _
  · obtain ⟨bkpt, -, rfl⟩ := Option.map_eq_some_iff.1 told
    exact isNews_breakpointRecord (lead "20" (by decide)) bkpt
  · obtain ⟨bkpt, -, rfl⟩ := Option.map_eq_some_iff.1 told
    exact isNews_breakpointRecord (lead "21" (by decide)) bkpt
  · obtain ⟨id, -, rfl⟩ := Option.map_eq_some_iff.1 told
    exact (lead "22;" (by decide)).append _
  · cases told
  · obtain ⟨id, -, rfl⟩ := Option.map_eq_some_iff.1 told
    exact (lead "40;" (by decide)).append _
  · obtain ⟨id, -, rfl⟩ := Option.map_eq_some_iff.1 told
    exact (lead "51;" (by decide)).append _
  · cases told

/-- A failure that is reported is news as well. -/
theorem isNews_errorRecord (message : String) : IsNews (errorRecord message) := by
  have lead : ∀ lead ∈ ["49;", "50", "52", "53", "56"], IsNews lead := by
    simp [IsNews]
  unfold errorRecord
  simp only
  split
  · exact lead "53" (by decide)
  split
  · exact lead "50" (by decide)
  split
  · exact lead "52" (by decide)
  split
  · exact lead "56" (by decide)
  · exact (lead "49;" (by decide)).append _

theorem isConsoleRecord_stream (stream : Output.Stream) (text : String) :
    isConsoleRecord (streamRecord stream text) = decide (stream = .console) := by
  unfold isConsoleRecord startsWith streamRecord
  simp only [String.toList_append, List.append_assoc]
  cases stream <;> rfl

/-- A line that no request takes puts a record of console text into the queue exactly if it is one
of console text. -/
theorem consoleRecords_records (a : Announcer) (line : Line) :
    (line.records a).1.filter isConsoleRecord =
      line.consoleText?.toList.map (streamRecord .console) := by
  cases line with
  | result token record =>
    have news : ∀ r ∈ strayRecords record, isConsoleRecord r = false := by
      intro r mem
      unfold strayRecords at mem
      split at mem
      · rw [List.mem_singleton.1 mem]
        exact (isNews_errorRecord _).not_console
      · cases mem
    simpa [Line.records, Line.consoleText?] using news
  | async record =>
    have news : ∀ r ∈ (a.record? record).1, isConsoleRecord r = false :=
      fun r told => (isNews_record? told).not_console
    simpa [Line.records, Line.consoleText?] using news
  | console text => simp [Line.records, Line.consoleText?, isConsoleRecord_stream]
  | target text => simp [Line.records, Line.consoleText?, isConsoleRecord_stream]
  | log text => rfl
  | prompt => rfl

/-! ## The line that an answer is made from -/

/-- The console line that an answer is made from: the first that names a type, if a type was asked
for and the request was not refused. -/
def usedLine? (command : String) (response : Response) : Option String :=
  if isTypeQuery command && !response.isError then
    response.console.find? fun line => (typeText? line).isSome
  else none

/-- **An answer is made from a console line**: it is what the line says the type is. One that is
made from no line is the same as if the console had been silent. -/
def MadeFrom (command : String) (response : Response) : Option String → Prop
  | some line => line ∈ response.console ∧ ∃ text, typeText? line = some text ∧
      answer command response = String.ofList (trimEnd (firstLine text))
  | none => answer command response = answer command { response with console := [] }

theorem head_words_eq_firstWord (s : List Char) :
    ((words s).map String.ofList).headD "" = String.ofList (firstWord s) := by
  unfold firstWord
  cases words s <;> rfl

/-- The first console line that names a type answers a query for one. -/
theorem acceptedAnswer_typeQuery {command : String} (asks : isTypeQuery command = true)
    (response : Response) : acceptedAnswer command response =
      (response.console.findSome? typeText?).elim "" fun text =>
        String.ofList (trimEnd (firstLine text)) := by
  rw [acceptedAnswer]
  simp only [head_words_eq_firstWord]
  unfold isTypeQuery at asks
  obtain verb | verb := Bool.or_eq_true_iff.1 asks
  all_goals
    rw [beq_iff_eq.1 verb]
    cases response.console.findSome? typeText? <;> rfl

/-- No other command is answered by the console. -/
theorem acceptedAnswer_console {command : String} (other : isTypeQuery command = false)
    (response : Response) :
    acceptedAnswer command response = acceptedAnswer command { response with console := [] } := by
  rw [acceptedAnswer, acceptedAnswer]
  simp only [head_words_eq_firstWord]
  unfold isTypeQuery at other
  split
  case h_5 verb =>
    rw [verb] at other
    exact absurd other (by decide)
  case h_6 verb =>
    rw [verb] at other
    exact absurd other (by decide)
  all_goals rfl

/-- The first line with a type text is the one that the text comes from. -/
theorem findSome?_typeText? (console : List String) :
    console.findSome? typeText? =
      (console.find? fun line => (typeText? line).isSome).bind typeText? := by
  induction console with
  | nil => rfl
  | cons line console ih =>
    cases named : typeText? line with
    | some text => simp [named]
    | none => simp [named, ih]

/-- An accepted query for a type is answered by the line that is taken for it, or by nothing. -/
theorem answer_typeQuery {command : String} {response : Response}
    (asks : isTypeQuery command = true) (accepted : response.isError = false) :
    answer command response = ((usedLine? command response).bind typeText?).elim "" fun text =>
      String.ofList (trimEnd (firstLine text)) := by
  have used : usedLine? command response =
      response.console.find? fun line => (typeText? line).isSome := by
    simp [usedLine?, asks, accepted]
  rw [answer_accepted command accepted, acceptedAnswer_typeQuery asks, findSome?_typeText?, used]

/-- A line that is taken is one of the console, and names a type. -/
theorem of_usedLine? {command line : String} {response : Response}
    (used : usedLine? command response = some line) :
    line ∈ response.console ∧ ∃ text, typeText? line = some text := by
  unfold usedLine? at used
  split at used
  · have names : (typeText? line).isSome = true := by simpa using List.find?_some used
    exact ⟨List.mem_of_find?_eq_some used, Option.isSome_iff_exists.1 names⟩
  · cases used

/-- **The line that is taken for an answer** is the one that it is made from. -/
theorem madeFrom_usedLine? (command : String) (response : Response) :
    MadeFrom command response (usedLine? command response) := by
  cases refused : response.isError with
  | true =>
    -- whatever a refused command is answered by, the console has no part in it
    have unused : usedLine? command response = none := by simp [usedLine?, refused]
    rw [unused]
    unfold Response.isError at refused
    split at refused
    · rename_i message status
      simp only [MadeFrom, answer, status]
    · cases refused
  | false =>
    have silent : ({ response with console := [] } : Response).isError = false := refused
    cases asks : isTypeQuery command with
    | false =>
      have unused : usedLine? command response = none := by simp [usedLine?, asks]
      rw [unused, MadeFrom, answer_accepted command refused, answer_accepted command silent]
      exact acceptedAnswer_console asks response
    | true =>
      have answered := answer_typeQuery asks refused
      cases line : usedLine? command response with
      | none =>
        rw [MadeFrom, answered, line, answer_accepted command silent, acceptedAnswer_typeQuery asks]
        rfl
      | some named =>
        obtain ⟨mem, text, told⟩ := of_usedLine? line
        refine ⟨mem, text, told, ?_⟩
        rw [answered, line, Option.bind_some, told, Option.elim_some]

/-! ## Text that lines bring into the queue -/

/-- The console text that follows an answer into the queue, and that which lines bring there if a
request waits or not. -/
def deliveredTexts (pending : Option Pending) (lines : List Line) : List String :=
  match pending with
  | none => consoleTexts lines
  | some p =>
    match firstResult? p.token lines with
    | none => []
    | some found =>
      unusedConsole p.command (p.console ++ consoleTexts found.before) ++ consoleTexts found.after

theorem deliveredTexts_cons_other {p : Pending} {line : Line} {lines : List Line}
    (h : line.resultFor? p.token = none) :
    deliveredTexts (some p) (line :: lines) = deliveredTexts (some (p.hearing line)) lines := by
  cases said : line.consoleText? <;> cases found : firstResult? p.token lines <;>
    simp [deliveredTexts, firstResult?_cons_other h, Pending.hearing, consoleTexts, said, found]

theorem consoleTexts_cons (line : Line) (lines : List Line) :
    consoleTexts (line :: lines) = line.consoleText?.toList ++ consoleTexts lines := by
  cases said : line.consoleText? <;> simp [consoleTexts, said]

namespace Reader

/-- The records of console text that are in the queue. -/
def consoleRecords (r : Reader) : List String := r.queue.filter isConsoleRecord

theorem consoleRecords_push (r : Reader) (records : List String) :
    (r.push records).consoleRecords = r.consoleRecords ++ records.filter isConsoleRecord :=
  List.filter_append ..

/-- Console text that was written as records is found again as such. -/
theorem consoleRecords_streams (texts : List String) :
    (texts.map (streamRecord .console)).filter isConsoleRecord =
      texts.map (streamRecord .console) := by
  rw [List.filter_eq_self]
  intro record mem
  obtain ⟨text, -, rfl⟩ := List.mem_map.1 mem
  exact isConsoleRecord_stream .console text

/-- What one line brings into the queue, and what it leaves to those after it. -/
theorem consoleRecords_take (r : Reader) (line : Line) (lines : List Line) :
    (r.take line).consoleRecords ++
        (deliveredTexts (r.take line).pending lines).map (streamRecord .console) =
      r.consoleRecords ++
        (deliveredTexts r.pending (line :: lines)).map (streamRecord .console) := by
  obtain ⟨p, record, waits, rfl, e⟩ | ⟨p, text, waits, rfl, e⟩ | ⟨apart, e⟩ := take_cases r line
  · have own : firstResult? p.token (.result (some p.token) record :: lines) =
        some ⟨[], record, lines⟩ := firstResult?_cons_result (Line.resultFor?_eq_some.2 rfl)
    rw [e, answered, consoleRecords_push, consoleRecords_streams, waits, List.append_assoc]
    simp [deliveredTexts, own, consoleTexts, push, consoleRecords]
  · rw [e, waits, deliveredTexts_cons_other rfl]
    rfl
  · rw [e, passed, consoleRecords_push, consoleRecords_records, List.append_assoc]
    refine congrArg (r.consoleRecords ++ ·) ?_
    cases waits : r.pending with
    | none =>
      change _ ++ (deliveredTexts none lines).map _ = _
      rw [deliveredTexts, deliveredTexts, consoleTexts_cons, List.map_append]
    | some p =>
      obtain ⟨other, silent⟩ := apart p waits
      change _ ++ (deliveredTexts (some p) lines).map _ = _
      rw [deliveredTexts_cons_other other, p.hearing_silent silent, silent]
      rfl

/-- **The console records of a reader are those it had and the texts that the lines brought.** -/
theorem consoleRecords_foldl (raws : List String) (r : Reader) :
    (raws.foldl takeRaw r).consoleRecords = r.consoleRecords ++
      (deliveredTexts r.pending (raws.filterMap Line.ofRaw?)).map (streamRecord .console) := by
  induction raws generalizing r with
  | nil =>
    cases waits : r.pending <;> simp [deliveredTexts, firstResult?, consoleTexts]
  | cons raw raws ih =>
    rw [List.foldl_cons, ih, takeRaw_eq]
    cases read : Line.ofRaw? raw with
    | none => rw [List.filterMap_cons_none read, Option.elim_none]
    | some line =>
      rw [List.filterMap_cons_some read, Option.elim_some]
      exact consoleRecords_take r line _

end Reader

/-! ## Text that is lost -/

/-- All console text, what was kept for a request included, but for the line that the answer to the
request is made from. -/
def unusedTexts (pending : Option Pending) (lines : List Line) : List String :=
  match pending with
  | none => consoleTexts lines
  | some p =>
    match firstResult? p.token lines with
    | none => p.console ++ consoleTexts lines
    | some found =>
      let heard := p.console ++ consoleTexts found.before
      ((usedLine? p.command (Response.ofResult found.record heard)).elim heard heard.erase) ++
        consoleTexts found.after

/-- Text is lost: a request is released together with text that was kept for it, or a query for a
type is refused after a line that names one. -/
def LosesText (pending : Option Pending) (lines : List Line) : Prop :=
  match pending with
  | none => False
  | some p =>
    match firstResult? p.token lines with
    | none => p.console ++ consoleTexts lines ≠ []
    | some found =>
      let heard := p.console ++ consoleTexts found.before
      isTypeQuery p.command = true ∧ (Response.ofResult found.record heard).isError = true ∧
        ∃ line ∈ heard, (typeText? line).isSome = true

/-- Erasing by a property is erasing the first element that has it. -/
theorem eraseP_eq_erase_find? {α : Type} [DecidableEq α] (p : α → Bool) (l : List α) :
    l.eraseP p = (l.find? p).elim l l.erase := by
  induction l with
  | nil => rfl
  | cons a l ih =>
    cases h : p a with
    | true => simp [h]
    | false =>
      rw [List.eraseP_cons_of_neg (by simp [h]), List.find?_cons_of_neg (by simp [h]), ih]
      cases found : l.find? p with
      | none => rfl
      | some b =>
        have other : a ≠ b := by
          rintro rfl
          have := List.find?_some found
          simp [h] at this
        simp [other]

section

variable {command record : String} {heard : List String}

theorem unusedConsole_of_other (other : isTypeQuery command = false) :
    unusedConsole command heard = heard ∧
      usedLine? command (Response.ofResult record heard) = none := by
  simp [unusedConsole, usedLine?, other]

theorem unusedConsole_of_accepted (asks : isTypeQuery command = true)
    (accepted : (Response.ofResult record heard).isError = false) :
    unusedConsole command heard =
      (usedLine? command (Response.ofResult record heard)).elim heard heard.erase := by
  rw [unusedConsole, asks, if_pos rfl, eraseP_eq_erase_find?, usedLine?, asks, accepted]
  rfl

theorem usedLine?_of_refused (refused : (Response.ofResult record heard).isError = true) :
    usedLine? command (Response.ofResult record heard) = none := by
  simp [usedLine?, refused]

end

variable {pending : Option Pending} {lines : List Line}

/-- Unless text is lost, all that is not used reaches the queue. -/
theorem deliveredTexts_of_kept (kept : ¬LosesText pending lines) :
    deliveredTexts pending lines = unusedTexts pending lines := by
  cases pending with
  | none => rfl
  | some p =>
    cases result : firstResult? p.token lines with
    | none =>
      simp only [LosesText, result, ne_eq, Decidable.not_not] at kept
      simp only [deliveredTexts, unusedTexts, result, kept]
    | some found =>
      simp only [LosesText, result] at kept
      simp only [deliveredTexts, unusedTexts, result]
      refine congrArg (· ++ consoleTexts found.after) ?_
      cases asks : isTypeQuery p.command with
      | false =>
        obtain ⟨all, none⟩ := unusedConsole_of_other asks
        rw [all, none, Option.elim_none]
      | true =>
        let heard := p.console ++ consoleTexts found.before
        cases refused : (Response.ofResult found.record heard).isError with
        | false => exact unusedConsole_of_accepted asks refused
        | true =>
          -- a refused query that kept its text had no type line to lose
          have unnamed : ∀ line ∈ heard, (typeText? line).isSome ≠ true :=
            fun line mem named => kept ⟨asks, refused, line, mem, named⟩
          rw [usedLine?_of_refused refused, unusedConsole, asks, if_pos rfl,
            List.eraseP_of_forall_not unnamed, Option.elim_none]

/-- Text that is lost is missing from the queue. -/
theorem length_deliveredTexts_lt (lost : LosesText pending lines) :
    (deliveredTexts pending lines).length < (unusedTexts pending lines).length := by
  cases pending with
  | none => exact lost.elim
  | some p =>
    cases result : firstResult? p.token lines with
    | none =>
      simp only [LosesText, result] at lost
      simp only [deliveredTexts, unusedTexts, result]
      exact List.length_pos_iff.2 lost
    | some found =>
      simp only [LosesText, result] at lost
      obtain ⟨asks, refused, line, mem, named⟩ := lost
      simp only [deliveredTexts, unusedTexts, result, List.length_append]
      refine Nat.add_lt_add_right ?_ _
      rw [usedLine?_of_refused refused, unusedConsole, asks, if_pos rfl, Option.elim_none,
        List.length_eraseP_of_mem mem named]
      exact Nat.pred_lt (Nat.ne_of_gt (List.length_pos_of_mem mem))

/-- **Console text is kept**, unless the request that waits at first is released with text that was
kept for it, or is a query for a type that is refused after a line that names one. Exactly if
neither happens, the records of console text in the queue are those of all the text that lines
brought until the end of the output, once each and in order, without the one line that the answer
to the request was made from; of every command and response, `usedLine?` tells that line. -/
theorem console_text_kept_iff (debugger : Debugger) (pending : Option Pending)
    (raws : List String) :
    let lines := raws.filterMap Line.ofRaw?
    let reader := raws.foldl Reader.takeRaw { pending }
    (∀ command response, MadeFrom command response (usedLine? command response)) ∧
      ({ debugger with reader }.stopReading.reader.queue.filter isConsoleRecord =
          (unusedTexts pending lines).map (streamRecord .console) ↔
        ¬LosesText pending lines) := by
  intro lines reader
  refine ⟨madeFrom_usedLine?, ?_⟩
  have delivered : { debugger with reader }.stopReading.reader.queue.filter isConsoleRecord =
      (deliveredTexts pending lines).map (streamRecord .console) :=
    (Reader.consoleRecords_foldl raws { pending }).trans (List.nil_append _)
  rw [delivered]
  constructor
  · intro same lost
    have lengths := congrArg List.length same
    rw [List.length_map, List.length_map] at lengths
    exact Nat.ne_of_lt (length_deliveredTexts_lt lost) lengths
  · intro kept
    rw [deliveredTexts_of_kept kept]

/-- A query for a type that is refused swallows the line that names one, though its answer is not
made from that; and a request that is released takes the text that was kept for it along. -/
theorem console_text_lost :
    let query : Pending := { token := 1, command := "whatis n" }
    let refused := ["~\"type = int\\n\"\n", "1^error,msg=\"gone\"\n"]
    let reader := refused.foldl Reader.takeRaw { pending := some query }
    let released := ["~\"hello\\n\"\n"].foldl Reader.takeRaw { pending := some query }
    let ended := ({ replies := [], reader := released } : Debugger).stopReading.reader
    (reader.answers = [(1, "ERROR")] ∧ reader.queue = [] ∧
      unusedTexts (some query) (refused.filterMap Line.ofRaw?) = ["type = int\n"]) ∧
    ended.answers = [] ∧ ended.queue = [] ∧
      unusedTexts (some query) [.console "hello\n"] = ["hello\n"] := by
  decide +kernel

end DebugLink.Mi
