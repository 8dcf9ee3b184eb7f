import DebugLink.Mi.Debugger

/-!
# Requests and their results

A request is answered by its own result. Until that arrives, console text is kept for it and every
other line is dealt with as if nobody waited.

* `Reader.take_cases`: all that a line can do.
* `firstResult?_eq_some_iff`: the first result of a request among lines, and what stands around it.
* `Settled.repliesTo_after`, `repliesTo_after_waiting`: what a history brings to a request that does
  not wait, and to one that does.
* `answered_by_own_result`: in every history in which requests come one at a time, each is answered
  by the first result with its token, once, and by nothing else.
-/

namespace DebugLink.Mi

open Text

/-! ## Lines -/

namespace Line

/-- The line that was read, if it is not empty. -/
def ofRaw? (raw : String) : Option Line :=
  let line := dropEndWhile (fun c => c == '\r' || c == '\n') raw.toList
  if line.isEmpty then none else some (classify (String.ofList line))

/-- The record of the result for the command with this token. -/
def resultFor? (token : Nat) : Line → Option String
  | .result t record => if t = some token then some record else none
  | _ => none

/-- The text that is printed on the console. -/
def consoleText? : Line → Option String
  | .console text => some text
  | _ => none

theorem resultFor?_eq_some {token : Nat} {line : Line} {record : String} :
    line.resultFor? token = some record ↔ line = .result (some token) record := by
  cases line <;> simp [resultFor?]

end Line

/-- What is printed on the console. -/
def consoleTexts (lines : List Line) : List String := lines.filterMap Line.consoleText?

/-- The records for a result that nobody waits for: it matters only when it is an error. -/
def strayRecords (record : String) : List String :=
  match Status.ofResult record with
  | .error message => [errorRecord message]
  | _ => []

/-- The records for a line that no request takes, and what is remembered of it. -/
def Line.records (a : Announcer) : Line → List String × Announcer
  | .result _ record => (strayRecords record, a)
  | .async record => ((a.record? record).1.toList, (a.record? record).2)
  | .console text => ([streamRecord .console text], a)
  | .target text => ([streamRecord .target text], a)
  | .log _ | .prompt => ([], a)

/-! ## The first result of a request -/

/-- A result among lines, with the lines on both sides of it. -/
structure ResultAt where
  before : List Line
  record : String
  after : List Line
  deriving DecidableEq, Repr

/-- The first result for the command with this token. -/
def firstResult? (token : Nat) : List Line → Option ResultAt
  | [] => none
  | line :: lines =>
    match line.resultFor? token with
    | some record => some ⟨[], record, lines⟩
    | none =>
      (firstResult? token lines).map fun found => { found with before := line :: found.before }

section FirstResult

variable {token : Nat} {line : Line} {lines : List Line}

theorem firstResult?_cons_result {record : String} (h : line.resultFor? token = some record) :
    firstResult? token (line :: lines) = some ⟨[], record, lines⟩ := by
  rw [firstResult?, h]

theorem firstResult?_cons_other (h : line.resultFor? token = none) :
    firstResult? token (line :: lines) =
      (firstResult? token lines).map
        fun found => { found with before := line :: found.before } := by
  rw [firstResult?, h]

/-- There is none exactly if no line is a result with the token. -/
theorem firstResult?_eq_none_iff :
    firstResult? token lines = none ↔ ∀ record, Line.result (some token) record ∉ lines := by
  induction lines with
  | nil => simp [firstResult?]
  | cons line lines ih =>
    cases h : line.resultFor? token with
    | some record =>
      obtain rfl := Line.resultFor?_eq_some.1 h
      rw [firstResult?_cons_result h]
      exact iff_of_false (by simp) fun absent => absent record (List.mem_cons_self ..)
    | none =>
      have other : ∀ record, Line.result (some token) record ≠ line := by
        rintro record rfl
        simp [Line.resultFor?] at h
      rw [firstResult?_cons_other h, Option.map_eq_none_iff, ih]
      simp [other]

/-- It is the first: no line before it is a result with the token. -/
theorem firstResult?_eq_some_iff {found : ResultAt} :
    firstResult? token lines = some found ↔
      lines = found.before ++ .result (some token) found.record :: found.after ∧
        ∀ record, Line.result (some token) record ∉ found.before := by
  induction lines generalizing found with
  | nil => simp [firstResult?]
  | cons line lines ih =>
    obtain ⟨before, record, after⟩ := found
    -- the first line answers, or it is one of those before the answer
    cases h : line.resultFor? token with
    | some mine =>
      obtain rfl := Line.resultFor?_eq_some.1 h
      rw [firstResult?_cons_result h]
      cases before with
      | nil => simp
      | cons first before =>
        refine iff_of_false (by simp) ?_
        rintro ⟨same, apart⟩
        obtain ⟨rfl, -⟩ := List.cons.inj same
        exact apart mine (List.mem_cons_self ..)
    | none =>
      have other : ∀ record, Line.result (some token) record ≠ line := by
        rintro record rfl
        simp [Line.resultFor?] at h
      rw [firstResult?_cons_other h, Option.map_eq_some_iff]
      constructor
      · rintro ⟨later, found, e⟩
        obtain ⟨same, apart⟩ := ih.1 found
        cases e
        exact ⟨by rw [same, List.cons_append], by simpa [other] using apart⟩
      · rintro ⟨same, apart⟩
        cases before with
        | nil => exact absurd (List.cons.inj same).1.symm (other record)
        | cons first before =>
          obtain ⟨rfl, rest⟩ := List.cons.inj same
          refine ⟨⟨before, record, after⟩, ih.2 ⟨rest, fun r mem => ?_⟩, rfl⟩
          exact apart r (List.mem_cons_of_mem _ mem)

end FirstResult

/-! ## One line -/

namespace Reader

@[simp] theorem push_nil (r : Reader) : r.push [] = r := by simp only [push, List.append_nil]

/-- The reader after a line of this kind. -/
def take (r : Reader) : Line → Reader
  | .result token record => r.takeResult token record
  | .async record =>
    let (record?, announcer) := r.announcer.record? record
    { r with announcer }.push record?.toList
  | .console text =>
    match r.pending with
    | some p => { r with pending := some { p with console := p.console ++ [text] } }
    | none => r.push [streamRecord .console text]
  | .target text => r.push [streamRecord .target text]
  | .log _ | .prompt => r

theorem takeRaw_eq (r : Reader) (raw : String) :
    r.takeRaw raw = (Line.ofRaw? raw).elim r r.take := by
  simp only [takeRaw, Line.ofRaw?]
  split <;> rfl

/-- The reader after the result of the request that waits. -/
def answered (r : Reader) (p : Pending) (record : String) : Reader :=
  { r with
    pending := none
    answers := r.answers ++
      [(p.token, answer p.command (Response.ofResult record p.console))] }.push
    ((unusedConsole p.command p.console).map (streamRecord .console))

/-- The reader after a line that no request takes. -/
def passed (r : Reader) (line : Line) : Reader :=
  { r with announcer := (line.records r.announcer).2 }.push (line.records r.announcer).1

/-- A result that nobody waits for is queued as a record, if it is a failure, or dropped. -/
theorem takeResult_stray {r : Reader} {token : Option Nat} (record : String)
    (stray : ∀ p ∈ r.pending, token ≠ some p.token) :
    r.takeResult token record = r.push (strayRecords record) := by
  have nobody : (r.pending.filter fun p => token = some p.token) = none := by
    rw [Option.filter_eq_none_iff]
    exact fun p waits => by simpa using stray p waits
  rw [takeResult, nobody, strayRecords]
  cases Status.ofResult record with
  | error message => rfl
  | done | running | other => exact (push_nil r).symm

/-- **All that a line can do**: it is the result that the waiting request asked for, or console text
that is kept for that request, or it passes the request by. -/
theorem take_cases (r : Reader) (line : Line) :
    (∃ p record, r.pending = some p ∧ line = .result (some p.token) record ∧
      r.take line = r.answered p record) ∨
    (∃ p text, r.pending = some p ∧ line = .console text ∧
      r.take line = { r with pending := some { p with console := p.console ++ [text] } }) ∨
    ((∀ p ∈ r.pending, line.resultFor? p.token = none ∧ line.consoleText? = none) ∧
      r.take line = r.passed line) := by
  cases line with
  | result token record =>
    by_cases mine : ∃ p ∈ r.pending, token = some p.token
    · obtain ⟨p, waits, rfl⟩ := mine
      refine .inl ⟨p, record, waits, rfl, ?_⟩
      simp only [take, takeResult, Option.mem_def.1 waits, Option.filter_some, decide_true, if_true]
      rfl
    · have stray : ∀ p ∈ r.pending, token ≠ some p.token := fun p waits e => mine ⟨p, waits, e⟩
      refine .inr (.inr ⟨fun p waits => ⟨if_neg (stray p waits), rfl⟩, ?_⟩)
      exact takeResult_stray record stray
  | console text =>
    cases waits : r.pending with
    | some p => exact .inr (.inl ⟨p, text, rfl, rfl, by rw [take, waits]⟩)
    | none => exact .inr (.inr ⟨by simp, by rw [take, waits]; rfl⟩)
  | async record => exact .inr (.inr ⟨fun _ _ => ⟨rfl, rfl⟩, rfl⟩)
  | target text => exact .inr (.inr ⟨fun _ _ => ⟨rfl, rfl⟩, rfl⟩)
  | log text => exact .inr (.inr ⟨fun _ _ => ⟨rfl, rfl⟩, (push_nil r).symm⟩)
  | prompt => exact .inr (.inr ⟨fun _ _ => ⟨rfl, rfl⟩, (push_nil r).symm⟩)

end Reader

/-! ## Requests among lines -/

/-- Something that happens to the reader. -/
inductive Incident
  /-- A line is read, with whatever ends it. -/
  | line (raw : String)
  /-- A request is registered. -/
  | request (token : Nat) (command : String)
  deriving DecidableEq, Repr

/-- The line that is read, if it is not empty. -/
def Incident.line? : Incident → Option Line
  | .line raw => Line.ofRaw? raw
  | .request _ _ => none

/-- The lines of a history. -/
def linesOf (history : List Incident) : List Line := history.filterMap Incident.line?

/-- The reply that lines bring to a request: it is made from the first result with its token and
from what was printed on the console before that. -/
def replyFrom? (p : Pending) (lines : List Line) : Option String :=
  (firstResult? p.token lines).map fun found =>
    answer p.command (Response.ofResult found.record (p.console ++ consoleTexts found.before))

/-- A request with the console text of a line that it keeps. -/
def Pending.hearing (p : Pending) (line : Line) : Pending :=
  { p with console := p.console ++ line.consoleText?.toList }

theorem Pending.hearing_silent (p : Pending) {line : Line} (silent : line.consoleText? = none) :
    p.hearing line = p := by
  rw [hearing, silent, Option.toList_none, List.append_nil]

theorem replyFrom?_cons_result {p : Pending} {line : Line} {lines : List Line} {record : String}
    (h : line.resultFor? p.token = some record) :
    replyFrom? p (line :: lines) =
      some (answer p.command (Response.ofResult record p.console)) := by
  rw [replyFrom?, firstResult?_cons_result h, Option.map_some, consoleTexts, List.filterMap_nil,
    List.append_nil]

theorem replyFrom?_cons_other {p : Pending} {line : Line} {lines : List Line}
    (h : line.resultFor? p.token = none) :
    replyFrom? p (line :: lines) = replyFrom? (p.hearing line) lines := by
  rw [replyFrom?, firstResult?_cons_other h, Option.map_map]
  cases said : line.consoleText? <;>
    simp [replyFrom?, Pending.hearing, consoleTexts, said, Function.comp_def]

namespace Reader

/-- The reader after an incident. -/
def meet (r : Reader) : Incident → Reader
  | .line raw => r.takeRaw raw
  | .request token command => r.register token command

/-- The reader after a history. -/
def after (r : Reader) (history : List Incident) : Reader := history.foldl meet r

/-- The replies to the request with this token. -/
def repliesTo (r : Reader) (token : Nat) : List String :=
  (r.answers.filter fun a => a.1 = token).map (·.2)

/-- Requests come one at a time, when none waits, and with increasing tokens from `next` on. -/
def Orderly : Reader → Nat → List Incident → Prop
  | _, _, [] => True
  | r, next, .line raw :: history => (r.takeRaw raw).Orderly next history
  | r, next, .request token command :: history =>
    r.pending = none ∧ next ≤ token ∧ (r.register token command).Orderly (token + 1) history

variable {r : Reader} {p : Pending} {token next : Nat} {history : List Incident}

/-! ### A request that does not wait -/

/-- No request with this token waits. -/
def Settled (r : Reader) (token : Nat) : Prop := ∀ p ∈ r.pending, p.token ≠ token

theorem repliesTo_answered (r : Reader) (p : Pending) (record : String) (token : Nat) :
    (r.answered p record).repliesTo token = r.repliesTo token ++
      if p.token = token then [answer p.command (Response.ofResult record p.console)] else [] := by
  by_cases own : p.token = token <;> simp [repliesTo, answered, push, own]

/-- A settled token stays settled, and no line adds a reply to it. -/
theorem Settled.takeRaw (settled : r.Settled token) (raw : String) :
    (r.takeRaw raw).Settled token ∧ (r.takeRaw raw).repliesTo token = r.repliesTo token := by
  rw [takeRaw_eq]
  cases Line.ofRaw? raw with
  | none => exact ⟨settled, rfl⟩
  | some line =>
    rw [Option.elim_some]
    obtain ⟨p, record, waits, -, e⟩ | ⟨p, text, waits, -, e⟩ | ⟨-, e⟩ := take_cases r line
    · rw [e, repliesTo_answered, if_neg (settled p waits), List.append_nil]
      exact ⟨fun q waits => (Option.some_ne_none q waits.symm).elim, rfl⟩
    · rw [e]
      refine ⟨fun q waits' => ?_, rfl⟩
      cases waits'
      exact settled p waits
    · rw [e]
      exact ⟨settled, rfl⟩

/-- A request that does not wait gets no reply, as later requests have other tokens. -/
theorem Settled.repliesTo_after (settled : r.Settled token) (past : token < next)
    (orderly : r.Orderly next history) : (r.after history).repliesTo token = r.repliesTo token := by
  induction history generalizing r next with
  | nil => rfl
  | cons incident history ih =>
    cases incident with
    | line raw => rw [← (settled.takeRaw raw).2, ← ih (settled.takeRaw raw).1 past orderly]; rfl
    | request t command =>
      obtain ⟨-, rises, orderly⟩ := orderly
      have other : (r.register t command).Settled token := by
        intro p waits
        cases waits
        exact Nat.ne_of_gt (Nat.lt_of_lt_of_le past rises)
      exact ih other (Nat.lt_succ_of_lt (Nat.lt_of_lt_of_le past rises)) orderly

/-! ### A request that waits -/

/-- A line answers the request that waits, or is heard by it, or is not a line at all. -/
theorem takeRaw_waiting (waits : r.pending = some p) (raw : String) :
    (∃ record, Line.ofRaw? raw = some (.result (some p.token) record) ∧
      r.takeRaw raw = r.answered p record) ∨
    (∃ line, Line.ofRaw? raw = some line ∧ line.resultFor? p.token = none ∧
      (r.takeRaw raw).pending = some (p.hearing line) ∧ (r.takeRaw raw).answers = r.answers) ∨
    (Line.ofRaw? raw = none ∧ r.takeRaw raw = r) := by
  rw [takeRaw_eq]
  cases Line.ofRaw? raw with
  | none => exact .inr (.inr ⟨rfl, rfl⟩)
  | some line =>
    rw [Option.elim_some]
    obtain ⟨q, record, waits', own, e⟩ | ⟨q, text, waits', rfl, e⟩ | ⟨apart, e⟩ := take_cases r line
    · obtain rfl := Option.some.inj (waits.symm.trans waits')
      exact .inl ⟨record, congrArg some own, e⟩
    · obtain rfl := Option.some.inj (waits.symm.trans waits')
      exact .inr (.inl ⟨_, rfl, rfl, by rw [e]; rfl, by rw [e]⟩)
    · obtain ⟨other, silent⟩ := apart p waits
      refine .inr (.inl ⟨line, rfl, other, ?_, by rw [e]; rfl⟩)
      rw [e, p.hearing_silent silent]
      exact waits

/-- What a history brings to a request that waits: the reply that its lines bring, and no other. -/
theorem repliesTo_after_waiting (waits : r.pending = some p) (fresh : r.repliesTo p.token = [])
    (past : p.token < next) (orderly : r.Orderly next history) :
    (r.after history).repliesTo p.token = (replyFrom? p (linesOf history)).toList := by
  induction history generalizing r p with
  | nil => exact fresh
  | cons incident history ih =>
    cases incident with
    | request t command => exact absurd (waits.symm.trans orderly.1) (Option.some_ne_none p)
    | line raw =>
      change ((r.takeRaw raw).after history).repliesTo p.token = _
      have orderly : (r.takeRaw raw).Orderly next history := orderly
      -- the line is the answer, or it is heard, or it is no line
      obtain ⟨record, read, e⟩ | ⟨line, read, other, waits', same⟩ | ⟨read, e⟩ :=
        takeRaw_waiting waits raw
      · have settled : (r.answered p record).Settled p.token := fun q waits =>
          (Option.some_ne_none q waits.symm).elim
        rw [e] at orderly ⊢
        rw [settled.repliesTo_after past orderly, repliesTo_answered, fresh, if_pos rfl, linesOf,
          List.filterMap_cons_some (by exact read),
          replyFrom?_cons_result (Line.resultFor?_eq_some.2 rfl), List.nil_append,
          Option.toList_some]
      · rw [linesOf, List.filterMap_cons_some (by exact read), replyFrom?_cons_other other]
        exact ih waits' (by rw [repliesTo, same]; exact fresh) past orderly
      · rw [linesOf, List.filterMap_cons_none (by exact read)]
        rw [e] at orderly ⊢
        exact ih waits fresh past orderly

/-! ### Every request -/

/-- No answer has a token from `next` on, and no request that waits has one. -/
def TokensBelow (r : Reader) (next : Nat) : Prop :=
  ∀ token, next ≤ token → r.Settled token ∧ r.repliesTo token = []

/-- A line brings no token that was not given out. -/
theorem TokensBelow.takeRaw (below : r.TokensBelow next) (raw : String) :
    (r.takeRaw raw).TokensBelow next := by
  intro token from_next
  obtain ⟨settled, none⟩ := below token from_next
  obtain ⟨settled', same⟩ := settled.takeRaw raw
  exact ⟨settled', same.trans none⟩

/-- A new request takes the next token, and leaves the later ones free. -/
theorem TokensBelow.register (below : r.TokensBelow next) (rises : next ≤ token)
    (command : String) : (r.register token command).TokensBelow (token + 1) := by
  intro t past
  refine ⟨fun p waits => ?_, (below t (Nat.le_trans rises (Nat.le_of_succ_le past))).2⟩
  cases waits
  exact Nat.ne_of_lt past

/-- **A request gets the reply of the lines after it**, whatever came before. -/
theorem repliesTo_after_request {before after : List Incident} {command : String}
    (below : r.TokensBelow next)
    (orderly : r.Orderly next (before ++ .request token command :: after)) :
    (r.after (before ++ .request token command :: after)).repliesTo token =
      (replyFrom? { token, command } (linesOf after)).toList := by
  -- what came before only has to leave the new token unused
  induction before generalizing r next with
  | nil =>
    obtain ⟨-, rises, orderly⟩ := orderly
    have waits : (r.register token command).pending = some { token, command } := rfl
    exact repliesTo_after_waiting waits (below token rises).2 (Nat.lt_succ_self token) orderly
  | cons incident before ih =>
    cases incident with
    | line raw => exact ih (below.takeRaw raw) orderly
    | request t earlier => exact ih (below.register orderly.2.1 earlier) orderly.2.2

/-- After a history a stray result does what it does in its own line. -/
theorem after_line {before : List Incident} {raw : String} {token : Option Nat} {record : String}
    (read : Line.ofRaw? raw = some (.result token record))
    (stray : ∀ p ∈ (r.after before).pending, token ≠ some p.token) :
    r.after (before ++ [.line raw]) = (r.after before).push (strayRecords record) := by
  rw [after, List.foldl_append]
  change (r.after before).takeRaw raw = _
  rw [takeRaw_eq, read]
  exact takeResult_stray record stray

end Reader

/-- **Every request is answered by its own result, once.** In a history of lines and requests, where
requests come one at a time and with increasing tokens, a request gets no reply if no later line is
a result with its token. Otherwise it gets one, which is made from the first of these and from what
was printed on the console since the request. A result that is not that of the waiting request
leaves everything as it was, but for the record of an error. When the output ends, a request that
waits is released, and no reply is added. -/
theorem answered_by_own_result (history : List Incident) (orderly : Reader.Orderly {} 0 history) :
    let reader := Reader.after {} history
    (∀ before token command after, history = before ++ .request token command :: after →
      ((∀ record, .result (some token) record ∉ linesOf after) → reader.repliesTo token = []) ∧
      ∀ first record rest, linesOf after = first ++ .result (some token) record :: rest →
        (∀ earlier, .result (some token) earlier ∉ first) →
        reader.repliesTo token = [answer command (Response.ofResult record (consoleTexts first))]) ∧
    (∀ before raw after token record, history = before ++ .line raw :: after →
      Line.ofRaw? raw = some (.result token record) →
      (∀ p ∈ (Reader.after {} before).pending, token ≠ some p.token) →
      Reader.after {} (before ++ [.line raw]) =
        (Reader.after {} before).push (strayRecords record)) ∧
    ∀ debugger : Debugger, debugger.reader = reader →
      debugger.stopReading.reader = { reader with pending := none } := by
  intro reader
  refine ⟨fun before token command after split => ?_, fun before raw after token record _ read stray
    => Reader.after_line read stray, fun debugger same => same ▸ rfl⟩
  have below : Reader.TokensBelow {} 0 := fun _ _ => ⟨fun _ waits => (nomatch waits), rfl⟩
  have replies : reader.repliesTo token =
      (replyFrom? { token, command } (linesOf after)).toList := by
    subst split
    exact Reader.repliesTo_after_request below orderly
  constructor
  · intro none
    rw [replies, replyFrom?, firstResult?_eq_none_iff.2 none]
    rfl
  · intro first record rest split apart
    have found : firstResult? token (linesOf after) = some ⟨first, record, rest⟩ :=
      firstResult?_eq_some_iff.2 ⟨split, apart⟩
    rw [replies, replyFrom?, found]
    rfl

/-- Two requests: the first is answered in spite of a late result and of one without a token, the
second by nothing. -/
theorem answered_by_own_result_among_strays :
    let history : List Incident :=
      [.request 3 "whatis n", .line "2^done\n", .line "~\"type = int\\n\"\r\n",
        .line "^error,msg=\"Quit\"\n", .line "3^done\n", .request 4 "-gdb-set", .line "3^done\n"]
    let reader := Reader.after {} history
    Reader.Orderly {} 0 history ∧ reader.repliesTo 3 = ["int"] ∧ reader.repliesTo 4 = [] ∧
      reader.queue = ["50"] ∧ reader.pending = some ⟨4, "-gdb-set", []⟩ ∧
      ({ replies := [], reader } : Debugger).stopReading.reader.pending = none := by
  intro history reader
  have orderly : Reader.Orderly {} 0 history :=
    ⟨rfl, by decide, by decide +kernel, by decide, trivial⟩
  obtain ⟨replies, -, released⟩ := answered_by_own_result history orderly
  refine ⟨orderly, ?_, ?_, by decide +kernel, by decide +kernel, ?_⟩
  · obtain ⟨-, answered⟩ := replies [] 3 "whatis n" history.tail rfl
    exact answered [.result (some 2) "^done", .console "type = int\n",
      .result none "^error,msg=\"Quit\""] "^done" [.result (some 3) "^done"] (by decide +kernel)
      (by simp) |>.trans (by decide +kernel)
  · exact (replies (history.take 5) 4 "-gdb-set" (history.drop 6) rfl).1 (by
      rw [show linesOf (history.drop 6) = [.result (some 3) "^done"] by decide +kernel]
      simp)
  · rw [released _ rfl]

end DebugLink.Mi
