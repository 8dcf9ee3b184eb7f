import DebugLink.Proofs.Answer
import DebugLink.Proofs.Barred

/-!
# The commands of an edit

With a peer that answers with what it makes of the results of gdb, the commands of an edit change
nothing but what is known of breakpoints, tell the host nothing and do not wake the target. They
give a value or fail, and never stop for good.

* `Calm`: what such a step leaves alone.
* `Modest.requestInsert`, `Modest.requestEcho`, `Modest.requestNotice`: what the commands of edits
  are made of.
* `gentle_modest`: so these commands are gentle.
-/

namespace DebugLink

open Act Breakpoint

/-- **A calm change**: the session knows something else of breakpoints, and nothing that resumes or
interrupts the target was sent. -/
structure Calm (c : Config) (v u : World) : Prop where
  session : u.session =
    { v.session with unknownCode := u.session.unknownCode, table := u.session.table }
  calls : u.calls = v.calls
  wakes : u.wakes c = v.wakes c

namespace Calm

variable {c : Config} {u v w : World}

theorem refl (w : World) : Calm c w w := ⟨rfl, rfl, rfl⟩

theorem trans (h : Calm c u v) (k : Calm c v w) : Calm c u w := by
  refine ⟨?_, k.calls.trans h.calls, k.wakes.trans h.wakes⟩
  rw [k.session, h.session]

theorem phase (h : Calm c v w) : w.session.phase = v.session.phase := by rw [h.session]

theorem needsResume (h : Calm c v w) : w.session.needsResume = v.session.needsResume := by
  rw [h.session]

theorem waiter (h : Calm c v w) : w.session.waiter = v.session.waiter := by rw [h.session]

theorem breakAll (h : Calm c v w) : w.session.breakAll = v.session.breakAll := by rw [h.session]

end Calm

/-- **A gentle step** changes a world calmly, and gives a value or fails. -/
structure Gentle {α : Type} (c : Config) (link : Link) (act : Act α) : Prop where
  calm : ∀ w, Calm c w (act.after link w)
  settles : ∀ w halt u, act link w = .error halt u → ∃ cause, halt = .failed cause

namespace Gentle

variable {α β : Type} {c : Config} {link : Link}

theorem pure (value : α) : Gentle c link (Pure.pure value : Act α) := by
  refine ⟨fun w => .refl w, ?_⟩
  intro w halt u e
  cases e

theorem fail (cause : Failure) : Gentle c link (Act.fail cause : Act α) :=
  ⟨fun w => .refl w, fun _ _ _ e => by cases e; exact ⟨cause, rfl⟩⟩

/-- Two gentle acts are gentle one after the other. -/
theorem bind {act : Act α} {next : α → Act β} (first : Gentle c link act)
    (second : ∀ value, Gentle c link (next value)) : Gentle c link (act >>= next) := by
  constructor
  · intro w
    have h := first.calm w
    rw [after_bind]
    cases e : act link w with
    | ok value v => rw [after_of_ok e] at h; exact h.trans ((second value).calm v)
    | error halt v => rw [after_of_error e] at h; exact h
  · intro w halt u e
    rw [bind_apply] at e
    cases ha : act link w with
    | ok value v => rw [ha] at e; exact (second value).settles v halt u e
    | error halt' v =>
      rw [ha] at e
      cases e
      exact first.settles w halt u ha

theorem discard {act : Act α} (h : Gentle c link act) : Gentle c link (Functor.discard act) := by
  rw [discard_eq_bind]
  exact h.bind fun _ => pure _

/-- A gentle step that is attempted gives a value. -/
theorem attempt_ok {act : Act α} (h : Gentle c link act) (w : World) :
    ∃ outcome, Act.attempt act link w = .ok outcome (act.after link w) := by
  rw [attempt_apply]
  cases e : act link w with
  | ok value v => rw [after_of_ok e]; exact ⟨_, rfl⟩
  | error halt v =>
    obtain ⟨cause, rfl⟩ := h.settles w halt v e
    rw [after_of_error e]
    exact ⟨_, rfl⟩

/-- A step that always gives a value. -/
theorem of_ok {act : Act α} {value : World → α} {f : World → World}
    (h : ∀ w, act link w = .ok (value w) (f w)) (calm : ∀ w, Calm c w (f w)) :
    Gentle c link act := by
  constructor
  · intro w
    rw [after_of_ok (h w)]
    exact calm w
  · intro w halt u e
    rw [h w] at e
    cases e

theorem log (level : LogLevel) (text : String) : Gentle c link (Act.log level text) :=
  of_ok (fun _ => rfl) fun _ => ⟨rfl, rfl, rfl⟩

theorem setUnknownCode (on : Bool) : Gentle c link (Act.setUnknownCode on) :=
  of_ok (fun _ => rfl) fun _ => ⟨rfl, rfl, rfl⟩

theorem updateTable (f : Table → Table) : Gentle c link (Act.updateTable f) :=
  of_ok (fun _ => rfl) fun _ => ⟨rfl, rfl, rfl⟩

/-! ## Answers -/

/-- A plain notice changes the table and at most what is known of the code. -/
theorem applyNotice {notice : Notice} (plain : notice.isPlain = true) :
    Gentle c link (applyNotice notice) := by
  unfold Act.applyNotice
  cases notice with
  | inserted snapshot =>
    dsimp only
    split
    · exact (setUnknownCode _).bind fun _ => updateTable _
    · exact updateTable _
  | modified snapshot => cases plain
  | deleted id => exact updateTable _
  | enabled id => exact updateTable _
  | disabled id => exact updateTable _
  | ignoreCount id count => exact updateTable _
  | condition id condition => exact updateTable _
  | hit id file line thread => cases plain
  | conditionError => exact pure _
  | unused => exact pure _

/-- A record about a breakpoint is handled gently if it announces something plain. -/
theorem handleBreakpoint {record : String}
    (plain : ∀ n, Notice.read record = .ok n → n.isPlain = true) :
    Gentle c link (handleBreakpoint record) := by
  unfold Act.handleBreakpoint
  split
  · exact fail _
  · rename_i notice read
    exact (applyNotice (plain notice read)).bind fun _ => pure _

end Gentle

/-! ## Commands -/

/-- The command with which gdb lets hits of a breakpoint pass. -/
def breakAfter (id count : Nat) : String := s!"-break-after {id} {count}"

theorem toList_breakAfter (id count : Nat) : (breakAfter id count).toList =
    "-break-after".toList ++ ' ' :: ((toString id).toList ++ ' ' :: (toString count).toList) := by
  unfold breakAfter
  simp only [String.toList_append, List.append_assoc]
  rfl

/-- A condition that gdb checks is given with one command, whether it is empty or not. -/
theorem setGdbCondition_eq (id : Nat) (condition : String) : ∃ command rest,
    setGdbCondition id condition = requestNotice command ∧
      command.toList = "-break-condition".toList ++ ' ' :: rest := by
  unfold setGdbCondition
  split
  · refine ⟨_, (toString id).toList, rfl, ?_⟩
    simp only [String.toList_append]
    rfl
  · refine ⟨_, (toString id ++ " " ++ condition).toList, rfl, ?_⟩
    simp only [String.toList_append]
    rfl

/-- **A modest property** of steps: everything has it that is made of requests, of plain answers and
of the log. -/
structure Modest (L : {α : Type} → Act α → Prop) : Prop where
  pure : ∀ {α : Type} (value : α), L (Pure.pure value : Act α)
  bind : ∀ {α β : Type} {act : Act α} {next : α → Act β},
    L act → (∀ value, L (next value)) → L (act >>= next)
  log : ∀ level text, L (log level text)
  /-- A request and what is done with its answer, if that has the property for every answer that is
  made from a result. -/
  request : ∀ {α : Type} {command : String} {next : String → Act α},
    (∀ response, L (next (Mi.answer command response))) → L (request command >>= next)
  handleBreakpoint : ∀ {record : String},
    (∀ n, Notice.read record = .ok n → n.isPlain = true) → L (handleBreakpoint record)

namespace Modest

variable {L : {α : Type} → Act α → Prop} (modest : Modest L)

include modest

/-- **Inserting a breakpoint.** -/
theorem requestInsert (command : String) (fallback : Option String) :
    L (requestInsert command fallback) := by
  have asked : ∀ command, L (Act.request command) := by
    intro command
    rw [← bind_pure (Act.request command)]
    exact modest.request fun _ => modest.pure _
  unfold Act.requestInsert
  refine modest.bind (asked command) fun first => ?_
  extract_lets answered
  have h_answered : ∀ answer, L (answered answer) := by
    intro answer
    dsimp only [answered]
    split
    · exact modest.bind (modest.log _ _) fun _ => modest.pure _
    · rename_i inserted
      have plain : ∀ n, Notice.read answer = .ok n → n.isPlain = true := fun n =>
        Mi.plain_of_inserted (by simpa using inserted)
      refine modest.bind (modest.handleBreakpoint plain) fun notice => ?_
      split <;> exact modest.pure _
  -- the second command follows only a first one that left the breakpoint without a location
  split
  · split
    · exact modest.bind (asked _) h_answered
    · exact modest.bind (modest.pure first) h_answered
  · exact modest.bind (modest.pure first) h_answered

/-- **Deleting, enabling or disabling a breakpoint.** -/
theorem requestEcho {command : String} (verb : String) (hv : verb ∈ Mi.editVerbs)
    (rest : List Char) (h : command.toList = verb.toList ++ ' ' :: rest) (id : Nat) :
    L (requestEcho command id) := by
  unfold Act.requestEcho
  refine modest.request fun response => ?_
  extract_lets digit
  split
  · exact modest.bind (modest.log _ _) fun _ => modest.pure _
  · refine modest.bind (modest.handleBreakpoint fun n =>
      Mi.plain_of_answer hv (Mi.head_words hv h)) fun notice => ?_
    split <;> exact modest.pure _

/-- **Setting an ignore count or a condition.** -/
theorem requestNotice {command : String} (verb : String) (hv : verb ∈ Mi.editVerbs)
    (rest : List Char) (h : command.toList = verb.toList ++ ' ' :: rest) :
    L (requestNotice command) := by
  have read : ∀ response,
      L (Functor.discard (Act.handleBreakpoint (Mi.answer command response))) := by
    intro response
    rw [discard_eq_bind]
    exact modest.bind (modest.handleBreakpoint fun n =>
      Mi.plain_of_answer hv (Mi.head_words hv h)) fun _ => modest.pure _
  unfold Act.requestNotice
  refine modest.request fun response => ?_
  split
  · exact modest.pure _
  · exact modest.bind (read response) fun _ => modest.pure _

end Modest

theorem Peer.Attentive.within {peer : Peer} (h : peer.Attentive) (config : Config) (depth : Nat) :
    (Link.within peer config depth).peer.Attentive := by
  rw [Link.within_peer]
  exact h

section Attentive

variable {link : Link} (attentive : link.peer.Attentive)

include attentive

/-- Nothing arrives before a call returns that is no interrupt. -/
theorem react_attentive (past : List Call) {call : Call} (h : call ≠ .submit "-exec-interrupt") :
    react past call link = (pure () : Act Unit) link := by
  funext w
  rw [react_apply, attentive.reactions _ _ h]
  rfl

/-- A request is answered at once. -/
theorem request_attentive (command : String) (w : World) :
    request command link w = match link.peer.answer w.sent command with
      | .ok answer => .ok answer (w.requesting command (.ok answer))
      | .error cause => .error (.failed cause) (w.requesting command (.error cause)) :=
  request_quiet (attentive.reactions _ _ (by simp))

/-- A command that nobody waits for is taken or not, and that is all. -/
theorem submit_attentive {command : String} (h : command ≠ "-exec-interrupt") (w : World) :
    submit command link w =
      settle (link.peer.accept w.sent command) link (w.submitting command) := by
  rw [submit_apply, react_attentive attentive _ (by simpa using h)]
  cases link.peer.accept w.sent command <;> rfl

/-- A request and what is done with its answer, if that is gentle for every answer that is made from
a result. -/
theorem gentle_request_bind {α : Type} {c : Config} {command : String} {next : String → Act α}
    (each : ∀ response, Gentle c link (next (Mi.answer command response))) :
    Gentle c link (request command >>= next) := by
  have sent : ∀ w answer, Calm c w (w.requesting command answer) := fun w _ =>
    ⟨rfl, rfl, List.filter_cons_of_neg (by simp [Config.wakes])⟩
  constructor
  · intro w
    rw [after_bind, request_attentive attentive]
    cases ha : link.peer.answer w.sent command with
    | ok answer =>
      obtain ⟨response, rfl⟩ := attentive.answers _ _ _ ha
      exact (sent w _).trans ((each response).calm _)
    | error cause => exact sent w _
  · intro w halt u e
    rw [bind_apply, request_attentive attentive] at e
    cases ha : link.peer.answer w.sent command with
    | ok answer =>
      obtain ⟨response, rfl⟩ := attentive.answers _ _ _ ha
      rw [ha] at e
      exact (each response).settles _ halt u e
    | error cause =>
      rw [ha] at e
      cases e
      exact ⟨cause, rfl⟩

/-- Being gentle is modest. -/
theorem gentle_modest (c : Config) : Modest fun {α} act => Gentle (α := α) c link act where
  pure := .pure
  bind := .bind
  log := .log
  request := gentle_request_bind attentive
  handleBreakpoint := .handleBreakpoint

end Attentive

end DebugLink
