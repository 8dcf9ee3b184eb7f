import DebugLink.Proofs.Settling
import DebugLink.Session.Receive

/-!
# What the steps of a session do

One law for each step that later proofs take apart: commands, resuming, interrupting and the end of
a session.

* `finish_dead`, `finish_alive`: a session ends once, with the host told and the link closed.
* `resume_barred`, `resume_free`: the gate decides whether the target is resumed.
* `applyNotice_inserted`: a breakpoint that was inserted gets an entry in the table.
* `interrupt_idle`, `interrupt_barred`, `interrupt_free`: an interrupt reaches a target that runs.
-/

namespace DebugLink

/-- The peer that delivers just this before one call returns. -/
def Peer.reacting (peer : Peer) (past : List Call) (call : Call) (deliveries : List String) :
    Peer :=
  { peer with
    reactions := fun p c => if p = past ∧ c = call then deliveries else peer.reactions p c }

theorem Peer.reacting_answer (peer : Peer) (past : List Call) (call : Call)
    (deliveries : List String) : (peer.reacting past call deliveries).answer = peer.answer := rfl

/-- A session that has ended: whoever waits for an interrupt was released. -/
def Session.ended (s : Session) : Session :=
  { s with
    alive := false
    waiter := if s.waiter = .waiting then .dropped else s.waiter
    phase := .design }

/-- What the host was told in an event. -/
def Event.call? : Event → Option HostCall
  | told call _ => some call
  | _ => none

/-- What the host was told, the last of it first. -/
def World.calls (w : World) : List HostCall := w.events.filterMap Event.call?

/-- The world in which a command was sent that nobody waits for. -/
def World.submitting (w : World) (command : String) : World :=
  { w with sent := .submit command :: w.sent, events := .submitted command :: w.events }

/-- The world while the target is being resumed: the gate is taken and the target not yet said to
run. -/
def World.resuming (w : World) : World :=
  { w with session := { w.session with breakAll := ⟨false⟩, phase := .running } }

/-- The session when a command to resume has returned. -/
def Session.resumed (s : Session) : Session := { s with runMode := true, breakAll := ⟨true⟩ }

/-- The world in which a command was sent that is answered so. -/
def World.requesting (w : World) (command : String) (answer : Except Failure String) : World :=
  { w with sent := .request command :: w.sent, events := .requested command answer :: w.events }

/-- The world in which a record is handled: gdb's interrupts were forgotten, unless the record keeps
them. -/
def World.receiving (record : String) (w : World) : World :=
  if Act.keepsQuits record then w else { w with session := { w.session with quits := 0 } }

/-- What is left to do with a record that was handled: if that failed, it is logged. -/
def Act.logDropped (record : String) : Except Failure Unit → Act Unit
  | .ok () => pure ()
  | .error cause =>
    log .warn ("dropping " ++ Text.quoted record ++ ": " ++ cause.message)

/-- **Every gate is free.** -/
structure World.Free (w : World) : Prop where
  breakAll : w.session.breakAll.isFree = true
  conditionUpdate : w.session.conditionUpdate.isFree = true
  critical : w.session.critical.isFree = true
  bound : ∀ b ∈ w.bound, b.held = {}

instance (w : World) : Decidable w.Free :=
  decidable_of_iff (w.session.breakAll.isFree = true ∧ w.session.conditionUpdate.isFree = true ∧
      w.session.critical.isFree = true ∧ ∀ b ∈ w.bound, b.held = {})
    ⟨fun ⟨breakAll, conditionUpdate, critical, bound⟩ =>
        ⟨breakAll, conditionUpdate, critical, bound⟩,
      fun free => ⟨free.breakAll, free.conditionUpdate, free.critical, free.bound⟩⟩

/-- Where gdb's interrupts were not counted, there are none to forget. -/
theorem World.receiving_of_uncounted {w : World} (uncounted : w.session.quits = 0)
    (record : String) : w.receiving record = w := by
  unfold World.receiving
  split
  · rfl
  · rw [← uncounted]

@[simp] theorem Link.within_config (peer : Peer) (config : Config) (depth : Nat) :
    (Link.within peer config depth).config = config := by cases depth <;> rfl

@[simp] theorem Link.within_peer (peer : Peer) (config : Config) (depth : Nat) :
    (Link.within peer config depth).peer = peer := by cases depth <;> rfl

namespace Act

variable {link : Link} {w : World}

theorem request_apply (command : String) (link : Link) (w : World) :
    request command link w = (react w.sent (.request command) >>= fun _ =>
      settle (link.peer.answer w.sent command)) link
        (w.requesting command (link.peer.answer w.sent command)) := rfl

theorem react_apply (past : List Call) (call : Call) (link : Link) (w : World) :
    react past call link w =
      ((link.peer.reactions past call).forM takeDelivery : Act PUnit) link w :=
  rfl

/-- A request during which nothing arrives is answered at once. -/
theorem request_quiet {command : String}
    (quiet : link.peer.reactions w.sent (.request command) = []) :
    request command link w = match link.peer.answer w.sent command with
      | .ok answer => .ok answer (w.requesting command (.ok answer))
      | .error cause => .error (.failed cause) (w.requesting command (.error cause)) := by
  rw [request_apply, bind_apply, react_apply, quiet]
  cases link.peer.answer w.sent command <;> rfl

/-- A submitted command is recorded first, and the reactions follow only if it is accepted. -/
theorem submit_apply (command : String) (link : Link) (w : World) :
    submit command link w = match link.peer.accept w.sent command with
      | .ok () => react w.sent (.submit command) link (w.submitting command)
      | .error cause => .error (.failed cause) (w.submitting command) := by
  show (settle (link.peer.accept w.sent command) >>= fun _ => react w.sent (.submit command)) link
    (w.submitting command) = _
  cases link.peer.accept w.sent command <;> rfl

theorem close_apply (link : Link) (w : World) :
    close link w = settle link.peer.closing link { w with events := .closed :: w.events } := rfl

/-- **A session that has ended** does not end again. -/
theorem finish_dead (h : w.session.alive = false) (code : Nat) : finish code link w = .ok () w := by
  show (if w.session.alive then _ else _ : Act Unit) link w = _
  rw [h]
  rfl

/-- **The end of a session**: the host is told and the link is closed, each once. -/
theorem finish_alive (link : Link) (h : w.session.alive) (code : Nat) :
    ∃ notes : List Event, (∀ e ∈ notes, ∃ level text, e = .logged level text) ∧
      finish code link w = .ok () { w with
        session := w.session.ended
        events := notes ++ .closed :: .told (.sessionEnded code) w.session.ended ::
          .logged .info s!"debug session ended with exit code {code}" :: w.events } := by
  have released : (let s := { w.session with alive := false }
      { if s.waiter = .waiting then { s with waiter := .dropped } else s with phase := .design }) =
      w.session.ended := by
    unfold Session.ended
    by_cases hw : w.session.waiter = .waiting <;> simp [hw]
  have ended : finish code link w = (attempt close >>= fun outcome => match outcome with
      | .ok () => pure ()
      | .error cause => log .warn ("closing gdb: " ++ cause.message)) link { w with
        session := w.session.ended
        events := .told (.sessionEnded code) w.session.ended ::
          .logged .info s!"debug session ended with exit code {code}" :: w.events } := by
    show (if w.session.alive then _ else _ : Act Unit) link w = _
    rw [if_pos h, ← released]
    rfl
  -- closing the link is all that can fail, and then that is logged
  rw [ended, bind_apply, attempt_apply, close_apply]
  cases link.peer.closing with
  | ok _ => exact ⟨[], by simp, rfl⟩
  | error cause => exact ⟨[.logged .warn ("closing gdb: " ++ cause.message)], by simp, rfl⟩

/-- The host is told nothing by what closing the link has logged. -/
theorem calls_of_logged {notes : List Event}
    (logged : ∀ e ∈ notes, ∃ level text, e = .logged level text) :
    notes.filterMap Event.call? = [] := by
  refine List.filterMap_eq_nil_iff.2 fun e he => ?_
  obtain ⟨level, text, rfl⟩ := logged e he
  rfl

/-- The end of a session never fails, and the host is told of nothing else. -/
theorem finish_ok (link : Link) (w : World) (code : Nat) : ∃ v, finish code link w = .ok () v ∧
    v.session.alive = false ∧
      v.calls = if w.session.alive then .sessionEnded code :: w.calls else w.calls := by
  cases alive : w.session.alive with
  | false => exact ⟨w, finish_dead alive code, alive, rfl⟩
  | true =>
    obtain ⟨notes, logged, e⟩ := finish_alive link alive code
    refine ⟨_, e, rfl, ?_⟩
    unfold World.calls
    rw [List.filterMap_append, calls_of_logged logged]
    rfl

/-- The end of a session leaves what was sent and bound, and the host learns nothing but the end. -/
theorem after_finish (link : Link) (w : World) (code : Nat) :
    ((finish code).after link w).sent = w.sent ∧ ((finish code).after link w).bound = w.bound ∧
      ((finish code).after link w).session =
        if w.session.alive then w.session.ended else w.session := by
  cases ha : w.session.alive with
  | false =>
    rw [after_of_ok (finish_dead ha code)]
    exact ⟨rfl, rfl, rfl⟩
  | true =>
    obtain ⟨notes, -, e⟩ := finish_alive link ha code
    rw [after_of_ok e]
    exact ⟨rfl, rfl, rfl⟩

/-- While an interrupt is awaited, nothing is resumed. -/
theorem resume_barred (h : w.session.breakAll.isFree = false) : resume link w = .ok () w := by
  unfold resume
  rw [look_apply]
  unfold Permit.tryTake
  rw [h]
  rfl

/-- **Resuming** bars every other resumption until the command was sent. -/
theorem resume_free (h : w.session.breakAll.isFree) :
    resume link w = (attempt (submit link.config.continueCommand) >>= fun sent =>
      setRunMode true >>= fun _ =>
        update (fun s => { s with breakAll := s.breakAll.release }) >>= fun _ => settle sent) link
      { w with session := { w.session with breakAll := ⟨false⟩, phase := .running } } := by
  unfold resume
  rw [look_apply]
  unfold Permit.tryTake
  rw [h]
  rfl

/-- A resumption that is accepted is announced, submitted, reacted to and only then marked as
running. -/
theorem resume_accepted (h : w.session.breakAll.isFree)
    (accepted : link.peer.accept w.sent link.config.continueCommand = .ok ()) :
    resume link w = (attempt (react w.sent (.submit link.config.continueCommand)) >>= fun sent =>
      setRunMode true >>= fun _ =>
        update (fun s => { s with breakAll := s.breakAll.release }) >>= fun _ => settle sent) link
      (w.resuming.submitting link.config.continueCommand) := by
  have sent : submit link.config.continueCommand link w.resuming =
      react w.sent (.submit link.config.continueCommand) link
        (w.resuming.submitting link.config.continueCommand) := by
    rw [submit_apply]
    rw [show link.peer.accept w.resuming.sent link.config.continueCommand = .ok () from accepted]
    rfl
  rw [resume_free h]
  show (attempt (submit link.config.continueCommand) >>= _) link w.resuming = _
  rw [bind_apply, bind_apply, attempt_apply, attempt_apply, sent]

/-- A target that does not run is not interrupted. -/
theorem interrupt_idle (h : ¬(w.session.phase = .running ∧ w.session.runMode)) :
    interrupt link w = .ok () w := by
  unfold interrupt
  rw [look_apply, if_neg (by simpa using h)]
  rfl

/-- Two interrupts do not go together: the second one waits for the first. -/
theorem interrupt_barred (h : w.session.phase = .running ∧ w.session.runMode)
    (hb : w.session.breakAll.isFree = false) :
    interrupt link w =
      .error .blocked { w with session := { w.session with waiter := .waiting } } := by
  unfold interrupt
  rw [look_apply, if_pos (by simpa using h), update_apply, look_apply]
  unfold Permit.tryTake
  rw [hb]
  rfl

/-- **An interrupt** bars every resumption until its stop was handled. -/
theorem interrupt_free (h : w.session.phase = .running ∧ w.session.runMode)
    (hb : w.session.breakAll.isFree) :
    interrupt link w = (attempt (submit "-exec-interrupt" >>= fun _ => awaitInterrupt) >>=
      fun outcome => update (fun s => { s with breakAll := s.breakAll.release }) >>= fun _ =>
        settle outcome) link
      { w with session := { w.session with waiter := .waiting, breakAll := ⟨false⟩ } } := by
  unfold interrupt
  rw [look_apply, if_pos (by simpa using h), update_apply, look_apply]
  unfold Permit.tryTake
  rw [hb]
  rfl

theorem isRunning_bind_of_running {α : Type} {next : Bool → Act α}
    (h : w.session.phase = .running ∧ w.session.runMode) :
    (isRunning >>= next) link w = next true link w := by
  show next (decide (w.session.phase = .running) && w.session.runMode) link w = _
  rw [show (decide (w.session.phase = .running) && w.session.runMode) = true by simpa using h]

theorem isRunning_bind_of_idle {α : Type} {next : Bool → Act α}
    (h : ¬(w.session.phase = .running ∧ w.session.runMode)) :
    (isRunning >>= next) link w = next false link w := by
  show next (decide (w.session.phase = .running) && w.session.runMode) link w = _
  rw [show (decide (w.session.phase = .running) && w.session.runMode) = false by simpa using h]

/-- A target that runs is interrupted for an edit, and to be resumed after it. -/
theorem pauseForEdit_of_running (h : w.session.phase = .running) :
    pauseForEdit link w =
      interrupt link { w with session := { w.session with needsResume := true } } := by
  unfold pauseForEdit
  rw [look_apply, h]
  rfl

/-! ## Edits -/

/-- A breakpoint that was inserted gets an entry; only one without a location says anything of the
code at the current frame. -/
theorem applyNotice_inserted (s : Breakpoint.Snapshot) (link : Link) (w : World) :
    applyNotice (.inserted s) link w = .ok () { w with session := { w.session with
      unknownCode := s.isPending || w.session.unknownCode
      table := w.session.table.insert s } } := by
  show (if s.isPending then setUnknownCode true >>= fun _ => updateTable (·.insert s)
    else updateTable (·.insert s) : Act Unit) link w = _
  cases s.isPending <;> rfl

theorem insert_dead (h : w.session.alive = false) (location : Breakpoint.Location) :
    insert location link w = .ok none w := by
  show (if !w.session.alive then pure none else _ : Act (Option Breakpoint.Snapshot)) link w = _
  rw [h]
  rfl

/-- A line is asked for with the full path of its file, and with the bare name if need be. -/
theorem insert_line (h : w.session.alive = true) (file fullPath : String) (line : Nat) :
    insert (.line file fullPath line) link w = whilePaused (requestInsert
        s!"-break-insert --thread-group {link.config.threadGroup} -f {fullPath}:{line}"
        (if file = fullPath then none
          else some s!"-break-insert --thread-group {link.config.threadGroup} -f {file}:{line}"))
      link w := by
  show (if !w.session.alive then pure none else _ : Act (Option Breakpoint.Snapshot)) link w = _
  rw [h]
  rfl

theorem insert_function (h : w.session.alive = true) (name : String) :
    insert (.function name) link w =
      whilePaused (requestInsert s!"-break-insert {name}" none) link w := by
  show (if !w.session.alive then pure none else _ : Act (Option Breakpoint.Snapshot)) link w = _
  rw [h]
  rfl

theorem delete_dead (h : w.session.alive = false) (id : Nat) : delete id link w = .ok true w := by
  show (if !w.session.alive then pure true else _ : Act Bool) link w = _
  rw [h]
  rfl

theorem delete_alive (h : w.session.alive = true) (id : Nat) :
    delete id link w = whilePaused (requestEcho s!"-break-delete {id}" id) link w := by
  show (if !w.session.alive then pure true else _ : Act Bool) link w = _
  rw [h]
  rfl

/-! ## Bound breakpoints, and what is held meanwhile -/

section Bound

open Breakpoint

variable {i : Nat} {b : Bound}

/-- Changing a breakpoint that is there is setting it. -/
theorem modify_of_getElem? {bounds : List Bound} (h : bounds[i]? = some b) (f : Bound → Bound) :
    bounds.modify i f = bounds.set i (f b) := by
  obtain ⟨size, rfl⟩ := List.getElem?_eq_some_iff.1 h
  refine List.ext_getElem? fun j => ?_
  rw [List.getElem?_modify, List.getElem?_set]
  by_cases same : i = j
  · subst same
    simp [size]
  · simp [same]

theorem boundAt_apply (h : w.bound[i]? = some b) : bound i link w = .ok b w := by
  unfold bound
  rw [get_apply, h]
  rfl

/-- A breakpoint that was found is in the world, and looking for it changed nothing. -/
theorem getElem?_of_bound {v : World} (h : bound i link w = .ok b v) :
    w.bound[i]? = some b ∧ v = w := by
  unfold bound at h
  rw [get_apply] at h
  cases found : w.bound[i]? with
  | none =>
    rw [found] at h
    cases h
  | some c =>
    rw [found] at h
    cases h
    exact ⟨rfl, rfl⟩

theorem updateBound_apply (h : w.bound[i]? = some b) (f : Bound → Bound) :
    updateBound i f link w = .ok () { w with bound := w.bound.set i (f b) } := by
  rw [← modify_of_getElem? h]
  rfl

/-- Gates are taken of a breakpoint that is there, and nothing else changes. -/
theorem of_takeGates {gates : Gates} {v : World} (h : takeGates i gates w = some v) :
    ∃ b held, w.bound[i]? = some b ∧ b.held.tryTake gates = some held ∧
      v = { w with bound := w.bound.set i { b with held } } := by
  obtain ⟨b', taken, rfl⟩ := Option.map_eq_some_iff.1 h
  obtain ⟨b, found, tried⟩ := Option.bind_eq_some_iff.1 taken
  obtain ⟨held, took, rfl⟩ := Option.map_eq_some_iff.1 tried
  exact ⟨b, held, found, took, rfl⟩

theorem takeGates_free {gates : Gates} (h : w.bound[i]? = some b)
    (free : b.held.meets gates = false) : takeGates i gates w =
      some { w with bound := w.bound.set i { b with held := b.held.union gates } } := by
  simp [takeGates, h, Bound.tryHold, Gates.tryTake, free]

/-- A step while gates are held that were free. -/
theorem Settles.withGates {α : Type} {act : Act α} {gates : Gates} {v : World}
    (h : w.bound[i]? = some b) (free : b.held.meets gates = false)
    (settles : act.Settles link
      { w with bound := w.bound.set i { b with held := b.held.union gates } } v) :
    (Act.withGates i gates act).Settles link w (giveGates i gates v) :=
  .holding (takeGates_free h free) settles

theorem Asserts.withGates {α : Type} {act : Act α} {gates : Gates} (h : w.bound[i]? = some b)
    (free : b.held.meets gates = false)
    (asserts : act.Asserts link
      { w with bound := w.bound.set i { b with held := b.held.union gates } }) :
    (Act.withGates i gates act).Asserts link w :=
  .holding (takeGates_free h free) asserts

/-- Gates are given back to a breakpoint that did not hold them before. -/
theorem bound_giveGates {v : World} {b' : Bound} {gates : Gates} (h : w.bound[i]? = some b)
    (held : v.bound = w.bound.set i { b' with held := b'.held.union gates })
    (apart : b'.held.meets gates = false) : (giveGates i gates v).bound = w.bound.set i b' := by
  have found : v.bound[i]? = some { b' with held := b'.held.union gates } := by
    rw [held]
    exact List.getElem?_set_self (List.getElem?_eq_some_iff.1 h).1
  have taken : b'.held.tryTake gates = some (b'.held.union gates) := by
    simp [Gates.tryTake, apart]
  have free : ({ b' with held := b'.held.union gates } : Bound).free gates = b' := by
    unfold Bound.free
    rw [(Gates.held_tryTake taken).2]
  show v.bound.modify i (·.free gates) = _
  rw [modify_of_getElem? found, free, held, List.set_set]

/-- A step inside the critical region, if nobody is there. -/
theorem Settles.inRegion {α : Type} {act : Act α} {v : World}
    (free : w.session.critical.isFree = true)
    (settles : act.Settles link { w with session := { w.session with critical := ⟨false⟩ } } v) :
    (Act.inRegion act).Settles link w
      { v with session := { v.session with critical := ⟨true⟩ } } := by
  refine .holding ?_ settles
  simp [Permit.tryTake, free]

theorem Asserts.inRegion {α : Type} {act : Act α} (free : w.session.critical.isFree = true)
    (asserts : act.Asserts link { w with session := { w.session with critical := ⟨false⟩ } }) :
    (Act.inRegion act).Asserts link w := by
  refine .holding ?_ asserts
  simp [Permit.tryTake, free]

end Bound

/-! ## Records -/

/-- **A record is handled** in the world in which it is received, and a failure is logged. -/
theorem receive_apply (record : String) (link : Link) (w : World) :
    receive record link w =
      (attempt (handleRecord record) >>= logDropped record) link (w.receiving record) := by
  have logged : receive record = (session >>= fun s =>
      (if 0 < s.quits && !keepsQuits record then resetQuits else pure ()) >>= fun _ =>
        attempt (handleRecord record) >>= logDropped record) := by
    funext link w
    unfold receive logDropped
    rw [look_apply, look_apply]
    split <;> rfl
  rw [logged, look_apply]
  unfold World.receiving
  by_cases keeps : keepsQuits record = true
  · rw [if_pos keeps, if_neg (by simp [keeps])]
    rfl
  · rw [if_neg keeps]
    by_cases counted : 0 < w.session.quits
    · rw [if_pos (by simp [keeps, counted])]
      rfl
    · -- nothing was counted, so nothing is forgotten
      have none : w.session.quits = 0 := Nat.eq_zero_of_not_pos counted
      have same : ({ w with session := { w.session with quits := 0 } } : World) = w := by
        rw [← none]
      rw [if_neg (by simp [counted]), same]
      rfl

/-! ## Steps without failures -/

/-- A step that stops for good or gives a value, but never stops with a failure. -/
def Unfailing {α : Type} (link : Link) (act : Act α) : Prop :=
  ∀ w cause v, act link w ≠ .error (.failed cause) v

namespace Unfailing

variable {α β : Type} {link : Link}

theorem pure (a : α) : Unfailing link (Pure.pure a : Act α) := by
  intro w cause v e
  cases e

/-- A step that only changes the world. -/
theorem modify (f : World → World) : Unfailing link (modify f : Act PUnit) := by
  intro w cause v e
  cases e

/-- The first part may halt in any other way; only a plain failure is excluded. -/
theorem bind {act : Act α} {next : α → Act β} (first : Unfailing link act)
    (second : ∀ value, Unfailing link (next value)) : Unfailing link (act >>= next) := by
  intro w cause v
  rw [bind_apply]
  cases h : act link w with
  | ok value u => exact second value u cause v
  | error halt u =>
    intro e
    refine first w cause u (h.trans ?_)
    cases e
    rfl

/-- A failure that is caught is an outcome. -/
theorem attempt (act : Act α) : Unfailing link (Act.attempt act) := by
  intro w cause v e
  rw [attempt_apply] at e
  cases h : act link w with
  | ok value u => rw [h] at e; cases e
  | error halt u => rw [h] at e; cases halt <;> cases e

theorem look {next : Session → Act α} (each : ∀ s, Unfailing link (next s)) :
    Unfailing link (session >>= next) := fun w => each w.session w

theorem forM {list : List β} {act : β → Act PUnit} (each : ∀ x, Unfailing link (act x)) :
    Unfailing link (list.forM act) := by
  induction list with
  | nil => exact pure PUnit.unit
  | cons x list ih => exact (each x).bind fun _ => ih

/-- A record that cannot be handled is logged, so no failure leaves it. -/
theorem receive (record : String) : Unfailing link (Act.receive record) := by
  unfold Act.receive
  refine look fun s => ?_
  extract_lets handled
  have h_handled : ∀ r, Unfailing link (handled r) := by
    intro r
    -- whatever handling the record gave is an outcome here
    refine (attempt _).bind fun outcome => ?_
    cases outcome with
    | ok _ => exact pure _
    | error cause => exact modify _
  split
  · exact (modify _).bind h_handled
  · exact h_handled ()

/-- **A delivery never fails**: what is wrong with a record is logged. -/
theorem deliver (delivery : String) : Unfailing link (Act.deliver delivery) := by
  have alive : ∀ record, Unfailing link (receiveAlive record) := by
    intro record
    unfold receiveAlive
    refine look fun s => ?_
    split
    · exact receive record
    · exact pure ()
  exact forM alive

/-- The reactions to a call are deliveries, and no failure leaves those. -/
theorem react (peer : Peer) (config : Config) (depth : Nat) (past : List Call) (call : Call) :
    Unfailing (.within peer config depth) (Act.react past call) := by
  have taken : ∀ delivery, Unfailing (.within peer config depth) (takeDelivery delivery) := by
    intro delivery
    refine .bind (modify _) fun _ => ?_
    -- the delivery is handled one level deeper, if calls may be nested as deep
    cases depth with
    | zero =>
      intro w cause v e
      cases e
    | succ depth =>
      have below : Unfailing (.within peer config depth) (Act.deliver delivery) := deliver delivery
      exact below
  intro w
  rw [react_apply]
  exact forM taken w

end Unfailing

end Act

end DebugLink
