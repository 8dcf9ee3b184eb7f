import DebugLink.Proofs.Lockstep.Operation

/-!
# Invariants of a session

With the same link on both sides and equal worlds, lockstep says that a step keeps a predicate. An
invariant is a predicate that is kept by the changes, notes and calls of which operations are made,
and by the three steps that treat the end of a session and the gate on resuming. Some predicates are
kept by less than every operation: what the host is told may break them, or the commands that move a
thread. So these come one after the other.

* `lockstep_diag_iff`: lockstep on the diagonal is keeping a predicate.
* `Stable.footing`, `Steady.ground`: the ground of the handlers on the diagonal, without the phase
  and with it.
* `Robust.nested`: a robust predicate is kept by whatever is delivered, at any depth of nested
  calls.
* `Invariant.operation`, `Invariant.run`: an invariant is kept by every operation and every run.
* `Pliant.invariant`: what says nothing about a session but whether it is alive needs only the end
  of a session to be looked at.
-/

namespace DebugLink

open Breakpoint

/-- The commands that end a stop or bring one about without a thread being named. -/
def Config.wakes (c : Config) : List Call := [.submit c.continueCommand, .submit "-exec-interrupt"]

theorem Config.continueCommand_mem_wakes (c : Config) : Call.submit c.continueCommand ∈ c.wakes :=
  List.mem_cons_self

theorem Config.interrupt_mem_wakes (c : Config) : Call.submit "-exec-interrupt" ∈ c.wakes :=
  List.mem_cons_of_mem _ List.mem_cons_self

/-- The letter by which the commands about execution differ. -/
def execLetter (command : String) : Option Char := command.toList[6]?

/-- A command of motion is known by the letter behind its verb. -/
theorem Motion.execLetter_command (m : Motion) :
    execLetter m.command ∈ [some 'r', some 's', some 'n', some 'f'] := by
  unfold execLetter Motion.command
  split
  · exact List.mem_of_getElem? (i := 0) rfl
  · rw [String.toList_append]
    exact List.mem_of_getElem? (i := 1) rfl
  · rw [String.toList_append]
    exact List.mem_of_getElem? (i := 2) rfl
  · rw [String.toList_append, String.toList_append]
    exact List.mem_of_getElem? (i := 3) rfl

theorem Config.execLetter_continueCommand (c : Config) :
    execLetter c.continueCommand = some 'c' := by
  unfold execLetter Config.continueCommand
  rw [String.toList_append]
  rfl

/-- No command of motion wakes or interrupts a target: its letter is another. -/
theorem Motion.notMem_wakes (m : Motion) (c : Config) : Call.submit m.command ∉ c.wakes := by
  have h := m.execLetter_command
  unfold Config.wakes
  simp only [List.mem_cons, Call.submit.injEq, List.not_mem_nil, or_false]
  rintro (e | e) <;> rw [e] at h
  · rw [c.execLetter_continueCommand] at h
    revert h
    decide
  · rw [show execLetter "-exec-interrupt" = some 'i' from rfl] at h
    revert h
    decide

/-- Whether an event belongs to the end of a session. -/
def Event.endsSession : Event → Bool
  | told (.sessionEnded _) _ | closed => true
  | _ => false

/-- Whether an event is only a remark: nobody is told, and the link stays open. -/
def Event.isRemark : Event → Bool
  | told _ _ | closed => false
  | _ => true

theorem Event.endsSession_of_isRemark {e : Event} (h : e.isRemark = true) :
    e.endsSession = false := by
  cases e with
  | told call s => cases h
  | closed => cases h
  | _ => rfl

theorem Event.endsSession_told {call : HostCall} (h : ∀ code, call ≠ .sessionEnded code)
    (s : Session) : (told call s).endsSession = false := by
  cases call with
  | sessionEnded code => exact absurd rfl (h code)
  | _ => rfl

namespace Act

variable {α β : Type}

/-- A step **keeps** a predicate, in whichever way it ends. -/
def Keeps (I : World → Prop) (link : Link) (act : Act α) : Prop :=
  ∀ w, I w → I (act.after link w)

end Act

namespace Pairing

open Act

variable {α β : Type} {I : World → Prop} {link : Link}

/-- One link on both sides, and equal worlds that satisfy a predicate. -/
def diag (link : Link) (I : World → Prop) : Pairing :=
  ⟨link, link, fun v w => v = w ∧ I w, fun _ => False⟩

/-- **Lockstep on the diagonal** is keeping a predicate. -/
theorem lockstep_diag_iff {act : Act α} : (diag link I).Lockstep act ↔ act.Keeps I link := by
  constructor
  · intro h w hw
    rcases h.same w w ⟨rfl, hw⟩ with hp | he
    · exact hp.elim
    · unfold Act.after
      dsimp only [diag] at he
      generalize act link w = r at he
      cases he with
      | ok value hu => exact hu.2
      | error halt hu => exact hu.2
  · intro h
    refine ⟨fun _ hp => hp.elim, ?_⟩
    rintro _ w ⟨rfl, hw⟩
    right
    have hw := h _ hw
    unfold Act.after at hw
    dsimp only [diag]
    cases e : act link _ with
    | ok value u => rw [e] at hw; exact .ok value ⟨rfl, hw⟩
    | error halt u => rw [e] at hw; exact .error halt ⟨rfl, hw⟩

end Pairing

namespace Act.Keeps

open Pairing

variable {α β : Type} {I : World → Prop} {link : Link}

theorem bind {act : Act α} {next : α → Act β} (first : act.Keeps I link)
    (second : ∀ value, (next value).Keeps I link) : (act >>= next).Keeps I link :=
  lockstep_diag_iff.1 <| (lockstep_diag_iff.2 first).bind fun value =>
    lockstep_diag_iff.2 (second value)

theorem attempt {act : Act α} (h : act.Keeps I link) : (Act.attempt act).Keeps I link :=
  lockstep_diag_iff.1 (lockstep_diag_iff.2 h).attempt

theorem pure (value : α) : (Pure.pure value : Act α).Keeps I link := fun _ h => h

theorem halt (h : Halt) : (throw h : Act α).Keeps I link := fun _ h => h

theorem settle (outcome : Except Failure α) : (Act.settle outcome).Keeps I link :=
  lockstep_diag_iff.1 (.settle outcome)

theorem forM {list : List β} {act : β → Act PUnit} (each : ∀ x ∈ list, (act x).Keeps I link) :
    (list.forM act).Keeps I link :=
  lockstep_diag_iff.1 (.forM fun x hx => lockstep_diag_iff.2 (each x hx))

/-- A step may look at all of a world. -/
theorem look {next : Session → Act α} (each : ∀ s, (next s).Keeps I link) :
    (session >>= next).Keeps I link := fun w hw => each w.session w hw

theorem get {next : World → Act α} (each : ∀ w, (next w).Keeps I link) :
    (get >>= next).Keeps I link := fun w hw => each w w hw

theorem read {next : Link → Act α} (each : (next link).Keeps I link) :
    (read >>= next).Keeps I link := fun w hw => each w hw

/-- Waiting for an interrupt only looks at the session. -/
theorem awaitInterrupt : Act.awaitInterrupt.Keeps I link := by
  refine .look fun s => ?_
  split
  · exact .pure _
  · exact .halt _
  · refine .read ?_
    split <;> exact .halt _
  · refine .read ?_
    split <;> exact .halt _

end Act.Keeps

namespace Pairing

open Act

/-- **A stable predicate** is kept by the changes, remarks and requests of which the handling of
records is made, but for changes of the phase. -/
structure Stable (I : World → Prop) : Prop where
  change : ∀ c : Change, c.isCount = false → c.isPhase = false →
    ∀ w, I w → I { w with session := c.apply w.session }
  rebind : ∀ bounds w, I w → I { w with bound := bounds }
  note : ∀ e : Event, e.isRemark = true → ∀ w, I w → I { w with events := e :: w.events }
  request : ∀ command w, I w → I { w with sent := .request command :: w.sent }

/-- **A steady predicate** is kept by the changes, remarks and requests of which the handling of
records is made. -/
structure Steady (I : World → Prop) : Prop where
  change : ∀ c : Change, c.isCount = false → ∀ w, I w → I { w with session := c.apply w.session }
  rebind : ∀ bounds w, I w → I { w with bound := bounds }
  note : ∀ e : Event, e.isRemark = true → ∀ w, I w → I { w with events := e :: w.events }
  request : ∀ command w, I w → I { w with sent := .request command :: w.sent }

theorem Steady.stable {I : World → Prop} (h : Steady I) : Stable I where
  change c plain _ := h.change c plain
  rebind := h.rebind
  note := h.note
  request := h.request

/-- A command that nobody waits for keeps a predicate that its being sent and the reaction to it
keep. -/
theorem keeps_submit {link : Link} {I : World → Prop} {command : String}
    (note : ∀ e : Event, e.isRemark = true → ∀ w, I w → I { w with events := e :: w.events })
    (send : ∀ w, I w → I { w with sent := .submit command :: w.sent })
    (react : ∀ past, (react past (.submit command)).Keeps I link) :
    (submit command).Keeps I link := by
  refine .get fun past => .bind (note (.submitted command) rfl) fun _ => .bind send fun _ =>
    .read (.bind (.settle _) fun _ => react _)

/-- **The footing on the diagonal** of a stable predicate, given what is done over the link. -/
theorem Stable.footing {I : World → Prop} (h : Stable I) {link : Link}
    (react : ∀ past command, (react past (.request command)).Keeps I link)
    (resume : resume.Keeps I link) (finish : ∀ code, (finish code).Keeps I link)
    (hit : ∀ id file line thread,
      Keeps I link (fun link => link.hit id file line thread : Act Unit)) :
    (diag link I).Footing where
  config := rfl
  view hr := by rw [hr.1]
  bound hr := by rw [hr.1]
  change c hc hp := lockstep_diag_iff.2 (h.change c hc hp)
  rebind f := lockstep_diag_iff.2 fun w => h.rebind (f w.bound) w
  log level text := lockstep_diag_iff.2 (h.note (.logged level text) rfl)
  request command := lockstep_diag_iff.2 <| .get fun past => .read <|
    .bind (h.note (.requested command _) rfl) fun _ =>
      .bind (h.request command) fun _ => .bind (react _ _) fun _ => .settle _
  resume := lockstep_diag_iff.2 resume
  finish code := lockstep_diag_iff.2 (finish code)
  hit id file line thread := lockstep_diag_iff.2 (hit id file line thread)

/-- **The ground on the diagonal** of a steady predicate, given what is done over the link. -/
theorem Steady.ground {I : World → Prop} (h : Steady I) {link : Link}
    (react : ∀ past command, (react past (.request command)).Keeps I link)
    (resume : resume.Keeps I link) (finish : ∀ code, (finish code).Keeps I link)
    (hit : ∀ id file line thread,
      Keeps I link (fun link => link.hit id file line thread : Act Unit)) :
    (diag link I).Ground where
  toFooting := h.stable.footing react resume finish hit
  phase p := lockstep_diag_iff.2 (h.change (.phase p) rfl)

/-- The footing of edits on the diagonal, where both sides look at the same world and not only at
what sessions have in common. -/
theorem Footing.editFooting {I : World → Prop} {link : Link} (b : (diag link I).Footing)
    (flag : ∀ on w, I w → I { w with session := { w.session with needsResume := on } })
    (interrupt : interrupt.Keeps I link)
    (recount : ∀ id hits, Keeps I link (fun link => link.recount id hits : Act Unit)) :
    (diag link I).EditFooting where
  toFooting := b
  flag on := lockstep_diag_iff.2 (flag on)
  interrupt := lockstep_diag_iff.2 interrupt
  whenRunning := by
    intro _ next other hn ho
    unfold Act.isRunning
    rw [bind_assoc]
    refine lockstep_diag_iff.2 (.look fun s => ?_)
    rw [pure_bind]
    split
    · have paused := b.pauseForEdit (fun on => lockstep_diag_iff.2 (flag on))
        (lockstep_diag_iff.2 interrupt)
      exact .bind (lockstep_diag_iff.1 paused) fun u => lockstep_diag_iff.1 (hn _ u)
    · exact lockstep_diag_iff.1 (ho _)
  recount id hits := lockstep_diag_iff.2 (recount id hits)

theorem Ground.editGround {I : World → Prop} {link : Link} (b : (diag link I).Ground)
    (flag : ∀ on w, I w → I { w with session := { w.session with needsResume := on } })
    (interrupt : interrupt.Keeps I link)
    (recount : ∀ id hits, Keeps I link (fun link => link.recount id hits : Act Unit)) :
    (diag link I).EditGround :=
  { b, b.toFooting.editFooting flag interrupt recount with }

/-- What the peer delivers before a call returns keeps a predicate. -/
theorem Nested.keeps_react {link : Link} {I : World → Prop} (nested : (diag link I).Nested)
    (note : ∀ e : Event, e.isRemark = true → ∀ w, I w → I { w with events := e :: w.events })
    (past : List Call) (call : Call) : (react past call).Keeps I link := by
  refine .read (.forM fun delivery _ => ?_)
  exact Keeps.bind (note (.delivered delivery) rfl) fun _ =>
    lockstep_diag_iff.1 (nested.deliver delivery)

/-- **A firm predicate** is steady, and kept by what edits are made of over links to a peer. -/
structure Firm (peer : Peer) (config : Config) (I : World → Prop) : Prop extends Steady I where
  flag : ∀ on w, I w → I { w with session := { w.session with needsResume := on } }
  resume : ∀ depth, (diag (.within peer config depth) I).Nested →
    resume.Keeps I (.within peer config depth)
  interrupt : ∀ depth, (diag (.within peer config depth) I).Nested →
    interrupt.Keeps I (.within peer config depth)
  finish : ∀ code depth, (finish code).Keeps I (.within peer config depth)

namespace Firm

variable {peer : Peer} {config : Config} {I : World → Prop} (h : Firm peer config I) (depth : Nat)
  (nested : (diag (.within peer config depth) I).Nested)

include h nested

theorem ground : (diag (.within peer config depth) I).Ground :=
  h.toSteady.ground (fun _ _ => nested.keeps_react h.note _ _) (h.resume depth nested)
    (fun code => h.finish code depth) fun _ _ _ _ => lockstep_diag_iff.1 (nested.hit _ _ _ _)

theorem editGround : (diag (.within peer config depth) I).EditGround :=
  (h.ground depth nested).editGround h.flag (h.interrupt depth nested)
    fun id hits => lockstep_diag_iff.1 (nested.recount id hits)

/-- The basis of edits, given the handling of records about execution and output. -/
theorem editBasis (basis : (diag (.within peer config depth) I).Basis) :
    (diag (.within peer config depth) I).EditBasis :=
  { basis, h.editGround depth nested with }

end Firm

/-- **A robust predicate** is firm, and kept when gdb's interrupts are counted and by whatever the
host is told besides the end of a session. -/
structure Robust (peer : Peer) (config : Config) (I : World → Prop) : Prop
    extends Firm peer config I where
  count : ∀ n w, I w → I { w with session := { w.session with quits := n } }
  tell : ∀ call : HostCall, (∀ code, call ≠ .sessionEnded code) → ∀ w, I w →
    I { w with events := .told call w.session :: w.events }

namespace Robust

variable {peer : Peer} {config : Config} {I : World → Prop} (h : Robust peer config I)

include h

/-- An invariant that every call to the host keeps is told along. -/
theorem telling (depth : Nat) (nested : (diag (.within peer config depth) I).Nested) :
    (diag (.within peer config depth) I).Telling where
  toGround := h.ground depth nested
  pass call hc _ := lockstep_diag_iff.2 (h.tell call (HostCall.ne_of_isRoutine hc))
  stop call hc := lockstep_diag_iff.2 <|
    h.tell call (HostCall.ne_of_isRoutine (HostCall.isRoutine_of_isStop hc))
  lost := lockstep_diag_iff.2 (h.tell .gdbLost (by simp [HostCall.gdbLost]))
  count n := lockstep_diag_iff.2 (h.count n)

theorem edits (depth : Nat) (nested : (diag (.within peer config depth) I).Nested) :
    (diag (.within peer config depth) I).EditBasis :=
  h.editBasis depth nested (h.telling depth nested).basis

/-- What is nested in a call keeps a robust predicate. -/
theorem nested (depth : Nat) : (diag (.within peer config depth) I).Nested :=
  nested_within h.edits
    (fun depth nested => (h.telling depth nested).handleHit (h.edits depth nested).stopAtHit) depth

/-- Deliveries that arrive before a call returns keep a robust predicate. -/
theorem takeDeliveries (depth : Nat) (deliveries : List String) :
    (deliveries.forM takeDelivery : Act PUnit).Keeps I (.within peer config depth) := by
  have noted : ∀ delivery, (record (.delivered delivery)).Keeps I (.within peer config depth) :=
    fun delivery => h.note (.delivered delivery) rfl
  exact .forM fun delivery _ => .bind (noted delivery) fun _ =>
    lockstep_diag_iff.1 ((h.nested depth).deliver delivery)

end Robust

/-- **An invariant** of sessions over links to a peer is robust, and kept by the commands that move
a thread. -/
structure Invariant (peer : Peer) (config : Config) (I : World → Prop) : Prop
    extends Robust peer config I where
  move : ∀ (m : Motion) w, I w → I { w with sent := .submit m.command :: w.sent }

namespace Invariant

variable {peer : Peer} {config : Config} {I : World → Prop} (h : Invariant peer config I)

include h

/-- **An invariant is kept by every operation.** -/
theorem operation (depth : Nat) (op : Operation) :
    op.act.Keeps I (.within peer config depth) := by
  have nested := h.nested depth
  have moves : ∀ m : Motion, (submit m.command).Keeps I (.within peer config depth) := fun m =>
    keeps_submit h.note (h.move m) fun _ => nested.keeps_react h.note _ _
  exact lockstep_diag_iff.1 <| (h.edits depth nested).operation (h.telling depth nested)
    (fun m => lockstep_diag_iff.2 (moves m)) op

/-- **An invariant is kept by every run.** -/
theorem run (depth : Nat) (ops : List Operation) {w : World} (hw : I w) :
    I (Operation.run (.within peer config depth) ops w) := by
  induction ops generalizing w with
  | nil => exact hw
  | cons op ops ih => exact ih (h.operation depth op w hw)

end Invariant

/-- **A lenient predicate** is steady, lets every command be sent and does not care for what is kept
for an interrupt: the gate on resuming, whoever waits and the resumption after it. -/
structure Lenient (I : World → Prop) : Prop extends Steady I where
  flag : ∀ on w, I w → I { w with session := { w.session with needsResume := on } }
  gate : ∀ permit w, I w → I { w with session := { w.session with breakAll := permit } }
  await : ∀ w, I w → I { w with session := { w.session with waiter := .waiting } }
  send : ∀ call w, I w → I { w with sent := call :: w.sent }

namespace Lenient

variable {I : World → Prop} (h : Lenient I) {link : Link}
  (reacts : ∀ past call, (react past call).Keeps I link)

include h reacts

theorem submit (command : String) : (submit command).Keeps I link :=
  keeps_submit h.note (h.send _) fun past => reacts past _

/-- An invariant is kept by a resumption if its changes and the reactions keep it. -/
theorem resume : resume.Keeps I link := by
  have opened : (Act.update fun s => { s with breakAll := s.breakAll.release }).Keeps I link :=
    fun w hw => h.gate _ w hw
  refine .look fun s => ?_
  split
  · exact .pure _
  · exact .bind (h.gate _) fun _ => .bind (h.change (.phase .running) rfl) fun _ =>
      .read <| .bind (h.submit reacts _).attempt fun _ =>
        .bind (h.change (.runMode true) rfl) fun _ => .bind opened fun _ => .settle _

/-- It is kept by an interruption, however the wait for it ends. -/
theorem interrupt : interrupt.Keeps I link := by
  have opened : (Act.update fun s => { s with breakAll := s.breakAll.release }).Keeps I link :=
    fun w hw => h.gate _ w hw
  have awaited : (Act.attempt (Act.submit "-exec-interrupt" >>= fun _ => Act.awaitInterrupt) >>=
      fun outcome => Act.update (fun s => { s with breakAll := s.breakAll.release }) >>= fun _ =>
        Act.settle outcome).Keeps I link :=
    .bind (Keeps.attempt <| .bind (h.submit reacts _) fun _ => .awaitInterrupt)
      fun _ => .bind opened fun _ => .settle _
  refine .look fun s => ?_
  split
  · refine .bind h.await fun _ => .look fun t => ?_
    split
    · exact .bind (.halt _) fun _ => awaited
    · exact .bind (h.gate _) fun _ => awaited
  · exact .pure _

end Lenient

/-- **A pliant predicate** says nothing about a session but whether it is alive, and lets every
command be sent. -/
structure Pliant (I : World → Prop) : Prop where
  session : ∀ {f : Session → Session}, (∀ s, (f s).alive = s.alive) →
    ∀ w, I w → I { w with session := f w.session }
  rebind : ∀ bounds w, I w → I { w with bound := bounds }
  note : ∀ e : Event, e.isRemark = true → ∀ w, I w → I { w with events := e :: w.events }
  send : ∀ call w, I w → I { w with sent := call :: w.sent }

namespace Pliant

variable {I : World → Prop} (h : Pliant I) {link : Link}

include h

theorem update {f : Session → Session} (hf : ∀ s, (f s).alive = s.alive) :
    (update f).Keeps I link := h.session hf

theorem lenient : Lenient I where
  change c _ := h.session c.apply_alive
  rebind := h.rebind
  note := h.note
  request command := h.send (.request command)
  flag on := h.session (f := fun s => { s with needsResume := on }) fun _ => rfl
  gate permit := h.session (f := fun s => { s with breakAll := permit }) fun _ => rfl
  await := h.session (f := fun s => { s with waiter := .waiting }) fun _ => rfl
  send := h.send

theorem submit (nested : (diag link I).Nested) (command : String) : (submit command).Keeps I link :=
  h.lenient.submit (nested.keeps_react h.note) command

theorem resume (nested : (diag link I).Nested) : resume.Keeps I link :=
  h.lenient.resume (nested.keeps_react h.note)

theorem interrupt (nested : (diag link I).Nested) : interrupt.Keeps I link :=
  h.lenient.interrupt (nested.keeps_react h.note)

/-- A pliant predicate is firm if the end of a session keeps it. -/
theorem firm {peer : Peer} {config : Config}
    (finish : ∀ code depth, (finish code).Keeps I (.within peer config depth)) :
    Firm peer config I where
  toSteady := h.lenient.toSteady
  flag := h.lenient.flag
  resume _ nested := h.resume nested
  interrupt _ nested := h.interrupt nested
  finish := finish

/-- **A pliant predicate is an invariant** if what the host is told keeps it, and the end of a
session does. -/
theorem invariant {peer : Peer} {config : Config}
    (tell : ∀ call : HostCall, (∀ code, call ≠ .sessionEnded code) → ∀ w, I w →
      I { w with events := .told call w.session :: w.events })
    (finish : ∀ code depth, (finish code).Keeps I (.within peer config depth)) :
    Invariant peer config I where
  toFirm := h.firm finish
  count n := h.session (f := fun s => { s with quits := n }) fun _ => rfl
  tell := tell
  move m := h.send (.submit m.command)

end Pliant

end Pairing

end DebugLink
