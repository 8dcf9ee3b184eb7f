import DebugLink.Proofs.Lockstep.Basic
import DebugLink.Session.Receive

/-!
# The footing of a session, in lockstep

The footing lists the steps of which the handling of records is made and that a pairing has to run
in lockstep; from these the notices about breakpoints follow. Changes of the phase are listed apart,
because some predicates tie the phase to what happened, and so is the count of gdb's interrupts,
which only few records touch. Records that give a hit count are left to an extension of the footing,
because they alone lead to edits.

* `Change`, `HostCall.isStop`: the changes of a session, and which of what the host is told are
  stops.
* `Footing`: what a pairing has to run in lockstep.
* `Footing.judgeHit`: a hit is judged in lockstep, given that it is reported so.
* `Footing.handleBreakpoint`: so are notices about breakpoints.
-/

namespace DebugLink

open Breakpoint Record

/-- A change of what a session knows that no other part of it is asked for. -/
inductive Change
  | phase (phase : Phase)
  | runMode (runMode : Bool)
  | unknownCode (unknownCode : Bool)
  | threadsDirty (threadsDirty : Bool)
  | quits (quits : Nat)
  | thread (thread : Nat)
  | document (file : String) (line : Nat)
  | table (f : Table → Table)
  | conditionUpdate (permit : Permit)
  | critical (permit : Permit)
  /-- Whoever waits for an interrupt is woken. -/
  | woken

/-- The session after a change. -/
def Change.apply (c : Change) (s : Session) : Session :=
  match c with
  | .phase p => { s with phase := p }
  | .runMode on => { s with runMode := on }
  | .unknownCode on => { s with unknownCode := on }
  | .threadsDirty on => { s with threadsDirty := on }
  | .quits n => { s with quits := n }
  | .thread n => { s with thread := n }
  | .document file line => { s with document := some (file, line) }
  | .table f => { s with table := f s.table }
  | .conditionUpdate p => { s with conditionUpdate := p }
  | .critical p => { s with critical := p }
  | .woken => if s.waiter = .waiting then { s with waiter := .signalled } else s

theorem Change.woken_apply (s : Session) :
    woken.apply s = { s with waiter := if s.waiter = .waiting then .signalled else s.waiter } := by
  unfold apply
  dsimp only
  split <;> rfl

theorem Change.apply_alive (c : Change) (s : Session) : (c.apply s).alive = s.alive := by
  cases c with
  | woken => rw [woken_apply]
  | _ => rfl

theorem Change.apply_breakAll (c : Change) (s : Session) : (c.apply s).breakAll = s.breakAll := by
  cases c with
  | woken => rw [woken_apply]
  | _ => rfl

theorem Change.apply_needsResume (c : Change) (s : Session) :
    (c.apply s).needsResume = s.needsResume := by
  cases c with
  | woken => rw [woken_apply]
  | _ => rfl

/-- Whether a change is of the count of gdb's interrupts. -/
def Change.isCount : Change → Bool
  | quits _ => true
  | _ => false

/-- Whether a change is of the phase. -/
def Change.isPhase : Change → Bool
  | phase _ => true
  | _ => false

/-- Whether the host is told that the target stopped. -/
def HostCall.isStop : HostCall → Bool
  | breakpointHit _ _ | asyncBreakComplete _ | stepCompleted => true
  | _ => false

/-- What the host is told when gdb was interrupted too often. -/
def HostCall.gdbLost : HostCall :=
  .message .error "GDB failure"
    "Lost communication with GDB. Please refer to documentation for more details."

/-- Whether a call may be made at any time: it is neither of the end of a session nor of gdb being
lost. -/
def HostCall.isRoutine : HostCall → Bool
  | sessionEnded _ => false
  | message level title text => message level title text ≠ gdbLost
  | _ => true

theorem HostCall.ne_of_isRoutine {call : HostCall} (h : call.isRoutine = true) (code : Nat) :
    call ≠ .sessionEnded code := by
  rintro rfl
  cases h

/-- A stop is neither the end of a session nor gdb being lost. -/
theorem HostCall.isRoutine_of_isStop {call : HostCall} (h : call.isStop = true) :
    call.isRoutine = true := by
  cases call with
  | breakpointHit thread ids => rfl
  | asyncBreakComplete thread => rfl
  | stepCompleted => rfl
  | _ => cases h

/-- The ways to set the target going, other than to resume it. -/
inductive Motion
  | run
  | step (thread : Nat)
  | next (thread : Nat)
  | finish (thread : Nat)

/-- The command for a motion. -/
def Motion.command : Motion → String
  | run => "-exec-run"
  | step thread => s!"-exec-step --thread {thread}"
  | next thread => s!"-exec-next --thread {thread}"
  | finish thread => s!"-exec-finish --thread {thread} --frame 0"

namespace Pairing

open Act

/-- **The steps of which the handling of records is made**, but for what the host is told, for the
phase and for the count of gdb's interrupts. -/
structure Footing (p : Pairing) : Prop where
  config : p.left.config = p.right.config
  view : ∀ {v w}, p.Rel v w → v.session.view = w.session.view
  bound : ∀ {v w}, p.Rel v w → v.bound = w.bound
  change : ∀ c : Change, c.isCount = false → c.isPhase = false → p.Lockstep (update c.apply)
  rebind : ∀ f : List Bound → List Bound,
    p.Lockstep (modify fun w => { w with bound := f w.bound } : Act PUnit)
  log : ∀ level text, p.Lockstep (log level text)
  request : ∀ command, p.Lockstep (request command)
  resume : p.Lockstep resume
  finish : ∀ code, p.Lockstep (finish code)
  hit : ∀ id file line thread, p.Lockstep (fun link => link.hit id file line thread)

namespace Footing

variable {p : Pairing} (b : p.Footing)

include b

/-! ## What is known -/

theorem look {α : Type} {next : Session → Act α} (looks : ∀ s, next s = next s.view)
    (each : ∀ s, p.Lockstep (next s)) : p.Lockstep (session >>= next) :=
  .view b.view looks each

theorem setRunMode (runMode : Bool) : p.Lockstep (setRunMode runMode) :=
  b.change (.runMode runMode) rfl rfl

theorem setUnknownCode (unknownCode : Bool) : p.Lockstep (setUnknownCode unknownCode) :=
  b.change (.unknownCode unknownCode) rfl rfl

theorem markThreadsDirty : p.Lockstep markThreadsDirty := b.change (.threadsDirty true) rfl rfl

theorem signalInterrupt : p.Lockstep signalInterrupt := b.change .woken rfl rfl

theorem updateTable (f : Table → Table) : p.Lockstep (updateTable f) :=
  b.change (.table f) rfl rfl

theorem stackDepth (thread : Nat) : p.Lockstep (stackDepth thread) := by
  unfold Act.stackDepth
  refine (b.request _).bind fun answer => ?_
  split
  · exact .pure _
  · exact .halt _

/-- In code without source a step is a resumption, however far it goes. -/
theorem stepBlindly (stepping : p.Lockstep (setPhase .stepping)) (kind : StepKind) :
    p.Lockstep (Act.setUnknownCode true >>= fun _ => step kind) := by
  have resumed : (Act.setUnknownCode true >>= fun _ => step kind) =
      (Act.setUnknownCode true >>= fun _ => setPhase .stepping >>= fun _ => Act.resume) := rfl
  rw [resumed]
  exact (b.setUnknownCode _).bind fun _ => stepping.bind fun _ => b.resume

section Quits

variable (count : ∀ n : Nat, p.Lockstep (update (Change.quits n).apply))

include count

theorem countQuit : p.Lockstep countQuit := by
  unfold Act.countQuit
  refine b.look (fun _ => rfl) fun s => ?_
  dsimp only
  split
  · exact (count _).bind fun _ => .pure _
  · exact (count 0).bind fun _ => .halt _

/-- An interrupt of gdb, if the count of them and the word that gdb is lost are in lockstep. -/
theorem handleQuit (lost : p.Lockstep (tell .gdbLost)) : p.Lockstep handleQuit := by
  unfold Act.handleQuit
  refine (b.countQuit count).bind fun quits => ?_
  refine .config b.config (fun l l' e => by simp only [e]) fun l => ?_
  split
  · exact (b.finish 0).bind fun _ => lost
  · exact .pure _

end Quits

/-! ## Bound breakpoints, and what is held meanwhile -/

theorem boundAt (i : Nat) : p.Lockstep (Act.bound i) := by
  unfold Act.bound
  refine .bindings b.bound (fun v w e => by rw [e]) fun w => ?_
  split
  · exact .pure _
  · exact .halt _

theorem findBound? (id : Nat) : p.Lockstep (findBound? id) := by
  unfold Act.findBound?
  exact .bindings b.bound (fun v w e => by rw [e]) fun w => .pure _

theorem updateBound (i : Nat) (f : Bound → Bound) : p.Lockstep (updateBound i f) :=
  b.rebind fun bounds => bounds.modify i f

/-- Both sides enter the region together. -/
theorem inRegion {α : Type} {act : Act α} (h : p.Lockstep act) : p.Lockstep (inRegion act) := by
  refine .holding ?_ ?_ (b.change (.critical ⟨true⟩) rfl rfl) h
  · -- the region belongs to the view, so it is free on both sides or on neither
    intro v w hr
    have e : v.session.critical = w.session.critical := (congrArg Session.critical (b.view hr) :)
    rw [e]
    cases w.session.critical.tryTake with
    | none => exact .inl ⟨rfl, rfl⟩
    | some permit =>
      refine .inr ⟨_, _, rfl, rfl, ?_⟩
      exact ((b.change (.critical permit) rfl rfl).same v w hr).imp id SameEnd.rel_of_ok
  · intro w w' hw hp
    obtain ⟨permit, -, rfl⟩ := Option.map_eq_some_iff.1 hw
    exact (b.change (.critical permit) rfl rfl).parted w hp

/-- Both sides take the same gates, or neither does. -/
theorem withGates {α : Type} (i : Nat) (gates : Gates) {act : Act α} (h : p.Lockstep act) :
    p.Lockstep (withGates i gates act) := by
  refine .holding ?_ ?_ (b.rebind fun bounds => bounds.modify i (·.free gates)) h
  · -- both sides have the same breakpoints, with the same gates taken
    intro v w hr
    unfold takeGates
    rw [show v.bound[i]? = w.bound[i]? by rw [b.bound hr]]
    cases w.bound[i]?.bind (·.tryHold gates) with
    | none => exact .inl ⟨rfl, rfl⟩
    | some held =>
      refine .inr ⟨_, _, rfl, rfl, ?_⟩
      exact ((b.rebind fun bounds => bounds.set i held).same v w hr).imp id SameEnd.rel_of_ok
  · intro w w' hw hp
    obtain ⟨held, -, rfl⟩ := Option.map_eq_some_iff.1 hw
    exact (b.rebind fun bounds => bounds.set i held).parted w hp

/-! ## Hits -/

theorem evaluate (expression : String) :
    p.Lockstep (query (Variable.evaluate expression none)) := by
  unfold Act.query Variable.evaluate
  extract_lets shown
  split
  · exact (Lockstep.pure _).bind fun _ => .settle _
  · rw [ExceptT.run_bind]
    refine .bind (.bind (b.request _).attempt fun answer => ?_) fun _ => .settle _
    cases answer with
    | ok first => exact .pure _
    | error cause => exact .pure _

/-- Both sides decide alike whether a hit stops: they know the same breakpoints and get the same
answers. -/
theorem stopsAt (i : Nat) : p.Lockstep (stopsAt i) := by
  unfold Act.stopsAt
  refine (b.boundAt i).bind fun x => ?_
  split
  · exact .pure _
  · refine (b.evaluate _).bind fun e => (b.boundAt i).bind fun y => ?_
    split
    · exact (b.updateBound _ _).bind fun _ => .pure _
    · exact .pure _

theorem countHit (i : Nat) : p.Lockstep (countHit i) := by
  unfold Act.countHit
  refine (b.boundAt i).bind fun x => ?_
  split
  · split
    · exact b.updateBound _ _
    · exact .halt _
  · exact .pure _

/-- A hit that stops, if the stop and what gdb is told of hits to ignore are in lockstep. -/
theorem reportHit
    (stopped : ∀ thread ids,
      p.Lockstep (setPhase .stopped >>= fun _ => tell (.breakpointHit thread ids)))
    (ignore : ∀ id n, p.Lockstep (stopAtHit id n)) (i id thread : Nat) :
    p.Lockstep (reportHit i id thread) := by
  -- the two steps that make the stop and tell it are taken together
  have split : Act.reportHit i id thread = Act.countHit i >>= fun _ => Act.bound i >>= fun x =>
      Act.setRunMode false >>= fun _ =>
        (setPhase .stopped >>= fun _ => tell (.breakpointHit thread [x.gdbId])) >>= fun _ =>
          if x.stopsOnce then discard <| stopAtHit id ignoreForever
          else if x.stopsEvery ≠ 0 then
            discard <| stopAtHit id (x.stopsEvery - x.hits % x.stopsEvery : Nat)
          else pure () := by
    simp only [bind_assoc]
    rfl
  rw [split]
  refine (b.countHit i).bind fun _ => (b.boundAt i).bind fun x => (b.setRunMode _).bind fun _ =>
    (stopped _ _).bind fun _ => ?_
  split
  · exact (ignore _ _).discard
  · split
    · exact (ignore _ _).discard
    · exact .pure _

/-- The judgement of a hit, if a hit that stops is reported in lockstep. -/
theorem judgeHit (report : ∀ i id thread, p.Lockstep (Act.reportHit i id thread))
    (id thread : Nat) :
    p.Lockstep (judgeHit id thread) := by
  unfold Act.judgeHit
  refine (b.findBound? id).bind fun place => ?_
  split
  · exact .pure _
  · rename_i i
    refine (b.boundAt i).bind fun x => ?_
    split
    · exact b.inRegion b.resume
    · refine b.withGates _ _ (b.inRegion ((b.stopsAt i).bind fun stops => ?_))
      split
      · exact report i id thread
      · exact b.resume

/-! ## Notices about breakpoints -/

/-- **A notice about breakpoints**, if a hit count that it gives is handled in lockstep. -/
theorem applyNotice {notice : Notice}
    (recount : ∀ s : Snapshot, notice = .modified s →
      p.Lockstep (fun link => link.recount s.id s.hits)) : p.Lockstep (applyNotice notice) := by
  unfold Act.applyNotice
  cases notice with
  | inserted snapshot =>
    dsimp only
    split
    · exact (b.setUnknownCode _).bind fun _ => b.updateTable _
    · exact b.updateTable _
  | modified snapshot =>
    exact (b.setUnknownCode _).bind fun _ => (b.updateTable _).bind fun _ => recount snapshot rfl
  | deleted id => exact b.updateTable _
  | enabled id => exact b.updateTable _
  | disabled id => exact b.updateTable _
  | ignoreCount id count => exact b.updateTable _
  | condition id condition => exact b.updateTable _
  | hit id file line thread =>
    refine b.look (fun _ => rfl) fun s => ?_
    split
    · exact .pure _
    · exact (b.change (.conditionUpdate _) rfl rfl).bind fun _ =>
        (b.hit _ _ _ _).attempt.bind fun handled =>
        (b.change (.conditionUpdate ⟨true⟩) rfl rfl).bind fun _ => .settle _
  | conditionError => exact .pure _
  | unused => exact .pure _

/-- News about a breakpoint keeps step if the count that a report tells does. -/
theorem handleBreakpoint {record : String}
    (recount : ∀ s : Snapshot, Notice.read record = .ok (.modified s) →
      p.Lockstep (fun link => link.recount s.id s.hits)) :
    p.Lockstep (handleBreakpoint record) := by
  unfold Act.handleBreakpoint
  split
  · exact .halt _
  · rename_i notice read
    refine (b.applyNotice fun s e => recount s ?_).bind fun _ => .pure _
    rw [read, e]

end Footing

end Pairing

end DebugLink
