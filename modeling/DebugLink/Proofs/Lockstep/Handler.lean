import DebugLink.Proofs.Lockstep.Footing

/-!
# What a session does with records, in lockstep

What the host is told is listed apart from the footing, because some properties of a session are
about what it is told and when. Each extension of the footing adds what its records need.

* `Tidings.handleExecution`, `Tidings.handleHit`: records about execution and hits, given the steps
  that bring about a stop and tell it.
* `News.handleExecution`, `News.handleHit`: the same where stops may be told at any time.
* `Basis.deliver`: a whole delivery, given lockstep on the notices about breakpoints.
-/

namespace DebugLink

open Breakpoint Record

namespace Pairing

open Act

/-- **The footing, and what the host is told** at any time, but for stops. -/
structure Tidings (p : Pairing) : Prop extends Footing p where
  pass : ∀ call : HostCall, call.isRoutine = true → call.isStop = false → p.Lockstep (tell call)

namespace Tidings

variable {p : Pairing} (b : p.Tidings)

include b

theorem refreshThreads : p.Lockstep refreshThreads := by
  unfold Act.refreshThreads
  refine b.look (fun _ => rfl) fun s => ?_
  refine (b.change (.threadsDirty false) rfl rfl).bind fun _ => ?_
  split
  · exact b.pass _ rfl rfl
  · exact .pure _

theorem setThread (thread : Nat) : p.Lockstep (setThread thread) :=
  (b.change (.thread thread) rfl rfl).bind fun _ => b.pass _ rfl rfl

theorem setThreadLocation (thread : Nat) (file : String) (line : Nat) :
    p.Lockstep (setThreadLocation thread file line) := b.pass _ rfl rfl

theorem publishLocation (file : String) (line : Nat) : p.Lockstep (publishLocation file line) :=
  (b.change (.document file (line - 1)) rfl rfl).bind fun _ => b.pass _ rfl rfl

/-! ## Records about execution -/

section Stops

variable
  (halted : ∀ thread file line,
    p.Lockstep (stopOnInterrupt thread file line >>= fun _ => Act.signalInterrupt))
  (ended : ∀ file line, p.Lockstep (completeStep file line))

include halted in
/-- A stop, if it is made and whoever waits for it is woken in lockstep. -/
theorem handleStop (stop : Execution.Stop) (isFault : Bool) :
    p.Lockstep (handleStop stop isFault) := by
  unfold Act.handleStop
  refine (b.pass _ rfl rfl).bind fun _ => (b.setRunMode _).bind fun _ =>
    (b.setUnknownCode _).bind fun _ => ?_
  extract_lets stopped warned
  have h_stopped : ∀ r, p.Lockstep (stopped r) := fun _ => halted _ _ _
  have h_warned : ∀ r, p.Lockstep (warned r) := by
    intro r
    refine (b.pass _ rfl rfl).bind fun _ => b.refreshThreads.bind fun _ => ?_
    split
    · exact (b.setThreadLocation _ _ _).bind fun _ => (b.setThread _).bind h_stopped
    · exact h_stopped ()
  split
  · exact (b.pass _ rfl rfl).bind h_warned
  · exact h_warned ()

include ended in
/-- The end of a step keeps step if completing the step does. -/
theorem handleStepEnd (stop : Execution.StepEnd) : p.Lockstep (handleStepEnd stop) := by
  unfold Act.handleStepEnd
  refine (b.pass _ rfl rfl).bind fun _ => (b.setRunMode _).bind fun _ =>
    (b.setUnknownCode _).bind fun _ => (b.pass _ rfl rfl).bind fun _ =>
      b.refreshThreads.bind fun _ => ?_
  extract_lets completed located
  have h_completed : ∀ r, p.Lockstep (completed r) := fun _ => ended _ _
  have h_located : ∀ r, p.Lockstep (located r) := fun _ => (b.setThread _).bind h_completed
  split
  · split
    · exact (b.setThreadLocation _ _ _).bind h_located
    · exact h_located ()
  · exact h_completed ()

include halted in
/-- An interruption keeps step if the stop itself does. -/
theorem handleInterrupted (thread : Nat) : p.Lockstep (handleInterrupted thread) := by
  unfold Act.handleInterrupted
  refine (b.pass _ rfl rfl).bind fun _ => (b.setRunMode _).bind fun _ =>
    (b.pass _ rfl rfl).bind fun _ => b.refreshThreads.bind fun _ => ?_
  extract_lets woken stopped
  have h_woken : ∀ r, p.Lockstep (woken r) := fun _ => b.signalInterrupt
  -- only a target that does not rest yet is brought to a stop
  have h_stopped : ∀ r, p.Lockstep (stopped r) := by
    intro r
    refine b.look (fun _ => rfl) fun s => ?_
    split
    · exact halted _ _ _
    · exact h_woken ()
  split
  · exact (b.setThread _).bind h_stopped
  · exact h_stopped ()

/-- An error of a command, if what is done where there is nothing to step by is in lockstep. -/
theorem handleCommandError (blind : p.Lockstep (Act.setUnknownCode true >>= fun _ => step .out))
    (text : String) : p.Lockstep (handleCommandError text) := by
  unfold Act.handleCommandError
  refine (b.pass _ rfl rfl).bind fun _ => (b.pass _ rfl rfl).bind fun _ =>
    b.refreshThreads.bind fun _ => ?_
  split
  · exact blind
  · exact .pure _

theorem handleSignal (name meaning : String) : p.Lockstep (handleSignal name meaning) := by
  unfold Act.handleSignal
  extract_lets told
  have h_told : ∀ r, p.Lockstep (told r) := fun _ => b.finish 0
  split
  · exact (b.pass _ rfl rfl).bind h_told
  · split
    · exact (b.pass _ rfl rfl).bind h_told
    · exact (b.log _ _).bind h_told

include halted ended in
/-- **Records about execution**, if errors of commands and interrupts of gdb are handled in
lockstep too. -/
theorem applyExecution (error : ∀ text, p.Lockstep (Act.handleCommandError text))
    {notice : Execution.Notice} (quit : notice = .quit → p.Lockstep handleQuit) :
    p.Lockstep (applyExecution notice) := by
  unfold Act.applyExecution
  cases notice with
  | threadCreated thread pid =>
    exact (b.setRunMode _).bind fun _ => b.markThreadsDirty.bind fun _ => b.pass _ rfl rfl
  | running thread => exact b.setRunMode _
  | exited code => exact b.finish code
  | interrupted stop => exact b.handleStop halted stop false
  | segfault stop => exact b.handleStop halted stop true
  | steppingEnded stop => exact b.handleStepEnd ended stop
  | functionFinished stop => exact b.handleStepEnd ended stop
  | execInterrupted thread => exact b.handleInterrupted halted thread
  | killed => exact b.finish 0
  | commandError text => exact error text
  | quit => exact quit rfl
  | threadExited thread => exact b.markThreadsDirty
  | gdbCrashed assertion =>
    exact (b.finish 0).bind fun _ => b.pass _ (by cases assertion <;> rfl) rfl
  | remoteLost => exact (b.pass _ rfl rfl).bind fun _ => b.finish 0
  | signaled name meaning thread => exact b.handleSignal name meaning
  | unused => exact .pure _

include halted ended in
/-- News of the execution keep step if the handlers do that differ from proof to proof. -/
theorem handleExecution (error : ∀ text, p.Lockstep (Act.handleCommandError text))
    {record : String}
    (quit : Execution.Notice.read record = .ok .quit → p.Lockstep handleQuit) :
    p.Lockstep (handleExecution record) := by
  unfold Act.handleExecution
  split
  · exact .halt _
  · rename_i notice read
    refine (b.applyExecution halted ended error fun e => quit ?_).bind fun _ => .pure _
    rw [read, e]

end Stops

theorem handleOutput (record : String) : p.Lockstep (handleOutput record) := by
  unfold Act.handleOutput
  split
  · exact .halt _
  · extract_lets told
    have h_told : ∀ r, p.Lockstep (told r) := fun _ => .pure _
    split
    · exact (b.pass _ rfl rfl).bind h_told
    · exact (Lockstep.pure ()).bind h_told

/-- **A hit**, if the end of a step and the judgement of a hit are in lockstep. -/
theorem handleHit (ended : ∀ file line, p.Lockstep (completeStep file line))
    (judged : ∀ id thread, p.Lockstep (judgeHit id thread)) (id : Nat) (file : String)
    (line thread : Nat) : p.Lockstep (handleHit id file line thread) := by
  unfold Act.handleHit
  refine (b.pass _ rfl rfl).bind fun _ => (b.pass _ rfl rfl).bind fun _ =>
    b.refreshThreads.bind fun _ => (b.setThreadLocation _ _ _).bind fun _ =>
      (b.setThread _).bind fun _ => b.look (fun _ => rfl) fun s => ?_
  split
  · exact ended file line
  · exact (b.publishLocation file line).bind fun _ => judged id thread

end Tidings

/-- **The footing, and the phase.** -/
structure Ground (p : Pairing) : Prop extends Footing p where
  phase : ∀ phase : Phase, p.Lockstep (update (Change.phase phase).apply)

namespace Ground

variable {p : Pairing} (b : p.Ground)

include b

theorem setPhase (phase : Phase) : p.Lockstep (setPhase phase) := b.phase phase

/-- A step, if the commands that move a thread are sent in lockstep. -/
theorem step (move : ∀ m : Motion, p.Lockstep (submit m.command)) (kind : StepKind) :
    p.Lockstep (step kind) := by
  have go : ∀ m : Motion, p.Lockstep (Act.setPhase .stepping >>= fun _ => submit m.command) :=
    fun m => (b.setPhase _).bind fun _ => move m
  unfold Act.step
  refine b.look (fun _ => rfl) fun s => ?_
  split
  · exact (b.setPhase _).bind fun _ => b.resume
  · rcases kind with _ | _ | _
    · simp only [stepCommand, pure_bind]
      exact go (.step _)
    · simp only [stepCommand, pure_bind]
      exact go (.next _)
    · -- from the outermost frame a step goes to the next line
      simp only [stepCommand, bind_assoc]
      refine (b.stackDepth _).bind fun depth => ?_
      split
      · simp only [pure_bind]; exact go (.finish _)
      · simp only [pure_bind]; exact go (.next _)

theorem stepBlindly (kind : StepKind) :
    p.Lockstep (Act.setUnknownCode true >>= fun _ => Act.step kind) :=
  b.toFooting.stepBlindly (b.setPhase _) kind

end Ground

/-- **The ground, and what the host is told at any time.** -/
structure News (p : Pairing) : Prop extends Ground p, Tidings p where
  stop : ∀ call : HostCall, call.isStop = true → p.Lockstep (tell call)

namespace News

variable {p : Pairing} (b : p.News)

include b

theorem tell (call : HostCall) (routine : call.isRoutine = true) : p.Lockstep (tell call) := by
  cases stop : call.isStop with
  | true => exact b.stop call stop
  | false => exact b.pass call routine stop

/-! ## Where stops may be told at any time -/

theorem completeStep (file : String) (line : Nat) : p.Lockstep (completeStep file line) := by
  unfold Act.completeStep
  refine b.look (fun _ => rfl) fun s => ?_
  split
  · exact (b.setPhase _).bind fun _ => (b.publishLocation file line).bind fun _ =>
      b.tell _ rfl
  · exact .pure _

theorem stopOnInterrupt (thread : Nat) (file : String) (line : Nat) :
    p.Lockstep (stopOnInterrupt thread file line) := by
  unfold Act.stopOnInterrupt
  refine b.look (fun _ => rfl) fun s => ?_
  -- the branches meet again in what follows them, which is treated once
  extract_lets told stopped
  have h_told : ∀ r, p.Lockstep (told r) := by
    intro r
    refine b.look (fun _ => rfl) fun s => ?_
    split
    · exact b.tell _ rfl
    · exact .pure _
  have h_stopped : ∀ r, p.Lockstep (stopped r) := by
    intro r
    refine (b.setPhase _).bind fun _ => ?_
    split
    · exact (b.publishLocation file line).bind h_told
    · exact h_told ()
  split
  · exact (Lockstep.halt .assertion).bind h_stopped
  · exact h_stopped ()

theorem handleExecution {record : String}
    (quit : Execution.Notice.read record = .ok .quit → p.Lockstep handleQuit) :
    p.Lockstep (handleExecution record) :=
  b.toTidings.handleExecution
    (fun _ _ _ => (b.stopOnInterrupt _ _ _).bind fun _ => b.signalInterrupt) b.completeStep
    (b.handleCommandError (b.stepBlindly .out)) quit

theorem reportHit (ignore : ∀ id n, p.Lockstep (stopAtHit id n)) (i id thread : Nat) :
    p.Lockstep (reportHit i id thread) :=
  b.toFooting.reportHit (fun _ _ => (b.setPhase _).bind fun _ => b.tell _ rfl) ignore i id thread

/-- **A hit**, if gdb is told of the hits to ignore in lockstep. -/
theorem handleHit (ignore : ∀ id n, p.Lockstep (stopAtHit id n)) (id : Nat) (file : String)
    (line thread : Nat) : p.Lockstep (handleHit id file line thread) :=
  b.toTidings.handleHit b.completeStep (b.judgeHit (b.reportHit ignore)) id file line thread

end News

/-- **The ground, and whatever the host is told**, but for the end of a session. -/
structure Telling (p : Pairing) : Prop extends News p where
  lost : p.Lockstep (Act.tell .gdbLost)
  count : ∀ n : Nat, p.Lockstep (update (Change.quits n).apply)

/-- **The footing, and records about execution and output.** -/
structure Basis (p : Pairing) : Prop extends Footing p where
  reset : p.Lockstep resetQuits
  execution : ∀ record, p.Lockstep (handleExecution record)
  output : ∀ record, p.Lockstep (handleOutput record)

/-- The basis, if the steps that bring about a stop and tell it are in lockstep. -/
theorem Tidings.basis {p : Pairing} (b : p.Tidings)
    (halted : ∀ thread file line,
      p.Lockstep (stopOnInterrupt thread file line >>= fun _ => signalInterrupt))
    (ended : ∀ file line, p.Lockstep (completeStep file line))
    (stepping : p.Lockstep (setPhase .stepping))
    (count : ∀ n : Nat, p.Lockstep (update (Change.quits n).apply))
    (lost : p.Lockstep (tell .gdbLost)) : p.Basis where
  toFooting := b.toFooting
  reset := count 0
  execution _ := b.handleExecution halted ended (b.handleCommandError (b.stepBlindly stepping .out))
    fun _ => b.handleQuit count lost
  output := b.handleOutput

namespace Telling

variable {p : Pairing} (b : p.Telling)

include b

/-- Every change, also that of the count of gdb's interrupts. -/
theorem changes (c : Change) : p.Lockstep (update c.apply) := by
  cases c with
  | quits n => exact b.count n
  | phase p => exact b.phase p
  | _ => exact b.change _ rfl rfl

theorem countQuit : p.Lockstep countQuit := b.toFooting.countQuit b.count

theorem handleQuit : p.Lockstep handleQuit := b.toFooting.handleQuit b.count b.lost

theorem basis : p.Basis :=
  b.toTidings.basis (fun _ _ _ => (b.stopOnInterrupt _ _ _).bind fun _ => b.signalInterrupt)
    b.completeStep (b.setPhase _) b.count b.lost

end Telling

namespace Basis

variable {p : Pairing} (b : p.Basis)

include b

/-! ## Records and deliveries -/

theorem handleRecord {record : String} (about : p.Lockstep (Act.handleBreakpoint record)) :
    p.Lockstep (handleRecord record) := by
  unfold Act.handleRecord
  split
  · exact about.discard
  · exact (b.execution record).discard
  · exact (b.output record).discard
  · exact .pure _

/-- A record keeps step if its handler does: what is left is the count, reset or kept. -/
theorem receive {record : String} (about : p.Lockstep (Act.handleBreakpoint record)) :
    p.Lockstep (receive record) := by
  unfold Act.receive
  refine b.look (fun _ => rfl) fun s => ?_
  extract_lets handled
  -- a failure of the handler is logged, and the record ends there
  have h_handled : ∀ r, p.Lockstep (handled r) := by
    intro r
    refine (b.handleRecord about).attempt.bind fun outcome => ?_
    split
    · exact .pure _
    · exact b.log _ _
  split
  · exact b.reset.bind h_handled
  · exact h_handled ()

theorem receiveAlive {record : String} (about : p.Lockstep (Act.handleBreakpoint record)) :
    p.Lockstep (receiveAlive record) := by
  unfold Act.receiveAlive
  refine b.look (fun _ => rfl) fun s => ?_
  split
  · exact b.receive about
  · exact .pure _

/-- **A delivery**, if its records about breakpoints are handled in lockstep. -/
theorem deliver {delivery : String}
    (about : ∀ record ∈ recordsOf delivery, p.Lockstep (Act.handleBreakpoint record)) :
    p.Lockstep (deliver delivery) :=
  .forM fun record h => b.receiveAlive (about record h)

end Basis

end Pairing

end DebugLink
