import DebugLink.Proofs.Lockstep.Handler
import DebugLink.Proofs.Steps

/-!
# What a record about execution does to a session

A record about execution changes what a session knows of running and stopping, and tells the host.
It sends nothing, takes nothing and gives nothing back, with one exception: where a command was
refused because there is nothing to step by, the session resumes the target. The host is told of a
stop only when the session is at rest.

* `World.Heard`: what such a record leaves as it was, and what the host may be told meanwhile.
* `Hears`: a step that does no more than that, with what it finds and leaves of phase and run mode.
* `applyExecution_cases`: every record about execution is heard, or resumes the target when it was.
-/

namespace DebugLink

open Act

/-- Whether the host is told where a thread stands. -/
def HostCall.isPlace : HostCall → Bool
  | currentLocation _ _ _ => true
  | _ => false

/-- **A timely event**: if the host is told of a stop the session is at rest, and if it is told of a
place no step is under way. -/
def Event.Timely : Event → Prop
  | told call s => (call.isStop = true → s.phase = .stopped ∧ s.runMode = false) ∧
      (call.isPlace = true → ¬(s.phase = .stepping ∧ s.runMode = true))
  | _ => True

/-- A call that is neither a stop nor a place is timely whatever the session is. -/
theorem Event.timely_told {call : HostCall} (stop : call.isStop = false)
    (place : call.isPlace = false) (s : Session) : (told call s).Timely := by
  constructor
  · intro h
    rw [stop] at h
    cases h
  · intro h
    rw [place] at h
    cases h

/-- A session with what it knows of running and stopping taken from another one. -/
def Session.hearing (s t : Session) : Session :=
  { s with
    alive := t.alive
    runMode := t.runMode
    unknownCode := t.unknownCode
    threadsDirty := t.threadsDirty
    quits := t.quits
    phase := t.phase
    thread := t.thread
    document := t.document
    waiter := t.waiter }

/-- **A world was heard of**: nothing was sent, no breakpoint and no permit changed, and what the
host was told was timely. -/
structure World.Heard (w v : World) : Prop where
  session : v.session = w.session.hearing v.session
  bound : v.bound = w.bound
  sent : v.sent = w.sent
  told : ∃ new, v.events = new ++ w.events ∧ ∀ e ∈ new, e.Timely

namespace World.Heard

variable {u v w : World}

theorem refl (w : World) : w.Heard w := ⟨rfl, rfl, rfl, [], rfl, by simp⟩

/-- What is heard in two parts is heard in one. -/
theorem trans (h : u.Heard v) (k : v.Heard w) : u.Heard w := by
  obtain ⟨first, told, timely⟩ := h.told
  obtain ⟨second, told', timely'⟩ := k.told
  refine ⟨?_, k.bound.trans h.bound, k.sent.trans h.sent, second ++ first, ?_, ?_⟩
  · rw [k.session, h.session]
    rfl
  · rw [told', told, List.append_assoc]
  · intro e he
    rcases List.mem_append.1 he with he | he
    · exact timely' e he
    · exact timely e he

/-- The session heard of something. -/
theorem change (w : World) {s : Session} (h : s = w.session.hearing s) :
    w.Heard { w with session := s } := ⟨h, rfl, rfl, [], rfl, by simp⟩

/-- Something timely happened. -/
theorem note (w : World) {e : Event} (h : e.Timely) :
    w.Heard { w with events := e :: w.events } :=
  ⟨rfl, rfl, rfl, [e], rfl, by simpa using h⟩

end World.Heard

/-- What holds of the phase and of whether the target runs. -/
abbrev Motions := Phase → Bool → Prop

/-- Whatever the target does. -/
def anyhow : Motions := fun _ _ => True

/-- The target does not run. -/
def atRest : Motions := fun _ runMode => runMode = false

/-- The target has stopped. -/
def atStop : Motions := fun phase runMode => phase = .stopped ∧ runMode = false

/-- No step is under way of a target that does not run. -/
theorem atRest_between (p : Phase) (r : Bool) (rest : atRest p r) :
    ¬(p = .stepping ∧ r = true) := by
  intro runs
  exact Bool.noConfusion (runs.2.symm.trans rest)

/-- What holds of a session. -/
def Motions.Of (P : Motions) (s : Session) : Prop := P s.phase s.runMode

/-- **A step that only hears**: it gives a value or an assertion fails, and either way nothing
happened but that the world was heard of. -/
def Hears {α : Type} (link : Link) (P : Motions) (act : Act α) (Q : Motions) : Prop :=
  ∀ w, P.Of w.session →
    (∃ a v, act link w = .ok a v ∧ w.Heard v ∧ Q.Of v.session) ∨
      ∃ v, act link w = .error .assertion v ∧ w.Heard v

namespace Hears

variable {α β : Type} {link : Link} {P Q R : Motions}

theorem pure (a : α) : Hears link P (Pure.pure a : Act α) P :=
  fun w hw => .inl ⟨a, w, rfl, .refl w, hw⟩

theorem assertion : Hears link P (throw .assertion : Act α) Q :=
  fun w _ => .inr ⟨w, rfl, .refl w⟩

/-- The first part hands its state to the second, and a failure of either is the whole's. -/
theorem bind {act : Act α} {next : α → Act β} (first : Hears link P act Q)
    (second : ∀ a, Hears link Q (next a) R) : Hears link P (act >>= next) R := by
  intro w hw
  rw [bind_apply]
  rcases first w hw with ⟨a, v, e, heard, hv⟩ | ⟨v, e, heard⟩
  · rw [e]
    rcases second a v hv with ⟨b, u, e', heard', hu⟩ | ⟨u, e', heard'⟩
    · exact .inl ⟨b, u, e', heard.trans heard', hu⟩
    · exact .inr ⟨u, e', heard.trans heard'⟩
  · rw [e]
    exact .inr ⟨v, rfl, heard⟩

theorem imp {act : Act α} {P' Q' : Motions} (h : Hears link P act Q)
    (pre : ∀ p r, P' p r → P p r) (post : ∀ p r, Q p r → Q' p r) : Hears link P' act Q' := by
  intro w hw
  rcases h w (pre _ _ hw) with ⟨a, v, e, heard, hv⟩ | stuck
  · exact .inl ⟨a, v, e, heard, post _ _ hv⟩
  · exact .inr stuck

theorem look {next : Session → Act α} (each : ∀ s, Hears link P (next s) Q) :
    Hears link P (session >>= next) Q := fun w hw => each w.session w hw

theorem read {next : Link → Act α} (each : Hears link P (next link) Q) :
    Hears link P (read >>= next) Q := fun w hw => each w hw

/-- A change of what is heard of. -/
theorem update {f : Session → Session}
    (frame : ∀ s, f s = s.hearing (f s)) (moves : ∀ s, P.Of s → Q.Of (f s)) :
    Hears link P (Act.update f) Q :=
  fun w hw => .inl ⟨(), _, rfl, .change w (frame _), moves _ hw⟩

/-- What the host is told when it is time. -/
theorem tell {call : HostCall} (timely : ∀ s, P.Of s → (Event.told call s).Timely) :
    Hears link P (Act.tell call) P :=
  fun w hw => .inl ⟨(), _, rfl, .note w (timely _ hw), hw⟩

/-- News that are neither of a stop nor of a place. -/
theorem news {call : HostCall} (stop : call.isStop = false) (place : call.isPlace = false) :
    Hears link P (Act.tell call) P := tell fun s _ => Event.timely_told stop place s

theorem log (level : LogLevel) (text : String) : Hears link P (Act.log level text) P :=
  fun w hw => .inl ⟨(), _, rfl, .note w trivial, hw⟩

/-! ## What is known -/

theorem setPhase {phase : Phase} (moves : ∀ p r, P p r → Q phase r) :
    Hears link P (setPhase phase) Q :=
  update (fun _ => rfl) fun _ => moves _ _

theorem setRunMode {runMode : Bool} (moves : ∀ p r, P p r → Q p runMode) :
    Hears link P (setRunMode runMode) Q :=
  update (fun _ => rfl) fun _ => moves _ _

theorem setUnknownCode (unknownCode : Bool) : Hears link P (setUnknownCode unknownCode) P :=
  update (fun _ => rfl) fun _ => id

theorem markThreadsDirty : Hears link P markThreadsDirty P :=
  update (fun _ => rfl) fun _ => id

/-- Waking a waiter moves nothing. -/
theorem signalInterrupt : Hears link P signalInterrupt P := by
  unfold Act.signalInterrupt
  refine update (fun s => ?_) fun s hs => ?_
  · split <;> rfl
  · split <;> exact hs

/-- The list of threads is told without a motion. -/
theorem refreshThreads : Hears link P refreshThreads P := by
  unfold Act.refreshThreads
  refine look fun s => ?_
  have seen : Hears link P (Act.update fun s => { s with threadsDirty := false }) P :=
    update (fun _ => rfl) fun _ => id
  refine seen.bind fun _ => ?_
  split
  · exact news rfl rfl
  · exact pure _

/-- Counting an interrupt moves nothing, also where the count overflows. -/
theorem countQuit : Hears link P countQuit P := by
  have counted : ∀ n, Hears link P (Act.update fun s => { s with quits := n }) P := fun n =>
    update (fun _ => rfl) fun _ => id
  unfold Act.countQuit
  refine look fun s => ?_
  dsimp only
  split
  · exact (counted _).bind fun _ => pure _
  · exact (counted 0).bind fun _ => assertion

theorem setThread (thread : Nat) : Hears link P (setThread thread) P := by
  have current : Hears link P (Act.update fun s => { s with thread }) P :=
    update (fun _ => rfl) fun _ => id
  exact current.bind fun _ => news rfl rfl

theorem publishLocation (file : String) (line : Nat) :
    Hears link P (publishLocation file line) P := by
  have shown : Hears link P (Act.update fun s => { s with document := some (file, line - 1) }) P :=
    update (fun _ => rfl) fun _ => id
  exact shown.bind fun _ => news rfl rfl

/-- Where a thread stands is told when no step is under way. -/
theorem setThreadLocation (thread : Nat) (file : String) (line : Nat)
    (between : ∀ p r, P p r → ¬(p = .stepping ∧ r = true)) :
    Hears link P (setThreadLocation thread file line) P :=
  tell fun _ moves => ⟨fun stop => Bool.noConfusion stop, fun _ => between _ _ moves⟩

/-- A stop is told when the target has stopped. -/
theorem stop {call : HostCall} (place : call.isPlace = false) :
    Hears link atStop (Act.tell call) atStop := by
  refine tell fun s stopped => ⟨fun _ => stopped, fun h => ?_⟩
  rw [place] at h
  cases h

/-! ## Stops -/

/-- The phase is set before the host hears of the step's end. -/
theorem completeStep (file : String) (line : Nat) :
    Hears link atRest (completeStep file line) atRest := by
  unfold Act.completeStep
  refine look fun s => ?_
  split
  · have stopped : Hears link atRest (Act.setPhase .stopped) atStop :=
      setPhase fun _ _ rest => ⟨rfl, rest⟩
    have told : Hears link atStop (Act.tell .stepCompleted) atStop := stop rfl
    refine stopped.bind fun _ => (publishLocation file line).bind fun _ => ?_
    exact told.imp (fun _ _ h => h) fun _ _ h => h.2
  · exact pure _

/-- The phase is set before the place is shown and the break told. -/
theorem stopOnInterrupt (thread : Nat) (file : String) (line : Nat) :
    Hears link atRest (stopOnInterrupt thread file line) atRest := by
  have stopped : Hears link atRest (Act.setPhase .stopped) atStop :=
    setPhase fun _ _ rest => ⟨rfl, rest⟩
  -- after the calls nothing more has to be known of the phase
  have leave : ∀ {act : Act Unit}, Hears link atStop act atStop → Hears link atStop act atRest :=
    fun h => h.imp (fun _ _ h => h) fun _ _ h => h.2
  unfold Act.stopOnInterrupt
  refine look fun s => ?_
  extract_lets told shown
  have h_told : ∀ r, Hears link atStop (told r) atRest := by
    intro r
    refine look fun s => ?_
    split
    · exact leave (stop rfl)
    · exact leave (pure _)
  have h_shown : ∀ r, Hears link atRest (shown r) atRest := by
    intro r
    refine stopped.bind fun _ => ?_
    split
    · exact (publishLocation file line).bind h_told
    · exact h_told ()
  split
  · exact assertion.bind h_shown
  · exact h_shown ()

/-- The run mode is cleared first, so that every call after it comes from a target at rest. -/
theorem handleStop (s : Execution.Stop) (isFault : Bool) :
    Hears link anyhow (handleStop s isFault) atRest := by
  have rest : Hears link anyhow (Act.setRunMode false) atRest := setRunMode fun _ _ _ => rfl
  unfold Act.handleStop
  refine (news rfl rfl).bind fun _ => rest.bind fun _ => (setUnknownCode _).bind fun _ => ?_
  extract_lets stopped warned
  have h_stopped : ∀ r, Hears link atRest (stopped r) atRest := fun _ =>
    (stopOnInterrupt _ _ _).bind fun _ => signalInterrupt
  have h_warned : ∀ r, Hears link atRest (warned r) atRest := by
    intro r
    refine (news rfl rfl).bind fun _ => refreshThreads.bind fun _ => ?_
    split
    · exact (setThreadLocation _ _ _ atRest_between).bind fun _ => (setThread _).bind h_stopped
    · exact h_stopped ()
  split
  · exact (news rfl rfl).bind h_warned
  · exact h_warned ()

/-- The same order for the end of a step. -/
theorem handleStepEnd (s : Execution.StepEnd) : Hears link anyhow (handleStepEnd s) atRest := by
  have rest : Hears link anyhow (Act.setRunMode false) atRest := setRunMode fun _ _ _ => rfl
  unfold Act.handleStepEnd
  refine (news rfl rfl).bind fun _ => rest.bind fun _ => (setUnknownCode _).bind fun _ =>
    (news rfl rfl).bind fun _ => refreshThreads.bind fun _ => ?_
  extract_lets completed located
  have h_completed : ∀ r, Hears link atRest (completed r) atRest := fun _ => completeStep _ _
  have h_located : ∀ r, Hears link atRest (located r) atRest := fun _ =>
    (setThread _).bind h_completed
  split
  · split
    · exact (setThreadLocation _ _ _ atRest_between).bind h_located
    · exact h_located ()
  · exact h_completed ()

/-- The same order for an interruption that was asked for. -/
theorem handleInterrupted (thread : Nat) :
    Hears link anyhow (handleInterrupted thread) atRest := by
  have rest : Hears link anyhow (Act.setRunMode false) atRest := setRunMode fun _ _ _ => rfl
  unfold Act.handleInterrupted
  refine (news rfl rfl).bind fun _ => rest.bind fun _ => (news rfl rfl).bind fun _ =>
    refreshThreads.bind fun _ => ?_
  extract_lets woken stopped
  have h_woken : ∀ r, Hears link atRest (woken r) atRest := fun _ => signalInterrupt
  have h_stopped : ∀ r, Hears link atRest (stopped r) atRest := by
    intro r
    refine look fun s => ?_
    split
    · exact (stopOnInterrupt _ _ _).bind h_woken
    · exact h_woken ()
  split
  · exact (setThread _).bind h_stopped
  · exact h_stopped ()

/-! ## The end of a session -/

/-- The session's end tells of no stop, and only once. -/
theorem finish (code : Nat) : Hears link anyhow (finish code) anyhow := by
  intro w _
  left
  cases ha : w.session.alive with
  | false => exact ⟨(), w, finish_dead ha code, .refl w, trivial⟩
  | true =>
    obtain ⟨notes, logged, e⟩ := finish_alive link ha code
    let ending : List Event := notes ++ [.closed, .told (.sessionEnded code) w.session.ended,
      .logged .info s!"debug session ended with exit code {code}"]
    have timely : ∀ e ∈ ending, e.Timely := by
      intro e he
      rcases List.mem_append.1 he with he | he
      · obtain ⟨level, text, rfl⟩ := logged e he
        trivial
      · simp only [List.mem_cons, List.not_mem_nil, or_false] at he
        rcases he with rfl | rfl | rfl
        · trivial
        · exact Event.timely_told rfl rfl _
        · trivial
    exact ⟨(), _, e, ⟨rfl, rfl, rfl, ending, by simp [ending], timely⟩, trivial⟩

/-- A signal that ends the program ends the session and tells of no stop. -/
theorem handleSignal (name meaning : String) :
    Hears link anyhow (handleSignal name meaning) anyhow := by
  unfold Act.handleSignal
  extract_lets told
  have h_told : ∀ r, Hears link anyhow (told r) anyhow := fun _ => finish 0
  split
  · exact (news rfl rfl).bind h_told
  · split
    · exact (news rfl rfl).bind h_told
    · exact (log _ _).bind h_told

/-- Too many interrupts end the session and tell of the loss. -/
theorem handleQuit : Hears link anyhow handleQuit anyhow := by
  unfold Act.handleQuit
  refine countQuit.bind fun quits => read ?_
  split
  · exact (finish 0).bind fun _ => news rfl rfl
  · exact pure _

/-- **Records about execution**, but for errors of commands. -/
theorem applyExecution {notice : Execution.Notice} (h : ∀ text, notice ≠ .commandError text) :
    Hears link anyhow (applyExecution notice) anyhow := by
  have runs : ∀ on, Hears link anyhow (Act.setRunMode on) anyhow := fun on =>
    setRunMode fun _ _ _ => trivial
  have rests : ∀ {act : Act Unit}, Hears link anyhow act atRest → Hears link anyhow act anyhow :=
    fun h => h.imp (fun _ _ h => h) fun _ _ _ => trivial
  unfold Act.applyExecution
  -- a stop comes to rest before it is told; all other news tell of no stop
  cases notice with
  | threadCreated thread pid =>
    exact (runs _).bind fun _ => markThreadsDirty.bind fun _ => news rfl rfl
  | running thread => exact runs _
  | exited code => exact finish code
  | interrupted stop => exact rests (handleStop stop false)
  | segfault stop => exact rests (handleStop stop true)
  | steppingEnded stop => exact rests (handleStepEnd stop)
  | functionFinished stop => exact rests (handleStepEnd stop)
  | execInterrupted thread => exact rests (handleInterrupted thread)
  | killed => exact finish 0
  | commandError text => exact absurd rfl (h text)
  | quit => exact handleQuit
  | threadExited thread => exact markThreadsDirty
  | gdbCrashed assertion => exact (finish 0).bind fun _ => news rfl rfl
  | remoteLost => exact (news rfl rfl).bind fun _ => finish 0
  | signaled name meaning thread => exact handleSignal name meaning
  | unused => exact pure _

end Hears

/-- How the handling of a record about execution ends: the record was heard, or the target is
resumed when it was. -/
def HearsOrResumes (act : Act Unit) (link : Link) (w : World) : Prop :=
  (∃ v, (act link w = .ok () v ∨ act link w = .error .assertion v) ∧ w.Heard v) ∨
    ∃ v, w.Heard v ∧ act link w = resume link v

theorem Hears.or {act : Act Unit} {link : Link} {Q : Motions} (h : Hears link anyhow act Q)
    (w : World) : HearsOrResumes act link w := by
  rcases h w trivial with ⟨_, v, e, heard, -⟩ | ⟨v, e, heard⟩
  · exact .inl ⟨v, .inl e, heard⟩
  · exact .inl ⟨v, .inr e, heard⟩

/-- What the host learns first when gdb reports that the target moved or may have moved: what it
knows of frames and threads is out of date. -/
def outdate : Act Unit := do
  tell .stackFramesOutdated
  tell .threadCachesOutdated
  refreshThreads

theorem Hears.outdate {link : Link} {P : Motions} : Hears link P outdate P :=
  (Hears.news rfl rfl).bind fun _ => (Hears.news rfl rfl).bind fun _ => .refreshThreads

/-- An error that nobody waits for asks for a step out where there is nothing to step by. -/
theorem handleCommandError_eq (text : String) :
    handleCommandError text = (outdate >>= fun _ => if text = noFunctionBounds then
      setUnknownCode true >>= fun _ => step .out else pure ()) := by
  unfold outdate
  simp only [bind_assoc]
  rfl

/-- Where there is nothing to step by, the target is resumed. -/
theorem handleCommandError_cases (text : String) (link : Link) (w : World) :
    HearsOrResumes (handleCommandError text) link w := by
  have told : Hears link anyhow outdate anyhow := .outdate
  by_cases nothing : text = noFunctionBounds
  · rw [handleCommandError_eq]
    rcases told w trivial with ⟨_, v, e, heard, -⟩ | ⟨v, e, heard⟩
    · -- the step finds code without source, so it is a resumption
      let stepping := { v.session with unknownCode := true, phase := .stepping }
      refine .inr ⟨{ v with session := stepping }, heard.trans (.change v rfl), ?_⟩
      rw [bind_ok e, if_pos nothing]
      rfl
    · exact .inl ⟨v, .inr (by rw [bind_apply, e]), heard⟩
  · rw [handleCommandError_eq]
    simp only [if_neg nothing]
    exact (told.bind fun _ => .pure ()).or w

/-- **A record about execution** is heard, or an assertion fails when it was, or the target is
resumed. -/
theorem applyExecution_cases (notice : Execution.Notice) (link : Link) (w : World) :
    HearsOrResumes (applyExecution notice) link w := by
  by_cases h : ∃ text, notice = .commandError text
  · obtain ⟨text, rfl⟩ := h
    exact handleCommandError_cases text link w
  · exact (Hears.applyExecution fun text e => h ⟨text, e⟩).or w

end DebugLink
