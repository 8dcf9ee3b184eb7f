import DebugLink.Proofs.HitStep

/-!
# What a record expects of the phase

Only a target that runs may be interrupted: the session asserts that it takes the target to run. It
does so for every record that says that the target was interrupted, but for one kind when the target
has stopped already.

* `Expects`: a step that is fine in some phases, and in which an assertion fails in every other one.
* `Notice.Suits`, `expects_applyExecution`: the phases in which a record about execution is fine.
-/

namespace DebugLink

open Act Breakpoint Record

/-! ## What a step expects of the phase -/

/-- **A step that expects a phase**: it gives a value in the phases that are expected, and in every
other one an assertion fails. -/
def Expects (link : Link) (expected : Phase → Prop) (act : Act Unit) : Prop :=
  ∀ w, (expected w.session.phase → ∃ v, act link w = .ok () v) ∧
    (¬expected w.session.phase → act.Asserts link w)

/-- Any phase. -/
def anyPhase : Phase → Prop := fun _ => True

/-- A step that gives a value and leaves the phase as it is. -/
def Still (link : Link) (act : Act Unit) : Prop :=
  ∀ w, ∃ v, act link w = .ok () v ∧ v.session.phase = w.session.phase

section Expects

variable {link : Link} {expected : Phase → Prop} {act : Act Unit} {next : Unit → Act Unit}

theorem Aside.still (h : Aside act link) : Still link act := by
  intro w
  obtain ⟨v, e, scene⟩ := h w
  exact ⟨v, e, congrArg Scene.phase scene⟩

theorem still_update {f : Session → Session} (same : ∀ s, (f s).phase = s.phase) :
    Still link (update f) := fun w => ⟨_, rfl, same w.session⟩

theorem still_tell (call : HostCall) : Still link (tell call) := fun _ => ⟨_, rfl, rfl⟩

theorem still_signalInterrupt : Still link signalInterrupt :=
  still_update fun s => by split <;> rfl

namespace Expects

theorem of_ok (h : ∀ w, ∃ v, act link w = .ok () v) : Expects link anyPhase act :=
  fun w => ⟨fun _ => h w, fun other => absurd trivial other⟩

theorem of_still (h : Still link act) : Expects link anyPhase act :=
  of_ok fun w => by
    obtain ⟨v, e, -⟩ := h w
    exact ⟨v, e⟩

theorem pure : Expects link anyPhase (pure ()) := of_ok fun w => ⟨w, rfl⟩

/-- What comes before a step leaves the phase as it is. -/
theorem after (first : Still link act) (second : Expects link expected (next ())) :
    Expects link expected (act >>= next) := by
  intro w
  obtain ⟨u, e, phase⟩ := first w
  obtain ⟨fine, fails⟩ := second u
  rw [phase] at fine fails
  exact ⟨fun h => by rw [bind_ok e]; exact fine h, fun h => .after_ok e (fails h)⟩

/-- What comes after a step is fine in any phase. -/
theorem bind (first : Expects link expected act) (second : Expects link anyPhase (next ())) :
    Expects link expected (act >>= next) := by
  intro w
  obtain ⟨fine, fails⟩ := first w
  refine ⟨fun h => ?_, fun h => (fails h).bind _⟩
  obtain ⟨u, e⟩ := fine h
  rw [bind_ok e]
  exact (second u).1 trivial

/-- What a step does with the session that it looks at. -/
theorem look {next : Session → Act Unit}
    (each : ∀ w, (expected w.session.phase → ∃ v, next w.session link w = .ok () v) ∧
      (¬expected w.session.phase → (next w.session).Asserts link w)) :
    Expects link expected (session >>= next) := each

end Expects

/-- **A stop on its own** is one of a target that runs. -/
theorem expects_stopOnInterrupt (thread : Nat) (file : String) (line : Nat) :
    Expects link (· = .running) (stopOnInterrupt thread file line) := by
  have phased : Expects link anyPhase (setPhase .stopped) := .of_ok fun _ => ⟨_, rfl⟩
  unfold stopOnInterrupt
  extract_lets told shown
  have h_told : ∀ r, Expects link anyPhase (told r) := by
    intro r
    refine .of_ok fun w => ?_
    show ∃ v, (session >>= fun s =>
      if !s.needsResume then tell (.asyncBreakComplete thread) else pure ()) link w = .ok () v
    rw [look_apply]
    split <;> exact ⟨_, rfl⟩
  have h_shown : ∀ r, Expects link anyPhase (shown r) := by
    intro r
    refine phased.bind ?_
    split
    · exact .after (aside_publishLocation file line).still (h_told ())
    · exact h_told ()
  -- the assertion is looked at first, so nothing before it can fail
  refine .look fun w => ⟨fun running => ?_, fun other => ?_⟩
  · rw [if_neg (absurd running)]
    exact (h_shown () w).1 trivial
  · rw [if_pos other]
    exact .bind ⟨w, rfl⟩ shown

/-! ## What a record about execution expects -/

/-- A stop is in time exactly while the target runs: what comes before the assertion leaves the
phase alone. -/
theorem expects_handleStop (s : Execution.Stop) (isFault : Bool) :
    Expects link (· = .running) (handleStop s isFault) := by
  have rested : Still link (setRunMode false) := still_update fun _ => rfl
  have known : Still link (setUnknownCode s.unknownCode) := still_update fun _ => rfl
  unfold handleStop
  refine .after (still_tell _) (.after rested (.after known ?_))
  extract_lets stopped warned
  have h_stopped : ∀ r, Expects link (· = .running) (stopped r) := fun _ =>
    (expects_stopOnInterrupt _ _ _).bind (.of_still still_signalInterrupt)
  have h_warned : ∀ r, Expects link (· = .running) (warned r) := by
    intro r
    refine .after (still_tell _) (.after aside_refreshThreads.still ?_)
    split
    · exact .after (still_tell _) (.after (aside_setThread _).still (h_stopped ()))
    · exact h_stopped ()
  split
  · exact .after (still_tell _) (h_warned ())
  · exact h_warned ()

/-- The end of a step is in time in any phase: outside a step it only rests the target. -/
theorem expects_completeStep (file : String) (line : Nat) :
    Expects link anyPhase (completeStep file line) := by
  refine .of_ok fun w => ?_
  unfold completeStep
  rw [look_apply]
  split
  · exact ⟨_, rfl⟩
  · exact ⟨_, rfl⟩

/-- The same for the whole notice of a step's end. -/
theorem expects_handleStepEnd (s : Execution.StepEnd) :
    Expects link anyPhase (handleStepEnd s) := by
  have rested : Still link (setRunMode false) := still_update fun _ => rfl
  have known : Still link (setUnknownCode s.unknownCode) := still_update fun _ => rfl
  unfold handleStepEnd
  refine .after (still_tell _) (.after rested (.after known (.after (still_tell _)
    (.after aside_refreshThreads.still ?_))))
  extract_lets completed located
  have h_completed : ∀ r, Expects link anyPhase (completed r) := fun _ => expects_completeStep _ _
  have h_located : ∀ r, Expects link anyPhase (located r) := fun _ =>
    .after (aside_setThread _).still (h_completed ())
  split
  · split
    · exact .after (still_tell _) (h_located ())
    · exact h_located ()
  · exact h_completed ()

/-- **That the target was interrupted** is no news when it has stopped already. -/
theorem expects_handleInterrupted (thread : Nat) :
    Expects link (fun phase => phase = .stopped ∨ phase = .running) (handleInterrupted thread) := by
  have rested : Still link (setRunMode false) := still_update fun _ => rfl
  unfold handleInterrupted
  refine .after (still_tell _) (.after rested (.after (still_tell _)
    (.after aside_refreshThreads.still ?_)))
  extract_lets woken stopped
  have h_woken : ∀ r, Expects link anyPhase (woken r) := fun _ => .of_still still_signalInterrupt
  have h_stopped : ∀ r,
      Expects link (fun phase => phase = .stopped ∨ phase = .running) (stopped r) := by
    intro r
    have stops : Expects link (· = .running) (stopOnInterrupt thread "" 0 >>= woken) :=
      (expects_stopOnInterrupt thread "" 0).bind (h_woken ())
    refine .look fun w => ?_
    obtain ⟨fine, fails⟩ := stops w
    -- a target at rest is only woken; any other has to be running
    by_cases rests : w.session.phase = .stopped
    · rw [if_neg (absurd rests)]
      exact ⟨fun _ => (h_woken () w).1 trivial, fun other => absurd (.inl rests) other⟩
    · rw [if_pos rests]
      exact ⟨fun h => fine (h.resolve_left rests), fun other => fails fun runs => other (.inr runs)⟩
  split
  · exact .after (aside_setThread _).still (h_stopped ())
  · exact h_stopped ()

end Expects

/-- Whether a record about execution says that the target runs or stopped. -/
def Execution.Notice.isMotion : Execution.Notice → Bool
  | running _ | interrupted _ | segfault _ | steppingEnded _ | functionFinished _
  | execInterrupted _ => true
  | _ => false

/-- **The phases in which a record about execution is fine.** -/
def Execution.Notice.Suits : Execution.Notice → Phase → Prop
  | interrupted _ | segfault _ => (· = .running)
  | execInterrupted _ => fun phase => phase = .stopped ∨ phase = .running
  | _ => anyPhase

/-- **A record that the target moves** is handled in the phases that it suits, and in every other
one an assertion fails. -/
theorem expects_applyExecution {link : Link} {notice : Execution.Notice}
    (moves : notice.isMotion = true) : Expects link notice.Suits (applyExecution notice) := by
  unfold applyExecution
  cases notice with
  | running thread => exact .of_ok fun _ => ⟨_, rfl⟩
  | interrupted stop => exact expects_handleStop stop false
  | segfault stop => exact expects_handleStop stop true
  | steppingEnded stop => exact expects_handleStepEnd stop
  | functionFinished stop => exact expects_handleStepEnd stop
  | execInterrupted thread => exact expects_handleInterrupted thread
  | _ => cases moves

end DebugLink
