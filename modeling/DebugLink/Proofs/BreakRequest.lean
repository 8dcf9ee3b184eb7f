import DebugLink.Proofs.BreakAll
import DebugLink.Proofs.HitStep

/-!
# Whether a break request learns that the target has stopped

The host asks for a target that runs to be interrupted and waits until its stop was handled. Other
records are handled meanwhile, and some of them also bring the session to a stop: a hit, the end of
a step. Only the records about interrupts wake whoever waits.

* `Awaiting`: what the session, the waiter and the news have to do with each other while somebody
  waits.
* `awaiting_halt`, `awaiting_completeStep`, `awaiting_hit`: the three ways to stop.
* `awaiting_nested`: this is kept by whatever is delivered, at any depth of nested calls.
* `interrupt_ends`: how a break request ends.
* `interrupt_finds_stop_iff`: when a request that finds the target stopped succeeds.
-/

namespace DebugLink

open Act Breakpoint Pairing

/-- What is only remarked in the log tells the host of no stop. -/
theorem World.stops_remark {e : Event} (h : e.isRemark = true) (w : World) :
    ({ w with events := e :: w.events } : World).stops = w.stops := by
  cases e with
  | told call s => cases h
  | closed => cases h
  | _ => rfl

theorem World.stops_stop {call : HostCall} (h : call.isStop = true) (w : World) (s : Session) :
    ({ w with events := .told call s :: w.events } : World).stops = call :: w.stops :=
  List.filter_cons_of_pos h

/-- **While a break request waits**, between two records. Resuming is barred, so the session does
not run again once it has stopped: while it runs the host was told of no stop since, and when it has
stopped and the waiter does not know it, the host was told of the stop. The waiter is left alone
when the session has ended, and only then does it take the target to be gone. -/
structure Awaiting (told : Nat) (w : World) : Prop where
  barred : w.session.breakAll.isFree = false
  asked : w.session.waiter ≠ .nobody
  dropped : w.session.waiter = .dropped → w.session.alive = false
  target : w.session.waiter = .waiting → w.session.phase ≠ .design
  least : told ≤ w.stops.length
  running : w.session.phase = .running → w.stops.length ≤ told
  stopped : w.session.waiter = .waiting → w.session.phase = .stopped → told < w.stops.length

variable {told : Nat}

/-- No plain change of the session ends the wait, and its events tell of no stop. -/
theorem awaiting_stable : Stable (Awaiting told) where
  change c _ plain w h := by
    cases c with
    | phase p => cases plain
    | woken =>
      -- only a waiter that waits is woken
      by_cases waits : w.session.waiter = .waiting
      · have woken : Change.woken.apply w.session = { w.session with waiter := .signalled } := by
          rw [Change.woken_apply, if_pos waits]
        rw [woken]
        exact ⟨h.barred, by simp, by simp, by simp, h.least, h.running, by simp⟩
      · have same : Change.woken.apply w.session = w.session := by
          rw [Change.woken_apply, if_neg waits]
        rw [same]
        exact h
    | _ => exact ⟨h.barred, h.asked, h.dropped, h.target, h.least, h.running, h.stopped⟩
  rebind _ _ h := ⟨h.barred, h.asked, h.dropped, h.target, h.least, h.running, h.stopped⟩
  note e remark w h := by
    have same := World.stops_remark remark w
    refine ⟨h.barred, h.asked, h.dropped, h.target, ?_, ?_, ?_⟩
    · rw [same]; exact h.least
    · rw [same]; exact h.running
    · rw [same]; exact h.stopped
  request _ _ h := ⟨h.barred, h.asked, h.dropped, h.target, h.least, h.running, h.stopped⟩

namespace Awaiting

variable {w : World}

/-- News of anything but a stop. -/
theorem passed (h : Awaiting told w) {call : HostCall} (news : call.isStop = false) (s : Session) :
    Awaiting told { w with events := .told call s :: w.events } := by
  have same := World.stops_told news w s
  refine ⟨h.barred, h.asked, h.dropped, h.target, ?_, ?_, ?_⟩
  · rw [same]; exact h.least
  · rw [same]; exact h.running
  · rw [same]; exact h.stopped

theorem flagged (h : Awaiting told w) (on : Bool) :
    Awaiting told { w with session := { w.session with needsResume := on } } :=
  ⟨h.barred, h.asked, h.dropped, h.target, h.least, h.running, h.stopped⟩

/-- A step begins, though the target is not resumed. -/
theorem stepping (h : Awaiting told w) :
    Awaiting told { w with session := { w.session with phase := .stepping } } :=
  ⟨h.barred, h.asked, h.dropped, by simp, h.least, by simp, by simp⟩

/-- The target stops and the host is told. -/
theorem stop (h : Awaiting told w) {call : HostCall} (stop : call.isStop = true) (s : Session) :
    Awaiting told { w with
      session := { w.session with phase := .stopped }, events := .told call s :: w.events } := by
  have more : ({ w with
      session := { w.session with phase := .stopped }
      events := .told call s :: w.events } : World).stops = call :: w.stops :=
    World.stops_stop stop w s
  have least := h.least
  refine ⟨h.barred, h.asked, h.dropped, by simp, ?_, by simp, fun _ _ => ?_⟩
  · rw [more, List.length_cons]
    omega
  · rw [more, List.length_cons]
    omega

end Awaiting

/-! ## Stops -/

/-- **The target has stopped**, and the waiter is yet to be woken. -/
structure Halting (told : Nat) (w : World) : Prop where
  barred : w.session.breakAll.isFree = false
  asked : w.session.waiter ≠ .nobody
  dropped : w.session.waiter = .dropped → w.session.alive = false
  least : told ≤ w.stops.length
  stopped : w.session.phase = .stopped

theorem Awaiting.halting {w : World} (h : Awaiting told w) :
    Halting told { w with session := { w.session with phase := .stopped } } :=
  ⟨h.barred, h.asked, h.dropped, h.least, rfl⟩

namespace Halting

variable {w : World}

/-- News of any kind. -/
theorem passed (h : Halting told w) (call : HostCall) (s : Session) :
    Halting told { w with events := .told call s :: w.events } := by
  refine ⟨h.barred, h.asked, h.dropped, ?_, h.stopped⟩
  cases news : call.isStop with
  | false =>
    rw [World.stops_told news]
    exact h.least
  | true =>
    rw [World.stops_stop news, List.length_cons]
    exact Nat.le_succ_of_le h.least

/-- Whoever waits is woken, and then nobody waits. -/
theorem woken (h : Halting told w) :
    Awaiting told { w with session := Change.woken.apply w.session } := by
  rw [Change.woken_apply]
  by_cases waits : w.session.waiter = .waiting
  · rw [if_pos waits]
    exact ⟨h.barred, by simp, by simp, by simp, h.least, by simp [h.stopped], by simp⟩
  · rw [if_neg waits]
    exact ⟨h.barred, h.asked, h.dropped, fun e => absurd e waits, h.least, by simp [h.stopped],
      fun e => absurd e waits⟩

end Halting

section Stops

variable {link : Link}

/-- What the host is told of a stop on its own, once the session has stopped. -/
theorem halting_shown (link : Link) {u : World} (h : Halting told u) (shows : Bool) (thread : Nat)
    (file : String) (line : Nat) :
    ∃ v, ((if shows then publishLocation file line else pure ()) >>= fun _ => session >>= fun s =>
        if !s.needsResume then tell (.asyncBreakComplete thread) else pure () : Act Unit) link u =
      .ok () v ∧ Halting told v := by
  have shown : ∃ x, (if shows then publishLocation file line else pure () : Act Unit) link u =
      .ok () x ∧ Halting told x := by
    cases shows with
    | false => exact ⟨u, rfl, h⟩
    | true =>
      have placed : Halting told
          { u with session := { u.session with document := some (file, line - 1) } } :=
        ⟨h.barred, h.asked, h.dropped, h.least, h.stopped⟩
      exact ⟨_, rfl, placed.passed _ _⟩
  obtain ⟨x, e, halting⟩ := shown
  rw [bind_ok e, look_apply]
  cases x.session.needsResume with
  | true => exact ⟨x, rfl, halting⟩
  | false => exact ⟨_, rfl, halting.passed _ _⟩

/-- **A stop on its own**, or because of an interrupt: whoever waits is woken. -/
theorem awaiting_halt (thread : Nat) (file : String) (line : Nat) :
    (stopOnInterrupt thread file line >>= fun _ => signalInterrupt).Keeps (Awaiting told) link := by
  intro w h
  by_cases runs : w.session.phase = .running
  · obtain ⟨u, e, halting⟩ :=
      halting_shown link h.halting (!file.isEmpty && 0 < line) thread file line
    have stops : stopOnInterrupt thread file line link w = .ok () u := by
      rw [← e]
      unfold stopOnInterrupt
      rw [look_apply, if_neg (not_not_intro runs)]
      cases !file.isEmpty && decide (0 < line) <;> rfl
    rw [after_congr (bind_ok stops _)]
    exact halting.woken
  · have asserts : stopOnInterrupt thread file line link w = .error .assertion w := by
      unfold stopOnInterrupt
      rw [look_apply, if_pos runs]
      rfl
    rw [after_of_error (by rw [bind_apply, asserts])]
    exact h

/-- **The end of a step**: nobody is woken, but the host is told. -/
theorem awaiting_completeStep (file : String) (line : Nat) :
    (completeStep file line).Keeps (Awaiting told) link := by
  intro w h
  unfold completeStep
  by_cases steps : w.session.phase = .stepping
  · let placed : World := { w with
      session := { w.session with document := some (file, line - 1) }
      events := .told (.documentContext file (line - 1))
        { w.session with phase := .stopped, document := some (file, line - 1) } :: w.events }
    have shown : Awaiting told placed :=
      (awaiting_stable.change (.document file (line - 1)) rfl rfl w h).passed rfl _
    rw [after_congr (by rw [look_apply, if_pos steps])]
    exact shown.stop rfl _
  · rw [after_congr (by rw [look_apply, if_neg steps])]
    exact h

/-- **A hit that stops**: nobody is woken, but the host is told. -/
theorem awaiting_hit (thread : Nat) (ids : List Nat) :
    (setPhase .stopped >>= fun _ => tell (.breakpointHit thread ids)).Keeps (Awaiting told) link :=
  fun _ h => h.stop rfl _

/-- The end of a session releases whoever waits. -/
theorem awaiting_finish (code : Nat) : (finish code).Keeps (Awaiting told) link := by
  intro w h
  cases alive : w.session.alive with
  | false =>
    rw [after_of_ok (finish_dead alive code)]
    exact h
  | true =>
    obtain ⟨v, e, -, calls⟩ := finish_ok link w code
    have same : v.stops = w.stops := by
      unfold World.stops
      rw [calls, if_pos alive]
      rfl
    have session := (after_finish link w code).2.2
    rw [after_of_ok e, if_pos alive] at session
    have least := h.least
    rw [after_of_ok e]
    -- an ended session drops the waiter instead of leaving it to wait
    refine ⟨?_, ?_, ?_, ?_, by rwa [same], ?_, ?_⟩
    · rw [session]
      exact h.barred
    · rw [session]
      show (if w.session.waiter = .waiting then Waiter.dropped else w.session.waiter) ≠ .nobody
      split
      · simp
      · exact h.asked
    · rw [session]
      exact fun _ => rfl
    · rw [session]
      show (if w.session.waiter = .waiting then Waiter.dropped else w.session.waiter) = .waiting → _
      split
      · simp
      · rename_i other
        exact fun waits => absurd waits other
    · rw [session]
      simp [Session.ended]
    · rw [session]
      simp [Session.ended]

end Stops

/-! ## What arrives meanwhile -/

section Within

variable {peer : Peer} {config : Config} {depth : Nat}

/-- Nobody resumes the target. -/
theorem awaiting_resume {link : Link} : resume.Keeps (Awaiting told) link := by
  intro w h
  rw [after_of_ok (resume_barred h.barred)]
  exact h

/-- Nobody else interrupts the target: who tries to waits for good. -/
theorem awaiting_interrupt {link : Link} : interrupt.Keeps (Awaiting told) link := by
  intro w h
  by_cases runs : w.session.phase = .running ∧ w.session.runMode
  · rw [after_of_error (interrupt_barred runs h.barred)]
    exact ⟨h.barred, by simp, by simp, by simp [runs.1], h.least, h.running, by simp [runs.1]⟩
  · rw [after_of_ok (interrupt_idle runs)]
    exact h

variable (nested : (diag (.within peer config depth) (Awaiting told)).Nested)

include nested

theorem awaiting_tidings : (diag (.within peer config depth) (Awaiting told)).Tidings where
  toFooting := awaiting_stable.footing (fun _ _ => nested.keeps_react awaiting_stable.note _ _)
    awaiting_resume awaiting_finish fun _ _ _ _ => lockstep_diag_iff.1 (nested.hit _ _ _ _)
  pass _ _ news := lockstep_diag_iff.2 fun _ h => h.passed news _

theorem awaiting_edits : (diag (.within peer config depth) (Awaiting told)).EditFooting :=
  (awaiting_tidings nested).toFooting.editFooting (fun on _ h => h.flagged on) awaiting_interrupt
    fun _ _ => lockstep_diag_iff.1 (nested.recount _ _)

/-- A condition is given at once or not at all: who would have to pause the target waits for
good. -/
theorem awaiting_giveCondition (i : Nat) (c : Condition) :
    (giveCondition i c).Keeps (Awaiting told) (.within peer config depth) ∧
      ∀ w, Awaiting told w → ∀ changed v,
        giveCondition i c (.within peer config depth) w = .ok changed v → changed.1 = false := by
  have edits := awaiting_edits nested
  let sent (r : Bool) : Act (Bool × Bool) := do
    let compared := (← Act.bound i).comparesValues
    sendCondition i c
    return (r, compared && c.style ≠ .whenChanged)
  let given : Act (Bool × Bool) := isRunning >>= fun r =>
    if r then pauseForEdit >>= fun _ => setPhase .stopped >>= fun _ => sent r else sent r
  -- a running target would have to be interrupted, and the gate of the first request is closed
  have paused : ∀ w, Awaiting told w → w.session.phase = .running ∧ w.session.runMode = true →
      ∃ v, given (.within peer config depth) w = .error .blocked v ∧ Awaiting told v := by
    intro w h runs
    let stuck : Session := { w.session with needsResume := true, waiter := .waiting }
    have blocked : interrupt (.within peer config depth)
        { w with session := { w.session with needsResume := true } } =
          .error .blocked { w with session := stuck } := interrupt_barred runs h.barred
    have kept : Awaiting told (interrupt.after (.within peer config depth)
        { w with session := { w.session with needsResume := true } }) :=
      awaiting_interrupt _ (h.flagged true)
    rw [after_of_error blocked] at kept
    refine ⟨_, ?_, kept⟩
    show (isRunning >>= _) (.within peer config depth) w = _
    rw [isRunning_bind_of_running runs, if_pos rfl, bind_apply, pauseForEdit_of_running runs.1,
      blocked]
  have idle : ∀ w, ¬(w.session.phase = .running ∧ w.session.runMode = true) →
      given (.within peer config depth) w = sent false (.within peer config depth) w := by
    intro w rests
    show (isRunning >>= _) (.within peer config depth) w = _
    rw [isRunning_bind_of_idle rests, if_neg Bool.false_ne_true]
  have keeps : given.Keeps (Awaiting told) (.within peer config depth) := by
    intro w h
    by_cases runs : w.session.phase = .running ∧ w.session.runMode = true
    · obtain ⟨v, e, kept⟩ := paused w h runs
      rw [after_of_error e]
      exact kept
    · rw [after_congr (idle w runs)]
      exact lockstep_diag_iff.1 ((edits.boundAt i).bind fun x =>
        (edits.sendCondition i c).bind fun _ => .pure _) w h
  refine ⟨lockstep_diag_iff.1 (edits.toFooting.inRegion (lockstep_diag_iff.2 keeps)), ?_⟩
  intro w h changed v e
  unfold giveCondition inRegion at e
  obtain ⟨x, y, taken, inner, -⟩ := holding_ok e
  have inside : Awaiting told x := by
    obtain ⟨permit, -, rfl⟩ := Option.map_eq_some_iff.1 taken
    exact awaiting_stable.change (.critical permit) rfl rfl w h
  have inner : given (.within peer config depth) x = .ok changed y := inner
  by_cases runs : x.session.phase = .running ∧ x.session.runMode = true
  · obtain ⟨z, stuck, -⟩ := paused x inside runs
    rw [inner] at stuck
    cases stuck
  · rw [idle x runs] at inner
    obtain ⟨b, z, -, inner⟩ := of_bind_ok inner
    obtain ⟨_, z', -, inner⟩ := of_bind_ok inner
    cases inner
    rfl

/-- So nothing is left to be resumed when a condition was changed. -/
theorem awaiting_applyCondition (i : Nat) (c : Condition) :
    (diag (.within peer config depth) (Awaiting told)).Lockstep (applyCondition i c) := by
  have edits := awaiting_edits nested
  have changes : (changeCondition i c).Keeps (Awaiting told) (.within peer config depth) :=
    lockstep_diag_iff.1 <| edits.changeCondition
      (fun i c => lockstep_diag_iff.2 (awaiting_giveCondition nested i c).1) i c
  -- so no condition has been changed under a running target
  have rests : ∀ w, Awaiting told w → ∀ changed v,
      changeCondition i c (.within peer config depth) w = .ok changed v → changed.1 = false := by
    intro w h changed v e
    rw [changeCondition_eq] at e
    obtain ⟨x, y, taken, inner, -⟩ := holding_ok e
    have gated : Awaiting told x := by
      obtain ⟨b, -, rfl⟩ := Option.map_eq_some_iff.1 taken
      exact awaiting_stable.rebind (w.bound.set i b) w h
    obtain ⟨b, x', found, inner⟩ := of_bind_ok inner
    have looked := lockstep_diag_iff.1 (edits.boundAt i) x gated
    rw [after_of_ok found] at looked
    obtain ⟨_, z, anew, inner⟩ := of_bind_ok inner
    have recreated : (if b.hits ≠ 0 then discard (recreate i) else pure () : Act Unit).Keeps
        (Awaiting told) (.within peer config depth) := by
      split
      · exact lockstep_diag_iff.1 (edits.recreate i).discard
      · exact .pure _
    have kept := recreated x' looked
    rw [after_of_ok anew] at kept
    exact (awaiting_giveCondition nested i c).2 z kept changed y inner
  refine lockstep_diag_iff.2 fun w h => ?_
  have kept := changes w h
  rw [applyCondition_eq]
  cases e : changeCondition i c (.within peer config depth) w with
  | error halt v =>
    rw [after_of_error e] at kept
    rw [after_of_error (by rw [bind_apply, e])]
    exact kept
  | ok changed v =>
    rw [after_of_ok e] at kept
    obtain ⟨wasRunning, countsAgain⟩ := changed
    have idle : wasRunning = false := rests w h _ v e
    have ends : (endCondition i (wasRunning, countsAgain)).Keeps (Awaiting told)
        (.within peer config depth) := by
      rw [idle]
      unfold endCondition
      dsimp only
      split
      · exact .bind (lockstep_diag_iff.1 (edits.boundAt i)) fun b =>
          .bind (lockstep_diag_iff.1 (edits.setPassCount i _)) fun _ => .pure _
      · exact .pure _
    rw [after_congr (bind_ok e _)]
    exact ends v kept

/-- While a break is awaited, every operation but the news of a stop keeps the request as it
stands. -/
theorem awaiting_basis : (diag (.within peer config depth) (Awaiting told)).Basis := by
  have counted : ∀ n : Nat, (diag (.within peer config depth) (Awaiting told)).Lockstep
      (update (Change.quits n).apply) := fun n => lockstep_diag_iff.2 fun _ h =>
    ⟨h.barred, h.asked, h.dropped, h.target, h.least, h.running, h.stopped⟩
  have tidings := awaiting_tidings nested
  have steps : (diag (.within peer config depth) (Awaiting told)).Lockstep (setPhase .stepping) :=
    lockstep_diag_iff.2 fun _ h => h.stepping
  refine tidings.basis
    (fun thread file line => lockstep_diag_iff.2 (awaiting_halt thread file line))
    (fun file line => lockstep_diag_iff.2 (awaiting_completeStep file line)) steps counted ?_
  exact lockstep_diag_iff.2 fun _ h => h.passed rfl _

/-- A hit tells of a stop, and by then the phase is no longer the one that is waited for. -/
theorem awaiting_handleHit (id : Nat) (file : String) (line thread : Nat) :
    (diag (.within peer config depth) (Awaiting told)).Lockstep
      (handleHit id file line thread) := by
  have tidings := awaiting_tidings nested
  refine tidings.handleHit
    (fun file line => lockstep_diag_iff.2 (awaiting_completeStep file line))
    (tidings.judgeHit (tidings.reportHit ?_ (awaiting_edits nested).stopAtHit)) id file line thread
  exact fun thread ids => lockstep_diag_iff.2 (awaiting_hit thread ids)

end Within

/-- **Whatever is delivered while a break request waits**, at any depth of nested calls. -/
theorem awaiting_nested (peer : Peer) (config : Config) (depth : Nat) :
    (diag (.within peer config depth) (Awaiting told)).Nested :=
  nested_of_levels
    (fun _ nested _ => (awaiting_basis nested).deliver fun record _ =>
      (awaiting_edits nested).handleBreakpoint record)
    (fun _ nested => (awaiting_edits nested).updateHitCount (awaiting_applyCondition nested))
    (fun _ nested => awaiting_handleHit nested) depth

/-! ## The request -/

section Request

variable {peer : Peer} {config : Config} {depth : Nat} {w v : World}

/-- The request begins with the gate closed, the waiter waiting and the stops counted. -/
theorem World.awaiting_interrupting (runs : w.Runs) :
    Awaiting w.stops.length (w.interrupting.submitting "-exec-interrupt") where
  barred := rfl
  asked := by simp [World.interrupting, World.submitting]
  dropped := by simp [World.interrupting, World.submitting]
  target _ := by
    show w.session.phase ≠ .design
    rw [runs.1]
    simp
  least := Nat.le_refl _
  running _ := Nat.le_refl _
  stopped _ stopped := by
    have : w.session.phase = .stopped := stopped
    rw [runs.1] at this
    cases this

/-- **How a break request ends** that was sent and is not waited for without end: with the stop
signalled, with the session over, or with neither in time. -/
theorem interrupt_ends (runs : w.Runs) (timed : config.waitsForever = false)
    (sent : peer.accept w.sent "-exec-interrupt" = .ok ()) {outcome : Except Failure Unit}
    (ends : attempt interrupt (.within peer config depth) w = .ok outcome v) :
    ∃ u, Awaiting w.stops.length u ∧ v = u.released ∧
      ((outcome = .ok () ∧ u.session.waiter = .signalled) ∨
        (outcome = .error .sessionEnded ∧ u.session.waiter = .dropped) ∨
        (outcome = .error .interruptTimeout ∧ u.session.waiter = .waiting)) := by
  cases free : w.session.breakAll.isFree with
  | false =>
    -- somebody interrupts the target already, so this request waits for good
    rw [attempt_apply, interrupt_barred runs free] at ends
    cases ends
  | true =>
    have submitted : submit "-exec-interrupt" (.within peer config depth) w.interrupting =
        react w.sent interruptCall (.within peer config depth)
          (w.interrupting.submitting "-exec-interrupt") := by
      rw [submit_apply, Link.within_peer, show w.interrupting.sent = w.sent from rfl, sent]
      rfl
    have kept := (awaiting_nested peer config depth).keeps_react awaiting_stable.note w.sent
      interruptCall _ (World.awaiting_interrupting runs)
    rw [attempt_apply, interrupt_apply runs free] at ends
    unfold awaitStop at ends
    rw [bind_apply, submitted] at ends
    cases reacted : react w.sent interruptCall (.within peer config depth)
        (w.interrupting.submitting "-exec-interrupt") with
    | error halt u =>
      -- what arrives never fails, and any other way to stop short is no end of the request
      rw [reacted] at ends
      cases halt with
      | failed cause => exact absurd reacted (Unfailing.react peer config depth _ _ _ _ _)
      | _ => cases ends
    | ok _ u =>
      rw [after_of_ok reacted] at kept
      rw [reacted] at ends
      refine ⟨u, kept, ?_⟩
      dsimp only at ends
      unfold awaitInterrupt at ends
      rw [look_apply] at ends
      cases waiter : u.session.waiter with
      | nobody => exact absurd waiter kept.asked
      | signalled =>
        rw [waiter] at ends
        cases ends
        exact ⟨rfl, .inl ⟨rfl, rfl⟩⟩
      | dropped =>
        rw [waiter] at ends
        cases ends
        exact ⟨rfl, .inr (.inl ⟨rfl, rfl⟩)⟩
      | waiting =>
        rw [waiter] at ends
        dsimp only at ends
        rw [read_apply, Link.within_config, timed] at ends
        cases ends
        exact ⟨rfl, .inr (.inr ⟨rfl, rfl⟩)⟩

/-- The stops that the host was told of stay told. -/
theorem World.stops_after_interrupt (peer : Peer) (config : Config) (depth : Nat) (w : World) :
    w.stops <:+ (interrupt.after (.within peer config depth) w).stops := by
  have events : w.events <:+ (interrupt.after (.within peer config depth) w).events :=
    Operation.suffix_events peer config depth .interrupt w
  obtain ⟨new, split⟩ := events
  unfold World.stops World.calls
  rw [← split, List.filterMap_append, List.filter_append]
  exact List.suffix_append _ _

end Request

/-- **A break request that finds the target stopped.** Of a request to interrupt a target that runs,
with any deliveries while it waits, and whatever they lead to: it succeeds if the session has
stopped in the end, it runs out of time only while the session takes the target to run, and it finds
the session over only if it is. All of that holds exactly if a request that runs out of time has had
the host told of no stop meanwhile, and has left no step begun: a hit or the end of a step does not
wake whoever waits. -/
theorem interrupt_finds_stop_iff (peer : Peer) (config : Config) (depth : Nat) (w v : World)
    (outcome : Except Failure Unit) (runs : w.Runs) (timed : config.waitsForever = false)
    (sent : peer.accept w.sent "-exec-interrupt" = .ok ())
    (ends : attempt interrupt (.within peer config depth) w = .ok outcome v) :
    ((v.session.alive = true ∧ v.session.phase = .stopped → outcome = .ok ()) ∧
        (outcome = .error .interruptTimeout → v.session.phase = .running) ∧
        (outcome = .error .sessionEnded → v.session.alive = false)) ↔
      (outcome = .error .interruptTimeout →
        v.stops = w.stops ∧ v.session.phase ≠ .stepping) := by
  have told : w.stops <:+ v.stops := by
    have suffix := World.stops_after_interrupt peer config depth w
    rwa [← after_attempt, after_of_ok ends] at suffix
  obtain ⟨u, kept, rfl, ended⟩ := interrupt_ends runs timed sent ends
  rcases ended with ⟨rfl, signalled⟩ | ⟨rfl, dropped⟩ | ⟨rfl, waiting⟩
  · exact ⟨fun _ => nofun, fun _ => ⟨fun _ => rfl, nofun, nofun⟩⟩
  · have gone : u.session.alive = false := kept.dropped dropped
    refine ⟨fun _ => nofun, fun _ => ⟨fun found => ?_, nofun, fun _ => gone⟩⟩
    exact Bool.noConfusion (gone.symm.trans found.1)
  · constructor
    · rintro ⟨-, running, -⟩ -
      have runs : u.session.phase = .running := running rfl
      refine ⟨?_, ?_⟩
      · exact (told.eq_of_length_le (kept.running runs)).symm
      · show u.session.phase ≠ .stepping
        rw [runs]
        simp
    · intro quiet
      obtain ⟨same, unstepped⟩ := quiet rfl
      have running : u.session.phase = .running := by
        cases phase : u.session.phase with
        | running => rfl
        | design => exact absurd phase (kept.target waiting)
        | stepping => exact absurd phase unstepped
        | stopped =>
          -- a stop that woke nobody is one that the host was told of
          have more := kept.stopped waiting phase
          have : u.stops = w.stops := same
          rw [this] at more
          omega
      refine ⟨fun found => ?_, fun _ => running, nofun⟩
      have : u.session.phase = .stopped := found.2
      rw [running] at this
      cases this

set_option maxRecDepth 100000 in
/-- A record that is of no stop arrives while the request waits: it runs out of time, and the target
is taken to run. -/
theorem interrupt_finds_stop_running :
    let link := Link.within (interruptedPeer "41;2") {} 3
    let w := runningWithBreakpoint
    let v := interrupt.after link w
    (w.Runs ∧ v.stops = w.stops ∧ v.session.phase ≠ .stepping) ∧
      attempt interrupt link w = .ok (.error .interruptTimeout) v ∧ v.session.phase = .running := by
  intro link w v
  have outcome : interrupt.outcome? link w = some (.error .interruptTimeout) := by decide +kernel
  have ends : attempt interrupt link w = .ok (.error .interruptTimeout) v :=
    Act.attempt_of_outcome? outcome
  have quiet : v.stops = w.stops ∧ v.session.phase ≠ .stepping := by decide +kernel
  have law := (interrupt_finds_stop_iff (interruptedPeer "41;2") {} 3 w v (.error .interruptTimeout)
    ⟨rfl, rfl⟩ rfl rfl ends).2 fun _ => quiet
  exact ⟨⟨⟨rfl, rfl⟩, quiet⟩, ends, law.2.1 rfl⟩

set_option maxRecDepth 100000 in
/-- A hit arrives while the request waits: the session has stopped and the host was told, but the
request runs out of time. -/
theorem interrupt_finds_stop_hit :
    let link := Link.within (interruptedPeer "27;1;a.c;5;2") {} 3
    let w := runningWithBreakpoint
    let v := interrupt.after link w
    w.Runs ∧ attempt interrupt link w = .ok (.error .interruptTimeout) v ∧
      v.session.alive = true ∧ v.session.phase = .stopped ∧
      v.stops = [.breakpointHit 2 [1]] := by
  intro link w v
  have outcome : interrupt.outcome? link w = some (.error .interruptTimeout) := by decide +kernel
  exact ⟨⟨rfl, rfl⟩, Act.attempt_of_outcome? outcome, by decide +kernel⟩

end DebugLink
