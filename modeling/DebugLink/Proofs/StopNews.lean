import DebugLink.Proofs.HitStep
import DebugLink.Proofs.Lockstep.Invariant

/-!
# What the host is told of stops

The host may look at the session whenever it is told something. When it is told of a stop the
session has stopped, whatever was asked of it and whatever arrived before. It also takes the target
not to run, with one exception: a hit may end a step while gdb has said that the target runs, and
then nobody takes that back.

* `Event.Sound`, `Event.IsHasty`, `Event.IsMidStep`: what the host may be told of a stop, the
  exception, and the hit that leads to it.
* `candid_handleHit`: a hit that comes in the middle of a step, and all other ones.
* `stops_at_rest_iff`: over whole runs, the host is told of stops at rest exactly if no hit comes in
  the middle of a step.
-/

namespace DebugLink

open Act Breakpoint Pairing

/-- The host is told that a step has ended, of a session that takes the target to run. -/
def Event.IsHasty : Event → Prop
  | told call s => call = .stepCompleted ∧ s.runMode = true
  | _ => False

/-- The host is told of a place in the middle of a step. -/
def Event.IsMidStep : Event → Prop
  | told call s => call.isPlace = true ∧ s.phase = .stepping ∧ s.runMode = true
  | _ => False

instance : DecidablePred Event.IsMidStep
  | .told call s =>
    inferInstanceAs (Decidable (call.isPlace = true ∧ s.phase = .stepping ∧ s.runMode = true))
  | .submitted _ | .requested _ _ | .delivered _ | .closed | .logged _ _ | .printed _ _ =>
    inferInstanceAs (Decidable False)

/-- If the host is told of a stop, the session has stopped and the target does not run. -/
def Event.AtRest : Event → Prop
  | told call s => call.isStop = true → s.phase = .stopped ∧ s.runMode = false
  | _ => True

instance : DecidablePred Event.AtRest
  | .told call s =>
    inferInstanceAs (Decidable (call.isStop = true → s.phase = .stopped ∧ s.runMode = false))
  | .submitted _ | .requested _ _ | .delivered _ | .closed | .logged _ _ | .printed _ _ =>
    inferInstanceAs (Decidable True)

/-- **A sound event**: if the host is told of a stop the session has stopped, and it is at rest
unless a step has ended. -/
def Event.Sound : Event → Prop
  | told call s =>
    call.isStop = true → s.phase = .stopped ∧ (s.runMode = true → call = .stepCompleted)
  | _ => True

/-- What is sound but for its haste is told at rest. -/
theorem Event.Sound.atRest_iff {e : Event} (h : e.Sound) : e.AtRest ↔ ¬e.IsHasty := by
  cases e with
  | told call s =>
    constructor
    · rintro rest ⟨rfl, runs⟩
      exact Bool.noConfusion (runs.symm.trans (rest rfl).2)
    · intro calm stop
      obtain ⟨stopped, ended⟩ := h stop
      exact ⟨stopped, Bool.eq_false_iff.2 fun runs => calm ⟨ended runs, runs⟩⟩
  | _ => exact iff_of_true trivial id

namespace Event.Timely

variable {e : Event} (h : e.Timely)

include h

/-- A timely event is sound: what the host is told of a stop comes from a target at rest. -/
theorem sound : e.Sound := by
  cases e with
  | told call s =>
    intro stop
    obtain ⟨stopped, rest⟩ := h.1 stop
    exact ⟨stopped, fun runs => Bool.noConfusion (runs.symm.trans rest)⟩
  | _ => trivial

/-- A timely stop is not told while the target still runs. -/
theorem not_hasty : ¬e.IsHasty := by
  intro hasty
  cases e with
  | told call s =>
    obtain ⟨rfl, runs⟩ := hasty
    exact Bool.noConfusion (runs.symm.trans (h.1 rfl).2)
  | _ => exact hasty

/-- A timely place is not shown in the middle of a step. -/
theorem not_midStep : ¬e.IsMidStep := by
  intro midStep
  cases e with
  | told call s => exact h.2 midStep.1 midStep.2
  | _ => exact midStep

end Event.Timely

/-- **Candid news**: they are sound, and a step has ended in haste exactly if the host was
told of a place in the middle of a step. -/
structure Candid (events : List Event) : Prop where
  sound : ∀ e ∈ events, e.Sound
  hasty : (∃ e ∈ events, e.IsHasty) ↔ ∃ e ∈ events, e.IsMidStep

namespace Candid

variable {events : List Event}

/-- Timely events after a candid log leave it candid: none of them is an exception that it would
have to explain. -/
theorem timely (h : Candid events) {new : List Event} (timely : ∀ e ∈ new, e.Timely) :
    Candid (new ++ events) where
  sound e he := (List.mem_append.1 he).elim (fun he => (timely e he).sound) (h.sound e)
  hasty := by
    have none : ¬∃ e ∈ new, e.IsHasty := fun ⟨e, he, hasty⟩ => (timely e he).not_hasty hasty
    have none' : ¬∃ e ∈ new, e.IsMidStep := fun ⟨e, he, mid⟩ => (timely e he).not_midStep mid
    simp only [List.mem_append, or_and_right, exists_or, none, none', false_or]
    exact h.hasty

/-- A step that ends in haste after a place in the middle of it. -/
theorem ended (h : Candid events) {first last : Event} {new : List Event}
    (place : first.IsMidStep) (told : first.Sound) (timely : ∀ e ∈ new, e.Timely)
    (hasty : last.IsHasty) (told' : last.Sound) : Candid (last :: new ++ first :: events) where
  sound e he := by
    simp only [List.cons_append, List.mem_cons, List.mem_append] at he
    rcases he with rfl | he | rfl | he
    · exact told'
    · exact (timely e he).sound
    · exact told
    · exact h.sound e he
  hasty := iff_of_true ⟨last, by simp, hasty⟩ ⟨first, by simp, place⟩

end Candid

/-- A world in which the host was told candidly. -/
def World.Candid (w : World) : Prop := DebugLink.Candid w.events

/-- What is heard in time keeps the log candid. -/
theorem World.Heard.candid {w v : World} (heard : w.Heard v) (h : w.Candid) : v.Candid := by
  obtain ⟨new, told, timely⟩ := heard.told
  unfold World.Candid
  rw [told]
  exact Candid.timely h timely

/-- Whatever tells the host nothing keeps the log candid. -/
theorem candid_pliant : Pliant World.Candid where
  session _ _ h := h
  rebind _ _ h := h
  send _ _ h := h
  note e remark w h := by
    have timely : e.Timely := by
      cases e with
      | told call s => cases remark
      | _ => trivial
    exact (World.Heard.note w timely).candid h

/-- A step that only hears leaves the news candid. -/
theorem Hears.candid {α : Type} {link : Link} {P Q : Motions} {act : Act α}
    (h : Hears link P act Q) {w : World} (moves : P.Of w.session) (candid : w.Candid) :
    (act.after link w).Candid := by
  rcases h w moves with ⟨a, v, e, heard, -⟩ | ⟨v, e, heard⟩
  · rw [after_of_ok e]
    exact heard.candid candid
  · rw [after_of_error e]
    exact heard.candid candid

theorem Hears.keeps_candid {α : Type} {link : Link} {Q : Motions} {act : Act α}
    (h : Hears link anyhow act Q) : act.Keeps World.Candid link :=
  fun _ => h.candid trivial

/-! ## Hits -/

section Hit

variable {link : Link}

/-- What the host learns of a hit leaves the news candid, if no step is under way. -/
theorem hears_showHit {P : Motions} (between : ∀ p r, P p r → ¬(p = .stepping ∧ r = true))
    (file : String) (line thread : Nat) : Hears link P (showHit file line thread) P :=
  Hears.outdate.bind fun _ => (Hears.setThreadLocation _ _ _ between).bind fun _ =>
    Hears.setThread thread

/-- **A step ends in haste** where the target is taken to run: the host is told of the place in the
middle of the step, and then that it has ended. -/
theorem candid_ended_midStep {u : World} (h : u.Candid) (steps : u.session.phase = .stepping)
    (runs : u.session.runMode = true) (file : String) (line thread : Nat) (otherwise : Act Unit) :
    ((setThreadLocation thread file line >>= fun _ => setThread thread >>= fun _ =>
      session >>= fun s => if s.phase = .stepping then completeStep file line
        else otherwise : Act Unit).after link u).Candid := by
  let selected : Session := { u.session with thread }
  let stopped : Session := { selected with phase := .stopped, document := some (file, line - 1) }
  let place : Event := .told (.currentLocation thread file line) u.session
  let select : Event := .told (.threadSelected thread) selected
  let shown : List Event := [.told (.documentContext file (line - 1)) stopped, select]
  let located : World := { u with session := selected, events := select :: place :: u.events }
  have completed : completeStep file line link located = .ok () { u with
      session := stopped
      events := .told .stepCompleted stopped :: shown ++ place :: u.events } := by
    unfold completeStep
    rw [look_apply, if_pos steps]
    rfl
  have ended : (setThreadLocation thread file line >>= fun _ => setThread thread >>= fun _ =>
      session >>= fun s => if s.phase = .stepping then completeStep file line
        else otherwise : Act Unit) link u = completeStep file line link located := by
    show (if u.session.phase = .stepping then completeStep file line else otherwise)
      link located = _
    rw [if_pos steps]
  rw [after_of_ok (ended.trans completed)]
  -- what follows the place is told in a target that has stopped
  have timely : ∀ e ∈ shown, e.Timely := by
    intro e he
    simp only [shown, List.mem_cons, List.not_mem_nil, or_false] at he
    rcases he with rfl | rfl
    · exact Event.timely_told rfl rfl _
    · exact Event.timely_told rfl rfl _
  exact Candid.ended h ⟨rfl, steps, runs⟩ (fun stop => Bool.noConfusion stop) timely ⟨rfl, runs⟩
    fun _ => ⟨rfl, fun _ => rfl⟩

/-- A hit in the middle of a step of a target that is taken to run. -/
theorem candid_handleHit_midStep {w : World} (h : w.Candid)
    (steps : w.session.phase = .stepping) (runs : w.session.runMode = true) (id : Nat)
    (file : String) (line thread : Nat) :
    ((handleHit id file line thread).after link w).Candid := by
  let midStep : Motions := fun p r => p = .stepping ∧ r = true
  have outdated : Hears link midStep outdate midStep := .outdate
  have split : handleHit id file line thread = outdate >>= fun _ =>
      setThreadLocation thread file line >>= fun _ => setThread thread >>= fun _ =>
        session >>= fun s => if s.phase = .stepping then completeStep file line
          else publishLocation file line >>= fun _ => judgeHit id thread := by
    unfold outdate
    simp only [bind_assoc]
    rfl
  rw [split]
  rcases outdated w ⟨steps, runs⟩ with ⟨_, u, e, heard, steps', runs'⟩ | ⟨u, e, heard⟩
  · rw [after_congr (bind_ok e _)]
    exact candid_ended_midStep (heard.candid h) steps' runs' file line thread _
  · rw [after_of_error (by rw [bind_apply, e])]
    exact heard.candid h

/-- What is done once the host has learnt of a hit. -/
theorem candid_handleHit_judged {w : World} (h : w.Candid) (moves : w.session.phase ≠ .stepping)
    (judges : ∀ id thread, (judgeHit id thread).Keeps World.Candid link) (id : Nat)
    (file : String) (line thread : Nat) :
    ((handleHit id file line thread).after link w).Candid := by
  let moving : Motions := fun p _ => p ≠ .stepping
  have shown : Hears link moving (showHit file line thread) moving :=
    hears_showHit (fun _ _ moves runs => moves runs.1) file line thread
  rw [handleHit_eq]
  rcases shown w moves with ⟨_, u, e, heard, moves'⟩ | ⟨u, e, heard⟩
  · have published : (publishLocation file line).Keeps World.Candid link :=
      (Hears.publishLocation file line).keeps_candid
    have goesOn : ((showHit file line thread >>= fun _ => session >>= fun s =>
        if s.phase = .stepping then completeStep file line
          else publishLocation file line >>= fun _ => judgeHit id thread) : Act Unit) link w =
        (publishLocation file line >>= fun _ => judgeHit id thread) link u := by
      rw [bind_ok e, look_apply, if_neg moves']
    rw [after_congr goesOn]
    exact (published.bind fun _ => judges id thread) u (heard.candid h)
  · rw [after_of_error (by rw [bind_apply, e])]
    exact heard.candid h

/-- A hit that ends a step of a target that does not run. -/
theorem candid_handleHit_resting {w : World} (h : w.Candid) (rests : w.session.runMode = false)
    (steps : w.session.phase = .stepping) (id : Nat) (file : String) (line thread : Nat) :
    ((handleHit id file line thread).after link w).Candid := by
  let resting : Motions := fun p r => p = .stepping ∧ r = false
  have shown : Hears link resting (showHit file line thread) resting :=
    hears_showHit (fun p r rests => atRest_between p r rests.2) file line thread
  rw [handleHit_eq]
  rcases shown w ⟨steps, rests⟩ with ⟨_, u, e, heard, steps', rests'⟩ | ⟨u, e, heard⟩
  · have ends : ((showHit file line thread >>= fun _ => session >>= fun s =>
        if s.phase = .stepping then completeStep file line
          else publishLocation file line >>= fun _ => judgeHit id thread) : Act Unit) link w =
        completeStep file line link u := by
      rw [bind_ok e, look_apply, if_pos steps']
    rw [after_congr ends]
    exact (Hears.completeStep file line).candid rests' (heard.candid h)
  · rw [after_of_error (by rw [bind_apply, e])]
    exact heard.candid h

/-- **Every hit** leaves the news candid, if its judgement does. -/
theorem candid_handleHit (judges : ∀ id thread, (judgeHit id thread).Keeps World.Candid link)
    (id : Nat) (file : String) (line thread : Nat) :
    (handleHit id file line thread).Keeps World.Candid link := by
  intro w h
  by_cases steps : w.session.phase = .stepping
  · cases runs : w.session.runMode with
    | true => exact candid_handleHit_midStep h steps runs id file line thread
    | false => exact candid_handleHit_resting h runs steps id file line thread
  · exact candid_handleHit_judged h steps judges id file line thread

end Hit

/-! ## Runs -/

section Firm

variable (peer : Peer) (config : Config)

/-- **Candid news are firm.** -/
theorem candid_firm : Firm peer config World.Candid :=
  candid_pliant.firm fun code _ => (Hears.finish code).keeps_candid

variable {peer config} {depth : Nat}
  (nested : (diag (.within peer config depth) World.Candid).Nested)

include nested

/-- News of the execution keep the log candid, the end of a step included. -/
theorem candid_handleExecution (record : String) :
    (handleExecution record).Keeps World.Candid (.within peer config depth) := by
  have applied : ∀ notice,
      (applyExecution notice).Keeps World.Candid (.within peer config depth) := by
    intro notice w h
    rcases applyExecution_cases notice (.within peer config depth) w with
      ⟨v, e | e, heard⟩ | ⟨v, heard, e⟩
    · rw [after_of_ok e]
      exact heard.candid h
    · rw [after_of_error e]
      exact heard.candid h
    · rw [after_congr e]
      exact candid_pliant.resume nested v (heard.candid h)
  unfold handleExecution
  split
  · exact .halt _
  · exact (applied _).bind fun _ => .pure _

omit nested in
/-- Output of the program is told in any state. -/
theorem candid_handleOutput (record : String) :
    (handleOutput record).Keeps World.Candid (.within peer config depth) := by
  unfold handleOutput
  split
  · exact .halt _
  · extract_lets told
    have h_told : ∀ r, (told r).Keeps World.Candid (.within peer config depth) := fun _ => .pure _
    split
    · exact .bind (Hears.news rfl rfl).keeps_candid h_told
    · exact .bind (.pure ()) h_told

/-- Edits tell of no stop but those of the news that come in between. -/
theorem candid_edits : (diag (.within peer config depth) World.Candid).EditBasis :=
  (candid_firm peer config).editBasis depth nested
    { toFooting := ((candid_firm peer config).ground depth nested).toFooting
      reset := lockstep_diag_iff.2 (candid_pliant.update fun _ => rfl)
      execution := fun record => lockstep_diag_iff.2 (candid_handleExecution nested record)
      output := fun record => lockstep_diag_iff.2 (candid_handleOutput record) }

/-- A hit that is reported is told at rest. -/
theorem candid_reportHit (i id thread : Nat) :
    (reportHit i id thread).Keeps World.Candid (.within peer config depth) := by
  have edits := candid_edits nested
  have told : ∀ ids, Hears (.within peer config depth) anyhow (setRunMode false >>= fun _ =>
      setPhase .stopped >>= fun _ => tell (.breakpointHit thread ids)) atStop := fun ids =>
    .bind (Q := atRest) (.setRunMode fun _ _ _ => rfl) fun _ =>
      .bind (.setPhase fun _ _ rest => ⟨rfl, rest⟩) fun _ => .stop rfl
  have ignored : ∀ id n, (discard (stopAtHit id n) : Act Unit).Keeps World.Candid
      (.within peer config depth) := fun id n => lockstep_diag_iff.1 (edits.stopAtHit id n).discard
  -- the three steps that make and tell the stop are taken together
  have split : reportHit i id thread = countHit i >>= fun _ => bound i >>= fun b =>
      (setRunMode false >>= fun _ => setPhase .stopped >>= fun _ =>
        tell (.breakpointHit thread [b.gdbId])) >>= fun _ =>
          if b.stopsOnce then discard <| stopAtHit id ignoreForever
          else if b.stopsEvery ≠ 0 then
            discard <| stopAtHit id (b.stopsEvery - b.hits % b.stopsEvery : Nat)
          else pure () := by
    simp only [bind_assoc]
    rfl
  rw [split]
  refine .bind (lockstep_diag_iff.1 (edits.countHit i)) fun _ =>
    .bind (lockstep_diag_iff.1 (edits.boundAt i)) fun b =>
      .bind (told _).keeps_candid fun _ => ?_
  split
  · exact ignored _ _
  · split
    · exact ignored _ _
    · exact .pure _

theorem candid_hit (id : Nat) (file : String) (line thread : Nat) :
    (handleHit id file line thread).Keeps World.Candid (.within peer config depth) := by
  refine candid_handleHit (fun id thread => ?_) id file line thread
  exact lockstep_diag_iff.1 <| (candid_edits nested).judgeHit
    (fun i id thread => lockstep_diag_iff.2 (candid_reportHit nested i id thread)) id thread

end Firm

/-- What is nested in a call leaves the news candid. -/
theorem candid_nested (peer : Peer) (config : Config) (depth : Nat) :
    (diag (.within peer config depth) World.Candid).Nested :=
  nested_within (fun _ nested => candid_edits nested)
    (fun _ nested id file line thread =>
      lockstep_diag_iff.2 (candid_hit nested id file line thread))
    depth

/-- Whether an operation sets the target going, interrupts it or handles what arrives. -/
def Operation.Drives : Operation → Prop
  | deliver _ | receive _ | launch | resume | interrupt | step _ => True
  | _ => False

/-- **An operation that drives the target** leaves the news candid. -/
theorem candid_operation (peer : Peer) (config : Config) (depth : Nat) {op : Operation}
    (drives : op.Drives) : op.act.Keeps World.Candid (.within peer config depth) := by
  have nested := candid_nested peer config depth
  have edits := candid_edits nested
  have sent : ∀ command, (submit command).Keeps World.Candid (.within peer config depth) :=
    candid_pliant.submit nested
  cases op with
  | deliver delivery => exact lockstep_diag_iff.1 (edits.deliver' delivery)
  | receive record => exact lockstep_diag_iff.1 (edits.receive record)
  | launch =>
    have started : (setPhase .running >>= fun _ => setRunMode true >>= fun _ =>
        tell .moduleLoaded).Keeps World.Candid (.within peer config depth) :=
      Hears.keeps_candid (Q := anyhow) <| .bind (.setPhase fun _ _ h => h) fun _ =>
        .bind (.setRunMode fun _ _ h => h) fun _ => .news rfl rfl
    -- what the front end does before the first command tells of no stop
    have split : launch = (setPhase .running >>= fun _ => setRunMode true >>= fun _ =>
        tell .moduleLoaded) >>= fun _ => submit "-exec-run" := by
      simp only [bind_assoc]
      rfl
    show launch.Keeps _ _
    rw [split]
    exact started.bind fun _ => sent _
  | resume => exact candid_pliant.resume nested
  | interrupt => exact candid_pliant.interrupt nested
  | step kind => exact lockstep_diag_iff.1 (edits.step (fun m => lockstep_diag_iff.2 (sent _)) kind)
  | _ => exact drives.elim

/-- **The log stays candid over any run** of operations that the front end may call. -/
theorem candid_run (peer : Peer) (config : Config) (depth : Nat) {ops : List Operation}
    (drive : ∀ op ∈ ops, op.Drives) {w : World} (h : w.Candid) :
    (Operation.run (.within peer config depth) ops w).Candid := by
  induction ops generalizing w with
  | nil => exact h
  | cons op ops ih =>
    exact ih (fun op hop => drive op (List.mem_cons_of_mem _ hop))
      (candid_operation peer config depth (drive op List.mem_cons_self) w h)

/-- **The host is told of stops at rest.** Over whole runs in which the target is set going and
interrupted and records arrive: whenever the host is told of a stop the session has stopped, and it
takes the target to run then only if a step has ended. It never does exactly if the host is never
told of a place in the middle of a step, which is where a hit has it end. -/
theorem stops_at_rest_iff (peer : Peer) (config : Config) (depth : Nat) (ops : List Operation)
    (w : World) (drive : ∀ op ∈ ops, op.Drives) (fresh : w.events = []) :
    let v := Operation.run (.within peer config depth) ops w
    (∀ e ∈ v.events, e.Sound) ∧
      ((∀ e ∈ v.events, e.AtRest) ↔ ∀ e ∈ v.events, ¬e.IsMidStep) := by
  intro v
  have start : w.Candid := by
    unfold World.Candid
    rw [fresh]
    exact ⟨by simp, by simp⟩
  obtain ⟨sound, hasty⟩ := candid_run peer config depth drive start
  refine ⟨sound, fun rest e he midStep => ?_, fun calm e he => ?_⟩
  · obtain ⟨last, told, haste⟩ := hasty.2 ⟨e, he, midStep⟩
    exact (sound last told).atRest_iff.1 (rest last told) haste
  · refine (sound e he).atRest_iff.2 fun haste => ?_
    obtain ⟨first, told, midStep⟩ := hasty.1 ⟨e, he, haste⟩
    exact calm first told midStep

/-- A session whose target has stopped, with a breakpoint. -/
def stoppedWithBreakpoint : World where
  session := { phase := .stopped, runMode := false }
  bound := [{ gdbId := 1, location := .function "main" }]

set_option maxRecDepth 100000 in
/-- The target is launched and hits a breakpoint, and a step over a line ends by itself: the host is
told of both stops at rest. -/
theorem stops_at_rest_stepOver :
    let ops : List Operation :=
      [.launch, .deliver "41;1\r\n27;1;a.c;5;2", .step .over, .deliver "41;2\r\n45;a.c;6;2"]
    let v := Operation.run (.within ({} : Script).peer {} 2) ops stoppedWithBreakpoint
    ((∀ op ∈ ops, op.Drives) ∧ stoppedWithBreakpoint.events = [] ∧
        ∀ e ∈ v.events, ¬e.IsMidStep) ∧
      (∀ e ∈ v.events, e.AtRest) ∧ v.stops = [.stepCompleted, .breakpointHit 2 [1]] := by
  intro ops v
  have drive : ∀ op ∈ ops, op.Drives := by simp [ops, Operation.Drives]
  have calm : ∀ e ∈ v.events, ¬e.IsMidStep := by decide +kernel
  have rest := (stops_at_rest_iff ({} : Script).peer {} 2 ops stoppedWithBreakpoint drive rfl).2.2
    calm
  exact ⟨⟨drive, rfl, calm⟩, rest, by decide +kernel⟩

set_option maxRecDepth 100000 in
/-- A step into a function hits a breakpoint there after gdb has said that the target runs: the step
ends, and the session goes on taking the target to run. -/
theorem stops_at_rest_breakpoint :
    let ops : List Operation := [.step .into, .receive "41;2", .receive "27;1;a.c;5;2"]
    let v := Operation.run (.within ({} : Script).peer {} 2) ops stoppedWithBreakpoint
    (∀ op ∈ ops, op.Drives) ∧ ¬(∀ e ∈ v.events, e.AtRest) ∧ v.stops = [.stepCompleted] ∧
      v.session.phase = .stopped ∧ v.session.runMode = true := by
  intro ops v
  exact ⟨by simp [ops, Operation.Drives], by decide +kernel⟩

end DebugLink
