import DebugLink.Proofs.Barred
import DebugLink.Peer.Script

/-!
# Resuming, and the records it provokes

The peer may deliver records before the command to resume has returned, or right after. Both orders
are set side by side: what happens during the call runs on the left, where the gate is still taken
and the target not yet said to run, and what happens after it on the right.

* `Race`: what the two sides have in common while the deliveries are handled.
* `race_deliveries`: they keep it, until the right side resumes or interrupts the target.
* `resume_race_iff`: the two orders end alike exactly when the later one ends with the target
  running and without having resumed or interrupted it again.
-/

namespace DebugLink

open Act Breakpoint

/-- **The two orders side by side**: on the left resuming is barred still, on the right it is free
and the target is said to run unless a record said otherwise. The commands sent so far are more than
those before the call. -/
structure Race (c : Config) (past woken : List Call) (v w : World) : Prop where
  view : v.session.view = w.session.view
  runMode : w.session.runMode = false → v.session.runMode = false
  taken : v.session.breakAll.isFree = false
  free : w.session.breakAll.isFree = true
  bound : v.bound = w.bound
  sent : v.sent = w.sent
  calls : v.calls = w.calls
  wakes : w.wakes c = woken
  later : past.length < w.sent.length

/-! ## Changes of both sides -/

theorem Change.apply_view (c : Change) (s : Session) :
    (c.apply s).view = (c.apply s.view).view := by
  cases c with
  | woken => rw [woken_apply, woken_apply]; rfl
  | _ => rfl

/-- A change that clears the run mode on one side clears it on the other. -/
theorem Change.apply_runMode (c : Change) {s t : Session}
    (h : t.runMode = false → s.runMode = false) :
    (c.apply t).runMode = false → (c.apply s).runMode = false := by
  cases c with
  | runMode on => exact id
  | woken => rw [woken_apply, woken_apply]; exact h
  | _ => exact h

theorem Session.ended_view (s : Session) : s.ended.view = s.view.ended.view := rfl

namespace Race

variable {c : Config} {past woken : List Call} {v w : World} (h : Race c past woken v w)

include h

/-- A change of the session keeps the race if it keeps the view and the gate, and never leaves only
one side running. -/
theorem session {f : Session → Session} (view : ∀ s, (f s).view = (f s.view).view)
    (runMode : (f w.session).runMode = false → (f v.session).runMode = false)
    (breakAll : ∀ s, (f s).breakAll = s.breakAll) :
    Race c past woken { v with session := f v.session } { w with session := f w.session } where
  view := by
    show (f v.session).view = (f w.session).view
    rw [view, h.view, ← view]
  runMode := runMode
  taken := by
    show (f v.session).breakAll.isFree = false
    rw [breakAll]; exact h.taken
  free := by
    show (f w.session).breakAll.isFree = true
    rw [breakAll]; exact h.free
  bound := h.bound
  sent := h.sent
  calls := h.calls
  wakes := h.wakes
  later := h.later

theorem rebind (f : List Bound → List Bound) :
    Race c past woken { v with bound := f v.bound } { w with bound := f w.bound } :=
  { h with bound := congrArg f h.bound }

/-- Something is noted on both sides that tells the host the same. -/
theorem note {d e : Event}
    (same : ∀ rest rest' : World, rest.calls = rest'.calls →
      World.calls { rest with events := d :: rest.events } =
        World.calls { rest' with events := e :: rest'.events }) :
    Race c past woken { v with events := d :: v.events } { w with events := e :: w.events } :=
  { h with calls := same v w h.calls }

/-- A command is sent on both sides that wakes nothing. -/
theorem send {call : Call} (hc : call ∉ c.wakes) :
    Race c past woken { v with sent := call :: v.sent } { w with sent := call :: w.sent } :=
  { h with
    sent := congrArg (call :: ·) h.sent
    wakes := (List.filter_cons_of_neg (by simpa using hc)).trans h.wakes
    later := Nat.lt_succ_of_lt h.later }

theorem alive : v.session.alive = w.session.alive := (congrArg Session.alive h.view :)

theorem phase : v.session.phase = w.session.phase := (congrArg Session.phase h.view :)

theorem wakes_le : woken.length ≤ (w.wakes c).length := Nat.le_of_eq (congrArg _ h.wakes.symm)

/-- The target runs on the right if it runs on the left. -/
theorem running (hv : v.session.phase = .running ∧ v.session.runMode) :
    w.session.phase = .running ∧ w.session.runMode := by
  refine ⟨h.phase ▸ hv.1, ?_⟩
  cases hw : w.session.runMode with
  | true => rfl
  | false => rw [h.runMode hw] at hv; exact hv.2

end Race

/-! ## Every step in both orders -/

section Racing

variable (peer : Peer) (config : Config) (past : List Call) (call : Call) (deliveries : List String)
  (woken : List Call)

/-- The peer that delivers during the call beside the one that does not. The sides part when the
right one resumes or interrupts the target. -/
def racing (depth : Nat) : Pairing :=
  .level (peer.reacting past call deliveries) (peer.reacting past call []) config
    (Race config past woken) (Woken config woken.length) depth

variable {peer config past call deliveries woken} {depth : Nat}

/-- Two peers that differ in one call behave alike after it. -/
theorem reactions_later {s : List Call} (h : past.length < s.length) (c : Call) :
    (peer.reacting past call deliveries).reactions s c =
      (peer.reacting past call []).reactions s c := by
  have ne : s ≠ past := fun e => absurd h (by rw [e]; omega)
  simp only [Peer.reacting, ne, false_and, if_false]

theorem racing_left (depth : Nat) :
    (racing peer config past call deliveries woken depth).left.peer =
      peer.reacting past call deliveries := Link.within_peer ..

theorem racing_right (depth : Nat) :
    (racing peer config past call deliveries woken depth).right.peer = peer.reacting past call [] :=
  Link.within_peer ..

/-- On the right side the commands that were sent stay sent. -/
theorem racing_woken (depth : Nat) :
    (Pairing.diag (racing peer config past call deliveries woken depth).right
      (Woken config woken.length)).EditBasis :=
  (woken_invariant _ config _).edits depth ((woken_invariant _ config _).nested depth)

/-- A step that notes the same on both sides. -/
theorem racing_note {α : Type} {act : Act α}
    (keeps : act.Keeps (Woken config woken.length)
      (racing peer config past call deliveries woken depth).right)
    {value : α} {d e : World → Event}
    (left : ∀ w, act (racing peer config past call deliveries woken depth).left w =
      .ok value { w with events := d w :: w.events })
    (right : ∀ w, act (racing peer config past call deliveries woken depth).right w =
      .ok value { w with events := e w :: w.events })
    (same : ∀ v w rest rest' : World, rest.calls = rest'.calls →
      World.calls { rest with events := d v :: rest.events } =
        World.calls { rest' with events := e w :: rest'.events }) :
    (racing peer config past call deliveries woken depth).Lockstep act := by
  refine ⟨keeps, fun v w h => .inr ?_⟩
  rw [left, right]
  exact .ok value (h.note (same v w))

theorem racing_session {f : Session → Session} (alive : ∀ s, (f s).alive = s.alive)
    (view : ∀ s, (f s).view = (f s.view).view)
    (runMode : ∀ s t : Session, (t.runMode = false → s.runMode = false) →
      (f t).runMode = false → (f s).runMode = false)
    (breakAll : ∀ s, (f s).breakAll = s.breakAll) :
    (racing peer config past call deliveries woken depth).Lockstep (update f) := by
  refine ⟨(woken_pliant config _).update alive, fun v w h => .inr ?_⟩
  exact .ok () (h.session view (runMode _ _ h.runMode) breakAll)

/-- The end of a session is told alike in both orders. -/
theorem racing_finish (code : Nat) :
    (racing peer config past call deliveries woken depth).Lockstep (finish code) := by
  refine ⟨Pairing.lockstep_diag_iff.1 ((racing_woken depth).finish code), fun v w h => .inr ?_⟩
  cases ha : w.session.alive with
  | false =>
    rw [finish_dead ha, finish_dead (h.alive.trans ha)]
    exact .ok () h
  | true =>
    obtain ⟨notes, logged, e⟩ := finish_alive
      (racing peer config past call deliveries woken depth).left (h.alive.trans ha) code
    obtain ⟨notes', logged', e'⟩ := finish_alive
      (racing peer config past call deliveries woken depth).right ha code
    rw [e, e']
    refine .ok () { h.session (f := Session.ended) Session.ended_view h.runMode fun _ => rfl with
      calls := ?_, bound := h.bound, sent := h.sent, wakes := h.wakes, later := h.later }
    have calls := h.calls
    unfold World.calls at calls ⊢
    rw [List.filterMap_append, List.filterMap_append, calls_of_logged logged,
      calls_of_logged logged']
    exact congrArg (.sessionEnded code :: ·) calls

/-- Resuming is barred on the left, and on the right it parts the sides. -/
theorem racing_resume : (racing peer config past call deliveries woken depth).Lockstep resume :=
  ⟨Pairing.lockstep_diag_iff.1 (racing_woken depth).resume,
    fun _ _ h => .inl (woken_resume h.free h.wakes_le depth)⟩

/-- An interrupt of a target that runs parts the sides. -/
theorem racing_interrupt :
    (racing peer config past call deliveries woken depth).Lockstep interrupt := by
  refine ⟨Pairing.lockstep_diag_iff.1 (racing_woken depth).interrupt, fun v w h => ?_⟩
  by_cases running : w.session.phase = .running ∧ w.session.runMode
  · exact .inl (woken_interrupt running h.free h.wakes_le depth)
  · right
    rw [interrupt_idle running, interrupt_idle fun hv => running (h.running hv)]
    exact .ok () h

/-- An edit of a target that runs parts the sides. -/
theorem racing_whenRunning {α : Type} {next : Bool → Unit → Act α} {other : Bool → Act α}
    (hn : ∀ r u, (racing peer config past call deliveries woken depth).Lockstep (next r u))
    (ho : ∀ r, (racing peer config past call deliveries woken depth).Lockstep (other r)) :
    (racing peer config past call deliveries woken depth).Lockstep
      (isRunning >>= fun r => if r then pauseForEdit >>= next r else other r) := by
  refine ⟨Pairing.lockstep_diag_iff.1 ((racing_woken depth).whenRunning
    (fun r u => Pairing.lockstep_diag_iff.2 (hn r u).parted)
    (fun r => Pairing.lockstep_diag_iff.2 (ho r).parted)), fun v w h => ?_⟩
  by_cases running : w.session.phase = .running ∧ w.session.runMode
  · -- on the right the gate is free, so the edit interrupts the target there
    left
    rw [after_congr (isRunning_bind_of_running running)]
    refine Keeps.after_bind (I := Woken config woken.length) ?_ (fun u => (hn true u).parted)
    rw [after_congr (pauseForEdit_of_running running.1)]
    refine woken_interrupt ?_ ?_ ?_ depth
    · exact running
    · exact h.free
    · exact h.wakes_le
  · rw [isRunning_bind_of_idle running, isRunning_bind_of_idle fun hv => running (h.running hv),
      after_congr (isRunning_bind_of_idle running)]
    exact (ho false).same v w h

section Nested

variable (nested : (racing peer config past call deliveries woken depth).Nested)

include nested

/-- Both peers deliver the same from here on, as more was sent than before the call. -/
theorem racing_react {s : List Call} (hs : past.length < s.length) (c : Call) :
    (racing peer config past call deliveries woken depth).Lockstep (react s c) := by
  -- more was sent than before the call, so both peers deliver the same
  have taken : ∀ delivery,
      (racing peer config past call deliveries woken depth).Lockstep (takeDelivery delivery) := by
    intro delivery
    refine .bind ?_ fun _ => nested.deliver delivery
    exact racing_note ((woken_pliant config _).note _ rfl) (fun _ => rfl) (fun _ => rfl)
      fun _ _ _ _ h => h
  have each : (racing peer config past call deliveries woken depth).Lockstep
      (((peer.reacting past call []).reactions s c).forM takeDelivery) :=
    .forM fun delivery _ => taken delivery
  have left : react s c (racing peer config past call deliveries woken depth).left =
      (((peer.reacting past call []).reactions s c).forM takeDelivery : Act PUnit)
        (racing peer config past call deliveries woken depth).left := by
    funext w
    rw [react_apply, racing_left, reactions_later hs]
  have right : react s c (racing peer config past call deliveries woken depth).right =
      (((peer.reacting past call []).reactions s c).forM takeDelivery : Act PUnit)
        (racing peer config past call deliveries woken depth).right := by
    funext w
    rw [react_apply, racing_right]
  exact .congr each left right

/-- A request is recorded on both sides, answered alike, and the reactions keep the race. -/
theorem racing_request (command : String) :
    (racing peer config past call deliveries woken depth).Lockstep (request command) := by
  refine ⟨Pairing.lockstep_diag_iff.1 ((racing_woken depth).request command), fun v w h => ?_⟩
  have sent : Race config past woken (v.requesting command (peer.answer w.sent command))
      (w.requesting command (peer.answer w.sent command)) :=
    (h.send (show Call.request command ∉ config.wakes by simp [Config.wakes])).note
      (d := .requested command _) (e := .requested command _) fun _ _ e => e
  have answered := ((racing_react nested h.later (.request command)).bind fun _ =>
    Pairing.Lockstep.settle (peer.answer w.sent command)).same _ _ sent
  unfold after at answered ⊢
  rw [request_apply, request_apply, h.sent, racing_left, racing_right, Peer.reacting_answer,
    Peer.reacting_answer]
  exact answered

omit nested in
/-- Whatever the host is told it is told in both orders: telling it wakes nobody. -/
theorem racing_tell (told : HostCall) :
    (racing peer config past call deliveries woken depth).Lockstep (tell told) :=
  racing_note (fun _ woken => woken) (fun _ => rfl) (fun _ => rfl)
    fun _ _ _ _ e => congrArg (told :: ·) e

omit nested in
/-- What a session knows changes alike in both orders. -/
theorem racing_change (c : Change) :
    (racing peer config past call deliveries woken depth).Lockstep (update c.apply) :=
  racing_session c.apply_alive c.apply_view (fun _ _ => c.apply_runMode) c.apply_breakAll

/-- **What the host is told in both orders.** -/
theorem racing_telling : (racing peer config past call deliveries woken depth).Telling where
  config := by simp only [racing, Pairing.level, Link.within_config]
  view h := h.view
  bound h := h.bound
  change c _ _ := racing_change c
  phase p := racing_change (.phase p)
  rebind f := by
    refine ⟨Pairing.lockstep_diag_iff.1 ((racing_woken depth).rebind f), fun v w h => .inr ?_⟩
    exact .ok _ (h.rebind f)
  pass told _ _ := racing_tell told
  stop told _ := racing_tell told
  lost := racing_tell _
  count n := racing_change (.quits n)
  log level text :=
    racing_note ((woken_pliant config _).note _ rfl) (fun _ => rfl) (fun _ => rfl)
      fun _ _ _ _ e => e
  request := racing_request nested
  resume := racing_resume
  finish := racing_finish
  hit := nested.hit

theorem racing_editBasis : (racing peer config past call deliveries woken depth).EditBasis where
  toBasis := (racing_telling nested).basis
  phase p := racing_change (.phase p)
  flag _ := racing_session (fun _ => rfl) (fun _ => rfl) (fun _ _ => id) fun _ => rfl
  interrupt := racing_interrupt
  whenRunning := racing_whenRunning
  recount := nested.recount

end Nested

theorem racing_nested (depth : Nat) :
    (racing peer config past call deliveries woken depth).Nested :=
  Pairing.nested_within (fun _ => racing_editBasis)
    (fun _ nested => (racing_telling nested).handleHit (racing_editBasis nested).stopAtHit) depth

variable (peer config past call deliveries woken) in
theorem racing_deliver (depth : Nat) (delivery : String) :
    (racing peer config past call deliveries woken depth).Lockstep (deliver delivery) :=
  (racing_editBasis (racing_nested depth)).deliver' delivery

/-- **Deliveries in both orders**: on the left each is noted and handled one level deeper. -/
theorem race_deliveries (list : List String) {v w : World} (h : Race config past woken v w) :
    Woken config woken.length ((list.forM deliver : Act PUnit).after
        (.within (peer.reacting past call []) config depth) w) ∨
      (racing peer config past call deliveries woken depth).SameEnd
        ((list.forM takeDelivery : Act PUnit)
          (.within (peer.reacting past call deliveries) config (depth + 1)) v)
        ((list.forM deliver : Act PUnit)
          (.within (peer.reacting past call []) config depth) w) := by
  induction list generalizing v w with
  | nil => exact .inr (.ok _ h)
  | cons delivery list ih =>
    have noted : Race config past woken { v with events := .delivered delivery :: v.events } w :=
      { h with calls := h.calls }
    have each := racing_deliver peer config past call deliveries woken depth
    have rest : ∀ u : Unit, (list.forM deliver : Act PUnit).Keeps (Woken config woken.length)
        (.within (peer.reacting past call []) config depth) :=
      fun _ => .forM fun d _ => (each d).parted
    show Woken config woken.length
        ((deliver delivery >>= fun _ => (list.forM deliver : Act PUnit)).after _ w) ∨
      (racing peer config past call deliveries woken depth).SameEnd
        ((takeDelivery delivery >>= fun _ => (list.forM takeDelivery : Act PUnit)) _ v)
        ((deliver delivery >>= fun _ => (list.forM deliver : Act PUnit)) _ w)
    -- once the right side resumed the target, what is left of the list cannot take that back
    rcases (each delivery).same _ _ noted with parted | same
    · exact .inl (Keeps.after_bind (I := Woken config woken.length) parted rest)
    · have left : takeDelivery delivery
          (.within (peer.reacting past call deliveries) config (depth + 1)) v =
          deliver delivery (racing peer config past call deliveries woken depth).left
            { v with events := .delivered delivery :: v.events } := rfl
      have right : deliver delivery (.within (peer.reacting past call []) config depth) w =
          deliver delivery (racing peer config past call deliveries woken depth).right w := rfl
      rw [bind_apply, bind_apply, left, after_bind, right]
      generalize
        deliver delivery (racing peer config past call deliveries woken depth).left _ = l at same
      generalize
        deliver delivery (racing peer config past call deliveries woken depth).right w = r at same
      cases same with
      | ok _ h => exact ih h
      | error halt h => exact .inr (.error halt h)

end Racing

/-! ## The outcome -/

theorem Session.eq_of_view {s t : Session} (view : s.view = t.view)
    (runMode : s.runMode = t.runMode) (breakAll : s.breakAll = t.breakAll) : s = t := by
  cases s
  cases t
  simp_all [Session.view]

/-- What is left of resuming once the deliveries were handled. -/
theorem resume_reacting {peer : Peer} {config : Config} {depth : Nat} {deliveries : List String}
    {w : World} (free : w.session.breakAll.isFree = true)
    (accepted : peer.accept w.sent config.continueCommand = .ok ()) :
    let link :=
      Link.within (peer.reacting w.sent (.submit config.continueCommand) deliveries) config depth
    resume link w = match (deliveries.forM takeDelivery : Act PUnit) link
        (w.resuming.submitting config.continueCommand) with
      | .ok _ v => .ok () { v with session := v.session.resumed }
      | .error (.failed cause) v => .error (.failed cause) { v with session := v.session.resumed }
      | .error halt v => .error halt v := by
  intro link
  -- the peer of the race reacts to this one call with the deliveries
  have reacted : react w.sent (.submit config.continueCommand) link =
      (deliveries.forM takeDelivery : Act PUnit) link := by
    funext v
    rw [react_apply]
    simp only [link, Link.within_peer, Peer.reacting, and_self, if_true]
  have sent : link.peer.accept w.sent link.config.continueCommand = .ok () := by
    simp only [link, Link.within_config, Link.within_peer]
    exact accepted
  have e := resume_accepted free sent
  simp only [link, Link.within_config] at e
  rw [e, bind_apply, attempt_apply, reacted]
  cases (deliveries.forM takeDelivery : Act PUnit) link
      (w.resuming.submitting config.continueCommand) with
  | ok _ v => rfl
  | error halt v => cases halt <;> rfl

/-- The world in which a step ended. -/
def ending {α : Type} : EStateM.Result Halt World α → World
  | .ok _ v => v
  | .error _ v => v

/-- The world in which resuming ends after what the peer delivered meanwhile ended so. -/
def resumedEnding {α : Type} : EStateM.Result Halt World α → World
  | .ok _ v | .error (.failed _) v => { v with session := v.session.resumed }
  | .error _ v => v

/-- How the two orders compare, from how the deliveries ended in both. -/
theorem race_outcome {p : Pairing} {config : Config} {past woken : List Call}
    {l r : EStateM.Result Halt World PUnit} (rel : p.Rel = Race config past woken)
    (outcome : Woken config woken.length (ending r) ∨ p.SameEnd l r)
    (barred : Barred (· ∈ config.wakes) woken (ending l))
    (unfailing : ∀ cause w, r ≠ .error (.failed cause) w) :
    ((resumedEnding l).session = (ending r).session ∧ (resumedEnding l).bound = (ending r).bound ∧
        (resumedEnding l).calls = (ending r).calls ∧ (resumedEnding l).sent = (ending r).sent) ↔
      ((∃ w, r = .ok () w) ∧ (ending r).session.runMode = true ∧
        (ending r).wakes config = woken) := by
  rcases outcome with parted | same
  · have wakes : (resumedEnding l).wakes config = woken := by
      rw [← barred.sent]
      cases l with
      | ok _ v => rfl
      | error halt v => cases halt <;> rfl
    unfold Woken at parted
    -- more was sent on the right, so neither side of the equivalence holds
    constructor
    · rintro ⟨-, -, -, sent⟩
      unfold World.wakes at wakes parted
      rw [← sent, wakes] at parted
      omega
    · rintro ⟨-, -, h⟩
      rw [h] at parted
      omega
  · cases same with
    | ok _ h =>
      rw [rel] at h
      constructor
      · rintro ⟨session, -⟩
        exact ⟨⟨_, rfl⟩, (congrArg Session.runMode session).symm, h.wakes⟩
      · rintro ⟨-, runMode, -⟩
        refine ⟨Session.eq_of_view ?_ runMode.symm ?_, h.bound, h.calls, h.sent⟩
        · exact h.view
        · exact congrArg Permit.mk h.free.symm
    | error halt h =>
      rw [rel] at h
      constructor
      · rintro ⟨session, -⟩
        cases halt with
        | failed cause => exact absurd rfl (unfailing cause _)
        | _ =>
          -- whoever resumes is stuck with the gate
          have gate := congrArg (fun s : Session => s.breakAll.isFree) session
          exact absurd (h.taken.symm.trans (gate.trans h.free)) (by decide)
      · rintro ⟨⟨_, e⟩, -⟩
        cases e

/-- **Resuming against the records it provokes.** Deliveries that are handled before the command to
resume has returned and the same deliveries right after it leave the same session, breakpoints,
calls to the host and commands exactly when the second order gives a result, ends with the target
said to run, and neither resumed nor interrupted it again. This holds for every peer that takes the
command, every session of which nobody holds the gate, and every list of deliveries. -/
theorem resume_race_iff (peer : Peer) (config : Config) (depth : Nat) (deliveries : List String)
    (w : World) (free : w.session.breakAll.isFree = true)
    (accepted : peer.accept w.sent config.continueCommand = .ok ()) :
    let call := Call.submit config.continueCommand
    let during := resume.after (.within (peer.reacting w.sent call deliveries) config (depth + 1)) w
    let quiet := Link.within (peer.reacting w.sent call []) config depth
    let ordered : Act Unit := resume >>= fun _ => deliveries.forM deliver
    let later := ordered.after quiet w
    (during.session = later.session ∧ during.bound = later.bound ∧ during.calls = later.calls ∧
        during.sent = later.sent) ↔
      (ordered.returns quiet w = true ∧ later.session.runMode = true ∧
        later.wakes config = call :: w.wakes config) := by
  intro call during quiet ordered later
  let v₁ := w.resuming.submitting config.continueCommand
  let w₁ : World := { v₁ with session := v₁.session.resumed }
  have wakes₁ : v₁.wakes config = call :: w.wakes config :=
    World.wakes_submitting config.continueCommand_mem_wakes _
  have start : Race config w.sent (call :: w.wakes config) v₁ w₁ :=
    ⟨rfl, fun h => Bool.noConfusion h, rfl, rfl, rfl, rfl, rfl, wakes₁, Nat.lt_succ_self _⟩
  have first : ordered quiet w = (deliveries.forM deliver : Act PUnit) quiet w₁ := by
    show (resume >>= fun _ => (deliveries.forM deliver : Act PUnit)) quiet w = _
    rw [bind_apply, resume_reacting free accepted]
    rfl
  have outcome : Woken config (call :: w.wakes config).length ((deliveries.forM deliver :
        Act PUnit).after quiet w₁) ∨
      (racing peer config w.sent call deliveries (call :: w.wakes config) depth).SameEnd _ _ :=
    race_deliveries deliveries start
  -- on the left the gate is taken all the time, so nothing wakes the target there
  have barred : Barred (· ∈ config.wakes) (call :: w.wakes config)
      ((deliveries.forM takeDelivery : Act PUnit).after
        (.within (peer.reacting w.sent call deliveries) config (depth + 1)) v₁) :=
    (barred_invariant _ config _).takeDeliveries _ deliveries v₁ ⟨rfl, wakes₁⟩
  have left : during = resumedEnding ((deliveries.forM takeDelivery : Act PUnit)
      (.within (peer.reacting w.sent call deliveries) config (depth + 1)) v₁) := by
    show ending (resume _ w) = _
    rw [resume_reacting free accepted]
    cases (deliveries.forM takeDelivery : Act PUnit)
        (.within (peer.reacting w.sent call deliveries) config (depth + 1)) v₁ with
    | ok _ v => rfl
    | error halt v => cases halt <;> rfl
  have right : later = ending ((deliveries.forM deliver : Act PUnit) quiet w₁) :=
    congrArg ending first
  have returned : ordered.returns quiet w = true ↔
      ∃ u, (deliveries.forM deliver : Act PUnit) quiet w₁ = .ok () u := by
    unfold returns
    rw [first]
    split <;> rename_i e <;> rw [e] <;> simp
  rw [left, right, returned]
  exact race_outcome rfl outcome barred fun cause u => Unfailing.forM Unfailing.deliver w₁ cause u

/-- A session that stopped at a breakpoint, with every gate free. -/
def stoppedAtBreakpoint : World where
  session := { phase := .stopped, runMode := false }
  bound := [{ gdbId := 1, location := .function "main" }]

set_option maxRecDepth 100000 in
/-- A thread that is created while the target is being resumed leaves no trace of the order. -/
theorem resume_race_threadCreated :
    let w := stoppedAtBreakpoint
    let call := Call.submit ({} : Config).continueCommand
    let during := resume.after (.within (({} : Script).peer.reacting [] call ["40;2"]) {} 3) w
    let later := (resume >>= fun _ => ["40;2"].forM deliver : Act Unit).after
      (.within (({} : Script).peer.reacting [] call []) {} 2) w
    (w.session.breakAll.isFree = true ∧
        ({} : Script).peer.accept w.sent ({} : Config).continueCommand = .ok ()) ∧
      during.session = later.session ∧ during.bound = later.bound ∧ during.calls = later.calls ∧
        during.sent = later.sent :=
  ⟨⟨rfl, rfl⟩, (resume_race_iff ({} : Script).peer {} 2 ["40;2"] stoppedAtBreakpoint rfl rfl).2
    (by decide +kernel)⟩

set_option maxRecDepth 100000 in
/-- A breakpoint that is hit while the target is being resumed leaves a session that stopped and yet
is said to run; a hit right after it does not. -/
theorem resume_race_hit :
    let w := stoppedAtBreakpoint
    let call := Call.submit ({} : Config).continueCommand
    let during :=
      resume.after (.within (({} : Script).peer.reacting [] call ["27;1;a.c;5;2"]) {} 3) w
    let later := (resume >>= fun _ => ["27;1;a.c;5;2"].forM deliver : Act Unit).after
      (.within (({} : Script).peer.reacting [] call []) {} 2) w
    during.session.phase = .stopped ∧ during.session.runMode = true ∧
      later.session.phase = .stopped ∧ later.session.runMode = false ∧
      during.session ≠ later.session := by
  decide +kernel

end DebugLink
