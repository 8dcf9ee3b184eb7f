import DebugLink.Proofs.HitStep

/-!
# Steps that give back what they took

A session holds permits and the gates of its bound breakpoints for a while: some are given back
whatever becomes of the step that took them, others by hand. A tidy step gives a value or fails with
everything held as before, and never waits for what is held already. Nothing is said of a step in
which an assertion fails, for then something may stay held.

* `World.holdings`: what is held, and by `Tidy` what a step does to it.
* `Tidy.bind`, `Tidy.inRegion`, `Tidy.withGates`: how tidy steps are put together, with what has to
  be free before.
* `Peer.Discreet`: a peer that delivers no record about breakpoints before a call returns.
* `courteous_within`: over a link to a discreet peer whatever is delivered meanwhile is tidy, on
  every level but the two lowest.
-/

namespace DebugLink

open Act Breakpoint

/-- What is held of a session: its permits, and the gates of its bound breakpoints. -/
structure Holdings where
  breakAll : Permit
  conditionUpdate : Permit
  critical : Permit
  gates : List Gates
  deriving DecidableEq

/-- What is held in a world. -/
def World.holdings (w : World) : Holdings where
  breakAll := w.session.breakAll
  conditionUpdate := w.session.conditionUpdate
  critical := w.session.critical
  gates := w.bound.map (·.held)

/-- What is held in a scene. -/
def Scene.holdings (s : Scene) : Holdings where
  breakAll := s.breakAll
  conditionUpdate := s.conditionUpdate
  critical := s.critical
  gates := s.bound.map (·.held)

theorem World.holdings_of_scene {v w : World} (h : v.scene = w.scene) :
    v.holdings = w.holdings := (congrArg Scene.holdings h :)

theorem World.Heard.holdings {v w : World} (h : w.Heard v) : v.holdings = w.holdings := by
  unfold World.holdings
  rw [h.session, h.bound]
  rfl

/-- Changing a breakpoint changes its gates and those of no other one. -/
theorem gates_modify (bounds : List Bound) (i : Nat) {f : Bound → Bound} {g : Gates → Gates}
    (h : ∀ b, (f b).held = g b.held) :
    (bounds.modify i f).map (·.held) = (bounds.map (·.held)).modify i g := by
  refine List.ext_getElem? fun j => ?_
  simp only [List.getElem?_map, List.getElem?_modify]
  cases bounds[j]? with
  | none => rfl
  | some b =>
    by_cases here : i = j
    · simp [here, h]
    · simp [here]

/-- Gates that are given back after they were taken are as before. -/
theorem modify_without_set {held : List Gates} {i : Nat} {g gates : Gates}
    (place : held[i]? = some g) (apart : g.meets gates = false) :
    (held.set i (g.union gates)).modify i (·.without gates) = held := by
  have taken : g.tryTake gates = some (g.union gates) := by simp [Gates.tryTake, apart]
  obtain ⟨size, rfl⟩ := List.getElem?_eq_some_iff.1 place
  refine List.ext_getElem? fun j => ?_
  rw [List.getElem?_modify, List.getElem?_set]
  by_cases here : i = j
  · subst here
    simp [size, (Gates.held_tryTake taken).2]
  · simp [here]

/-- **How a tidy step ends**: with a value or a failure and this held, or because an assertion
failed. It neither waits for good nor runs out of depth. -/
def Tidily {α : Type} (h : Holdings) : EStateM.Result Halt World α → Prop
  | .ok _ v => v.holdings = h
  | .error (.failed _) v => v.holdings = h
  | .error .assertion _ => True
  | .error .blocked _ => False
  | .error .overrun _ => False

/-- **A tidy step** leaves held what was held, if that is as it has to be. -/
def Tidy {α : Type} (link : Link) (P : Holdings → Prop) (act : Act α) : Prop :=
  ∀ w, P w.holdings → Tidily w.holdings (act link w)

/-- Whatever is held. -/
def whateverHeld : Holdings → Prop := fun _ => True

namespace Tidily

variable {α β : Type} {link : Link} {h k : Holdings} {w : World}

theorem bind {act : Act α} {next : α → Act β} (first : Tidily h (act link w))
    (second : ∀ a v, v.holdings = h → Tidily h (next a link v)) :
    Tidily h ((act >>= next) link w) := by
  rw [bind_apply]
  cases e : act link w with
  | ok a v => rw [e] at first; exact second a v first
  | error halt v => rw [e] at first; cases halt <;> exact first

/-- After an attempt something else may be held, because the attempt does not fail. -/
theorem attempt {act : Act α} {next : Except Failure α → Act β} (first : Tidily h (act link w))
    (second : ∀ outcome v, v.holdings = h → Tidily k (next outcome link v)) :
    Tidily k ((Act.attempt act >>= next) link w) := by
  rw [bind_apply, attempt_apply]
  cases e : act link w with
  | ok a v => rw [e] at first; exact second (.ok a) v first
  | error halt v =>
    rw [e] at first
    cases halt with
    | failed cause => exact second (.error cause) v first
    | assertion => trivial
    | blocked => exact first
    | overrun => exact first

theorem settle (outcome : Except Failure α) (held : w.holdings = h) :
    Tidily h (Act.settle outcome link w) := by
  cases outcome <;> exact held

theorem of_settles {act : Act α} {v : World} (settles : act.Settles link w v)
    (held : v.holdings = h) : Tidily h (act link w) := by
  rcases settles.ok_or_failed with ⟨a, e⟩ | ⟨cause, e⟩
  · rw [e]
    exact held
  · rw [e]
    exact held

/-- What is taken for a step and given back after it. -/
theorem holding {take : World → Option World} {give : World → World} {act : Act α} {u : World}
    (taken : take w = some u) (inside : Tidily h (act link u))
    (back : ∀ v, v.holdings = h → (give v).holdings = k) :
    Tidily k (Act.holding take give act link w) := by
  unfold Act.holding
  rw [taken]
  dsimp only
  cases e : act link u with
  | ok a v => rw [e] at inside; exact back v inside
  | error halt v =>
    rw [e] at inside
    cases halt with
    | failed cause => exact back v inside
    | assertion => trivial
    | blocked => exact inside
    | overrun => exact inside

end Tidily

namespace Tidy

variable {α β : Type} {link : Link} {P Q : Holdings → Prop}

theorem pre {act : Act α} (h : Tidy link P act) (weaker : ∀ k, Q k → P k) : Tidy link Q act :=
  fun w hw => h w (weaker _ hw)

theorem pure (a : α) : Tidy link P (Pure.pure a : Act α) := fun _ _ => rfl

theorem fail (cause : Failure) : Tidy link P (Act.fail cause : Act α) := fun _ _ => rfl

theorem assertion : Tidy link P (throw .assertion : Act α) := fun _ _ => trivial

theorem bind {act : Act α} {next : α → Act β} (first : Tidy link P act)
    (second : ∀ a, Tidy link P (next a)) : Tidy link P (act >>= next) := by
  intro w hw
  refine (first w hw).bind fun a v held => ?_
  have next := second a v (by rw [held]; exact hw)
  rw [held] at next
  exact next

/-- A step that is attempted is as tidy as the step. -/
theorem attempt {act : Act α} (h : Tidy link P act) : Tidy link P (Act.attempt act) := by
  intro w hw
  have ended := h w hw
  rw [attempt_apply]
  cases e : act link w with
  | ok a v => rw [e] at ended; exact ended
  | error halt v => rw [e] at ended; cases halt <;> exact ended

theorem settle (outcome : Except Failure α) : Tidy link P (Act.settle outcome) :=
  fun _ _ => .settle outcome rfl

theorem discard {act : Act α} (h : Tidy link P act) : Tidy link P (Functor.discard act) := by
  rw [discard_eq_bind]
  exact h.bind fun _ => pure _

/-- A value that is dropped makes no step tidier. -/
theorem of_discard {act : Act α} (h : Tidy link P (Functor.discard act)) : Tidy link P act := by
  intro w hw
  have ended := h w hw
  rw [discard_eq_bind, bind_apply] at ended
  cases e : act link w with
  | ok a v => rw [e] at ended; exact ended
  | error halt v => rw [e] at ended; cases halt <;> exact ended

theorem forM {list : List β} {act : β → Act PUnit} (each : ∀ x ∈ list, Tidy link P (act x)) :
    Tidy link P (list.forM act) := by
  induction list with
  | nil => exact pure _
  | cons x xs ih =>
    exact (each x List.mem_cons_self).bind fun _ =>
      ih fun y hy => each y (List.mem_cons_of_mem _ hy)

theorem look {next : Session → Act α} (each : ∀ s, Tidy link P (next s)) :
    Tidy link P (session >>= next) := fun w hw => each w.session w hw

theorem read {next : Link → Act α} (each : Tidy link P (next link)) :
    Tidy link P (read >>= next) := fun w hw => each w hw

/-- A step that changes nothing of what is held. -/
theorem modify {f : World → World} (same : ∀ w, (f w).holdings = w.holdings) :
    Tidy link P (modify f : Act PUnit) := fun w _ => same w

theorem of_aside {act : Act Unit} (aside : Aside act link) : Tidy link P act := by
  intro w _
  obtain ⟨v, e, scene⟩ := aside w
  rw [e]
  exact World.holdings_of_scene scene

/-! ## Bound breakpoints, and what is held meanwhile -/

/-- A bound breakpoint is looked up without taking anything; there may be none in the place. -/
theorem bound (i : Nat) : Tidy link P (Act.bound i) := by
  intro w _
  unfold Act.bound
  rw [get_apply]
  cases w.bound[i]? with
  | some b => exact rfl
  | none => exact trivial

theorem updateBound {f : Bound → Bound} (i : Nat) (same : ∀ b, (f b).held = b.held) :
    Tidy link P (Act.updateBound i f) := by
  refine modify fun w => ?_
  unfold World.holdings
  rw [gates_modify w.bound i (g := id) same, List.modify_id]

/-- A step that goes on with a breakpoint as it is bound, and with its gates. -/
theorem boundBind {next : Bound → Act α} {i : Nat}
    (each : ∀ b, Tidy link (fun k => P k ∧ k.gates[i]? = some b.held) (next b)) :
    Tidy link P (Act.bound i >>= next) := by
  intro w hw
  unfold Act.bound
  rw [bind_apply, get_apply]
  cases found : w.bound[i]? with
  | some b => exact each b w ⟨hw, by simp [World.holdings, found]⟩
  | none => exact trivial

/-- The place of a breakpoint is one of those that are bound. -/
theorem findBound? {next : Option Nat → Act α} {id : Nat}
    (found : ∀ i, Tidy link (fun k => P k ∧ i < k.gates.length) (next (some i)))
    (missing : Tidy link P (next none)) : Tidy link P (Act.findBound? id >>= next) := by
  intro w hw
  show Tidily w.holdings (next (w.bound.findIdx? (·.gdbId == id)) link w)
  cases place : w.bound.findIdx? (·.gdbId == id) with
  | none => exact missing w hw
  | some i =>
    obtain ⟨size, -⟩ := List.findIdx?_eq_some_iff_getElem.1 place
    exact found i w ⟨hw, by simpa [World.holdings] using size⟩

/-- A step inside the critical region, if that is free. -/
theorem inRegion {act : Act α} (free : ∀ k, P k → k.critical.isFree = true)
    (inside : ∀ k, P k → Q { k with critical := ⟨false⟩ }) (h : Tidy link Q act) :
    Tidy link P (Act.inRegion act) := by
  intro w hw
  have open' : w.session.critical = ⟨true⟩ := Permit.eq_of_isFree (free _ hw)
  let u : World := { w with session := { w.session with critical := ⟨false⟩ } }
  refine (h u (inside _ hw)).holding (u := u) ?_ fun v held => ?_
  · simp only [open', Permit.tryTake, if_true, Option.map_some]
    rfl
  · have back : ({ v with session := { v.session with critical := ⟨true⟩ } } : World).holdings =
        { v.holdings with critical := ⟨true⟩ } := rfl
    show World.holdings { v with session := { v.session with critical := ⟨true⟩ } } = _
    rw [back, held]
    show { w.holdings with critical := ⟨true⟩ } = w.holdings
    rw [← open']
    rfl

/-- A step while gates of a bound breakpoint are held, if they are free. -/
theorem withGates {act : Act α} {i : Nat} {gates : Gates}
    (free : ∀ k, P k → ∃ g, k.gates[i]? = some g ∧ g.meets gates = false ∧
      Q { k with gates := k.gates.set i (g.union gates) })
    (h : Tidy link Q act) : Tidy link P (Act.withGates i gates act) := by
  intro w hw
  obtain ⟨g, place, apart, inside⟩ := free _ hw
  obtain ⟨b, found, rfl⟩ : ∃ b, w.bound[i]? = some b ∧ b.held = g := by
    simpa [World.holdings] using place
  let u : World := { w with bound := w.bound.set i { b with held := b.held.union gates } }
  have held : u.holdings =
      { w.holdings with gates := w.holdings.gates.set i (b.held.union gates) } := by
    simp [u, World.holdings, List.map_set]
  -- what is given back afterwards is what was taken: the gates were apart before
  refine (h u (by rw [held]; exact inside)).holding (u := u) ?_ fun v same => ?_
  · simp [takeGates, found, Bound.tryHold, Gates.tryTake, apart, u]
  · have back : (giveGates i gates v).holdings =
        { v.holdings with gates := v.holdings.gates.modify i (·.without gates) } := by
      unfold giveGates World.holdings
      rw [gates_modify v.bound i (g := (·.without gates)) fun _ => rfl]
    rw [back, same, held]
    dsimp only
    rw [modify_without_set place apart]

/-- A step while the permit of condition changes is held, which is given back by hand; another one
when it is held already. -/
theorem borrowing {other act : Act Unit} (busy : Tidy link P other)
    (inside : ∀ k, P k → Q { k with conditionUpdate := ⟨false⟩ }) (h : Tidy link Q act) :
    Tidy link P (session >>= fun s => match s.conditionUpdate.tryTake with
      | none => other
      | some conditionUpdate => do
        Act.update fun s => { s with conditionUpdate }
        let outcome ← Act.attempt act
        Act.update fun s => { s with conditionUpdate := s.conditionUpdate.release }
        Act.settle outcome) := by
  intro w hw
  rw [look_apply]
  unfold Permit.tryTake
  cases free : w.session.conditionUpdate.isFree with
  | false => exact busy w hw
  | true =>
    have was : w.session.conditionUpdate = ⟨true⟩ := Permit.eq_of_isFree free
    let u : World := { w with session := { w.session with conditionUpdate := ⟨false⟩ } }
    refine (h u (inside _ hw)).attempt fun outcome v held => ?_
    let z : World := { v with session := { v.session with conditionUpdate := ⟨true⟩ } }
    refine .settle (w := z) outcome ?_
    have back : z.holdings = { v.holdings with conditionUpdate := ⟨true⟩ } := rfl
    rw [back, held, ← was]
    rfl

/-! ## Records that are not about breakpoints -/

/-- A record about execution, if resuming is tidy. -/
theorem handleExecution (resumes : Tidy link P Act.resume) (record : String) :
    Tidy link P (Act.handleExecution record) := by
  have applied : ∀ notice, Tidy link P (Act.applyExecution notice) := by
    intro notice w hw
    rcases applyExecution_cases notice link w with ⟨v, ended, heard⟩ | ⟨v, heard, e⟩
    · rcases ended with e | e
      · rw [e]
        exact heard.holdings
      · rw [e]
        trivial
    · -- the target is resumed with the same held as before
      have resumed := resumes v (by rw [heard.holdings]; exact hw)
      rw [heard.holdings] at resumed
      rw [e]
      exact resumed
  unfold Act.handleExecution
  split
  · exact fail _
  · exact (applied _).bind fun _ => pure _

/-- Output is told to the host, and nothing is taken for it. -/
theorem handleOutput (record : String) : Tidy link P (Act.handleOutput record) := by
  unfold Act.handleOutput
  split
  · exact fail _
  · extract_lets told
    have h_told : ∀ r, Tidy link P (told r) := fun _ => pure _
    split
    · have heard : ∀ stream text, Tidy link P (Act.tell (.output stream text)) := fun _ _ =>
        of_aside (aside_tell rfl)
      exact (heard _ _).bind h_told
    · exact (pure ()).bind h_told

/-- A record, if it is handled tidily when it is about breakpoints. -/
theorem receive (resumes : Tidy link P Act.resume) {record : String}
    (about : Record.Topic.ofRecord record = .breakpoint →
      Tidy link P (Act.handleBreakpoint record)) :
    Tidy link P (Act.receive record) := by
  have handled : Tidy link P (handleRecord record) := by
    unfold handleRecord
    split
    · rename_i topic
      exact (about topic).discard
    · exact (handleExecution resumes record).discard
    · exact (handleOutput record).discard
    · exact pure _
  -- a failure is logged, and the count of interrupts may be reset before
  unfold Act.receive
  refine look fun s => ?_
  extract_lets logged
  have h_logged : ∀ r, Tidy link P (logged r) := by
    intro r
    refine handled.attempt.bind fun outcome => ?_
    split
    · exact pure _
    · exact modify fun _ => rfl
  split
  · have reset : Tidy link P resetQuits := modify fun _ => rfl
    exact reset.bind h_logged
  · exact h_logged ()

/-- **A delivery is tidy** if its records about breakpoints are. -/
theorem deliver (resumes : Tidy link P Act.resume) {delivery : String}
    (about : ∀ record ∈ recordsOf delivery, Record.Topic.ofRecord record = .breakpoint →
      Tidy link P (Act.handleBreakpoint record)) :
    Tidy link P (Act.deliver delivery) := by
  refine forM fun record h => ?_
  unfold receiveAlive
  refine look fun s => ?_
  split
  · exact receive resumes (about record h)
  · exact pure _

/-! ## Commands -/

/-- A command that nobody waits for, if what is delivered before it returns is handled tidily. -/
theorem submit {command : String} (reacts : ∀ past, Tidy link P (react past (.submit command))) :
    Tidy link P (Act.submit command) := by
  intro w hw
  rw [submit_apply]
  cases link.peer.accept w.sent command with
  | ok _ => exact reacts _ (w.submitting command) hw
  | error cause => exact rfl

/-- **Resuming**, if its command is tidy while the gate on resuming is taken. -/
theorem resume (sends : Tidy link (fun k => k.breakAll.isFree = false)
    (Act.submit link.config.continueCommand)) : Tidy link P Act.resume := by
  intro w _
  cases free : w.session.breakAll.isFree with
  | false =>
    rw [resume_barred free]
    exact rfl
  | true =>
    have was : w.session.breakAll = ⟨true⟩ := Permit.eq_of_isFree free
    rw [resume_free free]
    refine (sends w.resuming rfl).attempt fun outcome v held => ?_
    refine .settle (w := { v with session := v.session.resumed }) outcome ?_
    have back : ({ v with session := v.session.resumed } : World).holdings =
        { v.holdings with breakAll := ⟨true⟩ } := rfl
    rw [back, held, ← was]
    rfl

end Tidy

/-! ## What is delivered before a call returns -/

/-- **A discreet peer** answers with what it makes of the results of gdb, and what it delivers
before a call returns is not about breakpoints. -/
structure Peer.Discreet (p : Peer) : Prop where
  answers : ∀ past command answer, p.answer past command = .ok answer →
    ∃ response, answer = Mi.answer command response
  reactions : ∀ past call, ∀ delivery ∈ p.reactions past call, ∀ record ∈ recordsOf delivery,
    Record.Topic.ofRecord record ≠ .breakpoint

/-- **A courteous link** is to a peer that answers so, what is delivered over it before a call
returns is handled tidily, and nobody waits for an interrupt for good. -/
structure Link.Courteous (link : Link) : Prop where
  answers : ∀ past command answer, link.peer.answer past command = .ok answer →
    ∃ response, answer = Mi.answer command response
  reacts : ∀ past call, Tidy link whateverHeld (react past call)
  patience : link.config.waitsForever = false

/-- While the gate on resuming is taken, resuming does nothing. -/
theorem tidy_resume_barred (peer : Peer) (config : Config) (depth : Nat) :
    Tidy (.within peer config depth) (fun k => k.breakAll.isFree = false) resume := by
  intro w taken
  rw [resume_barred taken]
  exact rfl

section Discreet

variable {peer : Peer} (discreet : peer.Discreet) {config : Config}

include discreet

/-- What a discreet peer delivers is handled tidily if it is one level deeper, where resuming has to
be tidy. -/
theorem discreet_react {P : Holdings → Prop} {depth : Nat}
    (resumes : Tidy (.within peer config depth) P resume) (past : List Call) (call : Call) :
    Tidy (.within peer config (depth + 1)) P (react past call) := by
  refine .read (.forM fun delivery h => ?_)
  have noted : Tidy (.within peer config (depth + 1)) P (record (.delivered delivery)) :=
    .modify fun _ => rfl
  have handled : Tidy (.within peer config depth) P (deliver delivery) :=
    .deliver resumes fun record hr topic => absurd topic (discreet.reactions past call delivery h
      record hr)
  exact noted.bind fun _ w hw => handled w hw

theorem discreet_resume (depth : Nat) (P : Holdings → Prop) :
    Tidy (.within peer config (depth + 1)) P resume :=
  .resume <| .submit fun past =>
    discreet_react discreet (tidy_resume_barred peer config depth) past _

/-- **Links to a discreet peer are courteous**, on every level but the two lowest: what is delivered
may resume the target, and what is delivered meanwhile does nothing more. -/
theorem courteous_within (times : config.waitsForever = false) (depth : Nat) :
    (Link.within peer config (depth + 2)).Courteous where
  answers past command answer := by
    rw [Link.within_peer]
    exact discreet.answers past command answer
  reacts := discreet_react discreet (discreet_resume discreet depth whateverHeld)
  patience := by
    rw [Link.within_config]
    exact times

end Discreet

/-! ## Commands over a courteous link -/

section Courteous

variable {link : Link} (courteous : link.Courteous) {P : Holdings → Prop}

include courteous

theorem tidy_submit (command : String) : Tidy link P (Act.submit command) :=
  .submit fun past => (courteous.reacts past _).pre fun _ _ => trivial

theorem tidy_resume : Tidy link P Act.resume := .resume (tidy_submit courteous _)

/-- A request and what is done with its answer, if that is tidy for every answer that is made from
a result. -/
theorem tidy_request_bind {α : Type} {command : String} {next : String → Act α}
    (each : ∀ response, Tidy link P (next (Mi.answer command response))) :
    Tidy link P (Act.request command >>= next) := by
  intro w hw
  have reacted : Tidily w.holdings (react w.sent (.request command) link
      (w.requesting command (link.peer.answer w.sent command))) :=
    courteous.reacts _ _ (w.requesting command _) trivial
  rw [bind_apply, request_apply, ← bind_apply, bind_assoc]
  refine reacted.bind fun _ v held => ?_
  cases answered : link.peer.answer w.sent command with
  | error cause => exact held
  | ok answer =>
    obtain ⟨response, rfl⟩ := courteous.answers _ _ _ answered
    have after := each response v (by rw [held]; exact hw)
    rw [held] at after
    exact after

theorem tidy_request (command : String) : Tidy link P (Act.request command) := by
  rw [← bind_pure (Act.request command)]
  exact tidy_request_bind courteous fun _ => .pure _

/-- Waiting for an interrupt. -/
theorem tidy_awaitInterrupt : Tidy link P awaitInterrupt := by
  refine .look fun s => ?_
  -- without a signal the wait runs out of time
  have timed : Tidy link P (read >>= fun link =>
      if link.config.waitsForever then throw .blocked else Act.fail .interruptTimeout :
        Act Unit) := by
    refine .read ?_
    rw [courteous.patience]
    exact .fail _
  split
  · exact .pure _
  · exact .fail _
  · exact timed
  · exact timed

/-- **An interrupt**, if no other one is under way. -/
theorem tidy_interrupt (free : ∀ k, P k → k.breakAll.isFree = true) :
    Tidy link P Act.interrupt := by
  intro w hw
  by_cases runs : w.session.phase = .running ∧ w.session.runMode
  · have was : w.session.breakAll = ⟨true⟩ := Permit.eq_of_isFree (free _ hw)
    have awaited : Tidy link whateverHeld (Act.submit "-exec-interrupt" >>= fun _ =>
        awaitInterrupt) := (tidy_submit courteous _).bind fun _ => tidy_awaitInterrupt courteous
    rw [interrupt_free runs (free _ hw)]
    refine (awaited w.interrupting trivial).attempt fun outcome v held => ?_
    refine .settle (w := v.released) outcome ?_
    have back : v.released.holdings = { v.holdings with breakAll := ⟨true⟩ } := rfl
    rw [back, held, ← was]
    rfl
  · rw [interrupt_idle runs]
    exact rfl

/-- The target is interrupted for an edit only if it runs, and then the gate on resuming has to be
free. -/
theorem tidy_pauseForEdit (free : ∀ k, P k → k.breakAll.isFree = true) :
    Tidy link P Act.pauseForEdit := by
  have flagged : Tidy link P (Act.update fun s => { s with needsResume := true }) :=
    .modify fun _ => rfl
  refine .look fun s => ?_
  split
  · exact .pure _
  · exact .pure _
  · exact flagged.bind fun _ => tidy_interrupt courteous free
  · exact flagged.bind fun _ => tidy_interrupt courteous free

/-- The target is resumed after an edit only if it was interrupted for it. -/
theorem tidy_resumeAfterEdit : Tidy link P Act.resumeAfterEdit := by
  have cleared : Tidy link P (Act.update fun s => { s with needsResume := false }) :=
    .modify fun _ => rfl
  refine .look fun s => cleared.bind fun _ => ?_
  split
  · exact tidy_resume courteous
  · exact .pure _

/-- **A step**: in code without source it is a resumption. -/
theorem tidy_step (kind : StepKind) : Tidy link P (Act.step kind) := by
  have phased : Tidy link P (setPhase .stepping) := .modify fun _ => rfl
  have depth : ∀ thread, Tidy link P (stackDepth thread) := by
    intro thread
    refine (tidy_request courteous _).bind fun answer => ?_
    split
    · exact .pure _
    · exact .fail _
  have command : ∀ thread, Tidy link P (stepCommand kind thread) := by
    intro thread
    unfold stepCommand
    split
    · exact .pure _
    · exact .pure _
    · refine (depth thread).bind fun frames => ?_
      split <;> exact .pure _
  -- a step out of code that is unknown resumes the target instead
  refine .look fun s => ?_
  split
  · exact phased.bind fun _ => tidy_resume courteous
  · exact (command _).bind fun _ => phased.bind fun _ => tidy_submit courteous _

end Courteous

end DebugLink
