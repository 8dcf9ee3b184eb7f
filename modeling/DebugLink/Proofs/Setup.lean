import DebugLink.Proofs.Contract
import DebugLink.Proofs.HitStep

/-!
# How bound breakpoints are set up

Whatever is handled, the bound breakpoints stay as they were set up: what changes is what the
session remembers of the hits that it counts itself, and nothing at all where gdb counts them. The
one exception is a record that gives a hit count.

* `Bound.setup`: what stays.
* `KeepsSetup`: a step that leaves the bound breakpoints as they were set up, with a rule for each
  way in which steps are put together; gates that are taken meanwhile are given back.
* `KeepsSetup.receive`, `Link.Harmless.within`: a record that gives no hit count.
-/

namespace DebugLink

open Act Breakpoint Record

namespace Breakpoint.Bound

/-- How a breakpoint is set up: all of it but what the session remembers of hits that it counts
itself. -/
def setup (b : Bound) : Bound :=
  if b.comparesValues then { b with hits := 0, previousValue := "" } else b

@[simp] theorem setup_plain {b : Bound} (plain : b.comparesValues = false) : b.setup = b := by
  unfold setup
  rw [plain, if_neg Bool.false_ne_true]

@[simp] theorem setup_comparesValues (b : Bound) :
    b.setup.comparesValues = b.comparesValues := by
  unfold setup
  split <;> rfl

@[simp] theorem setup_gdbId (b : Bound) : b.setup.gdbId = b.gdbId := by
  unfold setup
  split <;> rfl

/-- The gates are part of it. -/
theorem setup_held (b : Bound) (gates : Gates) :
    ({ b with held := gates } : Bound).setup = { b.setup with held := gates } := by
  unfold setup
  dsimp only
  split <;> rfl

theorem held_setup (b : Bound) : b.setup.held = b.held := by
  unfold setup
  split <;> rfl

/-- What is remembered of hits that the session counts is no part of it. -/
theorem setup_remembered {b : Bound} (compares : b.comparesValues = true) (hits : Nat)
    (value : String) :
    ({ b with hits := hits, previousValue := value } : Bound).setup = b.setup := by
  unfold setup
  dsimp only
  rw [if_pos compares, if_pos compares]

/-- A breakpoint that is set up like a plain one is that one. -/
theorem eq_of_setup {b c : Bound} (plain : b.comparesValues = false) (h : c.setup = b.setup) :
    c = b := by
  have same : c.comparesValues = false := by
    rw [← setup_comparesValues, h, setup_comparesValues, plain]
  rwa [setup_plain plain, setup_plain same] at h

end Breakpoint.Bound

/-- How the bound breakpoints are set up. -/
def World.setups (w : World) : List Bound := w.bound.map Bound.setup

theorem World.setups_of_bound {w v : World} (h : v.bound = w.bound) : v.setups = w.setups := by
  unfold setups
  rw [h]

theorem World.getElem?_setups (w : World) (i : Nat) :
    w.setups[i]? = w.bound[i]?.map Bound.setup := by
  unfold setups
  exact List.getElem?_map

/-- **A step that leaves the bound breakpoints as they were set up**, if it does not stop for
good. -/
def KeepsSetup {α : Type} (S : List Bound) (link : Link) (act : Act α) : Prop :=
  Contract link (fun w => w.setups = S) act (fun _ w => w.setups = S) fun w => w.setups = S

namespace KeepsSetup

variable {α β : Type} {S : List Bound} {link : Link}

theorem pure (a : α) : KeepsSetup S link (Pure.pure a : Act α) := Contract.pure fun _ h => h

theorem bind {act : Act α} {next : α → Act β} (first : KeepsSetup S link act)
    (second : ∀ a, KeepsSetup S link (next a)) : KeepsSetup S link (act >>= next) :=
  Contract.bind first second

/-- What keeps the setup keeps it where its failure is caught. -/
theorem attempt {act : Act α} (h : KeepsSetup S link act) :
    KeepsSetup S link (Act.attempt act) := by
  let Same (w : World) : Prop := w.setups = S
  have attempted : Contract link Same (Act.attempt act)
      (Contract.Outcome (fun _ => Same) Same) Same := Contract.attempt h
  refine attempted.imp (fun _ h => h) ?_ fun _ h => h
  intro outcome w hw
  cases outcome with
  | ok a => exact hw
  | error cause => exact hw

/-- Settling an outcome sets up nothing. -/
theorem settle (outcome : Except Failure α) : KeepsSetup S link (Act.settle outcome) := by
  intro w hw
  cases outcome with
  | ok a => exact hw
  | error cause => exact hw

theorem discard {act : Act α} (h : KeepsSetup S link act) :
    KeepsSetup S link (Functor.discard act) :=
  Contract.discard h

/-- A step that changes no breakpoint. -/
theorem change {f : World → World} (h : ∀ w, (f w).bound = w.bound) :
    KeepsSetup S link (modify f : Act PUnit) := fun w hw => (World.setups_of_bound (h w)).trans hw

theorem update (f : Session → Session) : KeepsSetup S link (Act.update f) := change fun _ => rfl

theorem note (e : Event) : KeepsSetup S link (Act.record e) := change fun _ => rfl

theorem send (call : Call) :
    KeepsSetup S link (modify fun w => { w with sent := call :: w.sent } : Act PUnit) :=
  change fun _ => rfl

theorem look {next : Session → Act α} (each : ∀ s, KeepsSetup S link (next s)) :
    KeepsSetup S link (session >>= next) := Contract.look each

theorem read {next : Link → Act α} (h : KeepsSetup S link (next link)) :
    KeepsSetup S link (read >>= next) := h

theorem get {next : World → Act α} (each : ∀ w, KeepsSetup S link (next w)) :
    KeepsSetup S link (get >>= next) := fun w => each w w

/-- A run over a list keeps the setup if each of its acts does. -/
theorem forM {list : List β} {act : β → Act PUnit} (each : ∀ x ∈ list, KeepsSetup S link (act x)) :
    KeepsSetup S link (list.forM act) := by
  induction list with
  | nil => exact pure _
  | cons x list ih =>
    exact (each x List.mem_cons_self).bind fun _ =>
      ih fun y hy => each y (List.mem_cons_of_mem x hy)

/-- A step that ends as another one does from a world with the same breakpoints. -/
theorem of_same {act act' : Act α}
    (h : ∀ w, ∃ u, u.bound = w.bound ∧ act link w = act' link u) (keeps : KeepsSetup S link act') :
    KeepsSetup S link act := by
  intro w hw
  obtain ⟨u, bound, e⟩ := h w
  rw [e]
  exact keeps u ((World.setups_of_bound bound).trans hw)

/-! ## Bound breakpoints -/

/-- What is found in a place is set up as it was. -/
theorem boundAt {i : Nat} {next : Bound → Act α}
    (each : ∀ b : Bound, S[i]? = some b.setup → KeepsSetup S link (next b)) :
    KeepsSetup S link (bound i >>= next) := by
  intro w hw
  unfold Act.bound
  rw [bind_apply, get_apply]
  cases found : w.bound[i]? with
  | none => trivial
  | some b =>
    refine each b ?_ w hw
    rw [← hw, World.getElem?_setups, found]
    rfl

/-- A change of what is remembered only. -/
theorem updateBound {i : Nat} {f : Bound → Bound}
    (h : ∀ b : Bound, S[i]? = some b.setup → (f b).setup = b.setup) :
    KeepsSetup S link (updateBound i f) := by
  intro w hw
  show (w.bound.modify i f).map Bound.setup = S
  rw [← hw]
  -- place by place: only the one in place `i` is changed, and that one stays set up as it was
  refine List.ext_getElem? fun j => ?_
  rw [List.getElem?_map, World.getElem?_setups, List.getElem?_modify]
  cases found : w.bound[j]? with
  | none => rfl
  | some b =>
    by_cases here : i = j
    · subst here
      have there : S[i]? = some b.setup := by
        rw [← hw, World.getElem?_setups, found]
        rfl
      simp [h b there]
    · simp [here]

/-- The session counts hits of a breakpoint that compares values. -/
theorem countHit (i : Nat) : KeepsSetup S link (countHit i) := by
  unfold Act.countHit
  refine boundAt fun b there => ?_
  split
  · rename_i compares
    split
    · refine updateBound fun d here => ?_
      have same : d.comparesValues = true := by
        rw [← Bound.setup_comparesValues, Option.some.inj (here.symm.trans there),
          Bound.setup_comparesValues, compares]
      exact Bound.setup_remembered same (d.hits + 1) d.previousValue
    · exact fun _ _ => trivial
  · exact pure _

/-! ## What is held meanwhile -/

/-- The gate of the region is no setup. -/
theorem inRegion {act : Act α} (h : KeepsSetup S link act) : KeepsSetup S link (inRegion act) := by
  refine Contract.holding h ?_ (fun a w hw => hw) fun w hw => hw
  intro w v hw taken
  obtain ⟨permit, -, rfl⟩ := Option.map_eq_some_iff.1 taken
  exact hw

/-- Gates are given back to the breakpoint that they were taken of. -/
theorem setups_giveGates {w v : World} {i : Nat} {gates held : Gates} {b : Bound}
    (found : w.bound[i]? = some b) (taken : b.held.tryTake gates = some held)
    (same : v.setups = ({ w with bound := w.bound.set i { b with held } } : World).setups) :
    (giveGates i gates v).setups = w.setups := by
  have size := (List.getElem?_eq_some_iff.1 found).1
  refine List.ext_getElem? fun j => ?_
  have there : v.setups[j]? = _ := congrArg (·[j]?) same
  rw [World.getElem?_setups, World.getElem?_setups, List.getElem?_set] at there
  rw [World.getElem?_setups, World.getElem?_setups]
  show ((v.bound.modify i (·.free gates))[j]?).map Bound.setup = _
  rw [List.getElem?_modify]
  by_cases here : i = j
  · subst here
    rw [if_pos rfl, if_pos size, Option.map_some, Bound.setup_held] at there
    obtain ⟨c, foundThere, setup⟩ := Option.map_eq_some_iff.1 there
    -- what was found there may remember other hits by now, but holds the gates that were taken
    have freed : (c.free gates).setup = b.setup := by
      show ({ c with held := c.held.without gates } : Bound).setup = b.setup
      rw [Bound.setup_held, setup, ← Bound.held_setup c, setup]
      dsimp only
      rw [(Gates.held_tryTake taken).2, ← Bound.held_setup b]
    rw [foundThere, found]
    simp [freed]
  · rw [if_neg here] at there
    simp [here, there]

/-- The gates of a breakpoint are no part of its setup. -/
theorem withGates {i : Nat} {gates : Gates} {act : Act α} (h : ∀ T, KeepsSetup T link act) :
    KeepsSetup S link (withGates i gates act) := by
  intro w hw
  unfold Act.withGates Act.holding
  cases taken : takeGates i gates w with
  | none => trivial
  | some u =>
    obtain ⟨b, now, found, took, rfl⟩ := of_takeGates taken
    have kept := h _ { w with bound := w.bound.set i { b with held := now } } rfl
    dsimp only
    cases e : act link { w with bound := w.bound.set i { b with held := now } } with
    | ok a v =>
      rw [e] at kept
      exact (setups_giveGates found took kept).trans hw
    | error halt v =>
      rw [e] at kept
      cases halt with
      | failed cause => exact (setups_giveGates found took kept).trans hw
      | _ => trivial

end KeepsSetup

/-! ## Peers that give no hit counts -/

/-- The snapshot with which a record gives a hit count. -/
def reportOf? (record : String) : Option Snapshot :=
  match Topic.ofRecord record, Notice.read record with
  | .breakpoint, .ok (.modified s) => some s
  | _, _ => none

/-- A report is exactly the record of a modified breakpoint. -/
theorem reportOf?_eq_some_iff {record : String} {s : Snapshot} :
    reportOf? record = some s ↔ Announces record (.modified s) := by
  unfold reportOf?
  constructor
  · intro h
    split at h
    · rename_i topic read
      cases h
      exact ⟨topic, read⟩
    · cases h
  · rintro ⟨topic, read⟩
    rw [topic, read]

/-- **A reticent peer** gives hit counts in the records that it sends on its own, and neither in the
answers to ignore counts nor before a call returns that is no interrupt. -/
structure Peer.Reticent (p : Peer) : Prop where
  answers : ∀ past id count answer, p.answer past (breakAfter id count) = .ok answer →
    ∀ s, Notice.read answer ≠ .ok (.modified s)
  reactions : ∀ past call, call ≠ interruptCall → ∀ delivery ∈ p.reactions past call,
    ∀ record ∈ recordsOf delivery, reportOf? record = none

/-- A peer that answers with what it makes of the results of gdb is reticent. -/
theorem Peer.Attentive.reticent {p : Peer} (h : p.Attentive) : p.Reticent where
  answers past id count answer answered s read := by
    obtain ⟨response, rfl⟩ := h.answers _ _ _ answered
    have plain := Mi.plain_of_answer (show "-break-after" ∈ Mi.editVerbs by decide)
      (Mi.head_words (by decide) (toList_breakAfter id count)) read
    cases plain
  reactions past call other delivery mem := by
    rw [h.reactions past call other] at mem
    cases mem

/-- **A harmless link**: what is nested in the calls over it leaves breakpoints as they were set up,
if it gives no hit counts. -/
structure Link.Harmless (link : Link) : Prop where
  deliver : ∀ S delivery, (∀ record ∈ recordsOf delivery, reportOf? record = none) →
    KeepsSetup S link (fun link => link.deliver delivery : Act Unit)
  hit : ∀ S id file line thread,
    KeepsSetup S link (fun link => link.hit id file line thread : Act Unit)

namespace KeepsSetup

section Link

variable {α : Type} {S : List Bound} {link : Link} (reticent : link.peer.Reticent)
  (nested : link.Harmless)

include reticent nested

/-! ## Commands -/

theorem react (past : List Call) {call : Call} (other : call ≠ interruptCall) :
    KeepsSetup S link (react past call) := by
  refine read (forM fun delivery mem => ?_)
  exact (note _).bind fun _ =>
    nested.deliver S delivery (reticent.reactions past call other delivery mem)

/-- Submitting a command keeps the setup unless it is the one that interrupts. -/
theorem submit {command : String} (other : command ≠ "-exec-interrupt") :
    KeepsSetup S link (submit command) := by
  have sent : Call.submit command ≠ interruptCall := by
    intro e
    cases e
    exact other rfl
  unfold Act.submit
  refine get fun w => (note _).bind fun _ => (send _).bind fun _ => read ?_
  exact (settle _).bind fun _ => react reticent nested _ sent

/-- What is done with an answer that the peer gave. -/
theorem request_bind {command : String} {next : String → Act α}
    (each : ∀ past answer, link.peer.answer past command = .ok answer →
      KeepsSetup S link (next answer)) :
    KeepsSetup S link (request command >>= next) := by
  have sent : Call.request command ≠ interruptCall := by
    intro e
    cases e
  unfold Act.request
  simp only [bind_assoc]
  refine get fun w => read ((note _).bind fun _ => (send _).bind fun _ => ?_)
  refine (react reticent nested _ sent).bind fun _ => ?_
  cases answered : link.peer.answer w.sent command with
  | ok answer => exact fun u => each w.sent answer answered u
  | error cause => exact fun _ hu => hu

theorem request (command : String) : KeepsSetup S link (request command) := by
  have keeps : KeepsSetup S link (Act.request command >>= Pure.pure) :=
    request_bind reticent nested fun _ answer _ => pure answer
  rwa [bind_pure] at keeps

/-- Resuming submits a command that does not interrupt. -/
theorem resume : KeepsSetup S link resume := by
  unfold Act.resume
  refine look fun s => ?_
  split
  · exact pure _
  · refine (update _).bind fun _ => (update _).bind fun _ => read ?_
    refine (submit reticent nested link.config.continueCommand_ne).attempt.bind fun sent => ?_
    exact (update _).bind fun _ => (update _).bind fun _ => settle sent

/-! ## Notices -/

omit reticent in
/-- **A notice** that gives no hit count. -/
theorem applyNotice {notice : Notice} (other : ∀ s, notice ≠ .modified s) :
    KeepsSetup S link (applyNotice notice) := by
  unfold Act.applyNotice
  cases notice with
  | inserted snapshot =>
    dsimp only
    split
    · exact (update _).bind fun _ => update _
    · exact update _
  | modified snapshot => exact absurd rfl (other snapshot)
  | deleted id => exact update _
  | enabled id => exact update _
  | disabled id => exact update _
  | ignoreCount id count => exact update _
  | condition id condition => exact update _
  | hit id file line thread =>
    refine look fun s => ?_
    split
    · exact pure _
    · refine (update _).bind fun _ =>
        (nested.hit S id file line thread).attempt.bind fun handled => ?_
      exact (update _).bind fun _ => settle handled
  | conditionError => exact pure _
  | unused => exact pure _

omit reticent in
/-- Of the news about breakpoints only a report changes a setup. -/
theorem handleBreakpoint {record : String} (other : ∀ s, Notice.read record ≠ .ok (.modified s)) :
    KeepsSetup S link (handleBreakpoint record) := by
  unfold Act.handleBreakpoint
  cases read : Notice.read record with
  | error defect => exact settle (.error _)
  | ok notice =>
    refine (applyNotice nested fun s e => other s ?_).bind fun _ => pure _
    rw [read, e]

/-- **Letting hits pass.** -/
theorem stopAtHit (id : Nat) (n : Int) : KeepsSetup S link (stopAtHit id n) := by
  have asked : KeepsSetup S link (requestNotice (breakAfter id (ignoreCountFor n))) := by
    unfold Act.requestNotice
    refine request_bind reticent nested fun past answer answered => ?_
    split
    · exact pure _
    · refine bind (discard (handleBreakpoint nested ?_)) fun _ => pure _
      exact reticent.answers past id _ answer answered
  unfold Act.stopAtHit
  split
  · exact bind (fun _ _ => trivial) fun _ => asked
  · exact asked

/-! ## Hits -/

/-- Evaluating an expression asks twice at most and changes nothing. -/
theorem evaluate (expression : String) :
    KeepsSetup S link (query (Variable.evaluate expression none)) := by
  unfold Act.query Variable.evaluate
  extract_lets shown
  split
  · exact (pure _).bind fun _ => settle _
  · rw [ExceptT.run_bind]
    refine bind (bind (request reticent nested _).attempt fun answer => ?_) fun _ => settle _
    cases answer with
    | ok first => exact pure _
    | error cause => exact pure _

/-- A value that is new is remembered by a breakpoint that compares values. -/
theorem stopsAt (i : Nat) : KeepsSetup S link (stopsAt i) := by
  unfold Act.stopsAt
  refine boundAt fun b there => ?_
  split
  · exact pure _
  · rename_i compares
    refine (evaluate reticent nested _).bind fun e => boundAt fun c _ => ?_
    split
    · refine (updateBound fun d here => ?_).bind fun _ => pure _
      have same : d.comparesValues = true := by
        rw [← Bound.setup_comparesValues, Option.some.inj (here.symm.trans there),
          Bound.setup_comparesValues]
        simpa using compares
      exact Bound.setup_remembered same d.hits e.value
    · exact pure _

/-- Reporting a hit changes the count, and that is no setup. -/
theorem reportHit (i id thread : Nat) : KeepsSetup S link (reportHit i id thread) := by
  unfold Act.reportHit
  refine (countHit i).bind fun _ => boundAt fun b _ => ?_
  refine (update _).bind fun _ => (update _).bind fun _ => ?_
  refine bind (look fun _ => note _) fun _ => ?_
  split
  · exact discard (stopAtHit reticent nested id _)
  · split
    · exact discard (stopAtHit reticent nested id _)
    · exact pure _

/-- Whatever is decided about a hit, the setup stays. -/
theorem judgeHit (id thread : Nat) : KeepsSetup S link (judgeHit id thread) := by
  unfold Act.judgeHit Act.findBound?
  refine bind (get fun w => pure _) fun place => ?_
  split
  · exact pure _
  · rename_i i
    refine boundAt fun b _ => ?_
    split
    · exact inRegion (resume reticent nested)
    · refine withGates fun T => inRegion ((stopsAt reticent nested i).bind fun stops => ?_)
      split
      · exact reportHit reticent nested i id thread
      · exact resume reticent nested

/-- **A hit** leaves breakpoints as they were set up, whether it is told or not. -/
theorem handleHit (id : Nat) (file : String) (line thread : Nat) :
    KeepsSetup S link (handleHit id file line thread) := by
  intro w hw
  -- a hit during a step ends the step, and any other one is judged
  by_cases steps : w.session.phase = .stepping
  · obtain ⟨v, e, scene⟩ := handleHit_stepping steps id file line thread link
    rw [e]
    exact (World.setups_of_bound (congrArg Scene.bound scene)).trans hw
  · obtain ⟨u, scene, e⟩ := handleHit_judged steps id file line thread link
    rw [e]
    exact judgeHit reticent nested id thread u
      ((World.setups_of_bound (congrArg Scene.bound scene)).trans hw)

/-! ## Records -/

/-- No news of the execution changes a setup. -/
theorem handleExecution (record : String) : KeepsSetup S link (handleExecution record) := by
  have applied : ∀ notice, KeepsSetup S link (applyExecution notice) := by
    intro notice w hw
    rcases applyExecution_cases notice link w with ⟨v, e | e, heard⟩ | ⟨v, heard, e⟩
    · rw [e]
      exact (World.setups_of_bound heard.bound).trans hw
    · rw [e]
      trivial
    · rw [e]
      exact resume reticent nested v ((World.setups_of_bound heard.bound).trans hw)
  unfold Act.handleExecution
  split
  · exact settle (.error _)
  · exact (applied _).bind fun _ => pure _

/-- **A record** that gives no hit count. -/
theorem receive {record : String} (other : reportOf? record = none) :
    KeepsSetup S link (receive record) := by
  have handled : KeepsSetup S link (handleRecord record) := by
    unfold Act.handleRecord
    split
    · rename_i topic
      refine discard (handleBreakpoint nested fun s read => ?_)
      rw [reportOf?_eq_some_iff.2 ⟨topic, read⟩] at other
      cases other
    · exact discard (handleExecution reticent nested record)
    · refine discard ?_
      unfold Act.handleOutput
      split
      · exact settle (.error _)
      · split
        · exact bind (look fun _ => note _) fun _ => pure _
        · exact pure _
    · exact pure _
  refine of_same (fun w => ⟨w.receiving record, ?_, receive_apply record link w⟩) ?_
  · exact congrArg Scene.bound (w.scene_receiving record)
  · refine handled.attempt.bind fun outcome => ?_
    cases outcome with
    | ok _ => exact pure _
    | error cause => exact note _

end Link

end KeepsSetup

/-- **Over a link of any depth**, deliveries that give no hit counts and hits leave breakpoints as
they were set up. -/
theorem Link.Harmless.within {peer : Peer} (reticent : peer.Reticent) (config : Config)
    (depth : Nat) : (Link.within peer config depth).Harmless := by
  have here : ∀ depth, (Link.within peer config depth).peer.Reticent := fun depth => by
    rw [Link.within_peer]
    exact reticent
  -- what is nested in a call is handled one level deeper; at the bottom nothing returns
  induction depth with
  | zero => exact ⟨fun _ _ _ _ _ => trivial, fun _ _ _ _ _ _ _ => trivial⟩
  | succ depth ih =>
    refine ⟨fun S delivery quiet w hw => ?_, fun S id file line thread w hw => ?_⟩
    · refine KeepsSetup.forM (fun record mem => ?_) w hw
      unfold receiveAlive
      refine .look fun s => ?_
      split
      · exact .receive (here depth) ih (quiet record mem)
      · exact .pure _
    · exact KeepsSetup.handleHit (here depth) ih id file line thread w hw

end DebugLink
