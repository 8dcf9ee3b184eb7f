import DebugLink.Proofs.EditContract
import DebugLink.Proofs.Notice

/-!
# What edits of policies leave behind

A pass count and a condition are given while the target is paused, and a condition may have the
breakpoint created anew before that and its pass count given after it. A condition is given up at
the first request that fails; the target is held then.

* `contract_requestNotice`: a command of a policy fails at its request.
* `contract_setPassCount`, `contract_setCondition`: what the edits leave behind.
-/

namespace DebugLink

open Act Breakpoint

namespace World

/-- The target is held, and the edit gives up at a request. -/
def GivenUp (c : Config) (n : Nat) (w : World) : Prop := w.Held c n ∧ w.asked = true

/-- How a condition that fails leaves a target behind. -/
def Abandoned (c : Config) (n : Nat) (w : World) : Prop := w.Failed c n ∨ w.GivenUp c n

/-- How a condition finds the target: held and said to have stopped, or left alone. -/
def Posed (c : Config) (n : Nat) : Bool → World → Prop
  | true, w => w.Held c n ∧ w.session.phase = .stopped
  | false, w => w.Still c n

end World

theorem Calm.posed {c : Config} {n : Nat} {v u : World} (h : Calm c v u) {held : Bool}
    (hv : v.Posed c n held) : u.Posed c n held := by
  cases held with
  | true => exact ⟨h.held hv.1, h.phase.trans hv.2⟩
  | false => exact h.still hv

/-- How the target is posed shows in its phase and its gate, not in the gates of a breakpoint. -/
theorem loose_posed (c : Config) (n : Nat) (held : Bool) : Loose (World.Posed c n held) := by
  have stopped : Loose fun w => w.session.phase = .stopped :=
    ⟨fun _ _ h => h, fun _ _ h => h, fun _ _ h => h⟩
  cases held with
  | true => exact (loose_held c n).and stopped
  | false => exact loose_still c n

theorem loose_abandoned (c : Config) (n : Nat) : Loose (World.Abandoned c n) :=
  (loose_failed c n).or ((loose_held c n).and loose_asked)

/-! ## Answers -/

/-- An answer that cannot be read is the last thing that happened. -/
theorem handleBreakpoint_asked {link : Link} {record : String} {w v : World} {halt : Halt}
    (plain : ∀ n, Notice.read record = .ok n → n.isPlain = true) (asked : w.asked = true)
    (e : handleBreakpoint record link w = .error halt v) : v.asked = true := by
  unfold handleBreakpoint at e
  cases hr : Notice.read record with
  | error defect => rw [hr] at e; cases e; exact asked
  | ok notice =>
    rw [hr] at e
    obtain ⟨u, applied, -⟩ := applyNotice_noted (plain notice hr) link w
    dsimp only at e
    rw [bind_apply, applied] at e
    cases e

section Attentive

variable {peer : Peer} (attentive : peer.Attentive) (config : Config) (depth : Nat)

include attentive

/-- A command whose answer is a notice fails at a request. -/
theorem requestNotice_asked {command : String} (verb : String) (hv : verb ∈ Mi.editVerbs)
    (rest : List Char) (h : command.toList = verb.toList ++ ' ' :: rest) {w v : World}
    {cause : Failure}
    (e : requestNotice command (.within peer config depth) w = .error (.failed cause) v) :
    v.asked = true := by
  unfold requestNotice at e
  rw [bind_apply, request_attentive (attentive.within config depth)] at e
  cases ha : (Link.within peer config depth).peer.answer w.sent command with
  | error defect => rw [ha] at e; cases e; rfl
  | ok answer =>
    obtain ⟨response, rfl⟩ := (attentive.within config depth).answers _ _ _ ha
    rw [ha] at e
    dsimp only at e
    split at e
    · cases e
    · -- after the request only reading its answer can fail, which changes nothing
      rw [discard_eq_bind, bind_assoc, bind_apply] at e
      cases hb : handleBreakpoint (Mi.answer command response) (.within peer config depth)
          (w.requesting command (.ok (Mi.answer command response))) with
      | ok notice u => rw [hb] at e; cases e
      | error halt u =>
        rw [hb] at e
        cases e
        exact handleBreakpoint_asked (fun n => Mi.plain_of_answer hv (Mi.head_words hv h)) rfl hb

/-- **A command whose answer is a notice** keeps what calm changes keep, and fails at a request. -/
theorem contract_requestNotice {P : World → Prop} (lasting : Lasting config P)
    {command : String} (verb : String) (hv : verb ∈ Mi.editVerbs) (rest : List Char)
    (h : command.toList = verb.toList ++ ' ' :: rest) :
    Contract (.within peer config depth) P (requestNotice command) (fun _ => P)
      (fun w => P w ∧ w.asked = true) := by
  intro w hw
  have kept := ((gentle_modest (attentive.within config depth) config).requestNotice verb hv rest
    h).contract lasting w hw
  cases e : requestNotice command (.within peer config depth) w with
  | ok a v => rw [e] at kept; exact kept
  | error halt v =>
    rw [e] at kept
    cases halt with
    | failed cause => exact ⟨kept, requestNotice_asked attentive config depth verb hv rest h e⟩
    | _ => trivial

/-- Choosing the hit to stop at leaves what lasts, and a failure shows that the peer was asked. -/
theorem contract_stopAtHit {P : World → Prop} (lasting : Lasting config P)
    (id : Nat) (k : Int) :
    Contract (.within peer config depth) P (stopAtHit id k) (fun _ => P)
      (fun w => P w ∧ w.asked = true) := by
  have asked : Contract (.within peer config depth) P
      (requestNotice (breakAfter id (ignoreCountFor k))) (fun _ => P)
      (fun w => P w ∧ w.asked = true) :=
    contract_requestNotice attentive config depth lasting "-break-after" (by decide) _
      (toList_breakAfter id _)
  unfold stopAtHit
  split
  · exact Contract.assertion.bind fun _ => asked
  · exact asked

/-- The same for the condition that is told. -/
theorem contract_setGdbCondition {P : World → Prop} (lasting : Lasting config P)
    (id : Nat) (condition : String) :
    Contract (.within peer config depth) P (setGdbCondition id condition) (fun _ => P)
      (fun w => P w ∧ w.asked = true) := by
  obtain ⟨command, rest, e, split⟩ := setGdbCondition_eq id condition
  rw [e]
  exact contract_requestNotice attentive config depth lasting "-break-condition" (by decide) rest
    split

end Attentive

/-! ## Pass counts and conditions -/

/-- What giving a breakpoint a pass count does while the target is paused. -/
def sendPassCount (i : Nat) (p : PassCount) : Act (Except Failure Unit) := do
  updateBound i (·.withPassCount p)
  let b ← Act.bound i
  if b.comparesValues then return .ok ()
  else attempt (discard <| stopAtHit b.gdbId (nextStop p b.hits))

/-- The pass count is sent in one place, with the target paused around it or not. -/
theorem setPassCount_eq (i : Nat) (p : PassCount) : setPassCount i p =
    withGates i .hitCountOnly (inRegion (isRunning >>= fun wasRunning =>
      if wasRunning then
        pauseForEdit >>= fun _ => sendPassCount i p >>= fun outcome =>
          resumeAfterEdit >>= fun _ => settle outcome
      else sendPassCount i p >>= settle)) := by
  refine congrArg (withGates i _) <| congrArg inRegion <| congrArg (isRunning >>= ·) <|
    funext fun wasRunning => ?_
  -- the two differ in where the outcome is bound, in each of the branches
  cases wasRunning with
  | true =>
    refine congrArg (pauseForEdit >>= ·) <| funext fun _ => ?_
    unfold sendPassCount
    simp only [bind_assoc]
    refine congrArg (updateBound i _ >>= ·) <| funext fun _ => congrArg (Act.bound i >>= ·) <|
      funext fun b => ?_
    split <;> rfl
  | false =>
    unfold sendPassCount
    simp only [bind_assoc]
    refine congrArg (updateBound i _ >>= ·) <| funext fun _ => congrArg (Act.bound i >>= ·) <|
      funext fun b => ?_
    split <;> rfl

/-- A condition is set as it is applied, while hits are dropped. -/
theorem Act.Contract.setCondition {link : Link} {P R F : World → Prop} {i : Nat} {k : Condition}
    (pre : Unheld P) (value : Unheld R) (failure : Unheld F)
    (applied : Contract link P (applyCondition i k) (fun _ => R) F) :
    Contract link P (setCondition i k) (fun _ => R) F := by
  unfold Act.setCondition
  refine .look fun s => ?_
  split
  · exact applied
  · have released : ∀ outcome : Except Failure Unit,
        Unheld (Contract.Outcome (fun _ => R) F outcome) :=
      fun _ => Contract.Outcome.unheld (fun _ => value) failure
    exact (Contract.update (pre.conditionUpdate _)).bind fun _ => applied.attempt.bind
      fun outcome => (Contract.update ((released outcome).conditionUpdate _)).bind fun _ =>
        .settle outcome

section Policies

variable {peer : Peer} (attentive : peer.Attentive) (counting : peer.Counting) (config : Config)
  (depth n : Nat)

include attentive

/-- Sending the count leaves what lasts, and its outcome is kept for later. -/
theorem contract_sendPassCount {P F : World → Prop} (loose : Loose P)
    (lasting : Lasting config P) (i : Nat) (p : PassCount) :
    Contract (.within peer config depth) P (sendPassCount i p)
      (Contract.Outcome (fun _ => P) fun w => P w ∧ w.asked = true) F := by
  unfold sendPassCount
  refine (Contract.updateBound loose).bind fun _ => (Contract.bound i).bind fun b => ?_
  split
  · exact .pure fun _ h => h
  · exact (contract_stopAtHit attentive config depth lasting _ _).discard.attempt

/-- A pass count is set without a pause when the target does not run. -/
theorem contract_setPassCount_idle {P : World → Prop} (loose : Loose P)
    (lasting : Lasting config P) (idle : ∀ w, P w → ¬w.Runs) (i : Nat)
    (p : PassCount) :
    Contract (.within peer config depth) P (setPassCount i p) (fun _ => P)
      (fun w => P w ∧ w.asked = true) := by
  have failed : Loose fun w => P w ∧ w.asked = true := loose.and loose_asked
  rw [setPassCount_eq]
  refine .withGates (.inRegion (.isRunning ?_ ?_) loose.unheld (fun _ => loose.unheld)
    failed.unheld) loose.unheld (fun _ => loose.unheld) failed.unheld
  · exact fun w h => absurd h.2 (idle w h.1)
  · have sent := contract_sendPassCount (F := fun w => P w ∧ w.asked = true) attentive config depth
      loose lasting i p
    exact (sent.pre fun _ h => h.1).bind fun outcome => .settle outcome

/-- Giving a condition. -/
theorem contract_sendCondition {P : World → Prop} (loose : Loose P)
    (lasting : Lasting config P) (i : Nat) (k : Condition) :
    Contract (.within peer config depth) P (sendCondition i k) (fun _ => P)
      (fun w => P w ∧ w.asked = true) := by
  have told := fun id condition =>
    (contract_setGdbCondition attentive config depth lasting id condition).discard
  have stops := fun id => (contract_stopAtHit attentive config depth lasting id 1).discard
  unfold sendCondition
  refine (Contract.bound i).bind fun b => ?_
  split
  · exact (Contract.updateBound loose).bind fun _ => told _ _
  · exact (Contract.updateBound loose).bind fun _ => told _ _
  · exact (Contract.updateBound loose).bind fun _ => (stops _).bind fun _ => told _ _

include counting

/-- **Setting a pass count.** -/
theorem contract_setPassCount (i : Nat) (p : PassCount) :
    Contract (.within peer config depth) (World.Ready config n) (setPassCount i p)
      (fun _ => World.Ready config n) (World.Failed config n) := by
  have ready := (loose_ready config n).unheld
  have failed := (loose_failed config n).unheld
  rw [setPassCount_eq]
  refine .withGates (.inRegion (.isRunning ?_ ?_) ready (fun _ => ready) failed) ready
    (fun _ => ready) failed
  · have paused := contract_pauseForEdit attentive counting config depth n
    refine ((paused.pre fun _ h => h.1).failing fun _ => .inr).bind fun _ => ?_
    have sent := contract_sendPassCount (F := World.Failed config n) attentive config depth
      (loose_paused config n) (fun _ _ calm => calm.paused) i p
    exact sent.bind fun outcome => contract_ending attentive config depth n (fun _ h => h.1) outcome
  · have sent := contract_sendPassCount (F := World.Failed config n) attentive config depth
      (loose_still config n) (fun _ _ calm => calm.still) i p
    refine (sent.pre fun _ h => h.1.still h.2).bind fun outcome => ?_
    exact (Contract.settle outcome).imp (fun _ h => h) (fun _ _ h => h.ready)
      fun _ h => .inl h.1.ready

/-- Creating a breakpoint anew. -/
theorem contract_recreate (i : Nat) :
    Contract (.within peer config depth) (World.Ready config n) (recreate i)
      (fun _ => World.Ready config n) (World.Failed config n) := by
  have inserted := fun location => Contract.of_discard <|
    (PausedEdit.insert location).contract attentive counting config depth n
  unfold recreate
  refine (Contract.bound i).bind fun b =>
    ((PausedEdit.delete b.gdbId).contract attentive counting config depth n).bind fun _ =>
      (inserted b.location).bind fun snapshot => ?_
  split
  · exact .pure fun _ h => h
  · exact (Contract.updateBound (loose_ready config n)).bind fun _ =>
      (Contract.bound i).bind fun b =>
        (contract_setPassCount attentive counting config depth n i _).bind fun _ =>
          .pure fun _ h => h

/-- Changing a condition holds a target that runs. -/
theorem contract_changeCondition (i : Nat) (k : Condition) :
    Contract (.within peer config depth) (World.Ready config n) (changeCondition i k)
      (fun changed => World.Posed config n changed.1)
      (World.Abandoned config n) := by
  have ready := (loose_ready config n).unheld
  have failed := (loose_abandoned config n).unheld
  have posed : ∀ changed : Bool × Bool, Unheld (World.Posed config n changed.1) :=
    fun changed => (loose_posed config n changed.1).unheld
  -- sending ends in the pose it began in, or with the peer asked
  have sent : ∀ held : Bool, Contract (.within peer config depth) (World.Posed config n held) (do
      let compared := (← Act.bound i).comparesValues
      sendCondition i k
      return (held, compared && k.style ≠ .whenChanged))
      (fun changed => World.Posed config n changed.1)
      (World.Abandoned config n) := by
    intro held
    have given := contract_sendCondition attentive config depth (loose_posed config n held)
      (fun _ _ calm => calm.posed) i k
    refine (Contract.bound i).bind fun b =>
      (given.failing fun w h => ?_).bind fun _ => .pure fun _ h => h
    cases held with
    | true => exact .inr ⟨h.1.1, h.2⟩
    | false => exact .inl (.inl (World.Still.ready h.1))
  unfold changeCondition
  refine .withGates ((Contract.bound i).bind fun b => ?_) ready posed failed
  extract_lets changed
  have h_changed : ∀ r, Contract (.within peer config depth) (World.Ready config n) (changed r)
      (fun changed => World.Posed config n changed.1)
      (World.Abandoned config n) := by
    intro r
    dsimp only [changed]
    refine .inRegion (.isRunning ?_ ?_) ready posed failed
    · -- the phase is set by hand, also when a record has ended the session meanwhile
      have paused := contract_pause_running attentive counting config depth n
      refine (paused.failing fun _ h => .inl (.inr h)).bind fun _ => ?_
      have stopped : Contract (.within peer config depth) (World.Held config n) (setPhase .stopped)
          (fun _ => World.Posed config n true)
          (World.Abandoned config n) := .update fun w h => ⟨h.phased _, rfl⟩
      exact stopped.bind fun _ => sent true
    · exact (sent false).pre fun _ h => h.1.still h.2
  split
  · have recreated := contract_recreate attentive counting config depth n i
    exact (recreated.failing fun _ => .inl).discard.bind h_changed
  · exact h_changed ()

/-- Applying a condition resumes what it held. -/
theorem contract_applyCondition (i : Nat) (k : Condition) :
    Contract (.within peer config depth) (World.Ready config n) (applyCondition i k)
      (fun _ => World.Ready config n) (World.Abandoned config n) := by
  unfold applyCondition
  refine (contract_changeCondition attentive counting config depth n i k).bind fun changed => ?_
  obtain ⟨wasRunning, countsAgain⟩ := changed
  cases wasRunning with
  | true =>
    have resumed : Contract (.within peer config depth) (World.Posed config n true)
        (setPhase .running >>= fun _ => resumeAfterEdit) (fun _ => World.Ready config n)
        (World.Abandoned config n) := by
      have running : Contract (.within peer config depth) (World.Posed config n true)
          (setPhase .running) (fun _ => World.Paused config n) (World.Ready config n) :=
        .update fun w h => (h.1.phased _).paused
      exact (running.bind fun _ => contract_resumeAfterEdit attentive config depth n).imp
        (fun _ h => h) (fun _ _ h => h) fun _ h => .inl (.inl h)
    -- the target is said to have stopped, so the pass count pauses nothing
    have idle : ∀ w : World, w.Posed config n true → ¬w.Runs := fun w h runs =>
      absurd (h.2.symm.trans runs.1) (by decide)
    dsimp only
    split
    · refine (Contract.bound i).bind fun b => ?_
      have counted := contract_setPassCount_idle attentive config depth (loose_posed config n true)
        (fun _ _ calm => calm.posed) idle i b.passCount
      exact (counted.failing fun _ h => .inr ⟨h.1.1, h.2⟩).bind
        fun _ => resumed
    · exact resumed
  | false =>
    dsimp only
    split
    · refine (Contract.bound i).bind fun b => ?_
      have counted := contract_setPassCount attentive counting config depth n i b.passCount
      exact ((counted.pre fun _ => World.Still.ready).failing fun _ => .inl).bind fun _ =>
        .pure fun _ h => h
    · exact .pure fun _ h => World.Still.ready h

/-- **Setting a condition.** -/
theorem contract_setCondition (i : Nat) (k : Condition) :
    Contract (.within peer config depth) (World.Ready config n) (setCondition i k)
      (fun _ => World.Ready config n) (World.Abandoned config n) :=
  Contract.setCondition (loose_ready config n).unheld (loose_ready config n).unheld
    (loose_abandoned config n).unheld
    (contract_applyCondition attentive counting config depth n i k)

end Policies

end DebugLink
