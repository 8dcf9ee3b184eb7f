import DebugLink.Proofs.Lockstep.Handler

/-!
# Edits of breakpoints, in lockstep

Edits interrupt the target and resume it. With these two steps and the hit counts of gdb added to
the ground, every edit runs in lockstep; with the basis added to that, so does what the peer
delivers at any depth of nested calls.

* `EditGround.updateHitCount`, `EditBasis.deliver'`: what a link does one level deeper.
* `nested_within`: a basis on every level, given lockstep of what is nested in it, gives lockstep on
  all levels.
-/

namespace DebugLink

open Act Breakpoint Record

/-- What changing a condition does to a breakpoint as it is. -/
def Act.giveCondition (i : Nat) (c : Condition) : Act (Bool × Bool) := inRegion do
  let wasRunning ← isRunning
  if wasRunning then
    pauseForEdit
    setPhase .stopped
  let compared := (← Act.bound i).comparesValues
  sendCondition i c
  return (wasRunning, compared && c.style ≠ .whenChanged)

/-- A breakpoint that was hit is created anew before its condition is changed. -/
theorem Act.changeCondition_eq (i : Nat) (c : Condition) : changeCondition i c =
    withGates i .conditionOnly (Act.bound i >>= fun b =>
      (if b.hits ≠ 0 then discard (recreate i) else pure ()) >>= fun _ => giveCondition i c) := by
  refine congrArg (withGates i _) <| congrArg (Act.bound i >>= ·) <| funext fun b => ?_
  by_cases hit : b.hits ≠ 0
  · rw [if_pos hit, if_pos hit]
    rfl
  · rw [if_neg hit, if_neg hit]
    rfl

/-- What is left to do when a condition was changed. -/
def Act.endCondition (i : Nat) : Bool × Bool → Act Unit
  | (wasRunning, countsAgain) => do
    if countsAgain then setPassCount i (← Act.bound i).passCount
    if wasRunning then
      setPhase .running
      resumeAfterEdit

theorem Act.applyCondition_eq (i : Nat) (c : Condition) :
    applyCondition i c = changeCondition i c >>= endCondition i := rfl

namespace Pairing

/-- **The steps of which edits are made**, besides those of the footing. -/
structure EditFooting (p : Pairing) : Prop extends Footing p where
  flag : ∀ on : Bool, p.Lockstep (update fun s => { s with needsResume := on })
  interrupt : p.Lockstep interrupt
  /-- What an edit does when the target runs. -/
  whenRunning : ∀ {α : Type} {next : Bool → Unit → Act α} {other : Bool → Act α},
    (∀ r u, p.Lockstep (next r u)) → (∀ r, p.Lockstep (other r)) →
    p.Lockstep (isRunning >>= fun r => if r then pauseForEdit >>= next r else other r)
  recount : ∀ id hits, p.Lockstep (fun link => link.recount id hits)

/-- A pause keeps step if the flag and the interruption do. -/
theorem Footing.pauseForEdit {p : Pairing} (b : p.Footing)
    (flag : ∀ on : Bool, p.Lockstep (update fun s => { s with needsResume := on }))
    (interrupt : p.Lockstep interrupt) : p.Lockstep pauseForEdit := by
  unfold Act.pauseForEdit
  refine b.look (fun _ => rfl) fun s => ?_
  split
  · exact .pure _
  · exact .pure _
  · exact (flag true).bind fun _ => interrupt
  · exact (flag true).bind fun _ => interrupt

namespace EditFooting

variable {p : Pairing} (b : p.EditFooting)

include b

/-! ## Edits -/

theorem pauseForEdit : p.Lockstep pauseForEdit := b.toFooting.pauseForEdit b.flag b.interrupt

theorem resumeAfterEdit : p.Lockstep resumeAfterEdit := by
  unfold Act.resumeAfterEdit
  refine b.look (fun _ => rfl) fun s => ?_
  refine (b.flag false).bind fun _ => ?_
  split
  · exact b.resume
  · exact .pure _

theorem whilePaused {α : Type} {edit : Act α} (h : p.Lockstep edit) :
    p.Lockstep (whilePaused edit) :=
  b.pauseForEdit.bind fun _ => h.attempt.bind fun _ => b.resumeAfterEdit.bind fun _ => .settle _

theorem handleBreakpoint (record : String) : p.Lockstep (handleBreakpoint record) :=
  b.toFooting.handleBreakpoint fun _ _ => b.recount _ _

/-- An insertion asks once, and a second time where the first answer is pending. -/
theorem requestInsert (command : String) (fallback : Option String) :
    p.Lockstep (requestInsert command fallback) := by
  unfold Act.requestInsert
  refine (b.request _).bind fun first => ?_
  extract_lets answered
  have h_answered : ∀ answer, p.Lockstep (answered answer) := by
    intro answer
    dsimp only [answered]
    split
    · exact (b.log _ _).bind fun _ => .pure _
    · refine (b.handleBreakpoint answer).bind fun notice => ?_
      split <;> exact .pure _
  split
  · split
    · exact (b.request _).bind h_answered
    · exact (Lockstep.pure first).bind h_answered
  · exact (Lockstep.pure first).bind h_answered

theorem insert (location : Location) : p.Lockstep (insert location) := by
  unfold Act.insert
  refine b.look (fun _ => rfl) fun s => ?_
  split
  · exact .pure _
  · refine .config b.config (fun l l' e => by simp only [e]) fun l => ?_
    cases location with
    | line file fullPath line => exact b.whilePaused (b.requestInsert _ _)
    | function name => exact b.whilePaused (b.requestInsert _ _)

/-- An edit's answer is handled like the record that it echoes. -/
theorem requestEcho (command : String) (id : Nat) : p.Lockstep (requestEcho command id) := by
  unfold Act.requestEcho
  refine (b.request _).bind fun answer => ?_
  extract_lets digit
  split
  · exact (b.log _ _).bind fun _ => .pure _
  · refine (b.handleBreakpoint answer).bind fun notice => ?_
    split <;> exact .pure _

theorem delete (id : Nat) : p.Lockstep (delete id) := by
  unfold Act.delete
  refine b.look (fun _ => rfl) fun s => ?_
  split
  · exact .pure _
  · exact b.whilePaused (b.requestEcho _ _)

theorem enable (id : Nat) (enabled : Bool) : p.Lockstep (enable id enabled) :=
  b.whilePaused (b.requestEcho _ _)

theorem requestNotice (command : String) : p.Lockstep (requestNotice command) := by
  unfold Act.requestNotice
  refine (b.request _).bind fun answer => ?_
  split
  · exact .pure _
  · exact (b.handleBreakpoint answer).discard.bind fun _ => .pure _

theorem setGdbCondition (id : Nat) (condition : String) :
    p.Lockstep (setGdbCondition id condition) := b.requestNotice _

theorem stopAtHit (id : Nat) (n : Int) : p.Lockstep (stopAtHit id n) := by
  unfold Act.stopAtHit
  split
  · exact (Lockstep.halt .assertion).bind fun _ => b.requestNotice _
  · exact b.requestNotice _

/-! ## Policies -/

theorem setPassCount (i : Nat) (c : PassCount) : p.Lockstep (setPassCount i c) := by
  -- what follows the pause, which the two branches share but for the resumption
  have told : ∀ r : Bool, p.Lockstep (do
      Act.updateBound i (·.withPassCount c)
      let x ← Act.bound i
      let outcome ←
        if x.comparesValues then Pure.pure (.ok ())
        else attempt (discard <| Act.stopAtHit x.gdbId (nextStop c x.hits))
      if r then Act.resumeAfterEdit
      Act.settle outcome) := by
    intro r
    refine (b.updateBound _ _).bind fun _ => (b.boundAt i).bind fun x => ?_
    extract_lets resumed
    have h_resumed : ∀ outcome, p.Lockstep (resumed outcome) := by
      intro outcome
      dsimp only [resumed]
      split
      · exact b.resumeAfterEdit.bind fun _ => .settle _
      · exact .settle _
    split
    · exact (Lockstep.pure _).bind h_resumed
    · exact (b.stopAtHit _ _).discard.attempt.bind h_resumed
  unfold Act.setPassCount
  refine b.toFooting.withGates _ _ (b.toFooting.inRegion ?_)
  apply b.whenRunning
  · exact fun r _ => told r
  · exact told

/-- A new creation is a deletion, an insertion and the pass count again. -/
theorem recreate (i : Nat) : p.Lockstep (recreate i) := by
  unfold Act.recreate
  refine (b.boundAt i).bind fun x => (b.delete _).discard.bind fun _ =>
    (b.insert _).bind fun snapshot => ?_
  split
  · exact .pure _
  · exact (b.updateBound _ _).bind fun _ => (b.boundAt i).bind fun y =>
      (b.setPassCount i _).bind fun _ => .pure _

/-- Each kind of condition has a command of its own, one of them two. -/
theorem sendCondition (i : Nat) (c : Condition) : p.Lockstep (sendCondition i c) := by
  unfold Act.sendCondition
  refine (b.boundAt i).bind fun x => ?_
  split
  · exact (b.updateBound _ _).bind fun _ => (b.setGdbCondition _ _).discard
  · exact (b.updateBound _ _).bind fun _ => (b.setGdbCondition _ _).discard
  · exact (b.updateBound _ _).bind fun _ => (b.stopAtHit _ _).discard.bind fun _ =>
      (b.setGdbCondition _ _).discard

/-- A condition is changed in lockstep, if it is given in lockstep to a breakpoint as it is. -/
theorem changeCondition (given : ∀ i c, p.Lockstep (giveCondition i c)) (i : Nat)
    (c : Condition) : p.Lockstep (changeCondition i c) := by
  rw [changeCondition_eq]
  refine b.toFooting.withGates _ _ <|
    (b.boundAt i).bind fun x => .bind ?_ fun _ => given i c
  split
  · exact (b.recreate i).discard
  · exact .pure _

section Applied

variable (applied : ∀ i c, p.Lockstep (applyCondition i c))

include applied

theorem setCondition (i : Nat) (c : Condition) : p.Lockstep (setCondition i c) := by
  unfold Act.setCondition
  refine b.look (fun _ => rfl) fun s => ?_
  split
  · exact applied i c
  · exact (b.change (.conditionUpdate _) rfl rfl).bind fun _ => (applied i c).attempt.bind
      fun _ => (b.change (.conditionUpdate ⟨true⟩) rfl rfl).bind fun _ => .settle _

theorem resetHitCount (i : Nat) (resetCondition : Bool) :
    p.Lockstep (resetHitCount i resetCondition) := by
  unfold Act.resetHitCount
  refine (b.recreate i).bind fun created => ?_
  split
  · extract_lets done
    have h_done : ∀ r, p.Lockstep (done r) := fun _ => .pure _
    split
    · exact (b.boundAt i).bind fun x => (b.setCondition applied i _).bind h_done
    · exact h_done ()
  · exact .pure _

theorem setHitCount (i hits : Nat) : p.Lockstep (setHitCount i hits) := by
  unfold Act.setHitCount
  refine (b.boundAt i).bind fun x => (b.updateBound _ _).bind fun _ => ?_
  split
  · exact (b.resetHitCount applied i true).discard
  · exact .pure _

/-- **A hit count that gdb reports.** -/
theorem updateHitCount (id hits : Nat) : p.Lockstep (updateHitCount id hits) := by
  unfold Act.updateHitCount
  refine (b.findBound? id).bind fun place => ?_
  split
  · refine (b.boundAt _).bind fun x => ?_
    split
    · exact b.setHitCount applied _ _
    · exact .pure _
  · exact .pure _

end Applied

end EditFooting

/-- **The steps of which edits are made, and the phase.** -/
structure EditGround (p : Pairing) : Prop extends Ground p, EditFooting p

namespace EditGround

variable {p : Pairing} (b : p.EditGround)

include b

/-- A condition is given between a pause and what follows it, or to a target that rests. -/
theorem giveCondition (i : Nat) (c : Condition) : p.Lockstep (giveCondition i c) := by
  have sent : ∀ r : Bool, p.Lockstep (do
      let compared := (← Act.bound i).comparesValues
      Act.sendCondition i c
      return (r, compared && c.style ≠ .whenChanged)) := fun r =>
    (b.boundAt i).bind fun x => (b.sendCondition i c).bind fun _ => .pure _
  refine b.toFooting.inRegion ?_
  apply b.whenRunning
  · exact fun r _ => (b.setPhase _).bind fun _ => sent r
  · exact sent

/-- After the change a target that was running is woken. -/
theorem endCondition (i : Nat) (changed : Bool × Bool) : p.Lockstep (endCondition i changed) := by
  obtain ⟨wasRunning, countsAgain⟩ := changed
  have resumed : p.Lockstep (if wasRunning then Act.setPhase .running >>= fun _ =>
      Act.resumeAfterEdit else Pure.pure ()) := by
    split
    · exact (b.setPhase _).bind fun _ => b.resumeAfterEdit
    · exact .pure _
  unfold Act.endCondition
  dsimp only
  split
  · exact (b.boundAt i).bind fun x => (b.setPassCount i _).bind fun _ => resumed
  · exact resumed

theorem applyCondition (i : Nat) (c : Condition) : p.Lockstep (applyCondition i c) :=
  (b.changeCondition b.giveCondition i c).bind fun changed => b.endCondition i changed

theorem setCondition (i : Nat) (c : Condition) : p.Lockstep (setCondition i c) :=
  b.toEditFooting.setCondition b.applyCondition i c

theorem resetHitCount (i : Nat) (resetCondition : Bool) :
    p.Lockstep (resetHitCount i resetCondition) :=
  b.toEditFooting.resetHitCount b.applyCondition i resetCondition

theorem setHitCount (i hits : Nat) : p.Lockstep (setHitCount i hits) :=
  b.toEditFooting.setHitCount b.applyCondition i hits

theorem updateHitCount (id hits : Nat) : p.Lockstep (updateHitCount id hits) :=
  b.toEditFooting.updateHitCount b.applyCondition id hits

end EditGround

/-- **The steps of which everything is made**, but for what the host is told. -/
structure EditBasis (p : Pairing) : Prop extends Basis p, EditGround p

/-- **A delivery.** -/
theorem EditBasis.deliver' {p : Pairing} (b : p.EditBasis) (delivery : String) :
    p.Lockstep (deliver delivery) :=
  b.toBasis.deliver fun record _ => b.handleBreakpoint record

/-! ## Nested calls -/

/-- What both links do one level deeper runs in lockstep. -/
structure Nested (p : Pairing) : Prop where
  deliver : ∀ delivery, p.Lockstep (fun link => link.deliver delivery)
  recount : ∀ id hits, p.Lockstep (fun link => link.recount id hits)
  hit : ∀ id file line thread, p.Lockstep (fun link => link.hit id file line thread)

/-- Two peers side by side, with calls nested up to the same depth. -/
def level (left right : Peer) (config : Config) (Rel : World → World → Prop)
    (Parted : World → Prop) (depth : Nat) : Pairing :=
  ⟨.within left config depth, .within right config depth, Rel, Parted⟩

/-- **Nested calls run in lockstep** on every level, if on each they do whenever what is nested in
them runs in lockstep. -/
theorem nested_of_levels {left right : Peer} {config : Config} {Rel : World → World → Prop}
    {Parted : World → Prop}
    (deliver : ∀ depth, (level left right config Rel Parted depth).Nested →
      ∀ delivery, (level left right config Rel Parted depth).Lockstep (deliver delivery))
    (recount : ∀ depth, (level left right config Rel Parted depth).Nested →
      ∀ id hits, (level left right config Rel Parted depth).Lockstep (updateHitCount id hits))
    (judged : ∀ depth, (level left right config Rel Parted depth).Nested →
      ∀ id file line thread, (level left right config Rel Parted depth).Lockstep
        (handleHit id file line thread)) (depth : Nat) :
    (level left right config Rel Parted depth).Nested := by
  induction depth with
  | zero =>
    -- no call is nested deeper, on either side
    have stuck : ∀ {call : Act Unit}, (∀ peer, call (.within peer config 0) = throw .overrun) →
        (level left right config Rel Parted 0).Lockstep call := fun e =>
      .congr (Lockstep.halt .overrun : Lockstep (level left right config Rel Parted 0) _)
        (e left) (e right)
    exact ⟨fun _ => stuck fun _ => rfl, fun _ _ => stuck fun _ => rfl,
      fun _ _ _ _ => stuck fun _ => rfl⟩
  | succ depth ih =>
    -- a nested call is the operation itself over the link below
    have below : ∀ {act call : Act Unit}, (level left right config Rel Parted depth).Lockstep act →
        (∀ peer, call (.within peer config (depth + 1)) = act (.within peer config depth)) →
        (level left right config Rel Parted (depth + 1)).Lockstep call :=
      fun h e => .congr h (e left) (e right)
    exact ⟨fun d => below (deliver depth ih d) fun _ => rfl,
      fun id hits => below (recount depth ih id hits) fun _ => rfl,
      fun id file line thread => below (judged depth ih id file line thread) fun _ => rfl⟩

/-- **Nested calls run in lockstep** on every level, if a level has its basis whenever what is
nested in it runs in lockstep, and a hit does with that basis. -/
theorem nested_within {left right : Peer} {config : Config} {Rel : World → World → Prop}
    {Parted : World → Prop}
    (basis : ∀ depth, (level left right config Rel Parted depth).Nested →
      (level left right config Rel Parted depth).EditBasis)
    (judged : ∀ depth, (level left right config Rel Parted depth).Nested →
      ∀ id file line thread, (level left right config Rel Parted depth).Lockstep
        (handleHit id file line thread)) (depth : Nat) :
    (level left right config Rel Parted depth).Nested :=
  nested_of_levels (fun depth nested => (basis depth nested).deliver')
    (fun depth nested => (basis depth nested).updateHitCount) judged depth

end Pairing

end DebugLink
