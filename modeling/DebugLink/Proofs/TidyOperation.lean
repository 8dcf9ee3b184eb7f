import DebugLink.Proofs.Lockstep.Operation
import DebugLink.Proofs.PolicyContract
import DebugLink.Proofs.Tidy

/-!
# Operations give back what they took

Edits call one another with different gates held: a hit count that gdb sets back has the breakpoint
created anew, that gives it its pass count, and its condition after that. Each needs certain gates
free and holds others meanwhile. This module follows them from the innermost to the operations of a
session, over a courteous link.

* `tidy_setPassCount`, `tidy_setCondition`, `tidy_resetHitCount`: what an edit of a policy needs
  free.
* `tidy_handleHit`, `tidy_handleBreakpoint`: notices about breakpoints.
* `operation_gives_back`: with everything free, no operation waits for what it holds itself, and
  everything is free after it.
-/

namespace DebugLink

open Act Breakpoint

namespace Holdings

/-- **A breakpoint is ready** for an edit that takes some of its gates, enters the critical region
and interrupts the target. -/
structure Ready (i : Nat) (gates : Gates) (k : Holdings) : Prop where
  breakAll : k.breakAll.isFree = true
  critical : k.critical.isFree = true
  free : ∃ g, k.gates[i]? = some g ∧ g.meets gates = false

/-- **Every breakpoint is ready.** -/
structure Clear (k : Holdings) : Prop where
  breakAll : k.breakAll.isFree = true
  critical : k.critical.isFree = true
  gates : ∀ g ∈ k.gates, g = {}

theorem Clear.ready {k : Holdings} (h : k.Clear) {i : Nat} (size : i < k.gates.length)
    (gates : Gates) : k.Ready i gates := by
  have place : k.gates[i]? = some k.gates[i] := List.getElem?_eq_getElem size
  have none : k.gates[i] = {} := h.gates _ (List.getElem_mem size)
  refine ⟨h.breakAll, h.critical, _, place, ?_⟩
  rw [none]
  rfl

/-- What is free of both gates is free of each. -/
theorem Ready.of_both {k : Holdings} {i : Nat} (h : k.Ready i .both) (gates : Gates) :
    k.Ready i gates := by
  obtain ⟨⟨a, b⟩, place, apart⟩ := h.free
  refine ⟨h.breakAll, h.critical, _, place, ?_⟩
  cases a <;> cases b <;> simp_all [Gates.meets, Gates.both]

/-- While the gate of the condition is held, the one of the hit count can be taken. -/
theorem Ready.holdingCondition {k : Holdings} {i : Nat} (h : k.Ready i .both) :
    ∃ g, k.gates[i]? = some g ∧ g.meets .conditionOnly = false ∧
      Ready i .hitCountOnly { k with gates := k.gates.set i (g.union .conditionOnly) } := by
  obtain ⟨⟨a, b⟩, place, apart⟩ := h.free
  obtain ⟨-, -, g, place', unmet⟩ := h.of_both .conditionOnly
  cases place.symm.trans place'
  have size := (List.getElem?_eq_some_iff.1 place).1
  refine ⟨_, place, unmet, h.breakAll, h.critical, _, List.getElem?_set_self size, ?_⟩
  cases a <;> cases b <;>
    simp_all [Gates.meets, Gates.both, Gates.union, Gates.hitCountOnly, Gates.conditionOnly]

end Holdings

/-- In a world where every gate is free, every breakpoint is ready. -/
theorem World.Free.clear {w : World} (h : w.Free) : w.holdings.Clear := by
  refine ⟨h.breakAll, h.critical, fun g hg => ?_⟩
  obtain ⟨b, hb, rfl⟩ := List.mem_map.1 hg
  exact h.bound b hb

/-- Whether gates and permits are free depends on what is held alone. -/
theorem World.Free.of_holdings {v w : World} (h : w.Free) (same : v.holdings = w.holdings) :
    v.Free := by
  have breakAll : v.session.breakAll = w.session.breakAll := congrArg Holdings.breakAll same
  have update : v.session.conditionUpdate = w.session.conditionUpdate :=
    congrArg Holdings.conditionUpdate same
  have critical : v.session.critical = w.session.critical := congrArg Holdings.critical same
  have gates : v.bound.map (·.held) = w.bound.map (·.held) := congrArg Holdings.gates same
  refine ⟨?_, ?_, ?_, fun b hb => ?_⟩
  · rw [breakAll]
    exact h.breakAll
  · rw [update]
    exact h.conditionUpdate
  · rw [critical]
    exact h.critical
  · have held : b.held ∈ w.bound.map (·.held) := by
      rw [← gates]
      exact List.mem_map.2 ⟨b, hb, rfl⟩
    obtain ⟨b', hb', e⟩ := List.mem_map.1 held
    rw [← e]
    exact h.bound b' hb'

section Courteous

variable {link : Link} (courteous : link.Courteous) {P : Holdings → Prop}

include courteous

theorem tidy_launch : Tidy link P launch := by
  have running : Tidy link P (setPhase .running) := .modify fun _ => rfl
  have runs : Tidy link P (setRunMode true) := .modify fun _ => rfl
  have told : Tidy link P (tell .moduleLoaded) := .modify fun _ => rfl
  exact running.bind fun _ => runs.bind fun _ => told.bind fun _ => tidy_submit courteous _

/-! ## Edits -/

/-- Being tidy is modest. -/
theorem tidy_modest (P : Holdings → Prop) : Modest fun {α} act => Tidy (α := α) link P act where
  pure := .pure
  bind := .bind
  log _ _ := .modify fun _ => rfl
  request := tidy_request_bind courteous
  handleBreakpoint plain := by
    intro w _
    obtain ⟨v, settles, noted⟩ := settles_handleBreakpoint plain link w
    exact .of_settles settles (World.holdings_of_scene noted.scene)

theorem tidy_whilePaused {α : Type} (free : ∀ k, P k → k.breakAll.isFree = true) {edit : Act α}
    (h : Tidy link P edit) : Tidy link P (whilePaused edit) :=
  (tidy_pauseForEdit courteous free).bind fun _ => h.attempt.bind fun _ =>
    (tidy_resumeAfterEdit courteous).bind fun _ => .settle _

/-- **Inserting, deleting and enabling** need the gate on resuming free. -/
theorem tidy_pausedEdit (free : ∀ k, P k → k.breakAll.isFree = true) (e : PausedEdit) :
    Tidy link P e.act := by
  intro w hw
  by_cases pauses : e.Pauses w
  · obtain ⟨α, body, modest, eq⟩ := e.act_modest pauses link
    have edited : Tidy link P (whilePaused body >>= fun _ => pure () : Act Unit) :=
      (tidy_whilePaused courteous free (modest _ (tidy_modest courteous P))).bind fun _ => .pure _
    rw [eq]
    exact edited w hw
  · rw [PausedEdit.act_over pauses]
    exact rfl

/-- Counting the hits at gdb takes nothing: it is one command. -/
theorem tidy_stopAtHit (id : Nat) (n : Int) : Tidy link P (stopAtHit id n) := by
  have asked : Tidy link P (requestNotice (breakAfter id (ignoreCountFor n))) :=
    (tidy_modest courteous P).requestNotice "-break-after" (by decide) _ (toList_breakAfter id _)
  unfold stopAtHit
  split
  · exact Tidy.assertion.bind fun _ => asked
  · exact asked

theorem tidy_setGdbCondition (id : Nat) (condition : String) :
    Tidy link P (setGdbCondition id condition) := by
  obtain ⟨command, rest, e, split⟩ := setGdbCondition_eq id condition
  rw [e]
  exact (tidy_modest courteous P).requestNotice "-break-condition" (by decide) rest split

/-! ## Policies -/

/-- Nor does the pass count that is sent under the gate. -/
theorem tidy_sendPassCount (i : Nat) (p : PassCount) : Tidy link P (sendPassCount i p) := by
  have given : Tidy link P (updateBound i (·.withPassCount p)) := .updateBound i fun _ => rfl
  unfold sendPassCount
  refine given.bind fun _ => (Tidy.bound i).bind fun b => ?_
  split
  · exact .pure _
  · exact (tidy_stopAtHit courteous _ _).discard.attempt

/-- **Setting a pass count** takes the gate of the hit count. -/
theorem tidy_setPassCount (i : Nat) (p : PassCount) :
    Tidy link (Holdings.Ready i .hitCountOnly) (setPassCount i p) := by
  have inside : Tidy link (fun k => k.breakAll.isFree = true) (isRunning >>= fun wasRunning =>
      if wasRunning then
        pauseForEdit >>= fun _ => sendPassCount i p >>= fun outcome =>
          resumeAfterEdit >>= fun _ => settle outcome
      else sendPassCount i p >>= settle) := by
    unfold isRunning
    rw [bind_assoc]
    refine .look fun s => ?_
    rw [pure_bind]
    split
    · exact (tidy_pauseForEdit courteous fun _ free => free).bind fun _ =>
        (tidy_sendPassCount courteous i p).bind fun _ =>
          (tidy_resumeAfterEdit courteous).bind fun _ => .settle _
    · exact (tidy_sendPassCount courteous i p).bind fun _ => .settle _
  -- the gate of the hit count is taken first, and the region inside of it
  rw [setPassCount_eq]
  refine .withGates (Q := fun k => k.breakAll.isFree = true ∧ k.critical.isFree = true) ?_ ?_
  · intro k ready
    obtain ⟨g, place, apart⟩ := ready.free
    exact ⟨g, place, apart, ready.breakAll, ready.critical⟩
  · exact .inRegion (fun _ free => free.2) (fun _ free => free.1) inside

/-- Creating a breakpoint anew takes the gate of the hit count in the end. -/
theorem tidy_recreate (i : Nat) : Tidy link (Holdings.Ready i .hitCountOnly) (recreate i) := by
  have edited : ∀ e : PausedEdit, Tidy link (Holdings.Ready i .hitCountOnly) e.act :=
    tidy_pausedEdit courteous fun _ ready => ready.breakAll
  unfold recreate
  refine (Tidy.bound i).bind fun b => (edited (.delete b.gdbId)).bind fun _ =>
    (Tidy.of_discard (edited (.insert b.location))).bind fun snapshot => ?_
  split
  · exact .pure _
  · rename_i snapshot
    have numbered : Tidy link (Holdings.Ready i .hitCountOnly)
        (updateBound i fun b => { b with gdbId := snapshot.id, hits := 0 }) :=
      .updateBound i fun _ => rfl
    exact numbered.bind fun _ => (Tidy.bound i).bind fun b =>
      (tidy_setPassCount courteous i _).bind fun _ => .pure _

/-- Whatever the style of a condition, sending it takes nothing. -/
theorem tidy_sendCondition (i : Nat) (c : Condition) : Tidy link P (sendCondition i c) := by
  have told : ∀ id condition, Tidy link P (discard <| setGdbCondition id condition) :=
    fun id condition => (tidy_setGdbCondition courteous id condition).discard
  have checked : Tidy link P (updateBound i (·.withGdbCondition c)) :=
    .updateBound i fun _ => rfl
  have compared : Tidy link P (updateBound i (·.withComparison c)) := .updateBound i fun _ => rfl
  unfold sendCondition
  refine (Tidy.bound i).bind fun b => ?_
  split
  · exact checked.bind fun _ => told _ _
  · exact checked.bind fun _ => told _ _
  · exact compared.bind fun _ => (tidy_stopAtHit courteous _ _).discard.bind fun _ => told _ _

/-- **A condition is given** within the region, which is given back; the target is interrupted for
it, so the gate on resuming has to be free. -/
theorem tidy_giveCondition (i : Nat) (c : Condition) :
    Tidy link (fun k => k.breakAll.isFree = true ∧ k.critical.isFree = true)
      (giveCondition i c) := by
  have sent : ∀ r : Bool, Tidy link (fun k => k.breakAll.isFree = true) (do
      let compared := (← Act.bound i).comparesValues
      sendCondition i c
      return (r, compared && c.style ≠ .whenChanged)) := fun r =>
    (Tidy.bound i).bind fun b => (tidy_sendCondition courteous i c).bind fun _ => .pure _
  refine .inRegion (Q := fun k => k.breakAll.isFree = true) (fun _ free => free.2)
    (fun _ free => free.1) ?_
  unfold isRunning
  rw [bind_assoc]
  refine .look fun s => ?_
  rw [pure_bind]
  -- the target stands from here on, whatever interrupted it
  have phased : Tidy link (fun k => k.breakAll.isFree = true) (setPhase .stopped) :=
    .modify fun _ => rfl
  dsimp only
  split
  · exact (tidy_pauseForEdit courteous fun _ free => free).bind fun _ => phased.bind fun _ => sent _
  · exact sent _

/-- Changing a condition takes the gate of the condition, and the one of the hit count if the
breakpoint is created anew meanwhile. -/
theorem tidy_changeCondition (i : Nat) (c : Condition) :
    Tidy link (Holdings.Ready i .both) (changeCondition i c) := by
  have given : Tidy link (Holdings.Ready i .hitCountOnly) (giveCondition i c) :=
    (tidy_giveCondition courteous i c).pre fun _ ready => ⟨ready.breakAll, ready.critical⟩
  rw [changeCondition_eq]
  refine .withGates (fun k ready => ready.holdingCondition) ((Tidy.bound i).bind fun b =>
    .bind ?_ fun _ => given)
  split
  · exact (tidy_recreate courteous i).discard
  · exact .pure _

/-- After a condition, the pass count may have to be given again, and that takes the gate of the hit
count once more. -/
theorem tidy_endCondition (i : Nat) (changed : Bool × Bool) :
    Tidy link (Holdings.Ready i .hitCountOnly) (endCondition i changed) := by
  obtain ⟨wasRunning, countsAgain⟩ := changed
  have resumed : Tidy link (Holdings.Ready i .hitCountOnly)
      (if wasRunning then setPhase .running >>= fun _ => resumeAfterEdit else pure ()) := by
    have phased : Tidy link (Holdings.Ready i .hitCountOnly) (setPhase .running) :=
      .modify fun _ => rfl
    split
    · exact phased.bind fun _ => tidy_resumeAfterEdit courteous
    · exact .pure _
  unfold endCondition
  dsimp only
  split
  · exact (Tidy.bound i).bind fun b => (tidy_setPassCount courteous i _).bind fun _ => resumed
  · exact resumed

theorem tidy_applyCondition (i : Nat) (c : Condition) :
    Tidy link (Holdings.Ready i .both) (applyCondition i c) :=
  (tidy_changeCondition courteous i c).bind fun changed =>
    (tidy_endCondition courteous i changed).pre fun _ ready => ready.of_both _

/-- **Setting a condition** also takes the permit of condition changes if that is free. -/
theorem tidy_setCondition (i : Nat) (c : Condition) :
    Tidy link (Holdings.Ready i .both) (setCondition i c) := by
  have applied := tidy_applyCondition courteous i c
  exact .borrowing applied (fun _ ready => ⟨ready.breakAll, ready.critical, ready.free⟩) applied

/-- **Setting a hit count back.** -/
theorem tidy_resetHitCount (i : Nat) (resetCondition : Bool) :
    Tidy link (Holdings.Ready i .both) (resetHitCount i resetCondition) := by
  unfold resetHitCount
  refine ((tidy_recreate courteous i).pre fun _ ready => ready.of_both _).bind fun created => ?_
  split
  · extract_lets done
    have h_done : ∀ r, Tidy link (Holdings.Ready i .both) (done r) := fun _ => .pure _
    split
    · exact (Tidy.bound i).bind fun b => (tidy_setCondition courteous i _).bind h_done
    · exact h_done ()
  · exact .pure _

/-- A hit count that is set back to none has the breakpoint created anew, for which both gates have
to be free. -/
theorem tidy_setHitCount (i hits : Nat) :
    Tidy link (Holdings.Ready i .both) (setHitCount i hits) := by
  have counted : Tidy link (Holdings.Ready i .both) (updateBound i fun b => { b with hits }) :=
    .updateBound i fun _ => rfl
  unfold setHitCount
  refine (Tidy.bound i).bind fun b => counted.bind fun _ => ?_
  split
  · exact (tidy_resetHitCount courteous i true).discard
  · exact .pure _

/-- **A hit count that gdb reports** finds the breakpoint ready when every one is. -/
theorem tidy_updateHitCount (id hits : Nat) :
    Tidy link Holdings.Clear (updateHitCount id hits) := by
  unfold updateHitCount
  refine .findBound? (fun i => ?_) (.pure _)
  have set : Tidy link (fun k => k.Clear ∧ i < k.gates.length) (setHitCount i hits) :=
    (tidy_setHitCount courteous i hits).pre fun _ h => h.1.ready h.2 _
  refine (Tidy.bound i).bind fun b => ?_
  split
  · exact set
  · exact .pure _

/-! ## Hits -/

/-- A query for a value is one request, and takes nothing. -/
theorem tidy_evaluate (expression : String) :
    Tidy link P (query (Variable.evaluate expression none)) := by
  unfold query Variable.evaluate
  extract_lets shown
  split
  · exact (Tidy.pure _).bind fun _ => .settle _
  · rw [ExceptT.run_bind]
    refine .bind (.bind (tidy_request courteous _).attempt fun answer => ?_) fun _ => .settle _
    cases answer with
    | ok first => exact .pure _
    | error cause => exact .pure _

/-- Whether a hit stops is found out by such a query. -/
theorem tidy_stopsAt (i : Nat) : Tidy link P (stopsAt i) := by
  have valued : ∀ value, Tidy link P (updateBound i fun b => { b with previousValue := value }) :=
    fun _ => .updateBound i fun _ => rfl
  unfold stopsAt
  refine (Tidy.bound i).bind fun b => ?_
  split
  · exact .pure _
  · refine (tidy_evaluate courteous _).bind fun e => (Tidy.bound i).bind fun b => ?_
    split
    · exact (valued _).bind fun _ => .pure _
    · exact .pure _

/-- A hit that stops is counted, told, and followed by one command at most: the gates of its
breakpoint are those of whoever judges it. -/
theorem tidy_reportHit (i id thread : Nat) : Tidy link P (reportHit i id thread) := by
  have counted : Tidy link P (countHit i) := by
    have more : Tidy link P (updateBound i fun b => { b with hits := b.hits + 1 }) :=
      .updateBound i fun _ => rfl
    unfold countHit
    refine (Tidy.bound i).bind fun b => ?_
    split
    · split
      · exact more
      · exact .assertion
    · exact .pure _
  have rested : Tidy link P (setRunMode false) := .modify fun _ => rfl
  have stopped : Tidy link P (setPhase .stopped) := .modify fun _ => rfl
  have told : ∀ call, Tidy link P (tell call) := fun _ => .modify fun _ => rfl
  unfold reportHit
  refine counted.bind fun _ => (Tidy.bound i).bind fun b => rested.bind fun _ =>
    stopped.bind fun _ => (told _).bind fun _ => ?_
  split
  · exact (tidy_stopAtHit courteous _ _).discard
  · split
    · exact (tidy_stopAtHit courteous _ _).discard
    · exact .pure _

/-- **The judgement of a hit** enters the critical region; gates that are held already refuse the
hit. -/
theorem tidy_judgeHit (id thread : Nat) :
    Tidy link (fun k => k.critical.isFree = true) (judgeHit id thread) := by
  have judged : ∀ i, Tidy link (fun k => k.critical.isFree = true) (inRegion do
      if ← stopsAt i then reportHit i id thread else resume) := by
    intro i
    refine .inRegion (Q := whateverHeld) (fun _ free => free) (fun _ _ => trivial) ?_
    refine (tidy_stopsAt courteous i).bind fun stops => ?_
    split
    · exact tidy_reportHit courteous i id thread
    · exact tidy_resume courteous
  unfold judgeHit
  refine .findBound? (fun i => .boundBind fun b => ?_) (.pure _)
  split
  · exact .inRegion (Q := whateverHeld) (fun _ free => free.1.1) (fun _ _ => trivial)
      (tidy_resume courteous)
  · -- nobody holds a gate of this breakpoint, so both can be taken
    rename_i apart
    refine .withGates (fun k h => ⟨b.held, h.2, by simpa using apart, h.1.1⟩) (judged i)

/-- **A hit** takes what judging it takes, unless it ends a step. -/
theorem tidy_handleHit (id : Nat) (file : String) (line thread : Nat) :
    Tidy link (fun k => k.critical.isFree = true) (handleHit id file line thread) := by
  intro w free
  by_cases steps : w.session.phase = .stepping
  · obtain ⟨v, e, scene⟩ := handleHit_stepping steps id file line thread link
    rw [e]
    show v.scene.holdings = w.holdings
    rw [scene]
    rfl
  · obtain ⟨u, scene, e⟩ := handleHit_judged steps id file line thread link
    have held := World.holdings_of_scene scene
    have judged := tidy_judgeHit courteous id thread u (by rw [held]; exact free)
    rw [e, ← held]
    exact judged

end Courteous

/-! ## Operations -/

section Discreet

variable {peer : Peer} (discreet : peer.Discreet) {config : Config}
  (times : config.waitsForever = false) (depth : Nat)

include discreet times

/-- **A record about breakpoints** is handled with hits and hit counts one level deeper. -/
theorem tidy_handleBreakpoint (record : String) :
    Tidy (.within peer config (depth + 3)) Holdings.Clear (handleBreakpoint record) := by
  have below := courteous_within discreet times depth
  have applied : ∀ notice, Tidy (.within peer config (depth + 3)) Holdings.Clear
      (applyNotice notice) := by
    intro notice
    have tabled : ∀ f, Tidy (.within peer config (depth + 3)) Holdings.Clear (updateTable f) :=
      fun _ => .modify fun _ => rfl
    have unknown : ∀ on, Tidy (.within peer config (depth + 3)) Holdings.Clear
        (setUnknownCode on) := fun _ => .modify fun _ => rfl
    -- only a count and a hit lead on to other operations, one level of nesting below
    unfold applyNotice
    cases notice with
    | inserted snapshot =>
      dsimp only
      split
      · exact (unknown _).bind fun _ => tabled _
      · exact tabled _
    | modified snapshot =>
      have recounted : Tidy (.within peer config (depth + 3)) Holdings.Clear
          (fun link => link.recount snapshot.id snapshot.hits : Act Unit) :=
        fun w hw => tidy_updateHitCount below snapshot.id snapshot.hits w hw
      exact (unknown _).bind fun _ => (tabled _).bind fun _ => recounted
    | deleted id => exact tabled _
    | enabled id => exact tabled _
    | disabled id => exact tabled _
    | ignoreCount id count => exact tabled _
    | condition id condition => exact tabled _
    | hit id file line thread =>
      have handled : Tidy (.within peer config (depth + 3)) (fun k => k.critical.isFree = true)
          (fun link => link.hit id file line thread : Act Unit) :=
        fun w hw => tidy_handleHit below id file line thread w hw
      exact .borrowing (.pure ()) (fun _ clear => clear.critical) handled
    | conditionError => exact .pure _
    | unused => exact .pure _
  unfold handleBreakpoint
  split
  · exact .fail _
  · exact (applied _).bind fun _ => .pure _

end Discreet

/-- Whether an operation is one that the host or the reader of the link calls, about a breakpoint
that is bound if it is about one. -/
def Operation.Fits (w : World) : Operation → Prop
  | deliver _ | receive _ | judgeHit _ _ | launch | resume | step _ | interrupt => True
  | pauseForEdit | resumeAfterEdit | insert _ | delete _ | enable _ _ => True
  | setGdbCondition _ _ | stopAtHit _ _ | updateHitCount _ _ => True
  | setPassCount i _ | setCondition i _ | setHitCount i _ | resetHitCount i _ => i < w.bound.length
  | _ => False

/-- **How an operation ends that gives everything back**: with a value or a failure and every gate
free, or because an assertion failed. It never waits for what it holds itself. -/
inductive EndsFree {α : Type} : EStateM.Result Halt World α → Prop
  | value (a : α) (v : World) (free : v.Free) : EndsFree (.ok a v)
  | failure (cause : Failure) (v : World) (free : v.Free) : EndsFree (.error (.failed cause) v)
  | assertion (v : World) : EndsFree (.error .assertion v)

/-- A tidy end is free if the beginning was. -/
theorem Tidily.endsFree {α : Type} {w : World} {r : EStateM.Result Halt World α}
    (h : Tidily w.holdings r) (free : w.Free) : EndsFree r := by
  cases r with
  | ok a v => exact .value a v (free.of_holdings h)
  | error halt v =>
    cases halt with
    | failed cause => exact .failure cause v (free.of_holdings h)
    | assertion => exact .assertion v
    | blocked => exact h.elim
    | overrun => exact h.elim

/-- **Operations give back what they took.** Over a link to a discreet peer, where an interrupt is
not waited for for good: every operation that fits a world in which every gate is free gives a value
or fails with every gate free again, unless an assertion fails in it. In particular none waits for a
gate, a permit or the region that it holds itself. -/
theorem operation_gives_back (peer : Peer) (config : Config) (depth : Nat) (op : Operation)
    (w : World) (discreet : peer.Discreet) (times : config.waitsForever = false) (free : w.Free)
    (fits : op.Fits w) : EndsFree (op.act (.within peer config (depth + 3)) w) := by
  let link := Link.within peer config (depth + 3)
  have courteous : link.Courteous := courteous_within discreet times (depth + 1)
  have clear := free.clear
  have resumes : ∀ k : Holdings, k.Clear → k.breakAll.isFree = true := fun _ k => k.breakAll
  have records : ∀ record, Tidy link Holdings.Clear (receive record) := fun record =>
    .receive (tidy_resume courteous) fun _ => tidy_handleBreakpoint discreet times depth record
  have ready : ∀ {i : Nat}, i < w.bound.length → ∀ gates, w.holdings.Ready i gates :=
    fun size gates => clear.ready (by simpa [World.holdings] using size) gates
  -- one rule for each operation; those on a bound breakpoint need its gates
  refine Tidily.endsFree ?_ free
  cases op with
  | deliver delivery =>
    exact Tidy.deliver (tidy_resume courteous) (fun record _ _ =>
      tidy_handleBreakpoint discreet times depth record) w clear
  | receive record => exact records record w clear
  | judgeHit id thread => exact tidy_judgeHit courteous id thread w free.critical
  | launch => exact tidy_launch courteous w clear
  | resume => exact tidy_resume courteous w clear
  | step kind => exact tidy_step courteous kind w clear
  | interrupt => exact tidy_interrupt courteous resumes w clear
  | pauseForEdit => exact tidy_pauseForEdit courteous resumes w clear
  | resumeAfterEdit => exact tidy_resumeAfterEdit courteous w clear
  | insert location => exact tidy_pausedEdit courteous resumes (.insert location) w clear
  | delete id => exact tidy_pausedEdit courteous resumes (.delete id) w clear
  | enable id enabled => exact tidy_pausedEdit courteous resumes (.enable id enabled) w clear
  | setGdbCondition id condition =>
    exact (tidy_setGdbCondition courteous id condition).discard w clear
  | stopAtHit id n => exact (tidy_stopAtHit courteous id n).discard w clear
  | updateHitCount id hits => exact tidy_updateHitCount courteous id hits w clear
  | setPassCount i c => exact tidy_setPassCount courteous i c w (ready fits _)
  | setCondition i c => exact tidy_setCondition courteous i c w (ready fits _)
  | setHitCount i hits => exact tidy_setHitCount courteous i hits w (ready fits _)
  | resetHitCount i resetCondition =>
    exact (tidy_resetHitCount courteous i resetCondition).discard w (ready fits _)
  | _ => exact fits.elim

/-- The peer that delivers while it interrupts is discreet if none of that is about breakpoints. -/
theorem interruptedPeer_discreet {delivery : String}
    (h : ∀ record ∈ recordsOf delivery, Record.Topic.ofRecord record ≠ .breakpoint) :
    (interruptedPeer delivery).Discreet where
  answers := (interruptedPeer_attentive delivery).answers
  reactions past call d hd := by
    have arrived : d ∈ if past = [] ∧ call = interruptCall then [delivery] else [] := hd
    split at arrived
    · rw [List.mem_singleton.1 arrived]
      exact h
    · cases arrived

/-- A session whose target runs, with a breakpoint that was hit and every gate free. -/
def runningWithHits : World where
  session := { phase := .running }
  bound := [{ gdbId := 1, location := .function "main", hits := 2 }]

set_option maxRecDepth 100000 in
/-- A condition is given to a breakpoint that was hit: the breakpoint is deleted while the target is
paused, and the pause for creating it anew times out. The edit fails with its permit, its gate and
the region taken and given back. -/
theorem operation_gives_back_timeout :
    let link := Link.within (interruptedPeer "47;2") {} 3
    let op := Operation.setCondition 0 (.whenChanged "counter")
    let w := runningWithHits
    ((interruptedPeer "47;2").Discreet ∧ ({} : Config).waitsForever = false ∧ w.Free ∧
        op.Fits w) ∧
      EndsFree (op.act link w) ∧ op.act.returns link w = false ∧ (op.act.after link w).Free :=
  have discreet : (interruptedPeer "47;2").Discreet :=
    interruptedPeer_discreet (by decide +kernel)
  have free : runningWithHits.Free := by decide
  have fits : (Operation.setCondition 0 (.whenChanged "counter")).Fits runningWithHits :=
    Nat.zero_lt_one
  ⟨⟨discreet, rfl, free, fits⟩,
    operation_gives_back _ {} 0 (.setCondition 0 (.whenChanged "counter")) runningWithHits discreet
      rfl free fits,
    by decide +kernel⟩

end DebugLink
