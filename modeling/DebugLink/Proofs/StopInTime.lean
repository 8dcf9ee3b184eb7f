import DebugLink.Proofs.ExpectedPhases
import DebugLink.Proofs.HitFate
import DebugLink.Proofs.TidyOperation

/-!
# Stops that come in time

Whether an assertion fails depends on the phase in which a record comes, and for a hit on whether
the session can count it.

* `hit_ends`: a hit is handled unless it cannot be counted.
* `receive_ends`, `move_ends`: one record, and one operation of a run.
* `stops_in_time_iff`: over whole runs, no assertion fails exactly if every record comes in time.
-/

namespace DebugLink

open Act Breakpoint Record

/-! ## Steps that end -/

/-- **A step that ends exactly if it is fine**: then it gives a value or fails with everything held
as before, and otherwise an assertion fails. -/
def EndsIf {α : Type} (fine : Prop) (act : Act α) (link : Link) (w : World) : Prop :=
  (fine → ∃ v, act.Settles link w v ∧ v.holdings = w.holdings) ∧ (¬fine → act.Asserts link w)

namespace EndsIf

variable {α : Type} {fine : Prop} {act : Act α} {link : Link} {v w : World}

theorem of_settles (holds : fine) (settles : act.Settles link w v)
    (same : v.holdings = w.holdings) : EndsIf fine act link w :=
  ⟨fun _ => ⟨v, settles, same⟩, fun fails => absurd holds fails⟩

theorem of_asserts (fails : ¬fine) (asserts : act.Asserts link w) : EndsIf fine act link w :=
  ⟨fun holds => absurd holds fails, fun _ => asserts⟩

variable (h : EndsIf fine act link w)

include h

theorem discard : EndsIf fine (Functor.discard act) link w := by
  refine ⟨fun holds => ?_, fun fails => ?_⟩
  · obtain ⟨v, settles, same⟩ := h.1 holds
    exact ⟨v, settles.discard, same⟩
  · rw [discard_eq_bind]
    exact (h.2 fails).bind _

/-- Whether an assertion fails in such a step is whether it is fine. -/
theorem not_asserts_iff : ¬act.Asserts link w ↔ fine := by
  constructor
  · intro never
    exact Classical.byContradiction fun fails => never (h.2 fails)
  · intro holds asserts
    obtain ⟨v, settles, -⟩ := h.1 holds
    exact asserts.not_settles settles

/-- Where it is fine, everything that was free is free after it. -/
theorem free_after (free : w.Free) (holds : fine) : (act.after link w).Free := by
  obtain ⟨v, settles, same⟩ := h.1 holds
  rw [settles.after_eq]
  exact free.of_holdings same

end EndsIf

/-- **A step that completes**: it gives a value or fails, with everything held as before. -/
def Completes {α : Type} (link : Link) (act : Act α) : Prop :=
  ∀ w, ∃ v, act.Settles link w v ∧ v.holdings = w.holdings

namespace Completes

variable {α β : Type} {link : Link}

theorem pure (a : α) : Completes link (Pure.pure a : Act α) := fun w => ⟨w, .of_ok rfl, rfl⟩

theorem fail (cause : Failure) : Completes link (Act.fail cause : Act α) :=
  fun w => ⟨w, .of_failed rfl, rfl⟩

theorem setPhase (phase : Phase) : Completes link (setPhase phase) :=
  fun _ => ⟨_, .of_ok rfl, rfl⟩

theorem bind {act : Act α} {next : α → Act β} (first : Completes link act)
    (second : ∀ a, Completes link (next a)) : Completes link (act >>= next) := by
  intro w
  obtain ⟨u, settles, same⟩ := first w
  rcases settles.ok_or_failed with ⟨a, e⟩ | ⟨cause, e⟩
  · obtain ⟨v, settles', same'⟩ := second a u
    exact ⟨v, .after_ok e settles', same'.trans same⟩
  · exact ⟨u, .of_failed (bind_failed e next), same⟩

theorem endsIf {act : Act α} (h : Completes link act) {fine : Prop} (holds : fine) (w : World) :
    EndsIf fine act link w := by
  obtain ⟨v, settles, same⟩ := h w
  exact .of_settles holds settles same

end Completes

/-! ## Hits -/

section Hits

variable {peer : Peer} (attentive : peer.Attentive) (config : Config) (depth : Nat)

include attentive

/-- Forgetting the interrupts of gdb does not change what can be counted. -/
theorem World.overcounts_receiving (record : String) (id : Nat) (w : World) :
    let link := Link.within peer config depth
    (w.receiving record).overcounts link id = w.overcounts link id := by
  intro link
  have scene := w.scene_receiving record
  have update : (w.receiving record).session.conditionUpdate = w.session.conditionUpdate :=
    congrArg Scene.conditionUpdate scene
  have phase : (w.receiving record).session.phase = w.session.phase := congrArg Scene.phase scene
  have bound : (w.receiving record).bound = w.bound := congrArg Scene.bound scene
  have sent : (w.receiving record).sent = w.sent := congrArg Scene.sent scene
  have struck : (w.receiving record).struck? id = w.struck? id := by
    unfold World.struck?
    rw [bound]
  have stops : ∀ b : Bound, (w.receiving record).stopsWith link b = w.stopsWith link b :=
    fun b => stopsWith_elsewhere (b := b) (attentive.within config depth) rfl sent b.held
  unfold World.overcounts World.fate
  simp only [update, phase, struck, stops]

variable {id line thread : Nat} {file record : String} {w : World}

/-- **A hit is handled** unless it has to be counted and cannot be. -/
theorem hit_ends (read : Notice.read record = .ok (.hit id file line thread)) (free : w.Free) :
    let link := Link.within peer config (depth + 1)
    EndsIf (w.overcounts link id = false) (handleBreakpoint record) link w := by
  intro link
  by_cases known : w.FindsOut link id
  · have ends := hit_done attentive config depth read free.breakAll free.critical known
    cases counts : w.overcounts link id with
    | false =>
      rw [if_neg (ne_true_of_eq_false counts)] at ends
      obtain ⟨v, settles, hit⟩ := ends
      exact .of_settles rfl settles hit.holdings
    | true =>
      rw [if_pos counts] at ends
      exact .of_asserts Bool.noConfusion ends
  · -- the request for the value fails, and with it the hit
    simp only [World.FindsOut, Classical.not_forall, not_exists] at known
    obtain ⟨steps, i, b, struck, compares, unknown⟩ := known
    have nothing : w.evaluated? link b.condition.expression = none :=
      Option.eq_none_iff_forall_not_mem.2 unknown
    have gates := free.bound b (List.mem_of_getElem? (World.struck?_eq_some struck).2)
    obtain ⟨u, h, judged, -⟩ := handleHit_judging peer config depth thread read free.breakAll
      free.critical free.conditionUpdate steps struck
    obtain ⟨v, settles, scene⟩ := judgeHit_fails (attentive.within config depth) thread h.region
      h.first h.found gates compares ((h.evaluated attentive _).trans nothing)
    obtain ⟨z, handled, scene'⟩ := judged v settles
    have passes : w.stopsWith link b = false := by
      simp [World.stopsWith, World.newValue?, compares, nothing]
    have counts : w.overcounts link id = false := by
      rw [World.overcounts_struck struck free.conditionUpdate steps, passes]
      simp
    refine .of_settles counts handled ?_
    rw [scene, h.scene] at scene'
    exact (congrArg Scene.holdings scene' :)

end Hits

/-! ## Commands that move the target -/

theorem Motion.command_ne (m : Motion) : m.command ≠ "-exec-interrupt" := by
  intro e
  have wakes := Config.interrupt_mem_wakes {}
  rw [← e] at wakes
  exact m.notMem_wakes {} wakes

section Commands

variable {link : Link} (attentive : link.peer.Attentive)

include attentive

/-- A request to an attentive peer returns an answer or a failure, never an assertion. -/
theorem completes_request (command : String) : Completes link (request command) := by
  intro w
  refine ⟨w.requesting command (link.peer.answer w.sent command), ?_, rfl⟩
  have asked := request_attentive attentive command w
  cases answered : link.peer.answer w.sent command with
  | ok answer => exact .of_ok (by rw [asked, answered])
  | error cause => exact .of_failed (by rw [asked, answered])

theorem completes_move (m : Motion) : Completes link (submit m.command) := fun w =>
  ⟨w.submitting m.command, (Settles.settle _).congr (submit_attentive attentive m.command_ne w),
    rfl⟩

theorem completes_launch : Completes link launch := by
  have runs : Completes link (setRunMode true) := fun _ => ⟨_, .of_ok rfl, rfl⟩
  have told : Completes link (tell .moduleLoaded) := fun _ => ⟨_, .of_ok rfl, rfl⟩
  exact (Completes.setPhase _).bind fun _ => runs.bind fun _ => told.bind fun _ =>
    completes_move attentive .run

/-- Resuming either finds the gate of an interruption closed or submits its one command. -/
theorem completes_resume : Completes link resume := by
  intro w
  cases barrier : w.session.breakAll.isFree with
  | false => exact ⟨w, .of_ok (resume_barred barrier), rfl⟩
  | true =>
    have scene := World.scene_continued (c := link.config) barrier
    exact ⟨_, settles_resume attentive barrier, (congrArg Scene.holdings scene :)⟩

theorem completes_stackDepth (thread : Nat) : Completes link (stackDepth thread) := by
  unfold stackDepth
  refine (completes_request attentive _).bind fun answer => ?_
  split
  · exact .pure _
  · exact .fail _

theorem completes_step (kind : StepKind) : Completes link (step kind) := by
  have moves : ∀ m : Motion, Completes link (setPhase .stepping >>= fun _ => submit m.command) :=
    fun m => (Completes.setPhase _).bind fun _ => completes_move attentive m
  have commanded : ∀ thread, Completes link (stepCommand kind thread >>= fun command =>
      setPhase .stepping >>= fun _ => submit command) := by
    intro thread
    rcases kind with _ | _ | _
    · exact moves (.step thread)
    · exact moves (.next thread)
    · -- from the outermost frame a step goes to the next line
      simp only [stepCommand, bind_assoc]
      refine (completes_stackDepth attentive thread).bind fun depth => ?_
      -- code that is not known is stepped through by a resumption
      split
      · exact moves (.finish thread)
      · exact moves (.next thread)
  intro w
  show ∃ v, Settles (if w.session.unknownCode then setPhase .stepping >>= fun _ => resume
    else _) link w v ∧ _
  split
  · exact (Completes.setPhase _).bind (fun _ => completes_resume attentive) w
  · exact commanded w.session.thread w

end Commands

/-! ## Records that the target moves -/

/-- **A record that tells of a motion**: a hit, or that the target runs or stopped. -/
inductive TellsMotion (record : String) : Prop
  | hit {id line thread : Nat} {file : String}
      (announces : Announces record (.hit id file line thread))
  | motion {notice : Execution.Notice} (topic : Topic.ofRecord record = .execution)
      (read : Execution.Notice.read record = .ok notice) (moves : notice.isMotion = true)

/-- **A record comes in time**: its phase suits it, and if it is a hit that has to be counted it can
be. -/
structure World.InTime (link : Link) (record : String) (w : World) : Prop where
  hit : ∀ id file line thread, Announces record (.hit id file line thread) →
    w.overcounts link id = false
  motion : ∀ notice, Topic.ofRecord record = .execution →
    Execution.Notice.read record = .ok notice → notice.Suits w.session.phase

/-- For the record of a hit, to be in time is not to overcount a suspended breakpoint. -/
theorem World.inTime_hit_iff {link : Link} {record file : String} {id line thread : Nat} {w : World}
    (announces : Announces record (.hit id file line thread)) :
    w.InTime link record ↔ w.overcounts link id = false := by
  refine ⟨fun h => h.hit id file line thread announces, fun counts => ⟨?_, ?_⟩⟩
  · intro id' file' line' thread' announces'
    cases announces.read.symm.trans announces'.read
    exact counts
  · intro notice topic
    cases announces.topic.symm.trans topic

/-- For a record of the target's motion, to be in time is to suit the phase the session is in. -/
theorem World.inTime_motion_iff {link : Link} {record : String} {notice : Execution.Notice}
    {w : World} (topic : Topic.ofRecord record = .execution)
    (read : Execution.Notice.read record = .ok notice) :
    w.InTime link record ↔ notice.Suits w.session.phase := by
  refine ⟨fun h => h.motion notice topic read, fun suits => ⟨?_, ?_⟩⟩
  · intro id file line thread announces
    cases topic.symm.trans announces.topic
  · intro notice' topic' read'
    cases read.symm.trans read'
    exact suits

section Records

variable {peer : Peer} (attentive : peer.Attentive) (config : Config) (depth : Nat)
  {record : String} {w : World}

/-- A record is received as it is handled. -/
theorem receive_endsIf {link : Link} {fine : Prop}
    (h : EndsIf fine (handleRecord record) link (w.receiving record)) :
    EndsIf fine (receive record) link w := by
  refine ⟨fun holds => ?_, fun fails => receive_asserts (h.2 fails)⟩
  obtain ⟨v, settles, same⟩ := h.1 holds
  obtain ⟨z, received, scene⟩ := receive_settles settles
  have before := World.holdings_of_scene (w.scene_receiving record)
  exact ⟨z, .of_ok received, ((World.holdings_of_scene scene).trans same).trans before⟩

include attentive

/-- Handling the record of a hit ends well exactly when the hit does. -/
theorem receive_hit_endsIf {id line thread : Nat} {file : String} (free : w.Free)
    (announces : Announces record (.hit id file line thread)) :
    let link := Link.within peer config (depth + 1)
    EndsIf (w.overcounts link id = false) (receive record) link w := by
  intro link
  have freeThen : (w.receiving record).Free :=
    free.of_holdings (World.holdings_of_scene (w.scene_receiving record))
  have handles : handleRecord record = discard (handleBreakpoint record) := by
    unfold handleRecord
    rw [announces.topic]
  refine receive_endsIf ?_
  rw [handles, ← World.overcounts_receiving attentive config (depth + 1) record id w]
  exact (hit_ends attentive config depth announces.read freeThen).discard

omit attentive in
/-- Handling a record of motion ends well exactly when the notice suits the phase. -/
theorem receive_motion_endsIf {notice : Execution.Notice} (link : Link)
    (topic : Topic.ofRecord record = .execution)
    (read : Execution.Notice.read record = .ok notice) (moves : notice.isMotion = true) :
    EndsIf (notice.Suits w.session.phase) (receive record) link w := by
  let u := w.receiving record
  have phase : u.session.phase = w.session.phase :=
    congrArg Scene.phase (w.scene_receiving record)
  have handles : handleRecord record =
      discard (applyExecution notice >>= fun _ => pure notice) := by
    unfold handleRecord handleExecution
    rw [topic, read]
  have noError : ∀ text, notice ≠ .commandError text := by
    rintro text rfl
    cases moves
  refine receive_endsIf ?_
  rw [handles, ← phase]
  refine EndsIf.discard ⟨fun suits => ?_, fun other => ?_⟩
  · obtain ⟨v, e⟩ := (expects_applyExecution moves u).1 suits
    rcases Hears.applyExecution noError u trivial with ⟨_, z, e', heard, -⟩ | ⟨z, e', -⟩
    · cases e.symm.trans e'
      exact ⟨v, (Settles.of_ok e).dropped notice, heard.holdings⟩
    · cases e.symm.trans e'
  · exact ((expects_applyExecution moves u).2 other).bind _

/-- **A record that tells of a motion** is handled exactly if it comes in time. -/
theorem receive_ends (free : w.Free) (tells : TellsMotion record) :
    let link := Link.within peer config (depth + 1)
    EndsIf (w.InTime link record) (receive record) link w := by
  intro link
  cases tells with
  | hit announces =>
    rw [World.inTime_hit_iff announces]
    exact receive_hit_endsIf attentive config depth free announces
  | motion topic read moves =>
    rw [World.inTime_motion_iff topic read]
    exact receive_motion_endsIf link topic read moves

end Records

/-! ## Runs -/

namespace Operation

/-- **An operation that moves the target or tells that it moves**: a record, or a command that is
given while the target rests. -/
def Moves (w : World) : Operation → Prop
  | receive record => TellsMotion record
  | resume | step _ => w.session.phase = .stopped
  | _ => False

/-- An operation comes in time, for which only a record may come too early or too late. -/
def InTime (link : Link) (w : World) : Operation → Prop
  | receive record => w.InTime link record
  | _ => True

/-- Something holds of every operation of a run, in the world in which it begins. -/
def Along (link : Link) (P : World → Operation → Prop) : List Operation → World → Prop
  | [], _ => True
  | op :: ops, w => P w op ∧ Along link P ops (op.act.after link w)

/-- What comes to the same for one operation, and lets what follows come to the same, does so along
a run. -/
theorem along_iff {link : Link} {I : World → Prop} {P Q R : World → Operation → Prop}
    (step : ∀ w op, I w → P w op → (Q w op ↔ R w op) ∧ (R w op → I (op.act.after link w)))
    (ops : List Operation) (w : World) (start : I w) (along : Along link P ops w) :
    Along link Q ops w ↔ Along link R ops w := by
  induction ops generalizing w with
  | nil => exact Iff.rfl
  | cons op ops ih =>
    obtain ⟨here, rest⟩ := along
    obtain ⟨same, kept⟩ := step w op start here
    refine ⟨fun ⟨q, h⟩ => ?_, fun ⟨r, h⟩ => ?_⟩
    · have r := same.1 q
      exact ⟨r, (ih _ (kept r) rest).1 h⟩
    · exact ⟨same.2 r, (ih _ (kept r) rest).2 h⟩

end Operation

section Runs

variable {peer : Peer} (attentive : peer.Attentive) (config : Config) (depth : Nat)

include attentive

/-- **One operation** ends exactly if it comes in time. -/
theorem move_ends (w : World) (op : Operation) (free : w.Free) (moves : op.Moves w) :
    let link := Link.within peer config (depth + 1)
    EndsIf (op.InTime link w) op.act link w := by
  intro link
  have below : link.peer.Attentive := attentive.within config (depth + 1)
  cases op with
  | receive record => exact receive_ends attentive config depth free moves
  | resume => exact (completes_resume below).endsIf trivial w
  | step kind => exact (completes_step below kind).endsIf trivial w
  | _ => exact moves.elim

end Runs

/-- **Whether stops come in time.** Over a link to an attentive peer, from a session in which
everything is free: the target is launched, and then come records that tell of its motions, and
commands to step and to go on that are given while it rests, in any order. No assertion fails in
that run exactly if every record comes in time. -/
theorem stops_in_time_iff (peer : Peer) (config : Config) (depth : Nat) (ops : List Operation)
    (w : World) (attentive : peer.Attentive) (free : w.Free) :
    let link := Link.within peer config (depth + 1)
    let launched := launch.after link w
    Operation.Along link (fun w op => op.Moves w) ops launched →
      (Operation.Along link (fun w op => ¬op.act.Asserts link w) (.launch :: ops) w ↔
        Operation.Along link (fun w op => op.InTime link w) ops launched) := by
  intro link launched moves
  have launches : EndsIf True launch link w :=
    (completes_launch (attentive.within config (depth + 1))).endsIf trivial w
  have step : ∀ (w : World) (op : Operation), w.Free → op.Moves w →
      (¬op.act.Asserts link w ↔ op.InTime link w) ∧
        (op.InTime link w → (op.act.after link w).Free) := by
    intro w op free moves
    have ends := move_ends attentive config depth w op free moves
    exact ⟨ends.not_asserts_iff, ends.free_after free⟩
  have run := Operation.along_iff step ops launched (launches.free_after free trivial) moves
  exact ⟨fun ⟨_, rest⟩ => run.1 rest, fun rest => ⟨launches.not_asserts_iff.2 trivial, run.2 rest⟩⟩

/-- A session before the launch, with a breakpoint that gdb alone judges. -/
def beforeLaunch : World where
  bound := [{ gdbId := 1, location := .function "main" }]

set_option maxRecDepth 100000 in
/-- A signal, a step to its end, a hit and an interrupt of a target that has stopped already. -/
theorem stops_in_time_all :
    let link := Link.within countingPeer {} 1
    let ops : List Operation := [.receive "44;0x1;main;a.c;5;2", .step .into, .receive "45;a.c;6;2",
      .resume, .receive "27;1;a.c;5;2", .receive "47;2"]
    (countingPeer.Attentive ∧ beforeLaunch.Free ∧
        Operation.Along link (fun w op => op.Moves w) ops (launch.after link beforeLaunch)) ∧
      Operation.Along link (fun w op => ¬op.act.Asserts link w) (.launch :: ops) beforeLaunch := by
  intro link ops
  -- the worlds after each operation, in turn
  let w₀ := launch.after link beforeLaunch
  let w₁ := (Operation.receive "44;0x1;main;a.c;5;2").act.after link w₀
  let w₂ := (Operation.step .into).act.after link w₁
  let w₃ := (Operation.receive "45;a.c;6;2").act.after link w₂
  let w₄ := Operation.resume.act.after link w₃
  let w₅ := (Operation.receive "27;1;a.c;5;2").act.after link w₄
  have launched : w₀.session.phase = .running := by decide +kernel
  have stopped : w₁.session.phase = .stopped := by decide +kernel
  have stepped : w₃.session.phase = .stopped := by decide +kernel
  have counts : w₄.overcounts link 1 = false := by decide +kernel
  have reported : w₅.session.phase = .stopped := by decide +kernel
  have stop : Execution.Notice.read "44;0x1;main;a.c;5;2" =
      .ok (.interrupted ⟨1, "main", "a.c", 5, 2, false⟩) := rfl
  have stepEnd : Execution.Notice.read "45;a.c;6;2" =
      .ok (.steppingEnded ⟨"a.c", 6, 2, false⟩) := rfl
  have hit : Announces "27;1;a.c;5;2" (.hit 1 "a.c" 5 2) := ⟨rfl, rfl⟩
  have interrupted : Execution.Notice.read "47;2" = .ok (.execInterrupted 2) := rfl
  have free : beforeLaunch.Free := by decide
  have moves : Operation.Along link (fun w op => op.Moves w) ops
      (launch.after link beforeLaunch) :=
    ⟨.motion rfl stop rfl, stopped, .motion rfl stepEnd rfl, stepped, .hit hit,
      .motion rfl interrupted rfl, trivial⟩
  have stops : w₀.InTime link "44;0x1;main;a.c;5;2" :=
    (World.inTime_motion_iff rfl stop).2 launched
  have ends : w₂.InTime link "45;a.c;6;2" := (World.inTime_motion_iff rfl stepEnd).2 trivial
  have hits : w₄.InTime link "27;1;a.c;5;2" := (World.inTime_hit_iff hit).2 counts
  have interrupts : w₅.InTime link "47;2" :=
    (World.inTime_motion_iff rfl interrupted).2 (.inl reported)
  exact ⟨⟨countingPeer_attentive, free, moves⟩,
    (stops_in_time_iff countingPeer {} 0 ops beforeLaunch countingPeer_attentive free moves).2
      ⟨stops, trivial, ends, trivial, hits, interrupts, trivial⟩⟩

set_option maxRecDepth 100000 in
/-- A signal that arrives during a step: an assertion fails. -/
theorem stops_in_time_stepping :
    let link := Link.within countingPeer {} 1
    let ops : List Operation := [.receive "44;0x1;main;a.c;5;2", .step .into,
      .receive "44;0x1;main;a.c;6;2"]
    Operation.Along link (fun w op => op.Moves w) ops (launch.after link beforeLaunch) ∧
      ¬Operation.Along link (fun w op => ¬op.act.Asserts link w) (.launch :: ops) beforeLaunch := by
  intro link ops
  let w₀ := launch.after link beforeLaunch
  let w₁ := (Operation.receive "44;0x1;main;a.c;5;2").act.after link w₀
  let w₂ := (Operation.step .into).act.after link w₁
  have stopped : w₁.session.phase = .stopped := by decide +kernel
  have stepping : w₂.session.phase = .stepping := by decide +kernel
  have first : Execution.Notice.read "44;0x1;main;a.c;5;2" =
      .ok (.interrupted ⟨1, "main", "a.c", 5, 2, false⟩) := rfl
  have second : Execution.Notice.read "44;0x1;main;a.c;6;2" =
      .ok (.interrupted ⟨1, "main", "a.c", 6, 2, false⟩) := rfl
  refine ⟨⟨.motion rfl first rfl, stopped, .motion rfl second rfl, trivial⟩, ?_⟩
  rintro ⟨-, -, -, never, -⟩
  refine never ((receive_motion_endsIf link rfl second rfl).2 fun runs => ?_)
  cases stepping.symm.trans runs

end DebugLink
