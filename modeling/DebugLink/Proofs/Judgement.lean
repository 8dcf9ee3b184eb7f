import DebugLink.Proofs.StopDecision

/-!
# How a hit is judged

A hit that stops is counted and told to the host, and gdb is told which hits to let pass after it;
otherwise the target is resumed. All of that happens while the gates of the breakpoint are held.

* `settles_judgeHit`: how judging a hit ends, given how it ends while the gates are held.
* `settles_reportHit`, `asserts_reportHit`: a hit that stops, and one that cannot be counted.
* `receive_hit_plain`: a hit that gdb alone judges is told to the host, and gdb is told which hits
  to let pass after it.
* `receive_hit_passed`: a hit that the session judges and its pass count does not allow.
-/

namespace DebugLink

open Act Breakpoint

section Judge

variable {link : Link} {u : World} {i id thread : Nat} {b : Bound}

/-- The world while a hit of a breakpoint is judged. -/
def World.judging (w : World) (i : Nat) (b : Bound) : World :=
  { w with
    bound := w.bound.set i { b with held := .both }
    session := { w.session with critical := ⟨false⟩ } }

/-- A hit of a breakpoint that is not bound is none of the host's business. -/
theorem judgeHit_unbound (unbound : u.bound.findIdx? (·.gdbId == id) = none) (thread : Nat)
    (link : Link) : judgeHit id thread link u = .ok () u := by
  have looked : findBound? id link u = .ok none u := by
    show EStateM.Result.ok (u.bound.findIdx? (·.gdbId == id)) u = _
    rw [unbound]
  unfold judgeHit
  rw [bind_ok looked]
  rfl

variable (first : u.bound.findIdx? (·.gdbId == id) = some i) (found : u.bound[i]? = some b)

include first found

/-- **A hit of a bound breakpoint** resumes the target if somebody holds a gate of it, and is judged
under both gates otherwise. -/
theorem judgeHit_bound (thread : Nat) (link : Link) :
    judgeHit id thread link u =
      (if b.held.meets .both then inRegion resume
      else withGates i .both <| inRegion <| stopsAt i >>= fun stops =>
        if stops then reportHit i id thread else resume) link u := by
  have looked : findBound? id link u = .ok (some i) u := by
    show EStateM.Result.ok (u.bound.findIdx? (·.gdbId == id)) u = _
    rw [first]
  unfold judgeHit
  rw [bind_ok looked]
  dsimp only
  rw [bind_ok (boundAt_apply found)]

variable (gates : b.held = {}) (region : u.session.critical.isFree = true)

include gates

theorem judgeHit_free (thread : Nat) (link : Link) :
    judgeHit id thread link u = (withGates i .both <| inRegion <| stopsAt i >>= fun stops =>
      if stops then reportHit i id thread else resume) link u := by
  rw [judgeHit_bound first found, if_neg (by rw [gates]; decide)]

include region

/-- **A hit of a breakpoint is judged** while its gates are held, and they are given back. -/
theorem settles_judgeHit {v : World} {b' : Bound}
    (inside : (stopsAt i >>= fun stops => if stops then reportHit i id thread else resume).Settles
      link (u.judging i b) v)
    (bound : v.bound = u.bound.set i { b' with held := .both }) (free : b'.held = {}) :
    ∃ z, (judgeHit id thread).Settles link u z ∧
      z.scene = { v.scene with critical := u.session.critical, bound := u.bound.set i b' } := by
  refine ⟨_, .congr (judgeHit_free first found gates thread link)
    (.withGates found (by rw [gates]; rfl) (.inRegion region (by rw [gates]; exact inside))), ?_⟩
  have union : v.bound = u.bound.set i { b' with held := b'.held.union .both } := by
    rw [bound, free]
    rfl
  have given :
      (giveGates i .both { v with session := { v.session with critical := ⟨true⟩ } }).bound =
        u.bound.set i b' := bound_giveGates found union (by rw [free]; rfl)
  rw [← given, Permit.eq_of_isFree region]
  rfl

theorem asserts_judgeHit
    (asserts : (stopsAt i >>= fun stops => if stops then reportHit i id thread else resume).Asserts
      link (u.judging i b)) : (judgeHit id thread).Asserts link u := by
  refine .congr (judgeHit_free first found gates thread link)
    (.withGates found (by rw [gates]; rfl) (.inRegion region ?_))
  rw [gates]
  exact asserts

end Judge

/-! ## A hit that stops -/

/-- The breakpoint once a hit of it was counted, if the session counts its hits. -/
def Breakpoint.Bound.counted (b : Bound) : Bound :=
  { b with hits := if b.comparesValues then b.hits + 1 else b.hits }

/-- The hits that gdb alone counts are not counted again. -/
theorem Breakpoint.Bound.counted_plain {b : Bound} (plain : b.comparesValues = false) :
    b.counted = b := by
  unfold counted
  rw [if_neg (by simp [plain])]

/-- What is sent when a breakpoint has stopped, so that the next hits pass. -/
def Breakpoint.Bound.rearm (b : Bound) : List Call :=
  if b.stopsOnce then [.request (breakAfter b.gdbId (ignoreCountFor ignoreForever))]
  else if b.stopsEvery ≠ 0 then
    [.request (breakAfter b.gdbId
      (ignoreCountFor ((b.stopsEvery - b.hits % b.stopsEvery : Nat) : Int)))]
  else []

/-- The world in which a hit was told to the host. -/
def World.reporting (w : World) (id thread : Nat) : World :=
  let session := { w.session with runMode := false, phase := .stopped }
  { w with session, events := .told (.breakpointHit thread [id]) session :: w.events }

theorem World.scene_reporting (w : World) (id thread : Nat) : (w.reporting id thread).scene =
    { w.scene with
      phase := .stopped
      runMode := false
      stops := .breakpointHit thread [id] :: w.stops } := rfl

section Report

variable {link : Link} {w : World} {i : Nat} {b : Bound}

/-- A hit is counted where its counter has room. -/
theorem countHit_apply (found : w.bound[i]? = some b)
    (room : b.comparesValues = true → b.hits + 1 < Text.limit32) :
    countHit i link w = .ok () { w with bound := w.bound.set i b.counted } := by
  unfold countHit
  rw [bind_ok (boundAt_apply found)]
  split
  · rename_i compares
    rw [if_pos (room compares), updateBound_apply found]
    simp only [Bound.counted, compares, if_true]
  · rename_i plain
    rw [Bound.counted_plain (Bool.not_eq_true _ ▸ plain), set_of_getElem? found]
    rfl

theorem asserts_countHit (found : w.bound[i]? = some b) (compares : b.comparesValues = true)
    (full : Text.limit32 ≤ b.hits + 1) : (countHit i).Asserts link w := by
  unfold countHit
  refine .after_ok (boundAt_apply found) ?_
  rw [if_pos compares, if_neg (Nat.not_lt.2 full)]
  exact ⟨w, rfl⟩

/-- **A hit that is reported**, when the session can count it. -/
theorem settles_reportHit (attentive : link.peer.Attentive) (thread : Nat)
    (found : w.bound[i]? = some b)
    (room : b.comparesValues = true → b.hits + 1 < Text.limit32) :
    ∃ v, (reportHit i b.gdbId thread).Settles link w v ∧
      v.scene = { (w.reporting b.gdbId thread).scene with
        bound := w.bound.set i b.counted
        sent := b.counted.rearm ++ w.sent } := by
  let u : World := { w with bound := w.bound.set i b.counted }
  have size := (List.getElem?_eq_some_iff.1 found).1
  have place : u.bound[i]? = some b.counted := List.getElem?_set_self size
  let c := b.counted
  let rest : Act Unit :=
    if c.stopsOnce then discard <| stopAtHit b.gdbId ignoreForever
    else if c.stopsEvery ≠ 0 then
      discard <| stopAtHit b.gdbId (c.stopsEvery - c.hits % c.stopsEvery : Nat)
    else pure ()
  have reported : reportHit i b.gdbId thread link w = rest link (u.reporting b.gdbId thread) := by
    unfold reportHit
    rw [bind_ok (countHit_apply found room), bind_ok (boundAt_apply place)]
    rfl
  -- the next hits are let pass with one ignore count at most
  have lets : ∀ n : Nat, ∃ v, (discard (stopAtHit b.gdbId n) : Act Unit).Settles link
      (u.reporting b.gdbId thread) v ∧ v.scene = { (u.reporting b.gdbId thread).scene with
        sent := .request (breakAfter b.gdbId (ignoreCountFor n)) :: w.sent } := by
    intro n
    have bounded : (n : Int) ≠ leastInt64 := by
      unfold leastInt64
      omega
    obtain ⟨v, settles, noted⟩ :=
      settles_stopAtHit attentive b.gdbId bounded (u.reporting b.gdbId thread)
    exact ⟨v, settles.discard, noted.scene⟩
  have rearmed : ∃ v, rest.Settles link (u.reporting b.gdbId thread) v ∧
      v.scene = { (u.reporting b.gdbId thread).scene with sent := c.rearm ++ w.sent } := by
    unfold rest Bound.rearm
    split
    · exact lets ignoreForever
    · split
      · exact lets _
      · exact ⟨_, .of_ok rfl, rfl⟩
  obtain ⟨v, settles, scene⟩ := rearmed
  exact ⟨v, settles.congr reported, scene⟩

/-- A hit that the session cannot count. -/
theorem asserts_reportHit (id thread : Nat) (found : w.bound[i]? = some b)
    (compares : b.comparesValues = true) (full : Text.limit32 ≤ b.hits + 1) :
    (reportHit i id thread).Asserts link w :=
  (asserts_countHit found compares full).bind _

end Report

/-! ## What becomes of it -/

/-- What resuming leaves in view, where nothing barred it. -/
theorem World.scene_continued {c : Config} {w : World}
    (barrier : w.session.breakAll.isFree = true) : (w.continued c).scene = { w.scene with
      phase := .running
      runMode := true
      sent := .submit c.continueCommand :: w.sent } := by
  have same : ({ w.session with breakAll := ⟨true⟩ } : Session).breakAll = w.session.breakAll :=
    (Permit.eq_of_isFree barrier).symm
  show { w.scene with
    phase := .running
    runMode := true
    breakAll := ⟨true⟩
    sent := .submit c.continueCommand :: w.sent } = _
  rw [← Permit.eq_of_isFree barrier]
  rfl

section Judged

variable {link : Link} (attentive : link.peer.Attentive) {w : World} {i id : Nat} (thread : Nat)
  {b : Bound}
  (region : w.session.critical.isFree = true)
  (first : w.bound.findIdx? (·.gdbId == id) = some i) (found : w.bound[i]? = some b)

include attentive in
/-- Resuming the target after a hit. -/
theorem settles_resume (barrier : w.session.breakAll.isFree = true) :
    resume.Settles link w (w.continued link.config) :=
  (Settles.settle _).congr (resume_attentive attentive barrier)

include attentive found in
/-- While a hit is judged, it is known whether it stops. -/
theorem judging_stopsAt (evaluates : b.comparesValues = true →
      ∃ e, w.evaluated? link b.condition.expression = some e) : ∃ v asked,
    stopsAt i link (w.judging i b) = .ok (w.stopsWith link b) v ∧ b.Asks asked ∧
      v.scene = { w.scene with
        critical := ⟨false⟩
        bound := w.bound.set i { b.remembering (w.newValue? link b) with held := .both }
        sent := asked ++ w.sent } := by
  have size := (List.getElem?_eq_some_iff.1 found).1
  have place : (w.judging i b).bound[i]? = some { b with held := .both } :=
    List.getElem?_set_self size
  have sent : (w.judging i b).sent = w.sent := rfl
  obtain ⟨v, asked, stops, asks, scene⟩ := stopsAt_attentive attentive place fun compares => by
    rw [evaluated?_elsewhere attentive rfl sent]
    exact evaluates compares
  rw [stopsWith_elsewhere attentive rfl sent] at stops
  rw [newValue?_elsewhere attentive rfl sent] at scene
  have bound : ∀ b', (w.judging i b).bound.set i b' = w.bound.set i b' := fun _ => List.set_set _
  refine ⟨v, asked, stops, asks, ?_⟩
  rw [scene, bound]
  rfl

include attentive region first found

/-- **A hit of a breakpoint that is held** resumes the target. -/
theorem judgeHit_held (held : b.held.meets .both = true)
    (barrier : w.session.breakAll.isFree = true) :
    ∃ v, (judgeHit id thread).Settles link w v ∧ v.scene = { w.scene with
      phase := .running
      runMode := true
      sent := .submit link.config.continueCommand :: w.sent } := by
  let u : World := { w with session := { w.session with critical := ⟨false⟩ } }
  have resumes : resume.Settles link u (u.continued link.config) :=
    settles_resume attentive (w := u) barrier
  refine ⟨_, .congr ?_ (.inRegion region resumes), ?_⟩
  · rw [judgeHit_bound first found, if_pos held]
  · show { (u.continued link.config).scene with critical := ⟨true⟩ } = _
    rw [World.scene_continued (w := u) barrier, ← Permit.eq_of_isFree region]
    rfl

/-- **A hit of which nothing can be found out** has no effect. -/
theorem judgeHit_fails (gates : b.held = {}) (compares : b.comparesValues = true)
    (unknown : w.evaluated? link b.condition.expression = none) :
    ∃ v, (judgeHit id thread).Settles link w v ∧ v.scene = { w.scene with sent := v.sent } := by
  let u := w.judging i b
  have place : u.bound[i]? = some { b with held := .both } :=
    List.getElem?_set_self (List.getElem?_eq_some_iff.1 found).1
  have unknownThen : u.evaluated? link b.condition.expression = none := by
    rw [evaluated?_elsewhere attentive rfl (show u.sent = w.sent from rfl)]
    exact unknown
  obtain ⟨command, cause, failed⟩ := evaluate_failed attentive unknownThen
  -- the query fails before anything was remembered or counted
  have stops : stopsAt i link u = .error (.failed cause) (u.requesting command (.error cause)) := by
    unfold stopsAt
    rw [bind_ok (boundAt_apply place), if_neg (by simp [compares])]
    exact bind_failed failed _
  have bound : (u.requesting command (.error cause)).bound =
      w.bound.set i { b with held := .both } := rfl
  obtain ⟨z, settles, scene⟩ := settles_judgeHit first found gates region
    (.of_failed (bind_failed stops _)) bound gates
  refine ⟨z, settles, ?_⟩
  rw [scene, show z.sent = _ from congrArg Scene.sent scene, set_of_getElem? found]
  rfl

variable (gates : b.held = {}) (evaluates : b.comparesValues = true →
  ∃ e, w.evaluated? link b.condition.expression = some e)

include gates evaluates

/-- **A hit that does not stop** resumes the target. -/
theorem judgeHit_resumes (passes : w.stopsWith link b = false)
    (barrier : w.session.breakAll.isFree = true) :
    ∃ v asked, (judgeHit id thread).Settles link w v ∧ b.Asks asked ∧ v.scene = { w.scene with
      phase := .running
      runMode := true
      bound := w.bound.set i (b.remembering (w.newValue? link b))
      sent := .submit link.config.continueCommand :: asked ++ w.sent } := by
  obtain ⟨u, asked, stops, asks, scene⟩ :=
    judging_stopsAt attentive found evaluates
  rw [passes] at stops
  have barrierThen : u.session.breakAll.isFree = true := by
    rw [show u.session.breakAll = w.session.breakAll from congrArg Scene.breakAll scene]
    exact barrier
  have resumed := World.scene_continued (c := link.config) barrierThen
  have bound : (u.continued link.config).bound = _ :=
    congrArg Scene.bound (resumed.trans (by rw [scene]))
  obtain ⟨z, settles, scene'⟩ := settles_judgeHit first found gates region
    (.after_ok stops (settles_resume attentive barrierThen)) bound gates
  refine ⟨z, asked, settles, asks, ?_⟩
  rw [scene', resumed, scene, show u.sent = asked ++ w.sent from congrArg Scene.sent scene]
  rfl

/-- **A hit that stops** is told to the host, if the session can count it. -/
theorem judgeHit_reports (stops : w.stopsWith link b = true)
    (room : b.comparesValues = true → b.hits + 1 < Text.limit32) :
    let b' := (b.remembering (w.newValue? link b)).counted
    ∃ v asked, (judgeHit id thread).Settles link w v ∧ b.Asks asked ∧ v.scene = { w.scene with
      phase := .stopped
      runMode := false
      bound := w.bound.set i b'
      sent := b'.rearm ++ asked ++ w.sent
      stops := .breakpointHit thread [id] :: w.stops } := by
  intro b'
  obtain rfl := gdbId_of_findIdx? first found
  obtain ⟨u, asked, stopped, asks, scene⟩ :=
    judging_stopsAt attentive found evaluates
  rw [stops] at stopped
  let held : Bound := { b.remembering (w.newValue? link b) with held := .both }
  have bound : u.bound = w.bound.set i held := congrArg Scene.bound scene
  have place : u.bound[i]? = some held := by
    rw [bound]
    exact List.getElem?_set_self (List.getElem?_eq_some_iff.1 found).1
  -- holding its gates makes no difference to how a breakpoint counts and is armed again
  have counted : held.counted = { b' with held := .both } := rfl
  have rearm : held.counted.rearm = b'.rearm := rfl
  obtain ⟨v, reports, reported⟩ := settles_reportHit attentive thread place room
  rw [rearm] at reported
  have boundThen : v.bound = w.bound.set i { b' with held := .both } := by
    rw [show v.bound = u.bound.set i held.counted from congrArg Scene.bound reported, bound,
      List.set_set, counted]
  have free : b'.held = {} := gates
  obtain ⟨z, settles, scene'⟩ := settles_judgeHit first found gates region
    (.after_ok stopped reports) boundThen free
  refine ⟨z, asked, settles, asks, ?_⟩
  rw [scene', reported, World.scene_reporting, scene,
    show u.sent = asked ++ w.sent from congrArg Scene.sent scene,
    show u.stops = w.stops from congrArg Scene.stops scene, ← List.append_assoc]
  rfl

/-- A hit that stops and that the session cannot count. -/
theorem judgeHit_asserts (stops : w.stopsWith link b = true) (compares : b.comparesValues = true)
    (full : Text.limit32 ≤ b.hits + 1) : (judgeHit id thread).Asserts link w := by
  obtain ⟨u, asked, stopped, asks, scene⟩ :=
    judging_stopsAt attentive found evaluates
  rw [stops] at stopped
  have place : u.bound[i]? = some { b.remembering (w.newValue? link b) with held := .both } := by
    rw [show u.bound = w.bound.set i _ from congrArg Scene.bound scene]
    exact List.getElem?_set_self (List.getElem?_eq_some_iff.1 found).1
  exact asserts_judgeHit first found gates region
    (.after_ok stopped (asserts_reportHit id thread place compares full))

end Judged

/-! ## A hit as it is received -/

/-- **A world in which a hit is judged** that was received in another one: hits are dropped there,
and it is the same but for that. -/
structure Judging (w u : World) (id i : Nat) (b : Bound) : Prop where
  scene : u.scene = { w.scene with conditionUpdate := ⟨false⟩ }
  first : u.bound.findIdx? (·.gdbId == id) = some i
  found : u.bound[i]? = some b
  barrier : u.session.breakAll.isFree = true
  region : u.session.critical.isFree = true

namespace Judging

variable {w u : World} {id i : Nat} {b : Bound}

/-- What was only shown of a hit leaves the breakpoint to be judged as it was. -/
theorem of_scene (scene : u.scene = { w.scene with conditionUpdate := ⟨false⟩ })
    (first : w.bound.findIdx? (·.gdbId == id) = some i) (found : w.bound[i]? = some b)
    (breakAll : w.session.breakAll.isFree = true) (critical : w.session.critical.isFree = true) :
    Judging w u id i b := by
  have bound : u.bound = w.bound := congrArg Scene.bound scene
  have barrier : u.session.breakAll = w.session.breakAll := congrArg Scene.breakAll scene
  have region : u.session.critical = w.session.critical := congrArg Scene.critical scene
  refine ⟨scene, ?_, ?_, ?_, ?_⟩
  · rw [bound]
    exact first
  · rw [bound]
    exact found
  · rw [barrier]
    exact breakAll
  · rw [region]
    exact critical

variable (h : Judging w u id i b)

include h

theorem bound : u.bound = w.bound := congrArg Scene.bound h.scene

theorem sent : u.sent = w.sent := congrArg Scene.sent h.scene

theorem told : u.stops = w.stops := congrArg Scene.stops h.scene

variable {peer : Peer} (attentive : peer.Attentive) {config : Config} {depth : Nat}

include attentive

theorem evaluated (expression : String) :
    u.evaluated? (.within peer config depth) expression =
      w.evaluated? (.within peer config (depth + 1)) expression :=
  evaluated?_elsewhere (attentive.within config (depth + 1)) (by simp) h.sent expression

theorem value : u.newValue? (.within peer config depth) b =
    w.newValue? (.within peer config (depth + 1)) b :=
  newValue?_elsewhere (attentive.within config (depth + 1)) (by simp) h.sent b.held

theorem stops : u.stopsWith (.within peer config depth) b =
    w.stopsWith (.within peer config (depth + 1)) b :=
  stopsWith_elsewhere (attentive.within config (depth + 1)) (by simp) h.sent b.held

end Judging

section Laws

variable (peer : Peer) (config : Config) (depth : Nat) {w : World}
  {i : Nat} {b : Bound} {record file : String} {line thread : Nat}
  (h : Announces record (.hit b.gdbId file line thread)) (free : w.Free)
  (runs : w.session.phase = .running)
  (first : w.bound.findIdx? (·.gdbId == b.gdbId) = some i) (found : w.bound[i]? = some b)

include h free runs first found

/-- A hit is judged in a world where hits are dropped, and which is the same but for that. -/
theorem receive_judged :
    ∃ u, Judging w u b.gdbId i b ∧
      ∀ v, (judgeHit b.gdbId thread).Settles (.within peer config depth) u v →
        ∃ z, receive record (.within peer config (depth + 1)) w = .ok () z ∧
          z.scene = { v.scene with conditionUpdate := w.session.conditionUpdate } := by
  have moves : w.session.phase ≠ .stepping := by
    rw [runs]
    decide
  obtain ⟨u, scene, received⟩ := receive_hit peer config depth h free.conditionUpdate moves
  refine ⟨u, .of_scene scene first found free.breakAll free.critical, ?_⟩
  rw [Permit.eq_of_isFree free.conditionUpdate]
  exact received

/-- **A hit that gdb alone judges** is told to the host. The target is said to have stopped, and gdb
is told which hits to let pass next. -/
theorem receive_hit_plain (attentive : peer.Attentive) (plain : b.comparesValues = false) :
    ∃ z, receive record (.within peer config (depth + 1)) w = .ok () z ∧
      z.scene = { w.scene with
        phase := .stopped
        runMode := false
        sent := b.rearm ++ w.sent
        stops := .breakpointHit thread [b.gdbId] :: w.stops } := by
  obtain ⟨u, judging, received⟩ := receive_judged peer config depth h free runs first found
  have gates := free.bound b (List.mem_of_getElem? found)
  have stops : u.stopsWith (.within peer config depth) b = true := by
    unfold World.stopsWith
    rw [plain]
    rfl
  have noValue : u.newValue? (.within peer config depth) b = none := by
    unfold World.newValue?
    rw [if_neg (by simp [plain])]
  obtain ⟨v, asked, settles, asks, judged⟩ := judgeHit_reports
    (attentive.within config depth) thread judging.region judging.first judging.found gates
    (by simp [plain]) stops (by simp [plain])
  obtain ⟨z, done, scene'⟩ := received v settles
  -- nothing is asked for, remembered or counted
  obtain rfl : asked = [] := by simpa [Bound.Asks, plain] using asks
  have same : (b.remembering none).counted = b := Bound.counted_plain plain
  refine ⟨z, done, ?_⟩
  rw [scene', judged, noValue, same, List.append_nil, set_of_getElem? judging.found, judging.scene,
    judging.bound, judging.sent, judging.told]
  rfl

/-- **A hit that the pass count does not allow** resumes the target, although the value changed; all
that is remembered is the value. -/
theorem receive_hit_passed (attentive : peer.Attentive) (compares : b.comparesValues = true)
    {value : String} {y : World}
    (evaluates : query (Variable.evaluate b.condition.expression none)
      (.within peer config (depth + 1)) w = .ok ⟨true, value⟩ y)
    (changed : b.previousValue ≠ value) (passes : b.passCount.allows b.hits = false) :
    ∃ z, receive record (.within peer config (depth + 1)) w = .ok () z ∧
      z.scene = { w.scene with
        phase := .running
        runMode := true
        bound := w.bound.set i { b with previousValue := value }
        sent := z.sent } := by
  obtain ⟨u, judging, received⟩ := receive_judged peer config depth h free runs first found
  have gates := free.bound b (List.mem_of_getElem? found)
  have evaluated : u.evaluated? (.within peer config depth) b.condition.expression =
      some ⟨true, value⟩ :=
    (judging.evaluated attentive _).trans (World.evaluated?_of_ok evaluates)
  have value? : u.newValue? (.within peer config depth) b = some value := by
    unfold World.newValue?
    rw [if_pos compares, evaluated]
    simp [Option.filter, changed]
  have passesOn : u.stopsWith (.within peer config depth) b = false := by
    unfold World.stopsWith
    rw [compares, passes]
    simp
  obtain ⟨v, asked, settles, asks, judged⟩ := judgeHit_resumes
    (attentive.within config depth) thread judging.region judging.first judging.found gates
    (fun _ => ⟨_, evaluated⟩) passesOn judging.barrier
  obtain ⟨z, done, scene'⟩ := received v settles
  rw [judged, judging.scene, value?, judging.bound] at scene'
  refine ⟨z, done, ?_⟩
  rw [scene', show z.sent = _ from congrArg Scene.sent scene']
  rfl

end Laws

end DebugLink
