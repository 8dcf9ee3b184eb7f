import DebugLink.Proofs.EditOverStop
import DebugLink.Proofs.ExecutionStep
import DebugLink.Proofs.Notice

/-!
# What a hit does to a session

A record about a breakpoint touches many parts of a session that decide nothing: the table, the
place that is shown, the log. The scene is what is left, and the laws of this module say what a
record does to it.

* `receive_announced`: a record is handled as what it announces.
* `receive_report`, `receive_recount`: a hit count that gdb reports is taken over.
* `handleHit_stepping`, `handleHit_judged`: a hit ends a step or is judged.
* `settles_applyHit`, `asserts_applyHit`: a hit is handled one level deeper, with hits dropped
  meanwhile.
-/

namespace DebugLink

open Act Breakpoint

/-- What a hit depends on and what it changes. -/
structure Scene where
  phase : Phase
  runMode : Bool
  breakAll : Permit
  conditionUpdate : Permit
  critical : Permit
  bound : List Bound
  sent : List Call
  stops : List HostCall

/-- The stops that the host was told of, the last of them first. -/
def World.stops (w : World) : List HostCall := w.calls.filter HostCall.isStop

/-- The hits that the host was told of are among the stops. -/
theorem World.hitsTold_eq (w : World) : w.hitsTold = w.stops.countP fun call => match call with
    | .breakpointHit _ _ => true
    | _ => false := by
  unfold hitsTold stops
  rw [List.countP_filter]
  refine List.countP_congr fun call _ => ?_
  cases call <;> simp [HostCall.isStop]

theorem World.hitsTold_of_stops {w v : World} (h : v.stops = w.stops) :
    v.hitsTold = w.hitsTold := by
  rw [hitsTold_eq, hitsTold_eq, h]

theorem World.hitsTold_of_hit {w v : World} {thread : Nat} {ids : List Nat}
    (h : v.stops = .breakpointHit thread ids :: w.stops) : v.hitsTold = w.hitsTold + 1 := by
  rw [hitsTold_eq, hitsTold_eq, h, List.countP_cons_of_pos rfl]

/-- Telling the host of no stop is no stop. -/
theorem World.stops_told {call : HostCall} (h : call.isStop = false) (w : World) (s : Session) :
    ({ w with events := .told call s :: w.events } : World).stops = w.stops := by
  unfold stops calls
  rw [List.filterMap_cons_some (show Event.call? (.told call s) = some call from rfl),
    List.filter_cons_of_neg (by simp [h])]

/-- The scene of a world. -/
def World.scene (w : World) : Scene where
  phase := w.session.phase
  runMode := w.session.runMode
  breakAll := w.session.breakAll
  conditionUpdate := w.session.conditionUpdate
  critical := w.session.critical
  bound := w.bound
  sent := w.sent
  stops := w.stops

theorem World.Noted.scene {w v : World} (h : w.Noted v) : v.scene = w.scene := by
  have told : v.stops = w.stops := by
    unfold stops
    rw [h.calls]
  unfold World.scene
  rw [told, h.bound, h.sent, h.session]

/-- The interrupts of gdb are not part of the scene. -/
theorem World.scene_receiving (record : String) (w : World) :
    (w.receiving record).scene = w.scene := by
  unfold receiving
  split <;> rfl

/-- A record announces a notice about breakpoints. -/
structure Announces (record : String) (notice : Notice) : Prop where
  topic : Record.Topic.ofRecord record = .breakpoint
  read : Notice.read record = .ok notice

theorem Permit.eq_of_isFree {p : Permit} (h : p.isFree = true) : p = ⟨true⟩ := by
  cases p
  cases h
  rfl

/-- Which breakpoint is found first depends on their numbers only. -/
theorem findIdx?_gdbId (bounds : List Bound) (id : Nat) :
    bounds.findIdx? (·.gdbId == id) = (bounds.map (·.gdbId)).findIdx? (· == id) := by
  rw [List.findIdx?_map]
  rfl

/-- Changing a breakpoint that keeps its number does not change which one is found first. -/
theorem findIdx?_set {bounds : List Bound} {i : Nat} {b : Bound} (found : bounds[i]? = some b)
    (b' : Bound) (same : b'.gdbId = b.gdbId) (id : Nat) :
    (bounds.set i b').findIdx? (·.gdbId == id) = bounds.findIdx? (·.gdbId == id) := by
  obtain ⟨size, rfl⟩ := List.getElem?_eq_some_iff.1 found
  have kept : (bounds.set i b').map Bound.gdbId = bounds.map Bound.gdbId := by
    have mapped : i < (bounds.map Bound.gdbId).length := by simpa using size
    have number : b'.gdbId = (bounds.map Bound.gdbId)[i] := by
      rw [List.getElem_map]
      exact same
    rw [List.map_set, number]
    exact List.set_getElem_self mapped
  rw [findIdx?_gdbId, kept, ← findIdx?_gdbId]

/-- The breakpoint that is found first has the number that it was looked for by. -/
theorem gdbId_of_findIdx? {bounds : List Bound} {id i : Nat} {b : Bound}
    (first : bounds.findIdx? (·.gdbId == id) = some i) (found : bounds[i]? = some b) :
    b.gdbId = id := by
  obtain ⟨size, same, -⟩ := List.findIdx?_eq_some_iff_getElem.1 first
  rw [(List.getElem?_eq_some_iff.1 found).2] at same
  exact beq_iff_eq.1 same

/-- Putting a breakpoint where it is changes nothing. -/
theorem set_of_getElem? {bounds : List Bound} {i : Nat} {b : Bound} (found : bounds[i]? = some b) :
    bounds.set i b = bounds := by
  rw [← (List.getElem?_eq_some_iff.1 found).2]
  exact List.set_getElem_self _

/-- The bound breakpoints after gdb reported a hit count: the first one of that number took it
over, unless it compares values. -/
def recounted (id hits : Nat) (bounds : List Bound) : List Bound :=
  match bounds.findIdx? (·.gdbId == id) with
  | some i => bounds.modify i fun b => if b.comparesValues then b else { b with hits }
  | none => bounds

/-- **A hit count is taken over**, if it does not set back the one that was known. -/
theorem updateHitCount_apply {hits : Nat} (counts : hits ≠ 0) (id : Nat) (link : Link) (w : World) :
    updateHitCount id hits link w = .ok () { w with bound := recounted id hits w.bound } := by
  have looked : findBound? id link w = .ok (w.bound.findIdx? (·.gdbId == id)) w := rfl
  unfold updateHitCount recounted
  rw [bind_ok looked]
  cases first : w.bound.findIdx? (·.gdbId == id) with
  | none => rfl
  | some i =>
    have size := (List.findIdx?_eq_some_iff_getElem.1 first).1
    have found : w.bound[i]? = some w.bound[i] := List.getElem?_eq_getElem size
    dsimp only
    rw [bind_ok (boundAt_apply found), modify_of_getElem? found]
    -- a breakpoint that compares values counts its own hits, and no count is set
    cases compares : w.bound[i].comparesValues with
    | true =>
      rw [if_neg (by simp), if_pos rfl, set_of_getElem? found]
      rfl
    | false =>
      rw [if_pos (by simp), if_neg (by simp)]
      unfold setHitCount
      rw [bind_ok (boundAt_apply found), bind_ok (updateBound_apply found _),
        if_neg (by simp [counts]), compares]
      rfl

section Receive

variable {link : Link} {w : World}

/-- **A record whose handling settles** is received, for a failure is logged. -/
theorem receive_settles {record : String} {v : World}
    (h : (handleRecord record).Settles link (w.receiving record) v) :
    ∃ z, receive record link w = .ok () z ∧ z.scene = v.scene := by
  obtain ⟨outcome, handled⟩ := h
  rw [receive_apply, bind_ok handled]
  cases outcome with
  | ok _ => exact ⟨v, rfl, rfl⟩
  | error cause => exact ⟨_, rfl, rfl⟩

theorem receive_asserts {record : String}
    (h : (handleRecord record).Asserts link (w.receiving record)) :
    (receive record).Asserts link w :=
  (h.attempt.bind _).congr (receive_apply record link w)

/-- **A record is handled** as what it announces, and it never fails. -/
theorem receive_announced {record : String} {notice : Notice} (h : Announces record notice)
    (link : Link) (w : World) :
    ∃ u, u.scene = w.scene ∧ ∀ v, (applyNotice notice).Settles link u v →
      ∃ z, receive record link w = .ok () z ∧ z.scene = v.scene := by
  have handles : handleRecord record = discard (applyNotice notice >>= fun _ => pure notice) := by
    unfold handleRecord
    rw [h.topic]
    dsimp only
    unfold handleBreakpoint
    rw [h.read]
  refine ⟨w.receiving record, w.scene_receiving record, fun v settles => receive_settles ?_⟩
  rw [handles]
  exact (settles.dropped notice).discard

/-! ## What is left aside -/

/-- **A step aside** gives a value and leaves the scene as it is. -/
def Aside (act : Act Unit) (link : Link) : Prop :=
  ∀ w, ∃ v, act link w = .ok () v ∧ v.scene = w.scene

theorem Aside.bind {act : Act Unit} {next : Unit → Act Unit} (first : Aside act link)
    (second : Aside (next ()) link) : Aside (act >>= next) link := by
  intro w
  obtain ⟨u, e, scene⟩ := first w
  obtain ⟨v, e', scene'⟩ := second u
  exact ⟨v, (bind_ok e next).trans e', scene'.trans scene⟩

theorem aside_tell {call : HostCall} (h : call.isStop = false) : Aside (tell call) link := by
  intro w
  refine ⟨_, rfl, ?_⟩
  unfold World.scene
  rw [World.stops_told h]

/-- Asking the host to look at the threads again is an aside. -/
theorem aside_refreshThreads : Aside refreshThreads link := by
  intro w
  unfold refreshThreads
  rw [look_apply, update_apply]
  split
  · exact aside_tell rfl _
  · exact ⟨_, rfl, rfl⟩

theorem aside_outdate : Aside outdate link :=
  (aside_tell rfl).bind <| (aside_tell rfl).bind aside_refreshThreads

theorem aside_setThread (thread : Nat) : Aside (setThread thread) link := by
  intro w
  unfold setThread
  rw [update_apply]
  exact aside_tell rfl _

theorem aside_publishLocation (file : String) (line : Nat) :
    Aside (publishLocation file line) link := by
  intro w
  unfold publishLocation
  rw [update_apply]
  exact aside_tell rfl _

/-- What the host learns of every hit. -/
def showHit (file : String) (line thread : Nat) : Act Unit := do
  outdate
  setThreadLocation thread file line
  setThread thread

theorem aside_showHit (file : String) (line thread : Nat) :
    Aside (showHit file line thread) link :=
  aside_outdate.bind <| (aside_tell rfl).bind <| aside_setThread thread

/-- After the host has learnt where the thread stands, a hit ends a step or is judged. -/
theorem handleHit_eq (id : Nat) (file : String) (line thread : Nat) :
    handleHit id file line thread = (showHit file line thread >>= fun _ => session >>= fun s =>
      if s.phase = .stepping then completeStep file line
      else publishLocation file line >>= fun _ => judgeHit id thread) := by
  unfold showHit outdate
  simp only [bind_assoc]
  rfl

/-- A hit that ends no step is judged. -/
theorem handleHit_judged (moves : w.session.phase ≠ .stepping) (id : Nat) (file : String)
    (line thread : Nat) (link : Link) :
    ∃ u, u.scene = w.scene ∧
      handleHit id file line thread link w = judgeHit id thread link u := by
  obtain ⟨u, shown, scene⟩ := (aside_showHit file line thread : Aside _ link) w
  obtain ⟨v, published, scene'⟩ := (aside_publishLocation file line : Aside _ link) u
  have still : u.session.phase ≠ .stepping := by
    rw [show u.session.phase = w.session.phase from congrArg Scene.phase scene]
    exact moves
  refine ⟨v, scene'.trans scene, ?_⟩
  rw [handleHit_eq, bind_ok shown, look_apply, if_neg still, bind_ok published]

/-- A hit that ends a step is told as the end of the step. -/
theorem handleHit_stepping (steps : w.session.phase = .stepping) (id : Nat) (file : String)
    (line thread : Nat) (link : Link) :
    ∃ v, handleHit id file line thread link w = .ok () v ∧
      v.scene = { w.scene with phase := .stopped, stops := .stepCompleted :: w.stops } := by
  obtain ⟨u, shown, scene⟩ := (aside_showHit file line thread : Aside _ link) w
  have still : u.session.phase = .stepping := (congrArg Scene.phase scene).trans steps
  -- the step is over before the host is told of it
  let stopped : World := { u with session := { u.session with phase := .stopped } }
  obtain ⟨v, published, scene'⟩ :=
    (aside_publishLocation file line : Aside _ link) stopped
  let told : World := { v with events := .told .stepCompleted v.session :: v.events }
  have completed : completeStep file line link u = .ok () told := by
    unfold completeStep
    rw [look_apply, if_pos still]
    show (publishLocation file line >>= fun _ => tell .stepCompleted) link stopped = _
    rw [bind_ok published]
    rfl
  refine ⟨told, ?_, ?_⟩
  · rw [handleHit_eq, bind_ok shown, look_apply, if_pos still, completed]
  · show { v.scene with stops := .stepCompleted :: v.stops } = _
    rw [scene', show v.stops = u.stops from congrArg Scene.stops scene',
      show u.stops = w.stops from congrArg Scene.stops scene, ← scene]
    rfl

end Receive

section Within

variable (peer : Peer) (config : Config) (depth : Nat) {w : World} {i : Nat} {b : Bound}

/-- While the permit of condition changes is taken, hits are dropped. -/
theorem applyHit_dropped (taken : w.session.conditionUpdate.isFree = false) (id : Nat)
    (file : String) (line thread : Nat) (link : Link) :
    applyNotice (.hit id file line thread) link w = .ok () w := by
  unfold applyNotice
  dsimp only
  rw [look_apply]
  unfold Permit.tryTake
  rw [taken]
  rfl

/-- Otherwise a hit is handled one level deeper, and hits that arrive meanwhile are dropped. -/
theorem applyHit_taken (free : w.session.conditionUpdate.isFree = true) (id : Nat)
    (file : String) (line thread : Nat) (link : Link) :
    applyNotice (.hit id file line thread) link w =
      (attempt (fun link => link.hit id file line thread) >>= fun outcome =>
        update (fun s => { s with conditionUpdate := s.conditionUpdate.release }) >>= fun _ =>
          settle outcome) link
        { w with session := { w.session with conditionUpdate := ⟨false⟩ } } := by
  unfold applyNotice
  dsimp only
  rw [look_apply]
  unfold Permit.tryTake
  rw [free]
  rfl

/-- **A hit settles** as a notice once it settles while no other hit is let in. -/
theorem settles_applyHit {v : World} {id line thread : Nat} {file : String}
    (free : w.session.conditionUpdate.isFree = true)
    (settles : (handleHit id file line thread).Settles (.within peer config depth)
      { w with session := { w.session with conditionUpdate := ⟨false⟩ } } v) :
    (applyNotice (.hit id file line thread)).Settles (.within peer config (depth + 1)) w
      { v with session := { v.session with conditionUpdate := ⟨true⟩ } } := by
  obtain ⟨outcome, handled⟩ := settles
  have deeper : attempt (fun link => link.hit id file line thread)
      (.within peer config (depth + 1))
      { w with session := { w.session with conditionUpdate := ⟨false⟩ } } = .ok outcome v := handled
  -- what became of the hit is settled after the hits are let in again
  have applied : applyNotice (.hit id file line thread) (.within peer config (depth + 1)) w =
      settle outcome (.within peer config (depth + 1))
        { v with session := { v.session with conditionUpdate := ⟨true⟩ } } := by
    rw [applyHit_taken free, bind_ok deeper]
    rfl
  exact (Settles.settle outcome).congr applied

theorem asserts_applyHit {id line thread : Nat} {file : String}
    (free : w.session.conditionUpdate.isFree = true)
    (asserts : (handleHit id file line thread).Asserts (.within peer config depth)
      { w with session := { w.session with conditionUpdate := ⟨false⟩ } }) :
    (applyNotice (.hit id file line thread)).Asserts (.within peer config (depth + 1)) w := by
  obtain ⟨v, e⟩ := asserts
  have deeper : Asserts (fun link => link.hit id file line thread)
      (.within peer config (depth + 1))
      { w with session := { w.session with conditionUpdate := ⟨false⟩ } } := ⟨v, e⟩
  exact (deeper.attempt.bind _).congr (applyHit_taken free ..)

/-- **A hit is judged** one level deeper, and hits that arrive meanwhile are dropped. -/
theorem receive_hit {record : String} {id line thread : Nat} {file : String}
    (h : Announces record (.hit id file line thread))
    (free : w.session.conditionUpdate.isFree = true) (moves : w.session.phase ≠ .stepping) :
    ∃ u, u.scene = { w.scene with conditionUpdate := ⟨false⟩ } ∧
      ∀ v, (judgeHit id thread).Settles (.within peer config depth) u v →
        ∃ z, receive record (.within peer config (depth + 1)) w = .ok () z ∧
          z.scene = { v.scene with conditionUpdate := ⟨true⟩ } := by
  obtain ⟨x, scene, received⟩ := receive_announced h (.within peer config (depth + 1)) w
  let y : World := { x with session := { x.session with conditionUpdate := ⟨false⟩ } }
  -- what was shown of the hit before it is judged leaves the phase
  have movesOn : y.session.phase ≠ .stepping := by
    rw [show y.session.phase = w.session.phase from congrArg Scene.phase scene]
    exact moves
  have freeThen : x.session.conditionUpdate.isFree = true := by
    rw [show x.session.conditionUpdate = w.session.conditionUpdate from
      congrArg Scene.conditionUpdate scene]
    exact free
  obtain ⟨u, shown, judged⟩ :=
    handleHit_judged movesOn id file line thread (.within peer config depth)
  refine ⟨u, ?_, fun v settles => ?_⟩
  · rw [shown, ← scene]
    rfl
  · obtain ⟨z, done, scene'⟩ :=
      received _ (settles_applyHit peer config depth freeThen (settles.congr judged))
    exact ⟨z, done, scene'⟩

/-- **A hit count that gdb reports** is taken over, unless it was set back. -/
theorem receive_report {record : String} {s : Snapshot} (h : Announces record (.modified s))
    (counts : s.hits ≠ 0) (w : World) :
    ∃ z, receive record (.within peer config (depth + 1)) w = .ok () z ∧
      z.scene = { w.scene with bound := recounted s.id s.hits w.bound } := by
  obtain ⟨x, scene, received⟩ := receive_announced h (.within peer config (depth + 1)) w
  let y : World :=
    { x with session :=
      { x.session with
        unknownCode := s.function == Record.unknownFunction
        table := x.session.table.insert s } }
  have bound : x.bound = w.bound := congrArg Scene.bound scene
  have applied : applyNotice (.modified s) (.within peer config (depth + 1)) x =
      .ok () { y with bound := recounted s.id s.hits x.bound } :=
    updateHitCount_apply counts s.id (.within peer config depth) y
  obtain ⟨z, done, scene'⟩ := received _ (.of_ok applied)
  refine ⟨z, done, ?_⟩
  rw [scene', ← bound, ← scene]
  rfl

/-- The hit count of one breakpoint that gdb counts the hits of. -/
theorem receive_recount {record : String} {s : Snapshot} (h : Announces record (.modified s))
    (first : w.bound.findIdx? (·.gdbId == s.id) = some i) (found : w.bound[i]? = some b)
    (plain : b.comparesValues = false) (counts : s.hits ≠ 0) :
    ∃ z, receive record (.within peer config (depth + 1)) w = .ok () z ∧
      z.scene = { w.scene with bound := w.bound.set i { b with hits := s.hits } } := by
  obtain ⟨z, done, scene⟩ := receive_report peer config depth h counts w
  refine ⟨z, done, ?_⟩
  rw [scene]
  unfold recounted
  rw [first]
  dsimp only
  rw [modify_of_getElem? found, plain, if_neg Bool.false_ne_true]

end Within

end DebugLink
