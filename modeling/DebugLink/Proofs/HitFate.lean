import DebugLink.Proofs.ComparedHits
import DebugLink.Proofs.Tidy

/-!
# What becomes of a hit

A hit is dropped while the permit of condition changes is taken. It ends a step if there is one. If
it is about a bound breakpoint, it is reported to the host or the target is resumed; otherwise it
is none of the host's business. Whichever it is, what was held before is held after it.

* `Fate`: the five things that can become of a hit, and `World.fate` for which of them does.
* `Fate.Effect`: what each of them does to a session.
* `hit_done`: a hit that finds out what it asks for is done with, unless it cannot be counted.
* `hit_fate_iff`: every hit has the effect of its fate, except one that the session has to count
  and whose counter is full.
-/

namespace DebugLink

open Act Breakpoint

/-- **What becomes of a hit.** -/
inductive Fate
  /-- Hits are dropped at the moment. -/
  | dropped
  /-- It ends a step. -/
  | stepEnded
  /-- No breakpoint is bound to its number. -/
  | unbound
  /-- The target is resumed. -/
  | resumed
  /-- The host is told. -/
  | reported
  deriving DecidableEq

/-- The breakpoint that a hit is about, with its place. -/
def World.struck? (id : Nat) (w : World) : Option (Nat × Bound) := do
  let i ← w.bound.findIdx? (·.gdbId == id)
  let b ← w.bound[i]?
  return (i, b)

/-- What becomes of a hit of the breakpoint with this number. A breakpoint that is being edited does
not stop. -/
def World.fate (link : Link) (id : Nat) (w : World) : Fate :=
  if !w.session.conditionUpdate.isFree then .dropped
  else if w.session.phase = .stepping then .stepEnded
  else match w.struck? id with
    | none => .unbound
    | some (_, b) =>
      if !b.held.meets .both && w.stopsWith link b then .reported else .resumed

/-- The place of the breakpoint for which a hit finds a new value, and that value. -/
def World.finds? (link : Link) (id : Nat) (w : World) : Option (Nat × String) :=
  match w.fate link id, w.struck? id with
  | .resumed, some (i, b) | .reported, some (i, b) =>
    if b.held.meets .both then none else (w.newValue? link b).map (i, ·)
  | _, _ => none

/-- The values that the breakpoints of a session remember. -/
def World.values (w : World) : List String := w.bound.map (·.previousValue)

/-- The values that they remember after a hit. -/
def World.valuesAfter (link : Link) (id : Nat) (w : World) : List String :=
  match w.finds? link id with
  | some (i, value) => w.values.set i value
  | none => w.values

/-- Whether a hit is to be reported that the session counts, and its counter is full. -/
def World.overcounts (link : Link) (id : Nat) (w : World) : Bool :=
  w.fate link id == .reported &&
    (w.struck? id).any fun struck =>
      struck.2.comparesValues && Text.limit32 ≤ struck.2.hits + 1

/-- **What a hit does**, as its fate has it: which stops the host is told of, which commands are
sent and what the session takes the target to do. One command at most asks for a value, and one at
most has gdb ignore the next hits. -/
def Fate.Effect (c : Config) (id thread : Nat) (w v : World) : Fate → Prop
  | dropped => v = w
  | stepEnded =>
    v.stops = .stepCompleted :: w.stops ∧ v.sent = w.sent ∧ v.session.phase = .stopped
  | unbound =>
    v.stops = w.stops ∧ v.sent = w.sent ∧ v.session.phase = w.session.phase ∧
      v.session.runMode = w.session.runMode
  | resumed =>
    v.stops = w.stops ∧
      (∃ asked : List Call,
        (asked = [] ∨ ∃ e, asked = [.request (Variable.evaluateCommand e)]) ∧
          v.sent = .submit c.continueCommand :: asked ++ w.sent) ∧
      v.session.phase = .running ∧ v.session.runMode = true
  | reported =>
    v.stops = .breakpointHit thread [id] :: w.stops ∧
      (∃ asked ignored : List Call,
        (asked = [] ∨ ∃ e, asked = [.request (Variable.evaluateCommand e)]) ∧
          (ignored = [] ∨ ∃ n, ignored = [.request (breakAfter id n)]) ∧
          v.sent = ignored ++ asked ++ w.sent) ∧
      v.session.phase = .stopped ∧ v.session.runMode = false

theorem Breakpoint.Bound.Asks.one {b : Bound} {calls : List Call} (h : b.Asks calls) :
    calls = [] ∨ ∃ e, calls = [.request (Variable.evaluateCommand e)] := by
  rcases h with none | ⟨-, e, one⟩
  · exact .inl none
  · exact .inr ⟨e, one⟩

/-- After a hit that stops gdb is told which hits to let pass by one command at most. -/
theorem Breakpoint.Bound.rearm_one (b : Bound) :
    b.rearm = [] ∨ ∃ n, b.rearm = [.request (breakAfter b.gdbId n)] := by
  unfold rearm
  split
  · exact .inr ⟨_, rfl⟩
  · split
    · exact .inr ⟨_, rfl⟩
    · exact .inl rfl

/-- No bound breakpoint is struck by a hit of a number that none has. -/
theorem World.struck?_eq_none {id : Nat} {w : World} (h : w.struck? id = none) :
    w.bound.findIdx? (·.gdbId == id) = none := by
  unfold struck? at h
  cases place : w.bound.findIdx? (·.gdbId == id) with
  | none => rfl
  | some i =>
    obtain ⟨size, -⟩ := List.findIdx?_eq_some_iff_getElem.1 place
    simp [place, size] at h

/-- The breakpoint that is struck is the first of its number. -/
theorem World.struck?_eq_some {id i : Nat} {b : Bound} {w : World}
    (h : w.struck? id = some (i, b)) :
    w.bound.findIdx? (·.gdbId == id) = some i ∧ w.bound[i]? = some b := by
  unfold struck? at h
  cases place : w.bound.findIdx? (·.gdbId == id) with
  | none => simp [place] at h
  | some j =>
    cases found : w.bound[j]? with
    | none => simp [place, found] at h
    | some c =>
      simp only [place, found, Option.bind_eq_bind, Option.bind_some, Option.pure_def,
        Option.some.injEq, Prod.mk.injEq] at h
      obtain ⟨rfl, rfl⟩ := h
      exact ⟨rfl, found⟩

section Within

variable (peer : Peer) (config : Config) (depth : Nat) {id line thread : Nat}
  {file record : String} {w : World}
  (read : Notice.read record = .ok (.hit id file line thread))

include read

theorem handleBreakpoint_hit : handleBreakpoint record =
    (applyNotice (.hit id file line thread) >>= fun _ => pure (.hit id file line thread)) := by
  unfold handleBreakpoint
  rw [read]

theorem Act.Settles.hit {link : Link} {v : World}
    (h : (applyNotice (.hit id file line thread)).Settles link w v) :
    (handleBreakpoint record).Settles link w v := by
  rw [handleBreakpoint_hit read]
  exact h.dropped _

/-! ## The fates one by one -/

/-- A hit that is dropped. -/
theorem handleHit_dropped (taken : w.session.conditionUpdate.isFree = false) (link : Link) :
    (handleBreakpoint record).Settles link w w :=
  .hit read (.of_ok (applyHit_dropped taken id file line thread link))

variable (free : w.session.conditionUpdate.isFree = true)

include free

/-- A hit that ends a step. -/
theorem handleHit_stepEnded (steps : w.session.phase = .stepping) :
    ∃ v, (handleBreakpoint record).Settles (.within peer config (depth + 1)) w v ∧
      v.scene = { w.scene with phase := .stopped, stops := .stepCompleted :: w.stops } := by
  let x : World := { w with session := { w.session with conditionUpdate := ⟨false⟩ } }
  obtain ⟨u, handled, scene⟩ := handleHit_stepping (w := x) steps id file line thread
    (.within peer config depth)
  have applied := settles_applyHit peer config depth free (.of_ok handled)
  refine ⟨_, .hit read applied, ?_⟩
  show { u.scene with conditionUpdate := ⟨true⟩ } = _
  rw [scene, ← Permit.eq_of_isFree free]
  rfl

/-- A hit that ends no step is judged while hits are dropped. -/
theorem handleHit_goesOn (moves : w.session.phase ≠ .stepping) :
    ∃ u, u.scene = { w.scene with conditionUpdate := ⟨false⟩ } ∧
      (∀ v, (judgeHit id thread).Settles (.within peer config depth) u v →
        ∃ z, (handleBreakpoint record).Settles (.within peer config (depth + 1)) w z ∧
          z.scene = { v.scene with conditionUpdate := w.session.conditionUpdate }) ∧
      ((judgeHit id thread).Asserts (.within peer config depth) u →
        (handleBreakpoint record).Asserts (.within peer config (depth + 1)) w) := by
  let x : World := { w with session := { w.session with conditionUpdate := ⟨false⟩ } }
  obtain ⟨u, scene, judged⟩ := handleHit_judged (w := x) moves id file line thread
    (.within peer config depth)
  refine ⟨u, scene, fun v settles => ?_, fun asserts => ?_⟩
  · have applied := settles_applyHit peer config depth free (settles.congr judged)
    refine ⟨_, .hit read applied, ?_⟩
    rw [Permit.eq_of_isFree free]
    rfl
  · rw [handleBreakpoint_hit read]
    exact (asserts_applyHit peer config depth free (asserts.congr judged)).bind _

end Within

/-! ## Every hit -/

/-- The field of a list of breakpoints, once one of them has changed. -/
theorem map_set_of_getElem? {α : Type} {bounds : List Bound} {i : Nat} {b b' : Bound}
    (found : bounds[i]? = some b) {f : Bound → α} (same : f b' = f b) :
    (bounds.set i b').map f = bounds.map f := by
  rw [List.map_set, same, ← List.map_set, set_of_getElem? found]

/-- Changing a breakpoint but for its gates changes nothing of what is held. -/
theorem World.holdings_of_set {w z : World} {i : Nat} {b b' : Bound}
    (bound : z.bound = w.bound.set i b') (found : w.bound[i]? = some b) (same : b'.held = b.held)
    (breakAll : z.session.breakAll = w.session.breakAll)
    (conditionUpdate : z.session.conditionUpdate = w.session.conditionUpdate)
    (critical : z.session.critical = w.session.critical) : z.holdings = w.holdings := by
  unfold holdings
  rw [bound, breakAll, conditionUpdate, critical, map_set_of_getElem? found same]

section Struck

variable {link : Link} {w : World} {id i : Nat} {b : Bound} (struck : w.struck? id = some (i, b))
  (free : w.session.conditionUpdate.isFree = true) (moves : w.session.phase ≠ .stepping)

include struck free moves

theorem World.fate_struck : w.fate link id =
    if !b.held.meets .both && w.stopsWith link b then .reported else .resumed := by
  simp [fate, free, moves, struck]

theorem World.overcounts_struck : w.overcounts link id = (!b.held.meets .both &&
    w.stopsWith link b && (b.comparesValues && Text.limit32 ≤ b.hits + 1)) := by
  unfold World.overcounts
  rw [fate_struck struck free moves, struck]
  cases b.held.meets .both <;> cases w.stopsWith link b <;> rfl

theorem World.valuesAfter_held (held : b.held.meets .both = true) :
    w.valuesAfter link id = w.values := by
  have fate : w.fate link id = .resumed := by
    rw [fate_struck struck free moves, held]
    rfl
  simp [valuesAfter, finds?, fate, struck, held]

/-- Where a hit is judged, the breakpoint remembers the value that was found. -/
theorem World.valuesAfter_judged (gates : b.held.meets .both = false) :
    w.valuesAfter link id = (w.bound.set i (b.remembering (w.newValue? link b))).map
      (·.previousValue) := by
  have found := (struck?_eq_some struck).2
  have finds : w.finds? link id = (w.newValue? link b).map (i, ·) := by
    unfold finds?
    rw [fate_struck struck free moves, struck, gates]
    cases w.stopsWith link b <;> simp [gates]
  unfold valuesAfter
  rw [finds]
  cases value? : w.newValue? link b with
  | none => exact (map_set_of_getElem? found rfl).symm
  | some value =>
    unfold World.values
    rw [List.map_set]
    rfl

end Struck

/-- **A hit is done with**: it had the effect of its fate, it is remembered if it found a new value,
and what was held is held. -/
structure HitDone (link : Link) (id thread : Nat) (w v : World) : Prop where
  effect : (w.fate link id).Effect link.config id thread w v
  values : v.values = w.valuesAfter link id
  holdings : v.holdings = w.holdings

section Every

variable {peer : Peer} (attentive : peer.Attentive)
  (answers : ∀ past command, ∃ answer, peer.answer past command = .ok answer)
  {config : Config} {depth id line thread : Nat} {file record : String} {w : World}
  (read : Notice.read record = .ok (.hit id file line thread))
  (breakAll : w.session.breakAll.isFree = true) (critical : w.session.critical.isFree = true)

include read in
theorem hitDone_dropped (taken : w.session.conditionUpdate.isFree = false) (link : Link) :
    ∃ v, (handleBreakpoint record).Settles link w v ∧ HitDone link id thread w v := by
  have fate : w.fate link id = .dropped := by simp [World.fate, taken]
  refine ⟨w, handleHit_dropped read taken link, ?_, ?_, rfl⟩
  · rw [fate]
    exact rfl
  · simp [World.valuesAfter, World.finds?, fate]

variable (free : w.session.conditionUpdate.isFree = true)

include read free

/-- **A hit while the target steps** ends the step. -/
theorem hitDone_stepEnded (steps : w.session.phase = .stepping) :
    ∃ v, (handleBreakpoint record).Settles (.within peer config (depth + 1)) w v ∧
      HitDone (.within peer config (depth + 1)) id thread w v := by
  have fate : w.fate (.within peer config (depth + 1)) id = .stepEnded := by
    simp [World.fate, free, steps]
  obtain ⟨v, settles, scene⟩ := handleHit_stepEnded peer config depth read free steps
  have bound : v.bound = w.bound := congrArg Scene.bound scene
  refine ⟨v, settles, ?_, ?_, (congrArg Scene.holdings scene :)⟩
  · rw [fate]
    exact ⟨congrArg Scene.stops scene, congrArg Scene.sent scene, congrArg Scene.phase scene⟩
  · simp [World.valuesAfter, World.finds?, fate, World.values, bound]

variable (moves : w.session.phase ≠ .stepping)

include moves

/-- **A hit of a breakpoint that is not bound** changes nothing. -/
theorem hitDone_unbound (unbound : w.struck? id = none) :
    ∃ v, (handleBreakpoint record).Settles (.within peer config (depth + 1)) w v ∧
      HitDone (.within peer config (depth + 1)) id thread w v := by
  have fate : w.fate (.within peer config (depth + 1)) id = .unbound := by
    simp [World.fate, free, moves, unbound]
  obtain ⟨u, scene, judged, -⟩ := handleHit_goesOn peer config depth read free moves
  have nowhere : u.bound.findIdx? (·.gdbId == id) = none := by
    rw [show u.bound = w.bound from congrArg Scene.bound scene]
    exact World.struck?_eq_none unbound
  obtain ⟨v, settles, scene'⟩ := judged u (.of_ok (judgeHit_unbound nowhere thread _))
  -- judging it did nothing, so the world is that of the record
  have same : v.scene = w.scene := by
    rw [scene', scene]
    rfl
  refine ⟨v, settles, ?_, ?_, World.holdings_of_scene same⟩
  · rw [fate]
    exact ⟨congrArg Scene.stops same, congrArg Scene.sent same, congrArg Scene.phase same,
      congrArg Scene.runMode same⟩
  · have values : v.values = w.values := by
      unfold World.values
      rw [show v.bound = w.bound from congrArg Scene.bound same]
    simp [World.valuesAfter, World.finds?, fate, values]

end Every

section Judged

variable {peer : Peer} (attentive : peer.Attentive) (config : Config) (depth : Nat)
  {id line : Nat} (thread : Nat) {file record : String} {w : World}
  (read : Notice.read record = .ok (.hit id file line thread))
  (breakAll : w.session.breakAll.isFree = true) (critical : w.session.critical.isFree = true)
  (free : w.session.conditionUpdate.isFree = true) (moves : w.session.phase ≠ .stepping)
  {i : Nat} {b : Bound} (struck : w.struck? id = some (i, b))

variable (peer) in
include read breakAll critical free moves struck in
/-- A hit of a bound breakpoint is judged, and its judgement decides what becomes of it. -/
theorem handleHit_judging : ∃ u, Judging w u id i b ∧
    (∀ v, (judgeHit id thread).Settles (.within peer config depth) u v →
      ∃ z, (handleBreakpoint record).Settles (.within peer config (depth + 1)) w z ∧
        z.scene = { v.scene with conditionUpdate := w.session.conditionUpdate }) ∧
    ((judgeHit id thread).Asserts (.within peer config depth) u →
      (handleBreakpoint record).Asserts (.within peer config (depth + 1)) w) := by
  obtain ⟨u, scene, goesOn⟩ := handleHit_goesOn peer config depth read free moves
  obtain ⟨first, found⟩ := World.struck?_eq_some struck
  exact ⟨u, .of_scene scene first found breakAll critical, goesOn⟩

include attentive read breakAll critical free moves struck

/-- A hit of a breakpoint that is being edited. -/
theorem hitDone_held (held : b.held.meets .both = true) :
    ∃ v, (handleBreakpoint record).Settles (.within peer config (depth + 1)) w v ∧
      HitDone (.within peer config (depth + 1)) id thread w v := by
  obtain ⟨u, h, judged, -⟩ :=
    handleHit_judging peer config depth thread read breakAll critical free moves struck
  obtain ⟨v, settles, resumed⟩ := judgeHit_held (attentive.within config depth) thread h.region
    h.first h.found held h.barrier
  obtain ⟨z, handled, scene⟩ := judged v settles
  -- the scene in the end is written in terms of the world that received the record
  rw [resumed, h.scene, h.sent] at scene
  have fate : w.fate (.within peer config (depth + 1)) id = .resumed := by
    rw [World.fate_struck struck free moves, held]
    rfl
  refine ⟨z, handled, ?_, ?_, (congrArg Scene.holdings scene :)⟩
  · rw [fate]
    refine ⟨congrArg Scene.stops scene, ⟨[], .inl rfl, ?_⟩, congrArg Scene.phase scene,
      congrArg Scene.runMode scene⟩
    rw [show z.sent = _ from congrArg Scene.sent scene]
    simp
  · rw [World.valuesAfter_held struck free moves held]
    unfold World.values
    rw [show z.bound = w.bound from congrArg Scene.bound scene]

variable (evaluates : b.comparesValues = true →
    ∃ e, w.evaluated? (.within peer config (depth + 1)) b.condition.expression = some e)
  (gates : b.held.meets .both = false)

include evaluates gates

/-- A hit that does not stop. -/
theorem hitDone_resumed (passes : w.stopsWith (.within peer config (depth + 1)) b = false) :
    ∃ v, (handleBreakpoint record).Settles (.within peer config (depth + 1)) w v ∧
      HitDone (.within peer config (depth + 1)) id thread w v := by
  obtain ⟨u, h, judged, -⟩ :=
    handleHit_judging peer config depth thread read breakAll critical free moves struck
  have below := attentive.within config depth
  obtain ⟨v, asked, settles, asks, resumed⟩ := judgeHit_resumes below thread h.region h.first
    h.found (Gates.eq_empty gates)
    (fun compares => by rw [h.evaluated attentive]; exact evaluates compares)
    ((h.stops attentive).trans passes) h.barrier
  obtain ⟨z, handled, scene⟩ := judged v settles
  rw [resumed, h.scene, h.sent, h.bound, h.value attentive] at scene
  have found := (World.struck?_eq_some struck).2
  have fate : w.fate (.within peer config (depth + 1)) id = .resumed := by
    rw [World.fate_struck struck free moves, passes]
    simp
  have bound : z.bound = _ := congrArg Scene.bound scene
  -- the breakpoint remembers a value, and the gates it held are given back
  refine ⟨z, handled, ?_, ?_, World.holdings_of_set bound found rfl (congrArg Scene.breakAll scene)
    (congrArg Scene.conditionUpdate scene) (congrArg Scene.critical scene)⟩
  · rw [fate]
    refine ⟨congrArg Scene.stops scene, ⟨asked, asks.one, ?_⟩, congrArg Scene.phase scene,
      congrArg Scene.runMode scene⟩
    rw [show z.sent = _ from congrArg Scene.sent scene]
    simp
  · rw [World.valuesAfter_judged struck free moves gates]
    unfold World.values
    rw [bound]

variable (stops : w.stopsWith (.within peer config (depth + 1)) b = true)

include stops

/-- A hit that stops. -/
theorem hitDone_reported (room : b.comparesValues = true → b.hits + 1 < Text.limit32) :
    ∃ v, (handleBreakpoint record).Settles (.within peer config (depth + 1)) w v ∧
      HitDone (.within peer config (depth + 1)) id thread w v := by
  obtain ⟨u, h, judged, -⟩ :=
    handleHit_judging peer config depth thread read breakAll critical free moves struck
  have below := attentive.within config depth
  obtain ⟨v, asked, settles, asks, reported⟩ := judgeHit_reports below thread h.region h.first
    h.found (Gates.eq_empty gates)
    (fun compares => by rw [h.evaluated attentive]; exact evaluates compares)
    ((h.stops attentive).trans stops) room
  obtain ⟨z, handled, scene⟩ := judged v settles
  rw [reported, h.scene, h.sent, h.bound, h.value attentive, h.told] at scene
  obtain ⟨first, found⟩ := World.struck?_eq_some struck
  -- the command that follows names the breakpoint by the number of the hit
  have number : b.gdbId = id := gdbId_of_findIdx? first found
  have fate : w.fate (.within peer config (depth + 1)) id = .reported := by
    rw [World.fate_struck struck free moves, stops, gates]
    rfl
  have bound : z.bound = _ := congrArg Scene.bound scene
  refine ⟨z, handled, ?_, ?_, World.holdings_of_set bound found rfl (congrArg Scene.breakAll scene)
    (congrArg Scene.conditionUpdate scene) (congrArg Scene.critical scene)⟩
  · rw [fate]
    refine ⟨congrArg Scene.stops scene, ⟨asked, _, asks.one, ?_, congrArg Scene.sent scene⟩,
      congrArg Scene.phase scene, congrArg Scene.runMode scene⟩
    rw [← number]
    exact Bound.rearm_one _
  · rw [World.valuesAfter_judged struck free moves gates]
    unfold World.values
    rw [bound, List.map_set, List.map_set]
    rfl

/-- A hit that stops and that cannot be counted. -/
theorem handleHit_full (compares : b.comparesValues = true) (full : Text.limit32 ≤ b.hits + 1) :
    (handleBreakpoint record).Asserts (.within peer config (depth + 1)) w := by
  obtain ⟨u, h, -, asserts⟩ :=
    handleHit_judging peer config depth thread read breakAll critical free moves struck
  have below := attentive.within config depth
  exact asserts (judgeHit_asserts below thread h.region h.first h.found (Gates.eq_empty gates)
    (fun compares => by rw [h.evaluated attentive]; exact evaluates compares)
    ((h.stops attentive).trans stops) compares full)

end Judged

/-- **A hit finds out** what it asks for, if it asks for a value. -/
def World.FindsOut (link : Link) (id : Nat) (w : World) : Prop :=
  w.session.phase ≠ .stepping → ∀ i b, w.struck? id = some (i, b) → b.comparesValues = true →
    ∃ e, w.evaluated? link b.condition.expression = some e

/-- **How a hit ends** that finds out what it asks for: it is done with, unless it has to be counted
and cannot be. -/
theorem hit_done {peer : Peer} (attentive : peer.Attentive) (config : Config) (depth : Nat)
    {id line thread : Nat} {file record : String} {w : World}
    (read : Notice.read record = .ok (.hit id file line thread))
    (breakAll : w.session.breakAll.isFree = true) (critical : w.session.critical.isFree = true) :
    let link := Link.within peer config (depth + 1)
    w.FindsOut link id →
      if w.overcounts link id then (handleBreakpoint record).Asserts link w
      else ∃ v, (handleBreakpoint record).Settles link w v ∧ HitDone link id thread w v := by
  intro link known
  -- one case for each disposition, in the order in which the session asks
  cases free : w.session.conditionUpdate.isFree with
  | false =>
    have fate : w.fate link id = .dropped := by simp [World.fate, free]
    rw [if_neg (by simp [World.overcounts, fate])]
    exact hitDone_dropped read free link
  | true =>
  by_cases steps : w.session.phase = .stepping
  · have fate : w.fate link id = .stepEnded := by simp [World.fate, free, steps]
    rw [if_neg (by simp [World.overcounts, fate])]
    exact hitDone_stepEnded read free steps
  cases struck : w.struck? id with
  | none =>
    rw [if_neg (by simp [World.overcounts, struck])]
    exact hitDone_unbound read free steps struck
  | some found =>
  obtain ⟨i, b⟩ := found
  have evaluates := known steps i b struck
  rw [World.overcounts_struck struck free steps]
  cases gates : b.held.meets .both with
  | true =>
    exact hitDone_held attentive config depth thread read breakAll critical free steps struck gates
  | false =>
  cases stops : w.stopsWith link b with
  | false =>
    exact hitDone_resumed attentive config depth thread read breakAll critical free steps struck
      evaluates gates stops
  | true =>
  by_cases full : b.comparesValues = true ∧ Text.limit32 ≤ b.hits + 1
  · rw [if_pos (by simpa using full)]
    exact handleHit_full attentive config depth thread read breakAll critical free steps struck
      evaluates gates stops full.1 full.2
  · rw [if_neg (by simpa using full)]
    refine hitDone_reported attentive config depth thread read breakAll critical free steps struck
      evaluates gates stops fun compares => ?_
    exact Nat.lt_of_not_le fun overflow => full ⟨compares, overflow⟩

/-- **Every hit has one fate, and the effect of it.** Over a link to an attentive peer that answers
every request, and while nothing bars the target from being resumed: a hit is done with exactly if
it is not one that has to be counted by a counter that is full. -/
theorem hit_fate_iff (peer : Peer) (config : Config) (depth id line thread : Nat)
    (file record : String) (w : World) (attentive : peer.Attentive)
    (answers : ∀ past command, ∃ answer, peer.answer past command = .ok answer)
    (read : Notice.read record = .ok (.hit id file line thread))
    (breakAll : w.session.breakAll.isFree = true) (critical : w.session.critical.isFree = true) :
    let link := Link.within peer config (depth + 1)
    (∃ v, (handleBreakpoint record).Settles link w v ∧ HitDone link id thread w v) ↔
      w.overcounts link id = false := by
  intro link
  have known : w.FindsOut link id := fun _ _ _ _ _ =>
    evaluated?_answered (attentive.within config (depth + 1)) (by simpa using answers) _ w
  have ends := hit_done attentive config depth read breakAll critical known
  cases counts : w.overcounts link id with
  | false =>
    rw [if_neg (ne_true_of_eq_false counts)] at ends
    exact iff_of_true ends rfl
  | true =>
    rw [if_pos counts] at ends
    exact iff_of_false (fun ⟨_, settles, _⟩ => ends.not_settles settles) Bool.noConfusion

/-- A breakpoint that compares values of a counter and was hit so often. -/
def comparing (hits : Nat) : Bound :=
  { gdbId := 1, location := .function "main", hits : Bound }.withComparison (.whenChanged "counter")

/-- A session whose target runs, with this breakpoint and every gate free. -/
def runningAfter (hits : Nat) : World where
  session := { phase := .running }
  bound := [comparing hits]

set_option maxRecDepth 100000 in
/-- A hit that finds a new value is reported. -/
theorem hit_fate_reported :
    let link := Link.within countingPeer {} 1
    let w := runningAfter 0
    (countingPeer.Attentive ∧ (∀ past command, ∃ answer,
        countingPeer.answer past command = .ok answer) ∧
        Notice.read "27;1;a.c;5;2" = .ok (.hit 1 "a.c" 5 2) ∧
        w.session.breakAll.isFree = true ∧ w.session.critical.isFree = true) ∧
      w.fate link 1 = .reported ∧ w.finds? link 1 = some (0, "0") ∧
      ∃ v, (handleBreakpoint "27;1;a.c;5;2").Settles link w v ∧ HitDone link 1 2 w v :=
  have answers : ∀ past command, ∃ answer, countingPeer.answer past command = .ok answer :=
    fun _ _ => ⟨_, rfl⟩
  ⟨⟨countingPeer_attentive, answers, rfl, rfl, rfl⟩, by decide +kernel, by decide +kernel,
    (hit_fate_iff countingPeer {} 0 1 5 2 "a.c" "27;1;a.c;5;2" (runningAfter 0)
      countingPeer_attentive answers rfl rfl rfl).2 (by decide +kernel)⟩

set_option maxRecDepth 100000 in
/-- The counter is full: the hit is to be reported as well, but the session stops with an assertion
before it tells the host, and goes on taking the target to run. -/
theorem hit_fate_full :
    let link := Link.within countingPeer {} 1
    let w := runningAfter 4294967295
    let z := (handleBreakpoint "27;1;a.c;5;2").after link w
    w.fate link 1 = .reported ∧ (handleBreakpoint "27;1;a.c;5;2").Asserts link w ∧
      z.hitsTold = w.hitsTold ∧ z.session.phase = .running ∧ z.session.runMode = true :=
  have read : Notice.read "27;1;a.c;5;2" = .ok (.hit 1 "a.c" 5 2) := rfl
  have struck : (runningAfter 4294967295).struck? 1 = some (0, comparing 4294967295) := rfl
  have evaluates : ∀ expression, ∃ e, (runningAfter 4294967295).evaluated?
      (.within countingPeer {} 1) expression = some e := fun expression =>
    evaluated?_answered (countingPeer_attentive.within {} 1) (fun _ _ => ⟨_, rfl⟩) expression _
  ⟨by decide +kernel,
    handleHit_full countingPeer_attentive {} 0 2 read rfl rfl rfl (by decide) struck
      (fun _ => evaluates _) rfl (by decide +kernel) rfl (by decide),
    by decide +kernel⟩

end DebugLink
