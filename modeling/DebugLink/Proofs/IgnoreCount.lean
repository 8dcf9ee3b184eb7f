import DebugLink.Proofs.Notice
import DebugLink.Proofs.PolicyContract

/-!
# Pass counts as ignore counts

A pass count says at which hits a breakpoint stops. For a breakpoint that gdb alone judges it is
sent as an ignore count: how many hits gdb lets pass before it stops. The two agree when the ignore
count ends just before the next hit that is allowed.

* `PassCount.CallsFor`: the ignore count that a pass count calls for after so many hits.
* `callsFor_nextStop`: the session computes this ignore count, two cases apart.
* `sendPassCount_apply`: a pass count is sent as one ignore count.
* `setPassCount_given`: a pass count that was given is remembered, and its ignore count was the last
  one to be sent, also when the target was paused for it.
* `passCount_sent_iff`: a session that does not run sends the ignore count that is called for
  exactly outside these cases.
-/

namespace DebugLink

open Act Breakpoint

/-- **The ignore count that a pass count calls for** after so many hits: the hits before the next
allowed one pass, as far as gdb can count, and all of them when no further hit is allowed. -/
structure Breakpoint.PassCount.CallsFor (p : PassCount) (hits count : Nat) : Prop where
  next : ∀ k, hits < k → p.allows k = true → (∀ j, hits < j → j < k → p.allows j = false) →
    count = min (k - hits - 1) ignoreForever
  never : (∀ k, hits < k → p.allows k = false) → count = ignoreForever

/-- A pass count of which the session computes another ignore count: the least number of hits was
reached just now, or every multiple of nothing stops. -/
def Breakpoint.PassCount.IsMisread (p : PassCount) (hits : Nat) : Prop :=
  (p.style = .atLeast ∧ p.count = hits) ∨ (p.style = .multiple ∧ p.count = 0)

instance (p : PassCount) (hits : Nat) : Decidable (p.IsMisread hits) :=
  inferInstanceAs (Decidable (_ ∨ _))

/-! ## The next hit that is allowed -/

section Arithmetic

variable {p : PassCount} {hits k : Nat}

/-- Before the stop all hits up to the one wanted are ignored, as far as the word reaches. -/
theorem ignoreCountFor_of_lt (h : hits < k) :
    ignoreCountFor ((k : Int) - hits) = min (k - hits - 1) ignoreForever := by
  unfold ignoreCountFor
  have positive : ¬((k : Int) - hits ≤ 0) := by omega
  have pred : ((k : Int) - hits - 1).toNat = k - hits - 1 := by omega
  split
  · omega
  · rw [pred]
    omega

theorem ignoreCountFor_of_nonpos {n : Int} (h : n ≤ 0) : ignoreCountFor n = ignoreForever := by
  unfold ignoreCountFor
  rw [if_pos (.inl h)]

/-- The next allowed hit settles which ignore count is called for. -/
theorem callsFor_of_next (later : hits < k) (allowed : p.allows k = true)
    (least : ∀ j, hits < j → j < k → p.allows j = false) :
    p.CallsFor hits (ignoreCountFor ((k : Int) - hits)) where
  next k' later' allowed' least' := by
    -- no other hit is the next one
    have same : k' = k := by
      rcases Nat.lt_trichotomy k' k with h | h | h
      · exact absurd allowed' (by simp [least k' later' h])
      · exact h
      · exact absurd allowed (by simp [least' k later h])
    rw [same, ignoreCountFor_of_lt later]
  never none := absurd allowed (by simp [none k later])

theorem callsFor_of_never {n : Int} (none : ∀ k, hits < k → p.allows k = false) (h : n ≤ 0) :
    p.CallsFor hits (ignoreCountFor n) where
  next k later allowed _ := absurd allowed (by simp [none k later])
  never _ := ignoreCountFor_of_nonpos h

/-- The next multiple of a number. -/
theorem mod_eq_zero_iff_of_next {n : Nat} (pos : 0 < n) (later : hits < k)
    (bound : k ≤ hits + (n - hits % n)) : k % n = 0 ↔ k = hits + (n - hits % n) := by
  have split := Nat.div_add_mod hits n
  have small := Nat.mod_lt hits pos
  have next : hits + (n - hits % n) = n * (hits / n + 1) := by
    rw [Nat.mul_add]
    omega
  constructor
  · intro h
    obtain ⟨m, rfl⟩ := Nat.dvd_of_mod_eq_zero h
    -- a multiple above the hits is at least the one after the multiple below them
    have above : hits / n < m := Nat.lt_of_not_le fun low => by
      have := Nat.mul_le_mul_left n low
      omega
    have least : n * (hits / n + 1) ≤ n * m := Nat.mul_le_mul_left n above
    omega
  · rintro rfl
    rw [next, Nat.mul_mod_right]

/-- **The ignore count of the session** is the one that is called for, unless the pass count is
misread. -/
theorem callsFor_nextStop (h : ¬p.IsMisread hits) :
    p.CallsFor hits (ignoreCountFor (nextStop p hits)) := by
  obtain ⟨style, n⟩ := p
  unfold PassCount.IsMisread at h
  have following : ((hits + 1 : Nat) : Int) - hits = 1 := by omega
  -- each style has a next hit of its own, or none
  cases style with
  | always =>
    have next := callsFor_of_next (p := ⟨.always, n⟩) (Nat.lt_succ_self hits) rfl
      fun j above below => by omega
    rw [following] at next
    exact next
  | equal =>
    unfold nextStop
    dsimp only
    by_cases ahead : hits < n
    · refine callsFor_of_next ahead (by simp [PassCount.allows]) fun j _ below => ?_
      simp only [PassCount.allows, beq_eq_false_iff_ne]
      omega
    · refine callsFor_of_never (fun k above => ?_) (by omega)
      simp only [PassCount.allows, beq_eq_false_iff_ne]
      omega
  | atLeast =>
    have other : n ≠ hits := fun e => h (.inl ⟨rfl, e⟩)
    unfold nextStop
    dsimp only
    split
    · have ahead : hits < n := by omega
      refine callsFor_of_next ahead (by simp [PassCount.allows]) fun j _ below => ?_
      simp only [PassCount.allows, decide_eq_false_iff_not]
      omega
    · have next := callsFor_of_next (p := ⟨.atLeast, n⟩) (Nat.lt_succ_self hits)
        (by simp only [PassCount.allows, decide_eq_true_eq]; omega) fun j above below => by omega
      rw [following] at next
      exact next
  | multiple =>
    have pos : 0 < n := Nat.pos_of_ne_zero fun e => h (.inr ⟨rfl, e⟩)
    have small := Nat.mod_lt hits pos
    have distance :
        ((hits + (n - hits % n) : Nat) : Int) - hits = (n : Int) - (hits % n : Nat) := by
      omega
    unfold nextStop
    simp only [if_pos pos]
    rw [← distance]
    have allows_iff : ∀ k, hits < k → k ≤ hits + (n - hits % n) →
        ((⟨.multiple, n⟩ : PassCount).allows k = true ↔ k = hits + (n - hits % n)) := by
      intro k later bound
      rw [← mod_eq_zero_iff_of_next pos later bound]
      simp [PassCount.allows, Nat.ne_of_gt pos]
    refine callsFor_of_next (by omega) ((allows_iff _ (by omega) (Nat.le_refl _)).2 rfl) ?_
    intro j above below
    exact Bool.eq_false_iff.2 fun allowed =>
      absurd ((allows_iff j above (Nat.le_of_lt below)).1 allowed) (Nat.ne_of_lt below)

/-- A pass count that is misread: gdb would stop at other hits than are allowed. -/
theorem not_callsFor_of_isMisread (h : p.IsMisread hits) :
    ¬p.CallsFor hits (ignoreCountFor (nextStop p hits)) := by
  obtain ⟨style, n⟩ := p
  intro called
  rcases h with ⟨rfl, rfl⟩ | ⟨rfl, rfl⟩
  · -- the very next hit is allowed, and all of them would pass
    have allowed : (⟨.atLeast, n⟩ : PassCount).allows (n + 1) = true := by
      simp [PassCount.allows]
    have next := called.next (n + 1) (Nat.lt_succ_self n) allowed fun j above below =>
      absurd (Nat.le_of_lt_succ below) (Nat.not_le.2 above)
    have forever : ignoreCountFor (nextStop ⟨.atLeast, n⟩ n) = ignoreForever :=
      ignoreCountFor_of_nonpos (by unfold nextStop; simp)
    have none : min (n + 1 - n - 1) ignoreForever = 0 := by omega
    rw [forever, none] at next
    exact absurd next (by decide)
  · -- no hit is allowed, and none would pass
    have never := called.never fun k _ => by simp [PassCount.allows]
    have at_once : ignoreCountFor (nextStop ⟨.multiple, 0⟩ hits) = 0 := rfl
    rw [at_once] at never
    exact absurd never (by decide)

end Arithmetic

/-! ## The ignore count as it is sent -/

section Sent

variable {link : Link} {w : World} {i : Nat} {b : Bound}

/-- The pass count is stored first, and a breakpoint that compares values sends nothing. -/
theorem sendPassCount_eq (p : PassCount) (h : w.bound[i]? = some b) :
    sendPassCount i p link w = (if b.comparesValues then pure (.ok ()) else
        attempt (discard <| stopAtHit b.gdbId (nextStop p b.hits)) : Act (Except Failure Unit)) link
      { w with bound := w.bound.set i (b.withPassCount p) } := by
  have found : ({ w with bound := w.bound.set i (b.withPassCount p) } : World).bound[i]? =
      some (b.withPassCount p) :=
    List.getElem?_set_self (List.getElem?_eq_some_iff.1 h).1
  unfold sendPassCount
  rw [bind_ok (updateBound_apply h _), bind_ok (boundAt_apply found)]
  rfl

/-- The number that is sent has a predecessor in 64 bits. -/
theorem nextStop_ne_leastInt64 (p : PassCount) {hits : Nat} (bounded : hits < Text.limit32) :
    nextStop p hits ≠ leastInt64 := by
  have : Text.limit32 = 4294967296 := rfl
  have : leastInt64 = -9223372036854775808 := rfl
  have : hits % p.count ≤ hits := Nat.mod_le ..
  unfold nextStop
  split
  · split <;> omega
  · omega
  · split <;> omega
  · omega

variable (attentive : link.peer.Attentive)

include attentive

/-- **A pass count is sent** as one ignore count, if gdb judges the breakpoint alone. -/
theorem sendPassCount_apply (p : PassCount) (h : w.bound[i]? = some b)
    (plain : b.comparesValues = false) (bounded : b.hits < Text.limit32) :
    ∃ outcome v, sendPassCount i p link w = .ok outcome v ∧
      v.bound = w.bound.set i (b.withPassCount p) ∧
      v.sent = .request (breakAfter b.gdbId (ignoreCountFor (nextStop p b.hits))) :: w.sent ∧
      v.session =
        { w.session with unknownCode := v.session.unknownCode, table := v.session.table } := by
  obtain ⟨v, settles, noted⟩ := settles_stopAtHit attentive b.gdbId
    (nextStop_ne_leastInt64 p bounded) { w with bound := w.bound.set i (b.withPassCount p) }
  obtain ⟨outcome, settled⟩ := settles.discard
  refine ⟨outcome, v, ?_, noted.bound, noted.sent, noted.session⟩
  rw [sendPassCount_eq p h, if_neg (by rw [plain]; decide)]
  exact settled

/-- What giving a pass count sends, and what is bound then, if it gets to the end. -/
theorem sendPassCount_ok {i : Nat} {p : PassCount} {outcome : Except Failure Unit} {v : World}
    (sent : sendPassCount i p link w = .ok outcome v) :
    ∃ b, w.bound[i]? = some b ∧ v.bound = w.bound.set i (b.withPassCount p) ∧
      (b.comparesValues = false →
        v.sent = .request (breakAfter b.gdbId (ignoreCountFor (nextStop p b.hits))) :: w.sent) := by
  cases found : w.bound[i]? with
  | none =>
    -- there is nothing to give the pass count to
    unfold sendPassCount at sent
    obtain ⟨_, u, changed, sent⟩ := of_bind_ok sent
    obtain ⟨b, _, looked, -⟩ := of_bind_ok sent
    have missing : u.bound[i]? = none := by
      cases changed
      rw [List.getElem?_modify, found]
      rfl
    unfold bound at looked
    rw [get_apply, missing] at looked
    cases looked
  | some b =>
    refine ⟨b, rfl, ?_⟩
    rw [sendPassCount_eq p found] at sent
    cases plain : b.comparesValues with
    | true =>
      rw [plain] at sent
      cases sent
      exact ⟨rfl, fun h => absurd h (by decide)⟩
    | false =>
      rw [plain, if_neg (by decide)] at sent
      by_cases least : nextStop p b.hits = leastInt64
      · unfold stopAtHit at sent
        rw [if_pos least] at sent
        cases sent
      · obtain ⟨u, settles, noted⟩ := settles_stopAtHit attentive b.gdbId least
          { w with bound := w.bound.set i (b.withPassCount p) }
        obtain ⟨outcome', settled⟩ := settles.discard
        rw [settled] at sent
        cases sent
        exact ⟨noted.bound, fun _ => noted.sent⟩

/-- A pass count that is given while the target does not run is remembered and sent at once. -/
theorem settles_setPassCount (p : PassCount) (h : w.bound[i]? = some b)
    (plain : b.comparesValues = false) (bounded : b.hits < Text.limit32) (idle : ¬w.Runs)
    (gate : b.held.hitCount = false) (region : w.session.critical.isFree = true) :
    ∃ v, (setPassCount i p).Settles link w v ∧ v.bound = w.bound.set i (b.withPassCount p) ∧
      v.sent = .request (breakAfter b.gdbId (ignoreCountFor (nextStop p b.hits))) :: w.sent := by
  have apart : b.held.meets .hitCountOnly = false := by
    simp [Gates.meets, Gates.hitCountOnly, gate]
  let held : Bound := { b with held := b.held.union .hitCountOnly }
  let u : World :=
    { w with
      bound := w.bound.set i held
      session := { w.session with critical := ⟨false⟩ } }
  have found : u.bound[i]? = some held :=
    List.getElem?_set_self (List.getElem?_eq_some_iff.1 h).1
  have idle' : ¬(u.session.phase = .running ∧ u.session.runMode = true) := idle
  obtain ⟨outcome, v, sent, bound, calls, -⟩ :=
    sendPassCount_apply attentive p found plain bounded
  refine ⟨giveGates i .hitCountOnly { v with session := { v.session with critical := ⟨true⟩ } },
    ?_, bound_giveGates h ?_ apart, calls⟩
  · rw [setPassCount_eq]
    refine .withGates h apart (.inRegion region ?_)
    have told : (isRunning >>= fun wasRunning => if wasRunning then
        pauseForEdit >>= fun _ => sendPassCount i p >>= fun outcome =>
          resumeAfterEdit >>= fun _ => settle outcome
        else sendPassCount i p >>= settle) link u = settle outcome link v := by
      rw [isRunning_bind_of_idle idle', if_neg (by decide), bind_ok sent]
    exact (Settles.settle outcome).congr told
  · show v.bound = w.bound.set i { b.withPassCount p with held := b.held.union .hitCountOnly }
    rw [bound, List.set_set]
    rfl

end Sent

/-- A breakpoint with this pass count remembers what it needs after a stop. -/
def Breakpoint.Bound.Follows (b : Bound) (p : PassCount) : Prop := b.withPassCount p = b

section Given

variable {peer : Peer} (attentive : peer.Attentive) {config : Config} {depth i : Nat}
  {p : PassCount}

include attentive

/-- A pass count that is given to the end is sent, whether the target was paused for it or not. -/
theorem setPassCount_sends {w z : World}
    (set : setPassCount i p (.within peer config depth) w = .ok () z) :
    ∃ u x outcome, w.sent <:+ u.sent ∧
      sendPassCount i p (.within peer config depth) u = .ok outcome x ∧
      z.bound = x.bound.modify i (·.free .hitCountOnly) ∧
      (z.sent = x.sent ∨ z.sent = .submit config.continueCommand :: x.sent) := by
  have attends := attentive.within config depth
  rw [setPassCount_eq] at set
  obtain ⟨t, v, taken, inside, rfl⟩ := holding_ok set
  obtain ⟨y, v, entered, given, rfl⟩ := holding_ok inside
  have start : w.sent = y.sent := by
    unfold takeGates at taken
    simp only [Option.map_eq_some_iff] at taken entered
    obtain ⟨b, -, rfl⟩ := taken
    obtain ⟨permit, -, rfl⟩ := entered
    rfl
  rw [start]
  -- between the change and the last resumption nothing but the count is sent
  by_cases runs : y.Runs
  · rw [isRunning_bind_of_running runs, if_pos rfl] at given
    obtain ⟨_, u, paused, given⟩ := of_bind_ok given
    obtain ⟨outcome, x, sent, given⟩ := of_bind_ok given
    obtain ⟨_, r, resumed, given⟩ := of_bind_ok given
    have kept : y.sent <:+ u.sent := by
      have grows := Operation.suffix_sent peer config depth .pauseForEdit y
      rw [show Operation.act .pauseForEdit = Act.pauseForEdit from rfl,
        after_of_ok paused] at grows
      exact grows
    have last : v = r := world_of_settle given
    have resumes := after_resumeAfterEdit_attentive attends (w := x)
    rw [after_of_ok resumed, Link.within_config] at resumes
    refine ⟨u, x, outcome, kept, sent, ?_, ?_⟩
    · show v.bound.modify i _ = _
      rw [last, resumes.1]
    · show v.sent = _ ∨ v.sent = _
      rw [last]
      exact resumes.2
  · rw [isRunning_bind_of_idle runs, if_neg (by decide)] at given
    obtain ⟨outcome, x, sent, given⟩ := of_bind_ok given
    have last : v = x := world_of_settle given
    refine ⟨y, x, outcome, List.suffix_refl _, sent, ?_, ?_⟩
    · show v.bound.modify i _ = _
      rw [last]
    · show v.sent = _ ∨ v.sent = _
      rw [last]
      exact .inl rfl

/-- **A pass count that was given** to a plain breakpoint is remembered, and the last ignore count
that gdb was sent for the breakpoint is the one the session computes. -/
theorem setPassCount_given {w z : World} {b : Bound}
    (set : setPassCount i p (.within peer config depth) w = .ok () z)
    (found : z.bound[i]? = some b) (plain : b.comparesValues = false) :
    b.Follows p ∧ ∃ later earlier, z.sent = (later ++
        .request (breakAfter b.gdbId (ignoreCountFor (nextStop p b.hits))) :: earlier) ++ w.sent ∧
      ∀ call ∈ later, call = .submit config.continueCommand := by
  obtain ⟨u, x, outcome, ⟨earlier, before⟩, sent, bound, after⟩ := setPassCount_sends attentive set
  obtain ⟨c, there, bound', request⟩ := sendPassCount_ok (attentive.within config depth) sent
  have size := (List.getElem?_eq_some_iff.1 there).1
  have same : (c.withPassCount p).free .hitCountOnly = b := by
    rw [bound, List.getElem?_modify, bound', List.getElem?_set_self size] at found
    simpa using found
  obtain rfl := same
  have asked := request plain
  refine ⟨rfl, ?_⟩
  rcases after with after | after
  · refine ⟨[], earlier, ?_, by simp⟩
    rw [after, asked, ← before]
    rfl
  · refine ⟨[.submit config.continueCommand], earlier, ?_, by simp⟩
    rw [after, asked, ← before]
    rfl

end Given

section Heard

variable {link : Link} {w : World} {i : Nat} {b : Bound} (attentive : link.peer.Attentive)

include attentive

/-- **A pass count as gdb hears it.** A session whose target does not run sends one ignore count for
a breakpoint that gdb judges alone, and it is the one that the pass count calls for exactly if the
pass count is not misread. -/
theorem passCount_sent_iff (p : PassCount) (h : w.bound[i]? = some b)
    (plain : b.comparesValues = false) (bounded : b.hits < Text.limit32) (idle : ¬w.Runs)
    (gate : b.held.hitCount = false) (region : w.session.critical.isFree = true) :
    (∃ count, ((setPassCount i p).after link w).sent =
        .request (breakAfter b.gdbId count) :: w.sent ∧ p.CallsFor b.hits count) ↔
      ¬p.IsMisread b.hits := by
  obtain ⟨v, settles, -, sent⟩ :=
    settles_setPassCount attentive p h plain bounded idle gate region
  rw [settles.after_eq, sent]
  constructor
  · rintro ⟨count, e, called⟩ misread
    have same : ignoreCountFor (nextStop p b.hits) = count := breakAfter_inj (by simpa using e)
    exact not_callsFor_of_isMisread misread (same ▸ called)
  · exact fun h => ⟨_, rfl, callsFor_nextStop h⟩

end Heard

/-- A breakpoint that was hit twice. -/
def hitTwice : Bound := { gdbId := 1, location := .function "main", hits := 2 }

/-- A session whose target stopped, with this breakpoint and every gate free. -/
def stoppedAfterTwoHits : World where
  session := { phase := .stopped, runMode := false }
  bound := [hitTwice]

set_option maxRecDepth 100000 in
/-- Of the multiples of five the next one after two hits is the third hit from now on. -/
theorem passCount_sent_multiple :
    let link := Link.within (interruptedPeer "") {} 1
    let w := stoppedAfterTwoHits
    let p : PassCount := ⟨.multiple, 5⟩
    (link.peer.Attentive ∧ ¬w.Runs ∧ w.session.critical.isFree = true) ∧
      ((setPassCount 0 p).after link w).sent = [.request "-break-after 1 2"] ∧
      ∃ count, ((setPassCount 0 p).after link w).sent = .request (breakAfter 1 count) :: w.sent ∧
        p.CallsFor 2 count := by
  intro link w p
  have attentive : link.peer.Attentive := interruptedPeer_attentive ""
  have idle : ¬w.Runs := fun runs => absurd runs.1 (by decide)
  have found : w.bound[0]? = some hitTwice := rfl
  have sent := (passCount_sent_iff attentive p found rfl (by decide) idle rfl rfl).2 (by decide)
  exact ⟨⟨attentive, idle, rfl⟩, by decide +kernel, sent⟩

set_option maxRecDepth 100000 in
/-- From the second hit on every hit is to stop, and after two of them gdb is told to ignore them
all. No multiple of nothing is to stop, and gdb is told to ignore none. -/
theorem passCount_sent_misread :
    let link := Link.within (interruptedPeer "") {} 1
    let w := stoppedAfterTwoHits
    let sent (p : PassCount) := ((setPassCount 0 p).after link w).sent
    (sent ⟨.atLeast, 2⟩ = [.request "-break-after 1 2147483647"] ∧
        ¬PassCount.CallsFor ⟨.atLeast, 2⟩ 2 2147483647) ∧
      sent ⟨.multiple, 0⟩ = [.request "-break-after 1 0"] ∧
        ¬PassCount.CallsFor ⟨.multiple, 0⟩ 2 0 := by
  have atLeast : ¬PassCount.CallsFor ⟨.atLeast, 2⟩ 2 (ignoreCountFor (nextStop ⟨.atLeast, 2⟩ 2)) :=
    not_callsFor_of_isMisread (.inl ⟨rfl, rfl⟩)
  have multiple :
      ¬PassCount.CallsFor ⟨.multiple, 0⟩ 2 (ignoreCountFor (nextStop ⟨.multiple, 0⟩ 2)) :=
    not_callsFor_of_isMisread (.inr ⟨rfl, rfl⟩)
  rw [show ignoreCountFor (nextStop ⟨.atLeast, 2⟩ 2) = 2147483647 by decide +kernel] at atLeast
  rw [show ignoreCountFor (nextStop ⟨.multiple, 0⟩ 2) = 0 by decide +kernel] at multiple
  exact ⟨⟨by decide +kernel, atLeast⟩, by decide +kernel, multiple⟩

end DebugLink
