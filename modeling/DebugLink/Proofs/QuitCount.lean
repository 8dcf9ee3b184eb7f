import DebugLink.Proofs.QuitTally

/-!
# How gdb's interrupts are counted

A session counts the records that say that gdb was interrupted for as long as nothing but records
about interrupts and output of gdb stands between them, and gives gdb up when there are too many.

* `receive_quit`: what one such record does.
* `receiveAlive_counted`, `quits_forM`: the count after one record and after any.
* `quits_counted_exactly`: the count, and when gdb is given up.
-/

namespace DebugLink

open Act Pairing Record Text

/-! ## What counts -/

/-- **The session has given gdb up**: it has ended, and the host was told so and of gdb being lost,
once each. -/
structure GaveUp (w v : World) : Prop where
  ended : v.session.alive = false
  told : v.calls = .gdbLost :: .sessionEnded 0 :: w.calls

section Quit

variable {link : Link} {record : String} {w : World} (quit : reportsQuit record = true)
  (room : w.session.quits + 1 < limit32)

include quit room

/-- A record of an interrupt counts, and may be one too many. -/
theorem receive_quit : receive record link w =
    (if link.config.quitLimit < w.session.quits + 1 then finish 0 >>= fun _ => tell .gdbLost
      else pure ()) link { w with session := { w.session with quits := w.session.quits + 1 } } := by
  let u : World := { w with session := { w.session with quits := w.session.quits + 1 } }
  have keeps : w.receiving record = w := by
    unfold World.receiving
    rw [if_pos (keepsQuits_of_reportsQuit quit)]
  have counted : countQuit link w = .ok (w.session.quits + 1) u := by
    unfold countQuit
    rw [look_apply, if_pos room]
    rfl
  -- what is left after the count is the comparison with the limit
  have judged : handleQuit link w =
      (if link.config.quitLimit < w.session.quits + 1 then finish 0 >>= fun _ => tell .gdbLost
        else pure ()) link u := by
    unfold handleQuit
    rw [bind_ok counted, read_apply]
    rfl
  obtain ⟨v, e⟩ : ∃ v, (if link.config.quitLimit < w.session.quits + 1 then
      finish 0 >>= fun _ => tell .gdbLost else pure () : Act Unit) link u = .ok () v := by
    split
    · obtain ⟨z, ended, -⟩ := finish_ok link u 0
      exact ⟨_, bind_ok ended _⟩
    · exact ⟨u, rfl⟩
  have handles : handleRecord record =
      discard (applyExecution .quit >>= fun _ => pure .quit : Act Execution.Notice) := by
    unfold handleRecord
    rw [topic_of_reportsQuit quit]
    dsimp only
    unfold handleExecution
    rw [(reportsQuit_iff record).1 quit]
  have handled : attempt (handleRecord record) link w = .ok (.ok ()) v := by
    have applied : applyExecution .quit link w = .ok () v := judged.trans e
    rw [attempt_apply, handles, discard_eq_bind, bind_assoc, bind_ok applied]
    rfl
  rw [receive_apply, keeps, bind_ok handled, e]
  rfl

/-- An interrupt that is not one too many. -/
theorem receive_quit_borne (borne : w.session.quits + 1 ≤ link.config.quitLimit) :
    receive record link w =
      .ok () { w with session := { w.session with quits := w.session.quits + 1 } } := by
  rw [receive_quit quit room, if_neg (Nat.not_lt.2 borne)]
  rfl

/-- An interrupt too many. -/
theorem receive_quit_lost (alive : w.session.alive = true)
    (many : link.config.quitLimit < w.session.quits + 1) :
    GaveUp w ((receive record).after link w) := by
  obtain ⟨v, ended, dead, told⟩ := finish_ok link
    { w with session := { w.session with quits := w.session.quits + 1 } } 0
  have lost : receive record link w =
      .ok () { v with events := .told .gdbLost v.session :: v.events } := by
    rw [receive_quit quit room, if_pos many, bind_ok ended]
    rfl
  rw [after_of_ok lost]
  refine ⟨dead, ?_⟩
  show .gdbLost :: v.calls = _
  rw [told, if_pos alive]
  rfl

end Quit

/-! ## Any records -/

section Interjections

variable (peer : Peer) (config : Config) (depth : Nat) (record : String) (records : List String)
  (w : World)

/-- A record keeps what was delivered before. -/
theorem interjections_keeps (k : Nat) : (receiveAlive record).Keeps (fun w => k ≤ w.interjections)
    (.within peer config depth) := by
  have grows := interjections_invariant peer config k
  have edits := grows.edits depth (grows.nested depth)
  exact lockstep_diag_iff.1 (edits.toBasis.receiveAlive (edits.handleBreakpoint record))

theorem interjections_receiveAlive : w.interjections ≤
    ((receiveAlive record).after (.within peer config depth) w).interjections :=
  interjections_keeps peer config depth record w.interjections w (Nat.le_refl _)

theorem interjections_forM : w.interjections ≤
    ((records.forM receiveAlive : Act PUnit).after (.within peer config depth) w).interjections :=
  Keeps.forM (fun record _ => interjections_keeps peer config depth record w.interjections) w
    (Nat.le_refl _)

/-- The first of some records comes before the rest of them. -/
theorem interjections_first :
    ((receiveAlive record).after (.within peer config depth) w).interjections ≤
      (((record :: records).forM receiveAlive : Act PUnit).after
        (.within peer config depth) w).interjections := by
  show _ ≤ ((receiveAlive record >>= fun _ => records.forM receiveAlive : Act PUnit).after
    (.within peer config depth) w).interjections
  rw [after_bind]
  cases first : receiveAlive record (.within peer config depth) w with
  | ok _ v =>
    rw [after_of_ok first]
    exact interjections_forM peer config depth records v
  | error halt v =>
    exact Nat.le_of_eq (by rw [after_of_error first])

end Interjections

section Run

variable {peer : Peer} {config : Config} {depth : Nat} (small : config.quitLimit + 1 < limit32)

include small

variable (peer depth) in
/-- **What one record does to the count**, if a session is alive and bore what was counted. -/
theorem receiveAlive_counted {w : World} {records : List String} (record : String)
    (alive : w.session.alive = true) (counts : w.session.quits = interruptsOf records)
    (borne : interruptsOf records ≤ config.quitLimit) :
    let v := (receiveAlive record).after (.within peer config depth) w
    v.interjections = w.interjections →
      (interruptsOf (records ++ [record]) ≤ config.quitLimit →
        v.lossesTold = w.lossesTold ∧
          (v.session.alive = true → v.session.quits = interruptsOf (records ++ [record]))) ∧
      (config.quitLimit < interruptsOf (records ++ [record]) → GaveUp w v) := by
  intro v undisturbed
  have apply : receiveAlive record (.within peer config depth) w =
      (if hasTag record then receive record else pure ()) (.within peer config depth) w := by
    unfold receiveAlive hasTag
    rw [look_apply, alive]
    rfl
  have after : v = (if hasTag record then receive record else pure () : Act Unit).after
      (.within peer config depth) w := after_congr apply
  -- a record without a tag is dropped before any handler sees it
  cases tag : hasTag record with
  | false =>
    rw [interruptsOf_passed tag]
    rw [tag] at after
    have same : v = w := after
    exact ⟨fun _ => by rw [same]; exact ⟨rfl, fun _ => counts⟩,
      fun many => absurd many (Nat.not_lt.2 borne)⟩
  | true =>
    rw [tag, if_pos rfl] at after
    rw [interruptsOf_append tag]
    cases quit : reportsQuit record with
    | false =>
      obtain ⟨-, same⟩ := receive_other peer config depth quit w
      rw [← after] at same
      obtain ⟨quits, losses⟩ := same undisturbed
      -- any other record either keeps the count or starts it anew
      have least : (if keepsQuits record then interruptsOf records else 0) ≤ config.quitLimit := by
        split
        · exact borne
        · exact Nat.zero_le _
      rw [if_neg Bool.false_ne_true, Nat.add_zero]
      exact ⟨fun _ => ⟨losses, fun _ => by rw [quits, counts]⟩,
        fun many => absurd many (Nat.not_lt.2 least)⟩
    | true =>
      have room : w.session.quits + 1 < limit32 := by omega
      rw [if_pos (keepsQuits_of_reportsQuit quit), if_pos rfl, ← counts]
      constructor
      · intro few
        have within : w.session.quits + 1 ≤ (Link.within peer config depth).config.quitLimit := by
          rw [Link.within_config]
          exact few
        have counted := receive_quit_borne quit room within
        rw [after, after_of_ok counted]
        exact ⟨rfl, fun _ => rfl⟩
      · intro many
        rw [after]
        exact receive_quit_lost quit room alive (by rw [Link.within_config]; exact many)

/-- **The count after any records**, if a session is still alive. -/
theorem quits_forM {w u : World} (before records : List String)
    (counts : w.session.quits = interruptsOf before)
    (borne : interruptsOf before ≤ config.quitLimit)
    (handled : (records.forM receiveAlive : Act PUnit) (.within peer config depth) w = .ok () u)
    (undisturbed : u.interjections = w.interjections) (alive : u.session.alive = true) :
    u.session.quits = interruptsOf (before ++ records) ∧
      interruptsOf (before ++ records) ≤ config.quitLimit := by
  induction records generalizing w before with
  | nil =>
    cases handled
    rw [List.append_nil]
    exact ⟨counts, borne⟩
  | cons record records ih =>
    have inTurn : (receiveAlive record >>= fun _ => records.forM receiveAlive : Act PUnit)
        (.within peer config depth) w = .ok () u := handled
    obtain ⟨⟨⟩, v, first, rest⟩ := of_bind_ok inTurn
    -- nothing is delivered in between, and the session does not come back to life
    have later : v.interjections ≤ u.interjections := by
      rw [← after_of_ok rest]
      exact interjections_forM peer config depth records v
    have sooner : w.interjections ≤ v.interjections := by
      rw [← after_of_ok first]
      exact interjections_receiveAlive peer config depth record w
    have aliveThen : v.session.alive = true := by
      cases dead : v.session.alive with
      | true => rfl
      | false =>
        cases rest.symm.trans (forM_receiveAlive_dead dead records)
        exact dead.symm.trans alive
    have aliveBefore : w.session.alive = true := by
      cases dead : w.session.alive with
      | true => rfl
      | false =>
        cases first.symm.trans (receiveAlive_dead dead record)
        exact dead.symm.trans aliveThen
    have counted := receiveAlive_counted peer depth small record aliveBefore counts borne
    rw [after_of_ok first] at counted
    obtain ⟨few, many⟩ := counted (by omega)
    rcases Nat.lt_or_ge config.quitLimit (interruptsOf (before ++ [record])) with lost | borneThen
    · rw [(many lost).ended] at aliveThen
      cases aliveThen
    · have ends := ih (before ++ [record]) ((few borneThen).2 aliveThen) borneThen rest (by omega)
      rwa [List.append_assoc] at ends

end Run

/-- **gdb's interrupts are counted exactly.** Over any link, and for any limit below the greatest
number of 32 bits: let a session that counted nothing yet handle deliveries, with nothing delivered
before a call returns and the first of their records handled to the end. While the session is alive
it has counted the interrupts in a row at the end of these records, and they are within the limit.
The next record has gdb given up exactly if the session is alive and there is one interrupt too many
with it. -/
theorem quits_counted_exactly (peer : Peer) (config : Config) (depth : Nat)
    (small : config.quitLimit + 1 < limit32) (w u : World) (deliveries before rest : List String)
    (uncounted : w.session.quits = 0) (records : deliveries.flatMap recordsOf = before ++ rest)
    (undisturbed : ((deliveries.forM deliver : Act PUnit).after
      (.within peer config depth) w).interjections = w.interjections)
    (handled : (before.forM receiveAlive : Act PUnit) (.within peer config depth) w = .ok () u) :
    let link := Link.within peer config depth
    (deliveries.forM deliver : Act PUnit) link w = (rest.forM receiveAlive : Act PUnit) link u ∧
      (u.session.alive = true →
        u.session.quits = interruptsOf before ∧ interruptsOf before ≤ config.quitLimit) ∧
      ∀ record ∈ rest.head?,
        let v := (receiveAlive record).after link u
        if u.session.alive = true ∧ config.quitLimit < interruptsOf (before ++ [record])
        then GaveUp u v else v.lossesTold = u.lossesTold := by
  intro link
  have split : (deliveries.forM deliver : Act PUnit) link w =
      (rest.forM receiveAlive : Act PUnit) link u := by
    have parts : ((before ++ rest).forM receiveAlive : Act PUnit) =
        (before.forM receiveAlive >>= fun _ => rest.forM receiveAlive) := List.forM_append
    rw [forM_deliver, records, parts, bind_ok handled]
  have first : w.interjections ≤ u.interjections := by
    rw [← after_of_ok handled]
    exact interjections_forM peer config depth before w
  have undisturbedThen :
      ((rest.forM receiveAlive : Act PUnit).after (.within peer config depth) u).interjections =
        w.interjections := by
    rw [← undisturbed]
    exact congrArg World.interjections (after_congr split).symm
  have last := interjections_forM peer config depth rest u
  have counts : u.session.alive = true →
      u.session.quits = interruptsOf before ∧ interruptsOf before ≤ config.quitLimit :=
    quits_forM small [] before uncounted (Nat.zero_le _) handled (by omega)
  refine ⟨split, counts, fun record next => ?_⟩
  obtain ⟨more, rfl⟩ : ∃ more, rest = record :: more := by
    cases rest with
    | nil => cases next
    | cons r more =>
      cases next
      exact ⟨more, rfl⟩
  intro v
  cases alive : u.session.alive with
  | false =>
    have same : v = u := after_of_ok (receiveAlive_dead alive record)
    rw [if_neg (by simp), same]
  | true =>
    obtain ⟨counted, borne⟩ := counts alive
    -- no other thread spoke in the whole run, so none did in this record's step
    have none : v.interjections = u.interjections := by
      have grows := interjections_receiveAlive peer config depth record u
      have shrinks := interjections_first peer config depth record more u
      exact Nat.le_antisymm (Nat.le_trans shrinks (by omega)) grows
    obtain ⟨few, many⟩ := receiveAlive_counted peer depth small record alive counted borne none
    by_cases lost : config.quitLimit < interruptsOf (before ++ [record])
    · rw [if_pos ⟨rfl, lost⟩]
      exact many lost
    · rw [if_neg fun both => lost both.2]
      exact (few (Nat.le_of_not_lt lost)).1

set_option maxRecDepth 100000 in
/-- One interrupt is borne. What gdb prints after it leaves the count as it is, also where the
delivery ends, and the interrupt after that is one too many. -/
theorem quits_counted_exactly_lost :
    let link := Link.within ({} : Script).peer { quitLimit := 1 } 1
    let deliveries := ["41;2\r\n50;", "80;text\r\n50;\r\n41;3"]
    let before := ["41;2", "50;", "80;text"]
    let u := (before.forM receiveAlive : Act PUnit).after link {}
    let v := (receiveAlive "50;").after link u
    (1 + 1 < limit32 ∧ deliveries.flatMap recordsOf = before ++ ["50;", "41;3"] ∧
        ((deliveries.forM deliver : Act PUnit).after link {}).interjections = 0 ∧
        (before.forM receiveAlive : Act PUnit) link {} = .ok () u) ∧
      u.session.quits = 1 ∧ interruptsOf before = 1 ∧ interruptsOf (before ++ ["50;"]) = 2 ∧
      GaveUp u v := by
  intro link deliveries before u v
  have records : deliveries.flatMap recordsOf = before ++ ["50;", "41;3"] := by decide +kernel
  have undisturbed : ((deliveries.forM deliver : Act PUnit).after link {}).interjections = 0 := by
    decide +kernel
  have handled : (before.forM receiveAlive : Act PUnit) link {} = .ok () u := rfl
  have alive : u.session.alive = true := by decide +kernel
  have one : interruptsOf before = 1 := by decide +kernel
  have two : interruptsOf (before ++ ["50;"]) = 2 := by decide +kernel
  obtain ⟨-, counts, next⟩ := quits_counted_exactly ({} : Script).peer { quitLimit := 1 } 1
    (by decide) {} u deliveries before ["50;", "41;3"] rfl records undisturbed handled
  have lost := next "50;" rfl
  rw [if_pos ⟨alive, by rw [two]; decide⟩] at lost
  exact ⟨⟨by decide, records, undisturbed, handled⟩, (counts alive).1.trans one, one, two, lost⟩

end DebugLink
