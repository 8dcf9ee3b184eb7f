import DebugLink.Proofs.CreatedAnew
import DebugLink.Proofs.NumberingPeer

/-!
# Breakpoints that are orphaned

gdb cannot set its hit count back, so the breakpoint of a bound one is created anew for that: it is
deleted and inserted again. gdb may refuse either command. A bound breakpoint is not orphaned if gdb
has a breakpoint of its number afterwards, and none that came of the way there.

* `Operation.Recreates`: the calls that create a breakpoint anew.
* `Tracks`: a bound breakpoint that is not orphaned.
* `Link.ReplacesWhole`: gdb accepts both commands or neither, and none is given up.
* `tracks_numbersAnew_iff`: what creating a breakpoint anew comes to for its numbers.
* `recount_orphans_nothing_iff`: a call orphans nothing exactly if what it creates anew is replaced
  as a whole.
-/

namespace DebugLink

open Act Breakpoint Text

/-! ## Numbers that are not given again -/

/-- **A number that was taken back is not given again.** -/
def NeverReused (live : List Call → Finset Nat) : Prop :=
  ∀ earlier past call n, earlier <:+ past → n ∈ live earlier → n ∉ live past →
    n ∉ live (call :: past)

section Fresh

variable {live : List Call → Finset Nat} (fresh : NeverReused live) {link : Link}
  {earlier past : List Call} (before : earlier <:+ past)

include fresh before

/-- The number of a fresh breakpoint is none of those there were before. -/
theorem Inserts.notMem_earlier {command answer : String} {s : Snapshot}
    (h : Inserts live past command answer (some s)) : s.id ∉ live earlier := by
  intro there
  cases h with
  | accepted tag read one new now =>
    refine fresh earlier past (.request command) s.id before there new ?_
    rw [now]
    exact Finset.mem_insert_self s.id _

/-- No breakpoint that an insertion brings has a number of earlier. -/
theorem Insertion.notMem_earlier {command : String} {fallback : Option String}
    {lost? kept? : Option Snapshot}
    (h : Insertion link live past command fallback lost? kept?) :
    (∀ s, lost? = some s → s.id ∉ live earlier) ∧ ∀ s, kept? = some s → s.id ∉ live earlier := by
  cases h with
  | once answered inserts holds =>
    exact ⟨nofun, fun s same => Inserts.notMem_earlier fresh before (same ▸ inserts)⟩
  | twice gaveUp loses inserts =>
    refine ⟨fun s same => Inserts.notMem_earlier fresh before (same ▸ loses), fun s same => ?_⟩
    exact Inserts.notMem_earlier fresh (before.trans (List.suffix_cons _ _)) (same ▸ inserts)

end Fresh

/-! ## Bound breakpoints that are not orphaned -/

/-- **A bound breakpoint is not orphaned** by a call before which gdb had the numbers `before` and
after which it has `after`: gdb has its number, no other one that it had not before, and not the
one that was replaced. -/
structure Tracks (before after : Finset Nat) (old new : Nat) : Prop where
  live : new ∈ after
  others : ∀ n ∈ after, n ∉ before → n = new
  replaced : new ≠ old → old ∉ after

theorem Tracks.unchanged {before : Finset Nat} {id : Nat} (there : id ∈ before) :
    Tracks before before id id :=
  ⟨there, fun _ now new => absurd now new, fun other => absurd rfl other⟩

/-- The number of a bound breakpoint after it was created anew. -/
def numberAnew (old : Nat) (kept? : Option Snapshot) : Nat := kept?.elim old (·.id)

theorem renumbered_getElem? {tallies : List (Nat × Nat)} {i id hits : Nat}
    (kept? : Option Snapshot) (found : tallies[i]? = some (id, hits)) :
    ∃ hits', (renumbered i kept? tallies)[i]? = some (numberAnew id kept?, hits') := by
  cases kept? with
  | none => exact ⟨hits, found⟩
  | some s => exact ⟨0, by simp [renumbered, numberAnew, found]⟩

/-- **What creating a breakpoint anew comes to**: the bound one is not orphaned exactly if none is
given up and its old one is deleted just when a new one is inserted. -/
theorem tracks_numbersAnew_iff {numbers : Finset Nat} {id : Nat} {done : Bool}
    {lost? kept? : Option Snapshot} (there : id ∈ numbers)
    (lost : ∀ s, lost? = some s → s.id ∉ numbers)
    (kept : ∀ s, kept? = some s → s.id ∉ withNumber numbers lost?) :
    Tracks numbers (numbersAnew id done lost? kept? numbers) id (numberAnew id kept?) ↔
      lost? = none ∧ (done = false ↔ kept? = none) := by
  constructor
  · intro tracks
    have none_lost : lost? = none := by
      cases lost? with
      | none => rfl
      | some s =>
        -- the one that was given up is another one than that of the bound breakpoint
        have there' : s.id ∈ numbersAnew id done (some s) kept? numbers := by
          unfold numbersAnew
          cases kept? with
          | none => exact Finset.mem_insert_self _ _
          | some k => exact Finset.mem_insert_of_mem (Finset.mem_insert_self _ _)
        have same := tracks.others s.id there' (lost s rfl)
        cases kept? with
        | none => exact absurd (same ▸ there) (lost s rfl)
        | some k =>
          refine absurd ?_ (kept k rfl)
          rw [show k.id = s.id from same.symm]
          exact Finset.mem_insert_self _ _
    subst none_lost
    refine ⟨rfl, ?_⟩
    cases kept? with
    | none =>
      refine iff_of_true ?_ rfl
      cases done with
      | false => rfl
      | true => exact absurd tracks.live (Finset.notMem_erase id numbers)
    | some k =>
      refine iff_of_false ?_ (Option.some_ne_none k)
      rintro rfl
      have other : k.id ≠ id := fun same => kept k rfl (same ▸ there)
      exact tracks.replaced other (Finset.mem_insert_of_mem there)
  · rintro ⟨rfl, both⟩
    cases kept? with
    | none =>
      rw [both.2 rfl]
      exact .unchanged there
    | some k =>
      cases done with
      | false => exact absurd (both.1 rfl) (Option.some_ne_none k)
      | true =>
        refine ⟨Finset.mem_insert_self _ _, fun n now new => ?_, fun other gone => ?_⟩
        · exact (Finset.mem_insert.1 now).resolve_right fun old => new (Finset.mem_of_mem_erase old)
        · rcases Finset.mem_insert.1 gone with same | old
          · exact other same.symm
          · exact Finset.notMem_erase id numbers old

/-- **A breakpoint is replaced as a whole** after the commands `past`: gdb accepts that the old one
is deleted and that the new one is inserted, or refuses both, and none is given up. -/
def Link.ReplacesWhole (link : Link) (past : List Call) (b : Bound) : Prop :=
  let deleting := Echoed.delete.command b.gdbId
  ¬b.location.GivesUp link (.request deleting :: past) ∧
    (link.Refuses past deleting ↔ link.Refuses (.request deleting :: past)
      (b.location.command link.config.threadGroup))

namespace Recreation

variable {link : Link} {live : List Call → Finset Nat} {past : List Call} {b c : Bound}
  {done : Bool} {lost? kept? : Option Snapshot}

/-- Only the number and the place of the bound breakpoint matter. -/
theorem congr (h : Recreation link live past c done lost? kept?) (number : c.gdbId = b.gdbId)
    (place : c.location = b.location) : Recreation link live past b done lost? kept? where
  deleted := by rw [← number]; exact h.deleted
  left := by rw [← number]; exact h.left
  inserted := by rw [← number, ← place]; exact h.inserted

/-- A new creation is whole when its insertion held, and when it kept nothing it replaced. -/
theorem whole_iff (h : Recreation link live past b done lost? kept?) :
    (lost? = none ∧ (done = false ↔ kept? = none)) ↔ link.ReplacesWhole past b := by
  constructor
  · rintro ⟨rfl, both⟩
    exact ⟨h.inserted.lost_eq_none_iff.1 rfl,
      h.deleted.symm.trans (both.trans h.inserted.kept_eq_none_iff)⟩
  · rintro ⟨holds, both⟩
    obtain rfl := h.inserted.lost_eq_none_iff.2 holds
    exact ⟨rfl, h.deleted.trans (both.trans h.inserted.kept_eq_none_iff.symm)⟩

end Recreation

/-! ## Calls that create a breakpoint anew -/

namespace Operation

/-- An operation is about the hits or the condition of the bound breakpoint in this place. -/
def IsRecount (i : Nat) : Operation → Prop
  | resetHitCount j _ | setHitCount j _ | setCondition j _ => j = i
  | _ => False

/-- **An operation creates a breakpoint anew**: where there are hits that gdb is to forget. -/
def Recreates (b : Bound) : Operation → Prop
  | resetHitCount _ _ => True
  | setHitCount _ hits => hits = 0 ∧ b.hits ≠ 0
  | setCondition _ _ => b.hits ≠ 0
  | _ => False

end Operation

section Calls

variable {live : List Call → Finset Nat} {T L : Finset Nat} {tallies : List (Nat × Nat)}
  {link : Link} {w v : World} {i : Nat} {b : Bound}

/-- A condition that is given while another one is changed or a hit is handled. -/
theorem setCondition_taken {c : Condition} (taken : w.session.conditionUpdate.tryTake = none) :
    setCondition i c link w = applyCondition i c link w := by
  unfold setCondition
  rw [look_apply, taken]

/-- A condition that is given while hits are dropped. -/
theorem setCondition_free {c : Condition} {permit : Permit}
    (free : w.session.conditionUpdate.tryTake = some permit) : setCondition i c link w =
      (attempt (applyCondition i c) >>= fun outcome =>
        update (fun s => { s with conditionUpdate := s.conditionUpdate.release }) >>= fun _ =>
          settle outcome) link
        { w with session := { w.session with conditionUpdate := permit } } := by
  unfold setCondition
  rw [look_apply, free]
  rfl

/-- A condition does not return while somebody else holds its gate. -/
theorem not_held_of_setCondition {c : Condition} (found : w.bound[i]? = some b)
    (returned : (setCondition i c).Settles link w v) : b.held.condition = false := by
  refine Bool.eq_false_iff.2 fun holds => ?_
  have blocked : ∀ x : World, x.bound[i]? = some b →
      applyCondition i c link x = .error .blocked x := by
    intro x there
    have held : takeGates i .conditionOnly x = none := by
      simp [takeGates, there, Bound.tryHold, Gates.tryTake, Gates.meets, Gates.conditionOnly, holds]
    have waits : changeCondition i c link x = .error .blocked x := by
      unfold changeCondition withGates holding
      rw [held]
    rw [applyCondition_eq, bind_apply, waits]
  obtain ⟨outcome, returned⟩ := returned
  rw [attempt_apply] at returned
  cases free : w.session.conditionUpdate.tryTake with
  | none =>
    rw [setCondition_taken free, blocked w found] at returned
    cases returned
  | some permit =>
    have waits :=
      blocked { w with session := { w.session with conditionUpdate := permit } } found
    rw [setCondition_free free, bind_apply, attempt_apply, waits] at returned
    cases returned

/-- **The world in which a call creates a breakpoint anew**: the session stands where it stood, but
for the hits, and what the call does after that leaves it where it stands then. -/
structure Reaches (live : List Call → Finset Nat) (T L : Finset Nat) (link : Link) (i : Nat)
    (w : World) (b : Bound) (act : Act Unit) (u : World) : Prop where
  stands : ∃ tallies, u.Stands live T L tallies
  sent : u.sent = w.sent
  bound : ∃ c, u.bound[i]? = some c ∧ c.gdbId = b.gdbId ∧ c.location = b.location
  rest : ∀ T' L' tallies', ((recreate i).after link u).Stands live T' L' tallies' →
    (∀ x, recreate i link u = .ok true x → Hitless i tallies') →
      (act.after link w).Stands live T' L' tallies'

variable (allots : link.peer.Allots live)

include allots

theorem reaches_resetHitCount (h : w.Stands live T L tallies) (found : w.bound[i]? = some b)
    (resetCondition : Bool) :
    Reaches live T L link i w b (discard (resetHitCount i resetCondition)) w := by
  refine ⟨⟨_, h⟩, rfl, ⟨b, found, rfl, rfl⟩, fun T' L' tallies' stands hitless => ?_⟩
  rw [discard_eq_bind, after_dropped]
  exact resetHitCount_stands allots stands hitless resetCondition

/-- A changed count starts the new creation with the count cleared. -/
theorem reaches_setHitCount (h : w.Stands live T L tallies) (found : w.bound[i]? = some b)
    (hit : b.hits ≠ 0) : ∃ u, Reaches live T L link i w b (setHitCount i 0) u := by
  let u : World := { w with bound := w.bound.modify i fun b => { b with hits := 0 } }
  have steps : setHitCount i 0 link w = discard (resetHitCount i true) link u := by
    unfold setHitCount
    rw [bind_ok (boundAt_apply found), bind_ok (show updateBound i _ link w = .ok () u from rfl),
      if_pos (by simp [hit])]
  refine ⟨u, ⟨_, h.rebind _⟩, rfl, ⟨{ b with hits := 0 }, ?_, rfl, rfl⟩, ?_⟩
  · simp [u, found]
  · intro T' L' tallies' stands hitless
    rw [after_congr steps, discard_eq_bind, after_dropped]
    exact resetHitCount_stands allots stands hitless true

/-- A changed condition starts it behind the breakpoint's own gate, on the target that stands. -/
theorem reaches_applyCondition (h : w.Stands live T L tallies) (found : w.bound[i]? = some b)
    (hit : b.hits ≠ 0) (gate : b.held.condition = false) (c : Condition) :
    ∃ u, Reaches live T L link i w b (applyCondition i c) u := by
  -- the gate was found free, so taking it changes nothing but itself
  have apart : b.held.meets .conditionOnly = false := by
    simp [Gates.meets, Gates.conditionOnly, gate]
  let held : Bound := { b with held := b.held.union .conditionOnly }
  let u : World := { w with bound := w.bound.set i held }
  have taken : takeGates i .conditionOnly w = some u := takeGates_free found apart
  have there : u.bound[i]? = some held :=
    List.getElem?_set_self (List.getElem?_eq_some_iff.1 found).1
  refine ⟨u, ⟨_, h.takeGates taken⟩, rfl, ⟨held, there, rfl, rfl⟩, ?_⟩
  intro T' L' tallies' stands _
  have anew : (bound i >>= fun b => (if b.hits ≠ 0 then discard (recreate i) else pure ()) >>=
      fun _ => giveCondition i c) link u = (recreate i >>= fun _ => giveCondition i c) link u := by
    rw [bind_ok (boundAt_apply there), if_pos hit, discard_eq_bind, bind_assoc]
    rfl
  have given : ((recreate i >>= fun _ => giveCondition i c).after link u).Stands live T' L'
      tallies' := by
    rw [Act.after_bind]
    cases e : recreate i link u with
    | error halt x =>
      rw [after_of_error e] at stands
      exact stands
    | ok done x =>
      rw [after_of_ok e] at stands
      exact World.Stands.keeps_giveCondition allots.toHeedful i c x stands
  rw [applyCondition_eq, Act.after_bind, changeCondition_eq]
  have gave : ((withGates i .conditionOnly (bound i >>= fun b =>
      (if b.hits ≠ 0 then discard (recreate i) else pure ()) >>= fun _ =>
        giveCondition i c)).after link w).Stands live T' L' tallies' := by
    unfold withGates
    rcases after_holding taken with e | e <;> rw [e, after_congr anew]
    · exact given
    · exact given.giveGates i .conditionOnly
  cases e : withGates i .conditionOnly _ link w with
  | error halt x =>
    rw [after_of_error e] at gave
    exact gave
  | ok changed x =>
    rw [after_of_ok e] at gave
    refine World.Stands.keeps_endCondition allots.toHeedful i ?_ x gave
    -- the target was not running when the condition was given
    obtain ⟨u', y, taken', inner, -⟩ := holding_ok e
    obtain rfl := Option.some.inj (taken.symm.trans taken')
    rw [anew] at inner
    obtain ⟨done, z, created, inner⟩ := of_bind_ok inner
    rw [after_of_ok created] at stands
    exact World.Stands.not_running_of_giveCondition stands inner

/-- From the outside the call passes the gate of all condition changes first, and a taken one fails
at once. -/
theorem reaches_setCondition (h : w.Stands live T L tallies) (found : w.bound[i]? = some b)
    (hit : b.hits ≠ 0) (gate : b.held.condition = false) (c : Condition) :
    ∃ u, Reaches live T L link i w b (setCondition i c) u := by
  cases free : w.session.conditionUpdate.tryTake with
  | none =>
    obtain ⟨u, reaches⟩ := reaches_applyCondition allots h found hit gate c
    refine ⟨u, { reaches with rest := fun T' L' tallies' stands hitless => ?_ }⟩
    rw [after_congr (setCondition_taken free)]
    exact reaches.rest T' L' tallies' stands hitless
  | some permit =>
    let x : World := { w with session := { w.session with conditionUpdate := permit } }
    have held : x.Stands live T L tallies := { h with }
    obtain ⟨u, reaches⟩ := reaches_applyCondition allots (w := x) held found hit gate c
    refine ⟨u, { reaches with rest := fun T' L' tallies' stands hitless => ?_ }⟩
    have applied := reaches.rest T' L' tallies' stands hitless
    rw [← after_attempt] at applied
    rw [after_congr (setCondition_free free), Act.after_bind]
    cases e : attempt (applyCondition i c) link x with
    | error halt y =>
      rw [after_of_error e] at applied
      exact applied
    | ok outcome y =>
      rw [after_of_ok e] at applied
      have given : Keeps (World.Stands live T' L' tallies') link
          (update (fun s => { s with conditionUpdate := s.conditionUpdate.release }) >>= fun _ =>
            settle outcome) := .bind (fun _ h => { h with }) fun _ => .settle _
      exact given y applied

/-- **A call that creates a breakpoint anew** orphans nothing exactly if it is replaced as a
whole. -/
theorem Reaches.tracks_iff {act : Act Unit} {u : World} (fresh : NeverReused live)
    (h : Reaches live (T := T) (L := live w.sent) link i w b act u) (one : b.gdbId ≠ allBreakpoints)
    (small : b.gdbId < limit32) (there : b.gdbId ∈ live w.sent) :
    (∃ c, (act.after link w).bound[i]? = some c ∧
        Tracks (live w.sent) (live (act.after link w).sent) b.gdbId c.gdbId) ↔
      link.ReplacesWhole w.sent b := by
  obtain ⟨c, found, sameId, samePlace⟩ := h.bound
  obtain ⟨tallies, stands⟩ := h.stands
  rw [← sameId] at one small
  obtain ⟨done, lost?, kept?, created, anew, told⟩ := recreate_ends allots stands found one small
  have after := h.rest _ _ _ anew fun x e => by
    obtain ⟨s, rfl⟩ := Option.isSome_iff_exists.1 (told x e)
    exact hitless_renumbered i s tallies
  obtain ⟨hits, tally⟩ := renumbered_getElem? kept? (stands.tally_of_bound found)
  obtain ⟨d, found', same⟩ := after.exists_bound tally
  have number : d.gdbId = numberAnew b.gdbId kept? := by
    rw [← sameId]
    exact congrArg Prod.fst same
  rw [h.sent] at created
  have created := created.congr sameId samePlace
  have new := created.inserted.notMem_earlier fresh (w.sent.suffix_cons _)
  -- what the session is told of is neither one of before nor the one that was given up
  have kept : ∀ s, kept? = some s → s.id ∉ withNumber (live w.sent) lost? := by
    rintro s rfl
    cases lost? with
    | none => exact new.2 s rfl
    | some lost =>
      intro mem
      rcases Finset.mem_insert.1 mem with same | old
      · exact created.inserted.of_kept.2.2 (same ▸ Finset.mem_insert_self lost.id _)
      · exact new.2 s rfl old
  rw [← created.whole_iff, ← tracks_numbersAnew_iff there new.1 kept, after.live, sameId, ← number]
  constructor
  · rintro ⟨d', found'', tracks⟩
    cases found'.symm.trans found''
    exact tracks
  · exact fun tracks => ⟨d, found', tracks⟩

/-- **Every call that creates a breakpoint anew** does so in a world that it reaches. -/
theorem exists_reaches {op : Operation} (recount : op.IsRecount i)
    (h : w.Stands live T L (w.bound.map Bound.tally)) (found : w.bound[i]? = some b)
    (anew : op.Recreates b) (returned : op.act.Settles link w v) :
    ∃ u, Reaches live T L link i w b op.act u := by
  cases op with
  | resetHitCount j resetCondition =>
    cases recount
    exact ⟨w, reaches_resetHitCount allots h found resetCondition⟩
  | setHitCount j hits =>
    cases recount
    obtain ⟨rfl, hit⟩ := anew
    exact reaches_setHitCount allots h found hit
  | setCondition j c =>
    cases recount
    exact reaches_setCondition allots h found anew (not_held_of_setCondition found returned) c
  | _ => exact recount.elim

/-- **A call that creates none anew** leaves the bound breakpoint its number. -/
theorem stands_of_not_recreates {op : Operation} (recount : op.IsRecount i)
    (h : w.Stands live T L (w.bound.map Bound.tally)) (found : w.bound[i]? = some b)
    (spared : ¬op.Recreates b) : ∃ tallies hits,
      (op.act.after link w).Stands live T L tallies ∧ tallies[i]? = some (b.gdbId, hits) := by
  cases op with
  | resetHitCount j resetCondition => exact absurd trivial spared
  | setHitCount j hits =>
    cases recount
    have same : ¬(hits = 0 ∧ b.hits ≠ 0) := spared
    have steps : setHitCount i hits link w =
        .ok () { w with bound := w.bound.modify i fun b => { b with hits } } := by
      unfold setHitCount
      rw [bind_ok (boundAt_apply found),
        bind_ok (show updateBound i _ link w = .ok () _ from rfl), if_neg (by simpa using same)]
      rfl
    refine ⟨(w.bound.modify i fun b => { b with hits }).map Bound.tally, hits, ?_, ?_⟩
    · rw [show (Operation.setHitCount i hits).act = Act.setHitCount i hits from rfl,
        after_of_ok steps]
      exact h.rebind _
    · simp [found, Bound.tally]
  | setCondition j c =>
    cases recount
    have hitless : Hitless i (w.bound.map Bound.tally) := by
      intro id hits tally
      cases tally.symm.trans (h.tally_of_bound found)
      exact not_not.1 spared
    exact ⟨_, b.hits, World.Stands.keeps_setCondition allots.toHeedful hitless c w h,
      h.tally_of_bound found⟩
  | _ => exact recount.elim

end Calls

/-- **Whether a bound breakpoint is orphaned.** A gdb gives numbers to the breakpoints that it
accepts, none of them twice, and may refuse any command. A live session whose target is stopped,
with no resumption due, has a bound breakpoint whose number gdb has. A call about its hits or its
condition returns. Then gdb has the number of the bound breakpoint, no other one that came during
the call, and not the old one if it was replaced, if and only if the call creates no breakpoint anew
or replaces it as a whole. -/
theorem recount_orphans_nothing_iff {link : Link} {live : List Call → Finset Nat} {w v : World}
    {i : Nat} {b : Bound} (op : Operation) (recount : op.IsRecount i)
    (allots : link.peer.Allots live) (fresh : NeverReused live) (alive : w.session.alive = true)
    (stopped : w.session.phase = .stopped) (settled : w.session.needsResume = false)
    (found : w.bound[i]? = some b) (one : b.gdbId ≠ allBreakpoints) (small : b.gdbId < limit32)
    (there : b.gdbId ∈ live w.sent) (returned : op.act.Settles link w v) :
    (∃ c, v.bound[i]? = some c ∧ Tracks (live w.sent) (live v.sent) b.gdbId c.gdbId) ↔
      (op.Recreates b → link.ReplacesWhole w.sent b) := by
  have h : w.Stands live w.session.table.numbers (live w.sent) (w.bound.map Bound.tally) :=
    ⟨alive, stopped, settled, rfl, rfl, rfl⟩
  rw [← returned.after_eq]
  by_cases anew : op.Recreates b
  · obtain ⟨u, reaches⟩ := exists_reaches allots recount h found anew returned
    rw [imp_iff_right anew]
    exact reaches.tracks_iff allots fresh one small there
  · obtain ⟨tallies, hits, stands, tally⟩ := stands_of_not_recreates allots recount h found anew
    obtain ⟨c, found', same⟩ := stands.exists_bound tally
    refine iff_of_true ⟨c, found', ?_⟩ fun other => absurd other anew
    rw [stands.live, show c.gdbId = b.gdbId from congrArg Prod.fst same]
    exact .unchanged there

/-! ## Two small gdbs -/

/-- Numbers given by length are never given twice: the past only grows. -/
theorem neverReused_numbersAfter : NeverReused numbersAfter := by
  intro earlier past call n before there gone
  have old : n ≤ past.length := (le_of_mem_numbersAfter there).trans before.length_le
  cases call with
  | submit command => exact gone
  | request command =>
    unfold numbersAfter
    split
    · intro mem
      rcases Finset.mem_insert.1 mem with new | mem
      · omega
      · exact gone mem
    · split
      · exact fun mem => gone (Finset.mem_of_mem_erase mem)
      · exact gone

/-- A breakpoint at a function that was hit. -/
def hitAtMain : World where
  session := { phase := .stopped }
  bound := [{ gdbId := 1, location := .function "main", hits := 5 }]
  sent := [.request "-break-insert main"]

set_option maxRecDepth 100000 in
/-- gdb accepts both commands: it has the new breakpoint instead of the old one. -/
theorem recount_orphans_nothing_replaced :
    let link := Link.within numberingPeer {} 0
    let v := (Operation.resetHitCount 0 true).act.after link hitAtMain
    numbersAfter hitAtMain.sent = {1} ∧ numbersAfter v.sent = {3} ∧
      ∃ c, v.bound[0]? = some c ∧
        Tracks (numbersAfter hitAtMain.sent) (numbersAfter v.sent) 1 c.gdbId := by
  intro link v
  have outcome : (Operation.resetHitCount 0 true).act.outcome? link hitAtMain = some (.ok ()) := by
    decide +kernel
  have whole : link.ReplacesWhole hitAtMain.sent
      { gdbId := 1, location := .function "main", hits := 5 } :=
    ⟨fun gaveUp => Bool.noConfusion gaveUp.1,
      iff_of_false (by unfold Link.Refuses; decide +kernel)
        (by unfold Link.Refuses; decide +kernel)⟩
  refine ⟨by decide +kernel, by decide +kernel, ?_⟩
  exact (recount_orphans_nothing_iff (i := 0) (.resetHitCount 0 true) rfl allots_numberingPeer
    neverReused_numbersAfter rfl rfl rfl rfl (by decide) (by decide) (by decide +kernel)
    (Settles.of_outcome? outcome)).2 fun _ => whole

/-- A gdb that has no room for a new breakpoint, and accepts every other command. -/
def fullPeer : Peer where
  answer _ command :=
    if startsWith "-break-insert " command then .ok Mi.errorAnswer
    else .ok (Mi.answer command (.ofResult "^done" []))

/-- The numbers that are left of those that it had. -/
def numbersLeft : List Call → Finset Nat
  | [] => {1}
  | .submit _ :: past => numbersLeft past
  | .request command :: past =>
    match deletedNumber? command with
    | some id => (numbersLeft past).erase id
    | none => numbersLeft past

theorem answer_fullPeer (past : List Call) (e : Echoed) (id : Nat) :
    fullPeer.answer past (e.command id) = .ok (Mi.answer (e.command id) (.ofResult "^done" [])) :=
  if_neg (by rw [startsWith_insert_echoed]; decide)

/-- A gdb without room gives no number at all and is still a gdb that allots. -/
theorem allots_fullPeer : fullPeer.Allots numbersLeft where
  heeds past id e other := by
    refine ⟨rfl, fun answer answered n read => ?_⟩
    cases (answer_fullPeer past e id).symm.trans answered
    exact Echoed.detail_of_answer other read
  same past id e other := by
    rw [numbersLeft, deletedNumber?_echoed other]
  quiet _ _ := rfl
  insert past place := by
    refine ⟨Mi.errorAnswer, none, if_pos (startsWith_insert place), .refused ?_⟩
    rw [numbersLeft, deletedNumber?_insert]
  delete past id one small := by
    refine .inr ⟨?_, ?_⟩
    · rw [answer_fullPeer, Echoed.answer_delete_done]
    · rw [numbersLeft, deletedNumber?_delete small]

/-- The numbers left only shrink, so none comes back. -/
theorem neverReused_numbersLeft : NeverReused numbersLeft := by
  intro earlier past call n before there gone
  cases call with
  | submit command => exact gone
  | request command =>
    unfold numbersLeft
    split
    · exact fun mem => gone (Finset.mem_of_mem_erase mem)
    · exact gone

set_option maxRecDepth 100000 in
/-- gdb deletes the old breakpoint and refuses the new one: it has none left, and the bound one
still names the old one. -/
theorem recount_orphans_nothing_refused :
    let link := Link.within fullPeer {} 0
    let w := { hitAtMain with sent := [] }
    let v := (Operation.resetHitCount 0 true).act.after link w
    fullPeer.Allots numbersLeft ∧ NeverReused numbersLeft ∧
      (Operation.resetHitCount 0 true).act.Settles link w v ∧ numbersLeft w.sent = {1} ∧
      ¬∃ c, v.bound[0]? = some c ∧
        Tracks (numbersLeft w.sent) (numbersLeft v.sent) 1 c.gdbId := by
  intro link w v
  have outcome : (Operation.resetHitCount 0 true).act.outcome? link w = some (.ok ()) := by
    decide +kernel
  refine ⟨allots_fullPeer, neverReused_numbersLeft, Settles.of_outcome? outcome, rfl, ?_⟩
  rintro ⟨c, -, tracks⟩
  have none : numbersLeft v.sent = ∅ := by decide +kernel
  have live := tracks.live
  rw [none] at live
  exact Finset.notMem_empty _ live

end DebugLink
