import DebugLink.Proofs.CreatedAnew
import DebugLink.Proofs.Obedience

/-!
# Details of a breakpoint that is created anew

gdb forgets everything about a breakpoint that it deletes. When the breakpoint of a bound one is
created anew, its pass count and its condition are given again, by operations that call each other.

* `Bound.Anew`, `Bound.Conditioned`: what gdb has of a breakpoint that was created anew, before and
  after its condition is given.
* `surely_recreate`: creating a breakpoint anew gives the pass count again.
* `surely_setCondition_hit`, `surely_resetHitCount`, `surely_setHitCount`: each call that creates a
  breakpoint anew gives the condition again, and does not fail.
-/

namespace DebugLink

open Act Breakpoint Text

/-- **A bound breakpoint that was created anew** with a pass count, and what gdb has of it. -/
structure Breakpoint.Bound.Anew (p : PassCount) (b : Bound) (s : Snapshot) : Prop where
  passCount : b.passCount = p
  hits : b.hits = 0
  enabled : s.enabled = true
  unhit : s.hits = 0
  counted : b.comparesValues = false → s.ignoreCount = ignoreCountFor (nextStop p 0)

/-- **A bound breakpoint that was given a condition**, and what gdb has of it. -/
structure Breakpoint.Bound.Conditioned (c : Condition) (b : Bound) (s : Snapshot) : Prop where
  condition : b.condition = c
  text : s.condition = c.gdbText
  compared : c.style = .whenChanged → s.ignoreCount = 0
  counted : c.style ≠ .whenChanged → s.ignoreCount = ignoreCountFor (nextStop b.passCount 0)

section Anew

variable {holds : List Call → Table} {start : List Call} {link : Link} {i : Nat} {b : Bound}
  {s : Snapshot} {p : PassCount}

/-- A breakpoint of gdb serves the bound one that was created anew, less its condition. -/
def World.ServesAnew (holds : List Call → Table) (start : List Call) (i : Nat) (p : PassCount)
    (c : Condition) (w : World) : Prop :=
  ∃ b s, (Bound.Anew p b s ∧ b.condition = c) ∧ w.Serves holds start i b s

/-- A breakpoint of gdb serves the bound one that was created anew, with its condition. -/
def World.ServesWhole (holds : List Call → Table) (start : List Call) (i : Nat) (p : PassCount)
    (c : Condition) (w : World) : Prop :=
  ∃ b s, (Bound.Anew p b s ∧ Bound.Conditioned c b s) ∧ w.Serves holds start i b s

/-- A condition was given to the bound breakpoint that was created anew; the pass count is given
after it if gdb has to count hits again. -/
def World.ServesGiven (holds : List Call → Table) (start : List Call) (i : Nat) (p : PassCount)
    (c : Condition) (changed : Bool × Bool) (w : World) : Prop :=
  ∃ b s, (Bound.Anew p b s ∧ changed = (false, countsAgain b c)) ∧
    w.Serves holds start i (b.given c) (c.told s)

theorem unheld_servesWhole (c : Condition) : Unheld (World.ServesWhole holds start i p c) :=
  .of_exists fun _ => .of_exists fun _ => unheld_serves.of_and

theorem unheld_servesGiven (c : Condition) (changed : Bool × Bool) :
    Unheld (World.ServesGiven holds start i p c changed) :=
  .of_exists fun _ => .of_exists fun _ => unheld_serves.of_and

variable (obeys : link.peer.Obeys holds)

include obeys

theorem surely_giveAnew (old c : Condition) :
    Surely link (World.ServesAnew holds start i p old) (giveCondition i c)
      (World.ServesGiven holds start i p c) :=
  .of_exists fun b => .of_exists fun s => .of_and fun ⟨anew, _⟩ =>
    (surely_giveCondition obeys c).imp (fun _ h => h)
      (fun _ _ ⟨changed, h⟩ => ⟨b, s, ⟨anew, changed⟩, h⟩) fun _ h => h

/-- **After a condition** the pass count is given again, if gdb has to count hits again. -/
theorem surely_endCondition {c : Condition} (anew : Bound.Anew p b s) :
    Surely link (World.Serves holds start i (b.given c) (c.told s))
      (endCondition i (false, countsAgain b c)) fun _ => World.ServesWhole holds start i p c := by
  have bounded : (b.given c).hits < limit32 := by
    rw [b.given_hits, anew.hits]
    decide
  unfold endCondition
  dsimp only
  split
  · rename_i again
    obtain ⟨compares, other⟩ : b.comparesValues = true ∧ c.style ≠ .whenChanged := by
      simpa [countsAgain] using again
    have plain : ¬(b.given c).comparesValues = true := by simp [b.given_comparesValues, other]
    have now : (b.given c).toldCount p (c.told s) =
        { c.told s with ignoreCount := ignoreCountFor (nextStop p 0) } := by
      unfold Bound.toldCount
      rw [if_neg plain, b.given_hits, anew.hits]
    refine surely_bound (fun _ => World.Serves.toRests) fun held => ?_
    rw [show ({ b.given c with held } : Bound).passCount = p from
      (b.given_passCount c).trans anew.passCount]
    refine (surely_setPassCount obeys bounded p).bind fun _ => .pure fun w h => ?_
    rw [now] at h
    exact ⟨(b.given c).withPassCount p,
      { c.told s with ignoreCount := ignoreCountFor (nextStop p 0) },
      ⟨⟨rfl, (b.given_hits c).trans anew.hits, anew.enabled, anew.unhit, fun _ => rfl⟩,
        b.given_condition c, rfl, fun style => absurd style other, fun _ => rfl⟩, h⟩
  · rename_i again
    -- nothing more is sent: gdb counts as it was told when the breakpoint was created
    have kept : c.style ≠ .whenChanged →
        (c.told s).ignoreCount = ignoreCountFor (nextStop p 0) := by
      intro other
      have plain : b.comparesValues = false := by
        simpa [countsAgain, other] using again
      exact (if_neg other).trans (anew.counted plain)
    refine .pure fun w h => ⟨b.given c, c.told s, ⟨⟨(b.given_passCount c).trans anew.passCount,
      (b.given_hits c).trans anew.hits, anew.enabled, anew.unhit, fun plain => kept ?_⟩,
      b.given_condition c, rfl, fun style => if_pos style, fun other => ?_⟩, h⟩
    · rw [b.given_comparesValues] at plain
      exact of_decide_eq_false plain
    · rw [b.given_passCount, anew.passCount]
      exact kept other

/-- **A condition** is set once it can be given to a breakpoint that was created anew. -/
theorem surely_setCondition {P : World → Prop} (unheld : Unheld P) {c : Condition}
    (given : Surely link P (bound i >>= fun b =>
      (if b.hits ≠ 0 then discard (recreate i) else pure ()) >>= fun _ => giveCondition i c)
      (World.ServesGiven holds start i p c)) :
    Surely link P (setCondition i c) fun _ => World.ServesWhole holds start i p c := by
  refine .setCondition unheld (unheld_servesWhole c) unheld_false ?_
  rw [applyCondition_eq, changeCondition_eq]
  refine (given.withGates unheld (unheld_servesGiven c) unheld_false).bind fun changed => ?_
  refine .of_exists fun b => .of_exists fun s => .of_and ?_
  rintro ⟨anew, rfl⟩
  exact surely_endCondition obeys anew

/-- What is left to do when a breakpoint was inserted and bound. -/
theorem surely_takeAnew (hits : b.hits = 0) (enabled : s.enabled = true) (unhit : s.hits = 0) :
    Surely link (World.Serves holds start i b s)
      (bound i >>= fun b => setPassCount i b.passCount >>= fun _ => pure true)
      fun done w => done = true ∧ w.ServesAnew holds start i b.passCount b.condition := by
  have bounded : b.hits < limit32 := by
    rw [hits]
    decide
  refine surely_bound (fun _ => World.Serves.toRests) fun held => ?_
  refine (surely_setPassCount obeys bounded b.passCount).bind fun _ => .pure fun w h => ?_
  refine ⟨rfl, b.withPassCount b.passCount, b.toldCount b.passCount s,
    ⟨⟨rfl, hits, ?_, ?_, ?_⟩, rfl⟩, h⟩
  · rw [b.toldCount_enabled, enabled]
  · rw [b.toldCount_hits, unhit]
  · intro plain
    rw [← hits]
    exact b.toldCount_ignoreCount b.passCount s plain

/-- **Creating a breakpoint anew** gives it its pass count again. -/
theorem surely_recreate (room : link.HasRoom start)
    (one : b.gdbId ≠ allBreakpoints) (small : b.gdbId < limit32) :
    Surely link (fun w => w.sent = start ∧ w.Rests i b) (recreate i)
      fun done w => done = true ∧ w.ServesAnew holds start i b.passCount b.condition := by
  rintro w ⟨rfl, rests⟩
  obtain ⟨held, found⟩ := rests.bound
  have stands : w.Stands (fun past => (holds past).numbers) w.session.table.numbers
      (holds w.sent).numbers (w.bound.map Bound.tally) :=
    ⟨rests.alive, rests.stopped, rests.settled, rfl, rfl, rfl⟩
  obtain ⟨done, lost?, kept?, x, steps, created, after, same, place, past, answer, sent, before,
    few, answered, inserts⟩ := recreate_steps obeys.allots stands found one small
  -- gdb has room, so the last command did insert a breakpoint
  obtain ⟨s, rfl⟩ : ∃ s, kept? = some s := by
    refine Option.ne_none_iff_exists'.1 fun none => ?_
    refine room past place ((List.suffix_cons _ _).trans before) few ?_
    unfold Link.Refuses
    rw [answered, inserts.eq_none_iff.1 none]
  obtain ⟨read, one, small, new⟩ := inserts.of_some
  obtain ⟨enabled, unhit, now⟩ : s.enabled = true ∧ s.hits = 0 ∧
      holds (.request ("-break-insert " ++ place) :: past) = (holds past).insert s := by
    obtain ⟨answer', snapshot?, answered', inserts', told⟩ := obeys.insert past place
    cases answered.symm.trans answered'
    cases snapshot? with
    | none =>
      exact absurd (inserts.eq_none_iff.2 (inserts'.eq_none_iff.1 rfl)) (Option.some_ne_none s)
    | some s' =>
      cases read.symm.trans inserts'.of_some.1
      exact told s rfl
  let anew : Bound := { b with gdbId := s.id, hits := 0 }
  let y : World := { x with bound := x.bound.modify i fun b => { b with gdbId := s.id, hits := 0 } }
  have serves : y.Serves holds w.sent i anew s := by
    refine ⟨⟨after.alive, after.stopped, after.settled, held, ?_⟩, one, small, ?_,
      [], place, past, sent, (List.suffix_cons _ _).trans before, ?_, nofun⟩
    · simp [y, anew, same, found]
    · show (holds x.sent).find? s.id = some s
      rw [sent, now, Table.find?_insert, if_pos rfl]
    · exact Option.not_isSome_iff_eq_none.1 fun there => new (Table.mem_numbers.2 there)
  rw [steps]
  exact surely_takeAnew obeys (b := anew) rfl enabled unhit y serves

/-- **A condition** of a breakpoint that was hit has it created anew first. -/
theorem surely_setCondition_hit (room : link.HasRoom start)
    (one : b.gdbId ≠ allBreakpoints) (small : b.gdbId < limit32) (hit : b.hits ≠ 0)
    (c : Condition) :
    Surely link (fun w => w.sent = start ∧ w.Rests i b) (setCondition i c)
      fun _ => World.ServesWhole holds start i b.passCount c := by
  have unheld : Unheld fun w : World => w.sent = start ∧ w.Rests i b :=
    ⟨fun j f w h => ⟨h.1, unheld_rests.gates j f w h.2⟩, fun _ _ h => ⟨h.1, { h.2 with }⟩,
      fun _ _ h => ⟨h.1, { h.2 with }⟩⟩
  refine surely_setCondition obeys unheld (surely_bound (fun _ => And.right) fun held => ?_)
  rw [if_pos hit, discard_eq_bind, bind_assoc]
  refine (surely_recreate obeys room one small).bind fun done => .of_and fun _ => ?_
  rw [pure_bind]
  exact surely_giveAnew obeys b.condition c

/-- **Setting the hit count back** gives the condition again. -/
theorem surely_resetHitCount (room : link.HasRoom start)
    (one : b.gdbId ≠ allBreakpoints) (small : b.gdbId < limit32) :
    Surely link (fun w => w.sent = start ∧ w.Rests i b) (resetHitCount i true)
      fun done w => done = true ∧ w.ServesWhole holds start i b.passCount b.condition := by
  unfold resetHitCount
  refine (surely_recreate obeys room one small).bind fun done => .of_and ?_
  rintro rfl
  have given : Surely link (World.ServesAnew holds start i b.passCount b.condition)
      (bound i >>= fun c => setCondition i c.condition)
      fun _ => World.ServesWhole holds start i b.passCount b.condition := by
    refine .of_exists fun c => .of_exists fun s => .of_and fun ⟨anew, same⟩ =>
      surely_bound (fun _ => World.Serves.toRests) fun held => ?_
    rw [show ({ c with held } : Bound).condition = b.condition from same]
    refine surely_setCondition obeys unheld_serves
      (surely_bound (fun _ => World.Serves.toRests) fun held => ?_)
    -- without hits it is not created anew once more
    rw [if_neg (not_not.2 anew.hits), pure_bind]
    exact (surely_giveAnew obeys b.condition b.condition).pre fun _ h => ⟨c, s, ⟨anew, same⟩, h⟩
  rw [if_pos rfl]
  show Surely link _ (bound i >>= fun c => setCondition i c.condition >>= fun _ => pure true) _
  rw [← bind_assoc]
  exact given.bind fun _ => .pure fun _ h => ⟨rfl, h⟩

theorem surely_setHitCount (room : link.HasRoom start)
    (one : b.gdbId ≠ allBreakpoints) (small : b.gdbId < limit32) (hit : b.hits ≠ 0) :
    Surely link (fun w => w.sent = start ∧ w.Rests i b) (setHitCount i 0)
      fun _ => World.ServesWhole holds start i b.passCount b.condition := by
  rintro w ⟨sent, rests⟩
  obtain ⟨held, found⟩ := rests.bound
  unfold setHitCount
  rw [bind_ok (boundAt_apply found), bind_ok (updateBound_apply found _), if_pos (by simp [hit])]
  -- the hits are already none, which neither the number nor the place depends on
  have reset := surely_resetHitCount obeys (i := i) (b := { b with hits := 0 }) room one small
  refine (reset.imp (fun _ h => h) (fun _ _ h => h.2) fun _ h => h).discard _ ⟨sent, ?_⟩
  exact ⟨rests.alive, rests.stopped, rests.settled, held,
    List.getElem?_set_self (List.getElem?_eq_some_iff.1 found).1⟩

end Anew

end DebugLink
