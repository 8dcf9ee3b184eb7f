import DebugLink.Proofs.AllottedNumbers

/-!
# A breakpoint that is created anew

gdb cannot set its hit count back, so the breakpoint of a bound one is deleted and inserted again
for that. gdb may refuse either command, and the insertion may give up a breakpoint on the way.

* `Recreation`: what deleting a breakpoint and inserting it again comes to.
* `recreate_steps`: where both commands leave the session, and what is left to do.
* `recreate_ends`: the numbers of both sides in the end, and the number of the bound breakpoint.
* `resetHitCount_stands`: what comes after that changes none of them.
-/

namespace DebugLink

open Act Breakpoint Text

/-- Bound breakpoints have numbers of single breakpoints, of 32 bits. -/
def Numbered (tallies : List (Nat × Nat)) : Prop :=
  ∀ k ∈ tallies, k.1 ≠ allBreakpoints ∧ k.1 < limit32

/-- The bound breakpoint in this place has a new number and no hits, if one was inserted anew. -/
def renumbered (i : Nat) : Option Snapshot → List (Nat × Nat) → List (Nat × Nat)
  | none, tallies => tallies
  | some s, tallies => tallies.modify i fun _ => (s.id, 0)

/-- Storing the new number changes the tally of its own breakpoint. -/
theorem renumbered_map (i : Nat) (s : Snapshot) (bounds : List Bound) :
    (bounds.modify i fun b => { b with gdbId := s.id, hits := 0 }).map Bound.tally =
      renumbered i (some s) (bounds.map Bound.tally) := by
  refine List.ext_getElem? fun j => ?_
  unfold renumbered
  simp only [List.getElem?_map, List.getElem?_modify]
  cases bounds[j]? with
  | none => rfl
  | some b => by_cases here : i = j <;> simp [here, Bound.tally]

/-- A new number that fits keeps all of them fitting. -/
theorem Numbered.renumbered {tallies : List (Nat × Nat)} (numbered : Numbered tallies) (i : Nat)
    {kept? : Option Snapshot}
    (fits : ∀ s, kept? = some s → s.id ≠ allBreakpoints ∧ s.id < limit32) :
    Numbered (renumbered i kept? tallies) := by
  cases kept? with
  | none => exact numbered
  | some s =>
    intro k mem
    obtain ⟨j, found⟩ := List.mem_iff_getElem?.1 mem
    unfold DebugLink.renumbered at found
    rw [List.getElem?_modify] at found
    obtain ⟨c, before, rfl⟩ := Option.map_eq_some_iff.1 found
    by_cases here : i = j
    · simpa [here] using fits s rfl
    · simpa [here] using numbered c (List.mem_of_getElem? before)

/-- A breakpoint created anew has no hits. -/
theorem hitless_renumbered (i : Nat) (s : Snapshot) (tallies : List (Nat × Nat)) :
    Hitless i (renumbered i (some s) tallies) := by
  intro id hits found
  unfold renumbered at found
  rw [List.getElem?_modify] at found
  cases before : tallies[i]? with
  | none => simp [before] at found
  | some k =>
    simp only [before, Option.map_eq_map, Option.map_some, if_pos] at found
    cases found
    rfl

/-- What is left to do when a breakpoint was inserted anew. -/
def Act.takeAnew (i : Nat) : Option Snapshot → Act Bool
  | none => return false
  | some snapshot => do
    updateBound i fun b => { b with gdbId := snapshot.id, hits := 0 }
    setPassCount i (← bound i).passCount
    return true

theorem Act.recreate_eq (i : Nat) : recreate i = bound i >>= fun b =>
    discard (delete b.gdbId) >>= fun _ => Act.insert b.location >>= takeAnew i := by
  refine congrArg (bound i >>= ·) <| funext fun b => congrArg (discard (delete b.gdbId) >>= ·) <|
    funext fun _ => congrArg (Act.insert b.location >>= ·) <| funext fun snapshot? => ?_
  cases snapshot? <;> rfl

/-- **What creating a breakpoint anew comes to** after the commands `past`: whether the old one is
deleted, which one is given up when it is inserted, and which one takes its place. -/
structure Recreation (link : Link) (live : List Call → Finset Nat) (past : List Call) (b : Bound)
    (done : Bool) (lost? kept? : Option Snapshot) : Prop where
  deleted : done = false ↔ link.Refuses past (Echoed.delete.command b.gdbId)
  left : live (.request (Echoed.delete.command b.gdbId) :: past) =
    if done = true then (live past).erase b.gdbId else live past
  inserted : b.location.Insertion link live
    (.request (Echoed.delete.command b.gdbId) :: past) lost? kept?

/-- The numbers after a breakpoint was created anew. -/
def numbersAnew (id : Nat) (done : Bool) (lost? kept? : Option Snapshot) (numbers : Finset Nat) :
    Finset Nat :=
  withNumber (withNumber (if done = true then numbers.erase id else numbers) lost?) kept?

section Runs

variable {live : List Call → Finset Nat} {T L : Finset Nat} {tallies : List (Nat × Nat)}
  {link : Link} {w : World} (allots : link.peer.Allots live)

include allots

/-- **Creating a breakpoint anew** deletes it and inserts it again, and gives the bound one the
number that it has by now. -/
theorem recreate_steps (h : w.Stands live T L tallies) {i : Nat} {b : Bound}
    (found : w.bound[i]? = some b) (one : b.gdbId ≠ allBreakpoints) (small : b.gdbId < limit32) :
    ∃ done lost? kept? x, recreate i link w = takeAnew i kept? link x ∧
      Recreation link live w.sent b done lost? kept? ∧
      x.Stands live (numbersAnew b.gdbId done none kept? T)
        (numbersAnew b.gdbId done lost? kept? L) tallies ∧
      x.bound = w.bound ∧
      link.Brought live (.request (Echoed.delete.command b.gdbId) :: w.sent) x.sent kept? := by
  obtain ⟨done, v, deleted, stands, sent, bound, refused⟩ := delete_ends allots h one small
  obtain ⟨lost?, kept?, x, inserted, insertion, after, bound', brought⟩ :=
    insert_ends allots stands b.location
  have left := stands.live
  rw [sent, ← h.live] at left
  rw [sent] at insertion brought
  refine ⟨done, lost?, kept?, x, ?_, ⟨refused, left, insertion⟩, after, bound'.trans bound, brought⟩
  rw [recreate_eq, bind_ok (boundAt_apply found), bind_ok (discard_ok deleted), bind_ok inserted]

/-- **A breakpoint that was created anew** was not hit. -/
theorem recreate_ends (h : w.Stands live T L tallies) {i : Nat} {b : Bound}
    (found : w.bound[i]? = some b) (one : b.gdbId ≠ allBreakpoints) (small : b.gdbId < limit32) :
    ∃ done lost? kept?, Recreation link live w.sent b done lost? kept? ∧
      ((recreate i).after link w).Stands live (numbersAnew b.gdbId done none kept? T)
        (numbersAnew b.gdbId done lost? kept? L) (renumbered i kept? tallies) ∧
      ∀ u, recreate i link w = .ok true u → kept?.isSome = true := by
  obtain ⟨done, lost?, kept?, x, steps, created, after, -⟩ :=
    recreate_steps allots h found one small
  refine ⟨done, lost?, kept?, created, ?_, fun u ended => ?_⟩
  · rw [after_congr steps]
    cases kept? with
    | none => exact after
    | some s =>
      have anew := after.rebind (x.bound.modify i fun b => { b with gdbId := s.id, hits := 0 })
      rw [renumbered_map, after.bound] at anew
      refine Keeps.boundAt (fun c u _ => ?_) _ anew
      exact Keeps.bind (World.Stands.keeps_setPassCount allots.toHeedful i c.passCount)
        (fun _ => .pure _) u
  · cases kept? with
    | none => cases steps.symm.trans ended
    | some s => rfl
/-- What comes after a breakpoint was created anew leaves the session where it stands then. -/
theorem resetHitCount_stands {i : Nat}
    (stands : ((recreate i).after link w).Stands live T L tallies)
    (hitless : ∀ u, recreate i link w = .ok true u → Hitless i tallies) (resetCondition : Bool) :
    ((resetHitCount i resetCondition).after link w).Stands live T L tallies := by
  unfold resetHitCount
  rw [Act.after_bind]
  cases e : recreate i link w with
  | error halt u =>
    rw [after_of_error e] at stands
    exact stands
  | ok created u =>
    rw [after_of_ok e] at stands
    cases created with
    | false => exact stands
    | true =>
      have given : ∀ c, (setCondition i c).Keeps (World.Stands live T L tallies) link :=
        World.Stands.keeps_setCondition allots.toHeedful (hitless u e)
      cases resetCondition with
      | false => exact stands
      | true =>
        refine Keeps.boundAt (fun b v _ => ?_) u stands
        exact Keeps.bind (given b.condition) (fun _ => .pure _) v

end Runs

end DebugLink
