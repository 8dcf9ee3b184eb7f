import DebugLink.Proofs.CreatedAnew
import DebugLink.Proofs.NumberingPeer
import DebugLink.Proofs.StopInTime

/-!
# Breakpoints of gdb that the session does not know

The table of the session has an entry for each breakpoint that it was told of. Whatever is inserted,
deleted, enabled or created anew changes both sides alike, except for an insertion that gives up a
breakpoint without a location when it is tried again with the bare name of the file: gdb has that
one and the table has not.

* `World.KnowsIf`: both sides know the same numbers exactly if something holds.
* `edit_ends`: one operation leaves them so unless it gives up a breakpoint.
* `knows_numbers_iff`: over whole runs, the table has the numbers of gdb exactly if no breakpoint is
  given up.
-/

namespace DebugLink

open Act Breakpoint Record Text

/-- **The session knows the numbers of gdb exactly if** something holds, wherever it stands. -/
def World.KnowsIf (live : List Call → Finset Nat) (known : Prop) (tallies : List (Nat × Nat))
    (w : World) : Prop :=
  ∃ T L, w.Stands live T L tallies ∧ (T = L ↔ known)

theorem World.KnowsIf.of_stands {live : List Call → Finset Nat} {T : Finset Nat}
    {tallies : List (Nat × Nat)} {known : Prop} {w : World} (h : w.Stands live T T tallies)
    (holds : known) : w.KnowsIf live known tallies := ⟨T, T, h, iff_of_true rfl holds⟩

/-- **A breakpoint is given up when it is created anew**: it was deleted before. -/
def World.GivesUpAnew (link : Link) (i : Nat) (w : World) : Prop :=
  ∃ b, w.bound[i]? = some b ∧
    b.location.GivesUp link (.request (Echoed.delete.command b.gdbId) :: w.sent)

/-! ## Creating anew -/

section Anew

variable {live : List Call → Finset Nat} {T : Finset Nat} {tallies : List (Nat × Nat)}
  {link : Link} {w : World} (allots : link.peer.Allots live)

include allots

/-- **A breakpoint that is created anew** leaves the table with the numbers of gdb unless it is
given up. -/
theorem recreate_knows (h : w.Stands live T T tallies) (numbered : Numbered tallies) (i : Nat) :
    ∃ tallies', ((recreate i).after link w).KnowsIf live (¬w.GivesUpAnew link i) tallies' ∧
      Numbered tallies' ∧ ∀ u, recreate i link w = .ok true u → Hitless i tallies' := by
  cases found : w.bound[i]? with
  | none =>
    have failed : recreate i link w = .error .assertion w := by
      unfold recreate bound
      rw [bind_assoc, get_apply, found]
      rfl
    rw [after_of_error failed]
    refine ⟨tallies, .of_stands h ?_, numbered, fun u done => ?_⟩
    · rintro ⟨b, there, -⟩
      cases found.symm.trans there
    · cases failed.symm.trans done
  | some b =>
    -- the number is a breakpoint's own, so the deletion cannot be meant for all
    obtain ⟨one, small⟩ : b.gdbId ≠ allBreakpoints ∧ b.gdbId < limit32 := by
      refine numbered b.tally ?_
      rw [← h.bound]
      exact List.mem_map_of_mem (List.mem_of_getElem? found)
    obtain ⟨done, lost?, kept?, created, stands, told⟩ := recreate_ends allots h found one small
    have gaveUp : w.GivesUpAnew link i ↔
        b.location.GivesUp link (.request (Echoed.delete.command b.gdbId) :: w.sent) := by
      refine ⟨?_, fun gaveUp => ⟨b, found, gaveUp⟩⟩
      rintro ⟨c, there, gaveUp⟩
      cases found.symm.trans there
      exact gaveUp
    refine ⟨_, ⟨_, _, stands, ?_⟩, numbered.renumbered i ?_, fun u done => ?_⟩
    · have same := created.inserted.same_iff
      rw [created.left, h.live] at same
      exact same.trans (not_congr gaveUp.symm)
    · rintro s rfl
      exact ⟨created.inserted.of_kept.1, created.inserted.of_kept.2.1⟩
    · obtain ⟨s, rfl⟩ := Option.isSome_iff_exists.1 (told u done)
      exact hitless_renumbered i s tallies

/-- **Setting the hit count of gdb back** leaves the table with the numbers of gdb unless the
breakpoint is given up that is created anew. -/
theorem resetHitCount_ends (h : w.Stands live T T tallies) (numbered : Numbered tallies) (i : Nat)
    (resetCondition : Bool) : ∃ tallies', ((resetHitCount i resetCondition).after link w).KnowsIf
      live (¬w.GivesUpAnew link i) tallies' ∧ Numbered tallies' := by
  obtain ⟨tallies', ⟨T', L', stands, known⟩, numbered', hitless⟩ :=
    recreate_knows allots h numbered i
  exact ⟨tallies', ⟨T', L', resetHitCount_stands allots stands hitless resetCondition, known⟩,
    numbered'⟩

end Anew

/-! ## Runs -/

namespace Operation

/-- An operation that says which breakpoints there are to be, or a detail of them. -/
def EditsTable : Operation → Prop
  | insert _ | enable _ _ | resetHitCount _ _ => True
  | delete id => id ≠ allBreakpoints ∧ id < limit32
  | _ => False

/-- **An operation gives up a breakpoint**: by inserting it, or by creating it anew. -/
def GivesUp (link : Link) (w : World) : Operation → Prop
  | insert location => location.GivesUp link w.sent
  | resetHitCount i _ => w.GivesUpAnew link i
  | _ => False

/-- What holds of every operation does so along a run. -/
theorem along_of_forall {link : Link} {P : Operation → Prop} {ops : List Operation}
    (h : ∀ op ∈ ops, P op) (w : World) : Along link (fun _ op => P op) ops w := by
  induction ops generalizing w with
  | nil => trivial
  | cons op ops ih =>
    exact ⟨h op List.mem_cons_self, ih (fun op' mem => h op' (List.mem_cons_of_mem op mem)) _⟩

end Operation

section Runs

variable {live : List Call → Finset Nat} {T : Finset Nat} {tallies : List (Nat × Nat)}
  {link : Link} {w : World} (allots : link.peer.Allots live)

include allots

/-- **One operation** leaves the table with the numbers of gdb unless it gives up a breakpoint. -/
theorem edit_ends (h : w.Stands live T T tallies) (numbered : Numbered tallies) {op : Operation}
    (edits : op.EditsTable) : ∃ tallies',
      (op.act.after link w).KnowsIf live (¬op.GivesUp link w) tallies' ∧ Numbered tallies' := by
  -- only an insertion can leave gdb with a number that the table lacks
  cases op with
  | insert location =>
    obtain ⟨lost?, kept?, v, inserted, insertion, stands, -⟩ := insert_ends allots h location
    have ended : (Operation.insert location).act.after link w = v :=
      after_of_ok (discard_ok inserted)
    have known := insertion.same_iff
    rw [h.live] at known
    rw [ended]
    exact ⟨tallies, ⟨_, _, stands, known⟩, numbered⟩
  | delete id =>
    obtain ⟨done, v, deleted, stands, -⟩ := delete_ends allots h edits.1 edits.2
    have ended : (Operation.delete id).act.after link w = v := after_of_ok (discard_ok deleted)
    rw [ended]
    exact ⟨tallies, .of_stands stands fun gaveUp => gaveUp, numbered⟩
  | enable id on =>
    have kept : (discard (enable id on)).Keeps (World.Stands live T T tallies) link :=
      .discard (World.Stands.keeps_act allots.toHeedful (e := .enable on) Echoed.noConfusion id)
    exact ⟨tallies, .of_stands (kept w h) fun gaveUp => gaveUp, numbered⟩
  | resetHitCount i resetCondition =>
    have ended : (Operation.resetHitCount i resetCondition).act.after link w =
        (resetHitCount i resetCondition).after link w := by
      show (discard (resetHitCount i resetCondition)).after link w = _
      rw [discard_eq_bind, after_dropped]
    rw [ended]
    exact resetHitCount_ends allots h numbered i resetCondition
  | _ => exact edits.elim

end Runs

/-- **Whether the session knows the breakpoints of gdb.** A gdb gives numbers to the breakpoints
that it accepts, with a location or without, and may refuse any command. A live session whose
target is stopped, with no resumption due, begins with the numbers of gdb in its table. Then come
operations in any order that insert breakpoints at lines and functions, delete them, enable and
disable them, and set their hit counts back. After each of them the table has exactly the numbers of
gdb, if and only if none of them gives up a breakpoint: one without a location that came of the full
path of a file, when the bare name is tried after it. -/
theorem knows_numbers_iff {link : Link} {live : List Call → Finset Nat} {w : World}
    (ops : List Operation) (allots : link.peer.Allots live) (alive : w.session.alive = true)
    (stopped : w.session.phase = .stopped) (settled : w.session.needsResume = false)
    (numbered : ∀ b ∈ w.bound, b.gdbId ≠ allBreakpoints ∧ b.gdbId < limit32)
    (start : w.session.table.numbers = live w.sent) (edits : ∀ op ∈ ops, op.EditsTable) :
    Operation.Along link (fun w op =>
        let v := op.act.after link w
        v.session.table.numbers = live v.sent) ops w ↔
      Operation.Along link (fun w op => ¬op.GivesUp link w) ops w := by
  -- what carries the induction on the operations as long as none gives up a breakpoint
  let Knows : World → Prop := fun w => ∃ T tallies, w.Stands live T T tallies ∧ Numbered tallies
  have knows : Knows w := by
    refine ⟨_, _, ⟨alive, stopped, settled, rfl, start.symm, rfl⟩, fun k mem => ?_⟩
    obtain ⟨b, bound, rfl⟩ := List.mem_map.1 mem
    exact numbered b bound
  refine Operation.along_iff (I := Knows) ?_ ops w knows (Operation.along_of_forall edits w)
  rintro w op ⟨T, tallies, stands, numbered⟩ edits
  obtain ⟨tallies', ⟨T', L', after, known⟩, numbered'⟩ := edit_ends allots stands numbered edits
  constructor
  · rw [← known, ← after.table, ← after.live]
  · intro keeps
    obtain rfl := known.2 keeps
    exact ⟨T', tallies', after, numbered'⟩

/-- A session that has nothing in its table, with a breakpoint that was hit at a function. -/
def stoppedWithoutTable : World where
  session := { phase := .stopped }
  bound := [{ gdbId := 2, location := .function "later", hits := 3,
              condition := { style := .whenTrue, expression := "n > 2" } }]

set_option maxRecDepth 100000 in
/-- A breakpoint that stays without a location, one at a line, one that is disabled and one that is
created anew. -/
theorem knows_numbers_all :
    let ops : List Operation := [.insert (.function "later"), .insert (.line "a.c" "/src/a.c" 3),
      .enable 1 false, .resetHitCount 0 true, .delete 1]
    Operation.Along (Link.within numberingPeer {} 0) (fun w op =>
      let v := op.act.after (Link.within numberingPeer {} 0) w
      v.session.table.numbers = numbersAfter v.sent) ops stoppedWithoutTable := by
  intro ops
  let link := Link.within numberingPeer {} 0
  have edits : ∀ op ∈ ops, op.EditsTable := by
    intro op mem
    simp only [ops, List.mem_cons, List.not_mem_nil, or_false] at mem
    rcases mem with rfl | rfl | rfl | rfl | rfl
    · trivial
    · trivial
    · trivial
    · trivial
    · exact ⟨by decide, by decide⟩
  let w₁ := (ops[0].act).after link stoppedWithoutTable
  have found : link.peer.answer w₁.sent "-break-insert --thread-group i1 -f /src/a.c:3" =
      .ok "20;2;y;0x10;main;a.c;3;0" := by decide +kernel
  have unchanged : ((ops[2].act).after link ((ops[1].act).after link w₁)).bound =
      stoppedWithoutTable.bound := by decide +kernel
  refine (knows_numbers_iff ops allots_numberingPeer rfl rfl rfl (by decide) rfl edits).2
    ⟨fun gaveUp => Bool.noConfusion gaveUp.1, ?_, fun gaveUp => gaveUp, ?_, fun gaveUp => gaveUp,
      trivial⟩
  · -- the second insertion is answered with a bound breakpoint, so nothing is given up
    rintro ⟨-, answer, answered, pending⟩
    cases found.symm.trans answered
    cases pending
  · rintro ⟨b, there, gaveUp⟩
    have held : stoppedWithoutTable.bound[0]? = some b := unchanged ▸ there
    cases held
    exact Bool.noConfusion gaveUp.1

set_option maxRecDepth 100000 in
/-- A breakpoint that neither the full path nor the bare name of its file gives a location: gdb has
two of them, and the table one. -/
theorem knows_numbers_given_up :
    let link := Link.within numberingPeer {} 0
    let v := (Operation.insert (.line "later.c" "/src/later.c" 3)).act.after link
      { stoppedWithoutTable with bound := [] }
    numberingPeer.Allots numbersAfter ∧
      v.session.table.numbers = {2} ∧ numbersAfter v.sent = {1, 2} :=
  ⟨allots_numberingPeer, by decide +kernel, by decide +kernel⟩

end DebugLink