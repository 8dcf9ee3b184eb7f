import DebugLink.Proofs.Details

/-!
# Numbers that gdb gives its breakpoints

gdb gives every breakpoint that it accepts a number, and the session has a table of those that it
was told of. An insertion that leaves a breakpoint without a location is tried again with the bare
name of the file; the breakpoint that came of the first command stays in gdb, and nothing more is
heard of it.

* `Peer.Allots`: a gdb that gives numbers to its breakpoints, and may refuse any command.
* `delete_ends`: deleting a breakpoint takes its number from both sides, or from none.
* `Insertion`, `Location.GivesUp`: what an insertion comes to, and when its first breakpoint is
  given up.
* `insert_ends`: an insertion adds the same number to both sides, but for one that is given up.
-/

namespace DebugLink

open Act Breakpoint Record Text

/-! ## A gdb that gives numbers -/

/-- The numbers with that of a breakpoint that came of a command, if one did. -/
def withNumber (numbers : Finset Nat) : Option Snapshot → Finset Nat
  | none => numbers
  | some s => insert s.id numbers

/-- **What comes of a command to insert a breakpoint**, where `live` are the numbers of gdb: it is
refused, or a breakpoint with a number that none has is recorded, with a location or without. -/
inductive Inserts (live : List Call → Finset Nat) (past : List Call) (command : String) :
    String → Option Snapshot → Prop
  | refused (same : live (.request command :: past) = live past) :
      Inserts live past command Mi.errorAnswer none
  | accepted {answer : String} {s : Snapshot} (tag : startsWith "20" answer = true)
      (read : Notice.read answer = .ok (.inserted s)) (one : s.id ≠ allBreakpoints)
      (new : s.id ∉ live past) (now : live (.request command :: past) = insert s.id (live past)) :
      Inserts live past command answer (some s)

/-- **A gdb that gives numbers to its breakpoints**: `live` tells by the commands sent so far which
there are. Any command may be refused, and a refused one changes nothing. -/
structure Peer.Allots (peer : Peer) (live : List Call → Finset Nat) : Prop
    extends Peer.Heedful peer live where
  quiet : ∀ past command, peer.reactions past (.request command) = []
  insert : ∀ past place, ∃ answer snapshot?,
    peer.answer past ("-break-insert " ++ place) = .ok answer ∧
      Inserts live past ("-break-insert " ++ place) answer snapshot?
  delete : ∀ past id, id ≠ allBreakpoints → id < limit32 →
    let command := Echoed.delete.command id
    (peer.answer past command = .ok Mi.errorAnswer ∧
        live (.request command :: past) = live past) ∨
      (peer.answer past command = .ok ("25;" ++ toString id) ∧
        live (.request command :: past) = (live past).erase id)

namespace Inserts

variable {live : List Call → Finset Nat} {past : List Call} {command answer : String}
  {snapshot? : Option Snapshot}

theorem live_eq (h : Inserts live past command answer snapshot?) :
    live (.request command :: past) = withNumber (live past) snapshot? := by
  cases h with
  | refused same => exact same
  | accepted tag read one new now => exact now

/-- An insertion gives no number exactly where it is refused. -/
theorem eq_none_iff (h : Inserts live past command answer snapshot?) :
    snapshot? = none ↔ answer = Mi.errorAnswer := by
  cases h with
  | refused same => exact iff_of_true rfl rfl
  | accepted tag read one new now =>
    refine iff_of_false (Option.some_ne_none _) ?_
    rintro rfl
    cases tag

theorem of_some {s : Snapshot} (h : Inserts live past command answer (some s)) :
    Notice.read answer = .ok (.inserted s) ∧ s.id ≠ allBreakpoints ∧ s.id < limit32 ∧
      s.id ∉ live past := by
  cases h with
  | accepted tag read one new now => exact ⟨read, one, Notice.id_lt_of_read read, new⟩

end Inserts

/-! ## Deleting -/

theorem isError_done : (Mi.Response.ofResult "^done" []).isError = false := by decide +kernel

theorem isError_error : (Mi.Response.ofResult "^error" []).isError = true := by decide +kernel

/-- A deletion that gdb accepts is answered by its record. -/
theorem Echoed.answer_delete_done (id : Nat) :
    Mi.answer (delete.command id) (.ofResult "^done" []) = "25;" ++ toString id := by
  rw [Mi.answer_accepted _ isError_done, acceptedAnswer_delete]

/-- A deletion that gdb refuses is answered as any edit that it refuses. -/
theorem Echoed.answer_delete_error (id : Nat) :
    Mi.answer (delete.command id) (.ofResult "^error" []) = Mi.errorAnswer := by
  have verb : "-break-delete" ∈ Mi.editVerbs := by decide
  exact Mi.answer_refused verb (Mi.head_words verb (toList_delete id)) isError_error

/-- gdb refuses a command that comes after the commands `past`. -/
def Link.Refuses (link : Link) (past : List Call) (command : String) : Prop :=
  link.peer.answer past command = .ok Mi.errorAnswer

section Allots

variable {live : List Call → Finset Nat} {T L : Finset Nat} {tallies : List (Nat × Nat)}
  {link : Link} {w : World} (allots : link.peer.Allots live)

include allots

/-- **Deleting a breakpoint** takes its number from both sides, or from none if gdb refuses it. -/
theorem delete_ends (h : w.Stands live T L tallies) {id : Nat} (one : id ≠ allBreakpoints)
    (small : id < limit32) : ∃ done v, delete id link w = .ok done v ∧
      v.Stands live (if done = true then T.erase id else T) (if done = true then L.erase id else L)
        tallies ∧
      v.sent = .request (Echoed.delete.command id) :: w.sent ∧ v.bound = w.bound ∧
      (done = false ↔ link.Refuses w.sent (Echoed.delete.command id)) := by
  let command := Echoed.delete.command id
  have idle : ∀ response, link.peer.answer w.sent command = .ok (Mi.answer command response) →
      link.Echoes w command response := fun response answers =>
    ⟨answers, allots.quiet w.sent command, fun due => Bool.noConfusion (h.settled.symm.trans due)⟩
  have deleted : ∀ {done u}, Echoed.delete.ask id link w = .ok done u →
      u.session.needsResume = false → delete id link w = .ok done u := by
    intro done u asked settled
    rw [delete_alive h.alive]
    exact whilePaused_stopped h.stopped (attempt_ok asked) settled
  rcases allots.delete w.sent id one small with ⟨answer, same⟩ | ⟨answer, now⟩
  · -- refused: the answer is that of any error, and both sides stay as they were
    obtain ⟨u, asked, session, bound, sent⟩ := Echoed.ask_refused
      (idle (.ofResult "^error" []) (by rw [Echoed.answer_delete_error]; exact answer))
      isError_error
    refine ⟨false, u, deleted asked (by rw [session]; exact h.settled),
      h.became (by rw [session]) bound ?_ ?_, sent, bound, iff_of_true rfl answer⟩
    · rw [session]
      exact h.table
    · rw [sent]
      exact same.trans h.live
  · have asked := Echoed.ask_accepted small
      (idle (.ofResult "^done" []) (by rw [Echoed.answer_delete_done]; exact answer)) isError_done
    refine ⟨true, _, deleted asked h.settled, h.became rfl rfl ?_ ?_, rfl, rfl,
      iff_of_false (by decide) fun refused => ?_⟩
    · rw [← h.table]
      exact w.session.table.numbers_erase one
    · rw [← h.live]
      exact now
    · have same := Except.ok.inj (answer.symm.trans refused)
      rw [← String.toList_inj, String.toList_append] at same
      cases same

end Allots

/-! ## Inserting -/

/-- What is done with the answer to a command that inserts a breakpoint. -/
def Act.takeInserted (command answer : String) : Act (Option Snapshot) := do
  if !startsWith "20" answer then
    log .warn (s!"breakpoint not inserted: `{command}` -> " ++ quoted answer)
    return none
  match ← handleBreakpoint answer with
  | .inserted snapshot => return some snapshot
  | _ => return none

theorem Act.requestInsert_none (command : String) :
    requestInsert command none = request command >>= takeInserted command := rfl

theorem Act.requestInsert_some (command fallback : String) :
    requestInsert command (some fallback) = request command >>= fun first =>
      (if contains pendingAddress.toList first.toList then request fallback else pure first) >>=
        takeInserted command := by
  refine congrArg (request command >>= ·) <| funext fun first => ?_
  dsimp only
  split <;> rfl

section Inserts

variable {live : List Call → Finset Nat} {T L : Finset Nat} {tallies : List (Nat × Nat)}
  {link : Link} {w : World} {past : List Call} {command answer : String}
  {snapshot? : Option Snapshot}

/-- **The breakpoint of the answer** gets an entry in the table. -/
theorem Inserts.taken (h : Inserts live past command answer snapshot?)
    (stands : w.Stands live T L tallies) (first : String) :
    ∃ v, takeInserted first answer link w = .ok snapshot? v ∧
      v.Stands live (withNumber T snapshot?) L tallies ∧ v.sent = w.sent ∧ v.bound = w.bound := by
  cases h with
  | refused same => exact ⟨_, rfl, stands.became rfl rfl stands.table stands.live, rfl, rfl⟩
  | @accepted _ s tag read one new now =>
    let v : World := { w with session := { w.session with
      unknownCode := s.isPending || w.session.unknownCode, table := w.session.table.insert s } }
    have handled : handleBreakpoint answer link w = .ok (.inserted s) v := by
      unfold handleBreakpoint
      rw [read]
      exact bind_ok (applyNotice_inserted s link w) _
    refine ⟨v, ?_, stands.became rfl rfl ?_ stands.live, rfl, rfl⟩
    · unfold takeInserted
      rw [tag, if_neg (by decide), bind_ok handled]
      rfl
    · rw [← stands.table]
      exact w.session.table.numbers_insert s

/-- **A breakpoint is given up** after the commands `past`: the first command leaves it without a
location, and there is a second one. -/
def Link.GivesUp (link : Link) (past : List Call) (command : String) (fallback : Option String) :
    Prop :=
  fallback.isSome = true ∧ ∃ answer, link.peer.answer past command = .ok answer ∧
    contains pendingAddress.toList answer.toList = true

/-- **What an insertion comes to** after the commands `past`: the breakpoint that is given up on the
way, if one is, and the one that the session is told of. -/
inductive Insertion (link : Link) (live : List Call → Finset Nat) (past : List Call)
    (command : String) (fallback : Option String) : Option Snapshot → Option Snapshot → Prop
  | once {answer : String} {kept? : Option Snapshot}
      (answered : link.peer.answer past command = .ok answer)
      (inserts : Inserts live past command answer kept?)
      (holds : ¬link.GivesUp past command fallback) :
      Insertion link live past command fallback none kept?
  | twice {first second command' : String} {lost : Snapshot} {kept? : Option Snapshot}
      (gaveUp : link.GivesUp past command fallback)
      (loses : Inserts live past command first (some lost))
      (inserts : Inserts live (.request command :: past) command' second kept?) :
      Insertion link live past command fallback (some lost) kept?

/-- **The last command** inserted this breakpoint, if any; at most one came before it. -/
def Link.Brought (link : Link) (live : List Call → Finset Nat) (before sent : List Call)
    (kept? : Option Snapshot) : Prop :=
  ∃ place past answer, sent = .request ("-break-insert " ++ place) :: past ∧
    before <:+ past ∧ past.length ≤ before.length + 1 ∧
    link.peer.answer past ("-break-insert " ++ place) = .ok answer ∧
    Inserts live past ("-break-insert " ++ place) answer kept?

namespace Insertion

variable {fallback : Option String} {lost? kept? : Option Snapshot}

/-- A number is lost exactly where the first answer is given up. -/
theorem lost_eq_none_iff (h : Insertion link live past command fallback lost? kept?) :
    lost? = none ↔ ¬link.GivesUp past command fallback := by
  cases h with
  | once answered inserts holds => exact iff_of_true rfl holds
  | twice gaveUp loses inserts =>
    exact iff_of_false (Option.some_ne_none _) (not_not.2 gaveUp)

/-- None is kept exactly where the command is refused. -/
theorem kept_eq_none_iff (h : Insertion link live past command fallback none kept?) :
    kept? = none ↔ link.Refuses past command := by
  cases h with
  | once answered inserts holds =>
    unfold Link.Refuses
    rw [inserts.eq_none_iff, answered, Except.ok.injEq]

/-- The breakpoint that the session is told of is a single one, and gdb had none of its number. -/
theorem of_kept {s : Snapshot} (h : Insertion link live past command fallback lost? (some s)) :
    s.id ≠ allBreakpoints ∧ s.id < limit32 ∧ s.id ∉ withNumber (live past) lost? := by
  cases h with
  | once answered inserts holds => exact inserts.of_some.2
  | twice gaveUp loses inserts =>
    rw [← loses.live_eq]
    exact inserts.of_some.2

/-- gdb had no breakpoint of the number that is given up. -/
theorem of_lost {s : Snapshot} (h : Insertion link live past command fallback (some s) kept?) :
    s.id ∉ live past := by
  cases h with
  | twice gaveUp loses inserts => exact loses.of_some.2.2.2

/-- **Both sides have the same numbers after an insertion** if no breakpoint is given up. -/
theorem same_iff (h : Insertion link live past command fallback lost? kept?) :
    withNumber (live past) kept? = withNumber (withNumber (live past) lost?) kept? ↔
      ¬link.GivesUp past command fallback := by
  rw [← h.lost_eq_none_iff]
  cases lost? with
  | none => exact iff_of_true rfl rfl
  | some lost =>
    refine iff_of_false (fun same => h.of_lost ?_) (Option.some_ne_none lost)
    -- the number that was given up is not that of the other breakpoint
    have there : lost.id ∈ withNumber (live past) kept? := by
      rw [same]
      cases kept? with
      | none => exact Finset.mem_insert_self _ _
      | some s => exact Finset.mem_insert_of_mem (Finset.mem_insert_self _ _)
    cases kept? with
    | none => exact there
    | some s =>
      refine (Finset.mem_insert.1 there).resolve_left fun taken => h.of_kept.2.2 ?_
      exact taken ▸ Finset.mem_insert_self lost.id _

end Insertion

variable (allots : link.peer.Allots live)

include allots

/-- **An insertion that is asked for** is refused, or adds its number to those there are. -/
theorem request_inserts (h : w.Stands live T L tallies)
    (inserting : ∃ place, command = "-break-insert " ++ place) :
    ∃ answer snapshot?, link.peer.answer w.sent command = .ok answer ∧
      request command link w = .ok answer (w.requesting command (.ok answer)) ∧
      Inserts live w.sent command answer snapshot? ∧
      (w.requesting command (.ok answer)).Stands live T (withNumber L snapshot?) tallies := by
  obtain ⟨place, rfl⟩ := inserting
  obtain ⟨answer, snapshot?, answered, inserts⟩ := allots.insert w.sent place
  refine ⟨answer, snapshot?, answered, ?_, inserts, h.became rfl rfl h.table ?_⟩
  · rw [request_quiet (allots.quiet _ _), answered]
  · rw [← h.live]
    exact inserts.live_eq

/-- **An insertion** adds the breakpoint of its last command to both sides, and the one that is
given up to those of gdb. -/
theorem requestInsert_ends (h : w.Stands live T L tallies) {fallback : Option String}
    (inserting : ∀ c, c = command ∨ fallback = some c → ∃ place, c = "-break-insert " ++ place) :
    ∃ lost? kept? v, requestInsert command fallback link w = .ok kept? v ∧
      Insertion link live w.sent command fallback lost? kept? ∧
      v.Stands live (withNumber T kept?) (withNumber (withNumber L lost?) kept?) tallies ∧
      v.bound = w.bound ∧ link.Brought live w.sent v.sent kept? := by
  obtain ⟨first, snapshot?, answered, asked, inserts, stands⟩ :=
    request_inserts allots h (inserting command (.inl rfl))
  obtain ⟨place, rfl⟩ := inserting command (.inl rfl)
  obtain ⟨v, taken, after, sent, bound⟩ := inserts.taken stands ("-break-insert " ++ place)
  have brought : link.Brought live w.sent v.sent snapshot? :=
    ⟨place, w.sent, first, sent, List.suffix_refl _, Nat.le_succ _, answered, inserts⟩
  cases fallback with
  | none =>
    refine ⟨none, snapshot?, v, ?_,
      .once answered inserts fun gaveUp => Bool.noConfusion gaveUp.1, after, bound, brought⟩
    rw [requestInsert_none, bind_ok asked, taken]
  | some fallback =>
    rw [requestInsert_some, bind_ok asked]
    cases pending : contains pendingAddress.toList first.toList with
    | false =>
      refine ⟨none, snapshot?, v, ?_, .once answered inserts ?_, after, bound, brought⟩
      · rw [if_neg Bool.false_ne_true, pure_bind, taken]
      · rintro ⟨-, answer, answered', there⟩
        cases answered.symm.trans answered'
        exact Bool.noConfusion (pending.symm.trans there)
    | true =>
      -- the first breakpoint is in gdb by now, and only the answer to the second command is taken
      obtain ⟨second, other?, answered', asked', inserts', stands'⟩ :=
        request_inserts allots stands (inserting fallback (.inr rfl))
      have gaveUp : link.GivesUp w.sent ("-break-insert " ++ place) (some fallback) :=
        ⟨rfl, first, answered, pending⟩
      obtain ⟨place', rfl⟩ := inserting fallback (.inr rfl)
      obtain ⟨v, taken, after, sent, bound⟩ := inserts'.taken stands' ("-break-insert " ++ place)
      cases snapshot? with
      | none =>
        rw [inserts.eq_none_iff.1 rfl] at pending
        cases pending
      | some lost =>
        refine ⟨some lost, other?, v, ?_, .twice gaveUp inserts inserts', after, bound, place', _,
          second, sent, List.suffix_cons _ _, Nat.le_refl _, answered', inserts'⟩
        rw [if_pos rfl, bind_ok asked', taken]

end Inserts

namespace Breakpoint.Location

/-- The command that inserts a breakpoint at a place, a line by the full path of its file. -/
def command (group : String) : Location → String
  | line _ fullPath n => s!"-break-insert --thread-group {group} -f {fullPath}:{n}"
  | function name => s!"-break-insert {name}"

/-- The command that tries a line by the bare name of its file. -/
def fallback? (group : String) : Location → Option String
  | line file fullPath n =>
    if file = fullPath then none
    else some s!"-break-insert --thread-group {group} -f {file}:{n}"
  | function _ => none

/-- **A breakpoint at a place is given up** after the commands `past`. -/
def GivesUp (link : Link) (past : List Call) (location : Location) : Prop :=
  link.GivesUp past (location.command link.config.threadGroup)
    (location.fallback? link.config.threadGroup)

/-- What inserting a breakpoint at a place comes to after the commands `past`. -/
def Insertion (link : Link) (live : List Call → Finset Nat) (past : List Call)
    (location : Location) : Option Snapshot → Option Snapshot → Prop :=
  DebugLink.Insertion link live past (location.command link.config.threadGroup)
    (location.fallback? link.config.threadGroup)

/-- Both commands insert a breakpoint. -/
theorem exists_place (location : Location) (group c : String)
    (h : c = location.command group ∨ location.fallback? group = some c) :
    ∃ place, c = "-break-insert " ++ place := by
  have byLine : ∀ (path : String) (n : Nat), ∃ place,
      s!"-break-insert --thread-group {group} -f {path}:{n}" = "-break-insert " ++ place := by
    intro path n
    refine ⟨"--thread-group " ++ group ++ " -f " ++ path ++ ":" ++ toString n, ?_⟩
    have first : "-break-insert --thread-group " = "-break-insert " ++ "--thread-group " := by
      decide
    simp only [toString, first, String.append_assoc]
  cases location with
  | line file fullPath n =>
    rcases h with rfl | h
    · exact byLine fullPath n
    · unfold fallback? at h
      dsimp only at h
      split at h
      · cases h
      · cases h
        exact byLine file n
  | function name =>
    rcases h with rfl | h
    · exact ⟨name, rfl⟩
    · cases h

end Breakpoint.Location

section Insert

variable {live : List Call → Finset Nat} {T L : Finset Nat} {tallies : List (Nat × Nat)}
  {link : Link} {w : World} (allots : link.peer.Allots live)

include allots

/-- **Inserting a breakpoint** at a place. -/
theorem insert_ends (h : w.Stands live T L tallies) (location : Location) :
    ∃ lost? kept? v, insert location link w = .ok kept? v ∧
      location.Insertion link live w.sent lost? kept? ∧
      v.Stands live (withNumber T kept?) (withNumber (withNumber L lost?) kept?) tallies ∧
      v.bound = w.bound ∧ link.Brought live w.sent v.sent kept? := by
  have asks : insert location link w =
      whilePaused (requestInsert (location.command link.config.threadGroup)
        (location.fallback? link.config.threadGroup)) link w := by
    cases location with
    | line file fullPath n => exact insert_line h.alive file fullPath n
    | function name => exact insert_function h.alive name
  obtain ⟨lost?, kept?, v, asked, insertion, stands, bound, brought⟩ :=
    requestInsert_ends allots h (location.exists_place link.config.threadGroup)
  refine ⟨lost?, kept?, v, ?_, insertion, stands, bound, brought⟩
  rw [asks, whilePaused_stopped h.stopped (attempt_ok asked) stands.settled]
  rfl

end Insert

end DebugLink
