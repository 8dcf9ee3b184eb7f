import DebugLink.Proofs.Obedience

/-!
# A gdb in the small

This gdb accepts every command and numbers its breakpoints by the commands that came before. A place
that is said to come later has no location.

* `numberingPeer`: what it answers.
* `allots_numberingPeer`: it gives each breakpoint a number of its own; `numbersAfter` are those
  that it has.
* `obeys_numberingPeer`: it does what it is told; `tableAfter` is what it has of each breakpoint.
-/

namespace DebugLink

open Act Breakpoint Record Text

/-! ## What it answers -/

/-- The number that a command deletes. -/
def deletedNumber? (command : String) : Option Nat :=
  (after? "-break-delete ".toList command.toList).bind readTrimmed32

/-- Whether a command inserts a breakpoint and there is a number left for it. -/
def isNumbered (past : List Call) (command : String) : Bool :=
  startsWith "-break-insert " command && past.length + 1 < limit32

/-- What is recorded of a breakpoint that was inserted: it has no location as long as its place is
said to come later. -/
def placeOf (command : String) : String :=
  if contains "later".toList command.toList then ";y;<PENDING>" else ";y;0x10;main;a.c;3;0"

/-- A gdb that accepts every command for which it has a number. -/
def numberingPeer : Peer where
  answer past command :=
    if isNumbered past command then
      .ok ("20;" ++ toString (past.length + 1) ++ placeOf command)
    else if startsWith "-break-insert " command then .ok Mi.errorAnswer
    else .ok (Mi.answer command (.ofResult "^done" []))

/-- The numbers that it has given and not taken back. -/
def numbersAfter : List Call → Finset Nat
  | [] => ∅
  | .submit _ :: past => numbersAfter past
  | .request command :: past =>
    if isNumbered past command then insert (past.length + 1) (numbersAfter past)
    else match deletedNumber? command with
      | some id => (numbersAfter past).erase id
      | none => numbersAfter past

/-- A number is given by length, so none passes the length of the history. -/
theorem le_of_mem_numbersAfter {past : List Call} {n : Nat} (h : n ∈ numbersAfter past) :
    n ≤ past.length := by
  induction past with
  | nil => exact absurd h (Finset.notMem_empty n)
  | cons call past ih =>
    -- a call that gives no number only makes the history longer
    have step : n ∈ numbersAfter past → n ≤ (call :: past).length := fun mem =>
      (ih mem).trans (Nat.le_succ _)
    cases call with
    | submit command => exact step h
    | request command =>
      unfold numbersAfter at h
      split at h
      · rcases Finset.mem_insert.1 h with rfl | mem
        · exact Nat.le_refl _
        · exact step mem
      · split at h
        · exact step (Finset.mem_of_mem_erase h)
        · exact step h

/-- No command about a breakpoint that there is inserts one. -/
theorem startsWith_insert_echoed (e : Echoed) (id : Nat) :
    startsWith "-break-insert " (e.command id) = false := by
  obtain ⟨verb, hv, -, rest, h⟩ := e.exists_verb id
  unfold Mi.editVerbs at hv
  simp only [List.mem_cons, List.not_mem_nil, or_false] at hv
  unfold startsWith
  rw [h]
  rcases hv with rfl | rfl | rfl | rfl | rfl <;> rfl

/-- No edit but a deletion takes a number away. -/
theorem deletedNumber?_echoed {e : Echoed} (other : e ≠ .delete) (id : Nat) :
    deletedNumber? (e.command id) = none := by
  obtain ⟨verb, hv, delete, rest, h⟩ := e.exists_verb id
  unfold Mi.editVerbs at hv
  simp only [List.mem_cons, List.not_mem_nil, or_false] at hv
  unfold deletedNumber? after?
  rw [h]
  rcases hv with rfl | rfl | rfl | rfl | rfl
  · exact absurd (delete rfl) other
  all_goals rfl

/-- A deletion takes away the number it names. -/
theorem deletedNumber?_delete {id : Nat} (small : id < limit32) :
    deletedNumber? (Echoed.delete.command id) = some id := by
  have left : after? "-break-delete ".toList (Echoed.delete.command id).toList =
      some (toString id).toList := by
    rw [Echoed.toList_delete]
    rfl
  unfold deletedNumber?
  rw [left, Option.bind_some, readTrimmed32_toString small]

theorem deletedNumber?_insert (place : String) :
    deletedNumber? ("-break-insert " ++ place) = none := by
  unfold deletedNumber?
  rw [String.toList_append]
  rfl

/-- The record of a breakpoint that was inserted. -/
theorem read_numbered {n : Nat} (small : n < limit32) (command : String) :
    startsWith "20" ("20;" ++ toString n ++ placeOf command) = true ∧ ∃ s : Snapshot,
      (s.id = n ∧ s.enabled = true ∧ s.hits = 0) ∧
        Notice.read ("20;" ++ toString n ++ placeOf command) = .ok (.inserted s) := by
  -- what follows the number is one of two texts
  have reads : ∀ (fields : List Char) (s : Snapshot), (∀ record,
      Notice.snapshot true ⟨record, ⟨2, 0⟩, ';', (toString n).toList ++ ';' :: fields⟩ =
        .ok s ⟨record, ⟨2, 0⟩, ';', []⟩) →
      Notice.read ("20;" ++ toString n ++ String.ofList (';' :: fields)) = .ok (.inserted s) := by
    intro fields s read
    have written : ("20;" ++ toString n ++ String.ofList (';' :: fields)).toList =
        '2' :: '0' :: ';' :: ((toString n).toList ++ ';' :: fields) := by
      simp only [String.toList_append, String.toList_ofList]
      rfl
    exact Notice.read_written written (show digit? 10 '0' = some 0 from rfl)
      ⟨_, Reading.bind_read (read _)⟩
  refine ⟨?_, ?_⟩
  · unfold startsWith
    simp only [String.toList_append]
    rfl
  unfold placeOf
  split
  · exact ⟨⟨n, true, .pending, unknownFunction, "", 0, 0, 0, ""⟩, ⟨rfl, rfl, rfl⟩,
      reads "y;<PENDING>".toList _ fun record =>
        (Reading.bind_read (Reading.numberField_written small _ "id")).trans rfl⟩
  · refine ⟨⟨n, true, .resolved 16, "main", "a.c", 3, 0, 0, ""⟩, ⟨rfl, rfl, rfl⟩,
      reads "y;0x10;main;a.c;3;0".toList _ fun record => ?_⟩
    refine (Reading.bind_read (Reading.numberField_written small _ "id")).trans ?_
    let place (hits : Nat) : Snapshot := ⟨n, true, .resolved 16, "main", "a.c", 3, hits, 0, ""⟩
    show (Reading.numberRest "hits" >>= fun hits => pure (place hits))
      ⟨record, ⟨2, 0⟩, ';', (toString 0).toList⟩ = _
    exact Reading.bind_read (Reading.numberRest_written (by decide) "hits")

/-- What the peer answers to an insertion for which it has a number. -/
theorem answer_numbered {past : List Call} {command : String}
    (numbered : isNumbered past command = true) : ∃ answer, ∃ s : Snapshot,
      numberingPeer.answer past command = .ok answer ∧ startsWith "20" answer = true ∧
      Notice.read answer = .ok (.inserted s) ∧
      s.id = past.length + 1 ∧ s.enabled = true ∧ s.hits = 0 := by
  have small : past.length + 1 < limit32 := by
    unfold isNumbered at numbered
    rw [Bool.and_eq_true] at numbered
    exact of_decide_eq_true numbered.2
  obtain ⟨tag, s, same, read⟩ := read_numbered small command
  exact ⟨_, s, if_pos numbered, tag, read, same⟩

theorem startsWith_insert (place : String) :
    startsWith "-break-insert " ("-break-insert " ++ place) = true := by
  simp [startsWith]

/-- What it answers to an insertion for which it has none. -/
theorem answer_spent {past : List Call} {place : String}
    (spent : isNumbered past ("-break-insert " ++ place) = false) :
    numberingPeer.answer past ("-break-insert " ++ place) = .ok Mi.errorAnswer := by
  show (if isNumbered past ("-break-insert " ++ place) then _ else _) = _
  rw [spent, if_neg Bool.false_ne_true, if_pos (startsWith_insert place)]

/-- What the peer answers to a command about a breakpoint that there is. -/
theorem answer_echoed (past : List Call) (e : Echoed) (id : Nat) :
    numberingPeer.answer past (e.command id) =
      .ok (Mi.answer (e.command id) (.ofResult "^done" [])) := by
  unfold numberingPeer isNumbered
  simp only [startsWith_insert_echoed, Bool.false_and, Bool.false_eq_true, if_false]

theorem numbersAfter_echoed (past : List Call) (e : Echoed) (id : Nat) :
    numbersAfter (.request (e.command id) :: past) = match deletedNumber? (e.command id) with
      | some id => (numbersAfter past).erase id
      | none => numbersAfter past := by
  rw [numbersAfter, isNumbered, startsWith_insert_echoed, Bool.false_and,
    if_neg Bool.false_ne_true]

/-- **This small gdb allots numbers as a gdb does**: it heeds edits, keeps what is not deleted and
gives a new number for each insertion it accepts. -/
theorem allots_numberingPeer : numberingPeer.Allots numbersAfter where
  heeds past id e other := by
    refine ⟨rfl, fun answer answered n read => ?_⟩
    cases (answer_echoed past e id).symm.trans answered
    exact Echoed.detail_of_answer other read
  same past id e other := by
    rw [numbersAfter_echoed, deletedNumber?_echoed other]
  quiet _ _ := rfl
  insert past place := by
    cases numbered : isNumbered past ("-break-insert " ++ place) with
    | true =>
      obtain ⟨answer, s, answered, tag, read, number, -⟩ := answer_numbered numbered
      refine ⟨answer, some s, answered, .accepted tag read ?_ ?_ ?_⟩
      · rw [number]
        exact Nat.succ_ne_zero _
      · intro mem
        -- the new number is larger than any there is
        have old := le_of_mem_numbersAfter mem
        omega
      · rw [number, numbersAfter, if_pos numbered]
    | false =>
      refine ⟨Mi.errorAnswer, none, answer_spent numbered, .refused ?_⟩
      rw [numbersAfter, numbered, if_neg Bool.false_ne_true, deletedNumber?_insert]
  delete past id one small := by
    refine .inr ⟨?_, ?_⟩
    · rw [answer_echoed, Echoed.answer_delete_done]
    · rw [numbersAfter_echoed, deletedNumber?_delete small]

/-! ## What it has of each breakpoint -/

/-- A notice about a detail leaves the numbers. -/
theorem Breakpoint.Notice.numbers_applied {n : Notice} (detail : n.isDetail = true) (t : Table) :
    (n.applied t).numbers = t.numbers := by
  cases n with
  | enabled id => exact t.numbers_markEnabled id true
  | disabled id => exact t.numbers_markEnabled id false
  | ignoreCount id count => exact t.numbers_modify id fun _ => rfl
  | condition id text => exact t.numbers_modify id fun _ => rfl
  | conditionError => rfl
  | unused => rfl
  | _ => cases detail

/-- Only a breakpoint that is there anew brings a number. -/
theorem Breakpoint.Notice.numbers_applied_subset {n : Notice} (inserted : ∀ s, n ≠ .inserted s)
    (modified : ∀ s, n ≠ .modified s) (t : Table) : (n.applied t).numbers ⊆ t.numbers := by
  by_cases detail : n.isDetail = true
  · rw [numbers_applied detail]
  · cases n with
    | inserted s => exact absurd rfl (inserted s)
    | modified s => exact absurd rfl (modified s)
    | deleted id =>
      intro k mem
      obtain ⟨s, found⟩ := Option.isSome_iff_exists.1 (Table.mem_numbers.1 mem)
      exact Table.mem_numbers.2 (Option.isSome_iff_exists.2 ⟨s, Table.find?_of_erase found⟩)
    | hit id file line thread => exact Finset.Subset.refl _
    | _ => exact absurd rfl detail

/-- The table after a command: what gdb answers is what it did. -/
def tableOn (past : List Call) (command : String) (t : Table) : Table :=
  match numberingPeer.answer past command with
  | .error _ => t
  | .ok answer =>
    match Notice.read answer with
    | .ok (.inserted s) => if isNumbered past command then t.insert s else t
    | .ok (.modified _) | .error _ => t
    | .ok notice => notice.applied t

/-- What the peer has of each breakpoint. -/
def tableAfter : List Call → Table
  | [] => {}
  | .submit _ :: past => tableAfter past
  | .request command :: past => tableOn past command (tableAfter past)

/-- An answer that only details a breakpoint leaves the numbers of the table. -/
theorem tableOn_of_detail {past : List Call} {command answer : String} {t : Table}
    (answered : numberingPeer.answer past command = .ok answer)
    (detail : ∀ n, Notice.read answer = .ok n → n.isDetail = true) :
    (tableOn past command t).numbers = t.numbers := by
  unfold tableOn
  rw [answered]
  dsimp only
  split
  · rename_i s read
    cases detail _ read
  · rfl
  · rfl
  · rename_i notice _ _ read
    exact Notice.numbers_applied (detail notice read) t

/-- An accepted edit does to the table what it was asked for. -/
theorem tableOn_echoed (past : List Call) {id : Nat} (small : id < limit32) (e : Echoed)
    (t : Table) : tableOn past (e.command id) t = e.applied id t := by
  have read := e.read_answer small (.ofResult "^done" [])
  rw [← Mi.answer_accepted _ isError_done] at read
  unfold tableOn
  rw [answer_echoed]
  dsimp only
  rw [read]
  cases e with
  | enable on => cases on <;> rfl
  | _ => rfl

/-- Every number was given for a command. -/
theorem le_of_mem_tableAfter {past : List Call} {n : Nat} (h : n ∈ (tableAfter past).numbers) :
    n ≤ past.length := by
  induction past with
  | nil => exact absurd h (Finset.notMem_empty n)
  | cons call past ih =>
    have step : n ∈ (tableAfter past).numbers → n ≤ (call :: past).length := fun mem =>
      (ih mem).trans (Nat.le_succ _)
    cases call with
    | submit command => exact step h
    | request command =>
      unfold tableAfter tableOn at h
      split at h
      · exact step h
      · rename_i answer answered
        split at h
        · rename_i s read
          split at h
          · rename_i numbered
            -- the one step that adds a number adds the length of the history
            obtain ⟨answer', s', answered', -, read', number, -⟩ := answer_numbered numbered
            cases answered.symm.trans answered'
            cases read.symm.trans read'
            rw [Table.numbers_insert, number] at h
            rcases Finset.mem_insert.1 h with rfl | mem
            · exact Nat.le_refl _
            · exact step mem
          · exact step h
        · exact step h
        · exact step h
        · rename_i notice inserted modified _
          exact step (Notice.numbers_applied_subset inserted modified _ h)

/-- **It obeys**: its table after any history is the one that its answers tell. -/
theorem obeys_numberingPeer : numberingPeer.Obeys tableAfter where
  heeds := allots_numberingPeer.heeds
  same past id e other :=
    tableOn_of_detail (answer_echoed past e id) fun _ => Echoed.detail_of_answer other
  quiet _ _ := rfl
  edit past id e small := ⟨answer_echoed past e id, tableOn_echoed past small e _⟩
  insert past place := by
    cases numbered : isNumbered past ("-break-insert " ++ place) with
    | true =>
      obtain ⟨answer, s, answered, tag, read, number, fresh⟩ := answer_numbered numbered
      -- the table gets what the answer shows
      have now : tableAfter (.request ("-break-insert " ++ place) :: past) =
          (tableAfter past).insert s := by
        show tableOn past ("-break-insert " ++ place) (tableAfter past) = _
        unfold tableOn
        rw [answered]
        dsimp only
        rw [read]
        exact if_pos numbered
      refine ⟨answer, some s, answered, .accepted tag read ?_ ?_ ?_, ?_⟩
      · rw [number]
        exact Nat.succ_ne_zero _
      · intro mem
        have old := le_of_mem_tableAfter mem
        omega
      · rw [now, Table.numbers_insert]
      · rintro s' same
        cases same
        exact ⟨fresh.1, fresh.2, now⟩
    | false =>
      have unread : ∀ n, Notice.read Mi.errorAnswer = .ok n → n.isDetail = true := nofun
      exact ⟨Mi.errorAnswer, none, answer_spent numbered,
        .refused (tableOn_of_detail (answer_spent numbered) unread), nofun⟩

/-- It has room for as long as the history fits in a word. -/
theorem hasRoom_numberingPeer {config : Config} {depth : Nat} {sent : List Call}
    (few : sent.length + 3 < limit32) :
    (Link.within numberingPeer config depth).HasRoom sent := by
  intro past place _ bound refused
  have numbered : isNumbered past ("-break-insert " ++ place) = true := by
    simp only [isNumbered, startsWith_insert, Bool.true_and, decide_eq_true_eq]
    omega
  obtain ⟨answer, s, answered, tag, -⟩ := answer_numbered numbered
  unfold Link.Refuses at refused
  rw [Link.within_peer, answered] at refused
  cases refused
  cases tag

end DebugLink
