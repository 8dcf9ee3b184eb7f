import DebugLink.Proofs.Answer
import DebugLink.Proofs.Lifetime

/-!
# Records that do not count as gdb's interrupts

gdb says in a record of its own that it was interrupted. What any other record does, and what it
leads to, has no part in the count of those, and does not have the host told that gdb is lost.

* `interruptsOf`: the count as it can be read off the records.
* `reportsQuit_iff`: which records say that gdb was interrupted.
* `Tally`, `tally_handleRecord`: no other record counts, or has the host told that gdb is lost.
-/

namespace DebugLink

open Act Pairing Record Text

/-! ## Records -/

/-- Whether a record says that gdb was interrupted. -/
def reportsQuit (record : String) : Bool :=
  startsWith "50" record && (Execution.Notice.read record).toBool

/-- Whether a record has room for a tag. What has none is passed over. -/
def hasTag (record : String) : Bool := 1 < utf8Length record.toList

/-- **The interrupts in a row** at the end of some records: those after the last record that says
nothing of gdb itself. -/
def interruptsOf (records : List String) : Nat :=
  ((records.filter hasTag).reverse.takeWhile keepsQuits).countP reportsQuit

/-- The tag of a finished interrupt is read off the two characters the counter looks for. -/
theorem startsWith_of_tag {record : String} (h : Tag.read record = .ok ⟨5, 0⟩) :
    startsWith "50" record = true := by
  obtain ⟨c, d, rest, e, category, kind⟩ := Tag.read_eq_ok_iff.1 h
  have five : c = '5' := Char.toNat_inj.1 (eq_of_digit? category)
  have zero : d = '0' := Char.toNat_inj.1 (eq_of_digit? kind)
  unfold startsWith
  rw [e, five, zero]
  rfl

/-- The tag of a record that starts with its digits, if it can be read at all. -/
theorem tag_of_startsWith {record : String} (h : startsWith "50" record = true) :
    Tag.read record = .ok ⟨5, 0⟩ := by
  obtain ⟨rest, e⟩ := List.isPrefixOf_iff_prefix.1 h
  exact Tag.read_eq_ok_iff.2 ⟨'5', '0', rest, e.symm, rfl, rfl⟩

/-- A record of any other tag says something else. -/
theorem quit_reading {c d : Cursor} (h : Execution.Notice.reading c = .ok .quit d) :
    c.tag = ⟨5, 0⟩ := by
  have looked : ∀ {next : Cursor → Reading Execution.Notice}, (get >>= next) c = next c c := rfl
  refine Classical.byContradiction fun different => ?_
  unfold Execution.Notice.reading at h
  rw [looked] at h
  refine (?_ : Reading.Gives (fun n => n ≠ Execution.Notice.quit) _) c .quit d h rfl
  split
  case h_12 category kind =>
    have tag : c.tag = ⟨c.tag.category, c.tag.kind⟩ := rfl
    rw [category, kind] at tag
    exact absurd tag different
  -- with any other tag, what is given in the end is another notice
  all_goals repeat' (first | exact .pure (by simp) | refine .bind fun _ => ?_)

/-- **The records that say that gdb was interrupted** are those that are read so. -/
theorem reportsQuit_iff (record : String) :
    reportsQuit record = true ↔ Execution.Notice.read record = .ok .quit := by
  constructor
  · intro h
    obtain ⟨starts, isRead⟩ := Bool.and_eq_true_iff.1 h
    cases hr : Execution.Notice.read record with
    | error defect =>
      rw [hr] at isRead
      cases isRead
    | ok notice =>
      obtain ⟨c, d, start, given⟩ := Reading.of_run hr
      have tag : c.tag = ⟨5, 0⟩ :=
        Except.ok.inj ((tag_of_start start).symm.trans (tag_of_startsWith starts))
      have looked : ∀ {next : Cursor → Reading Execution.Notice}, (get >>= next) c = next c c :=
        rfl
      unfold Execution.Notice.reading at given
      rw [looked, tag] at given
      cases given
      rfl
  · intro h
    obtain ⟨c, d, start, given⟩ := Reading.of_run h
    -- the test looks at two characters, the reader at the tag: each settles the other
    have tag : Tag.read record = .ok ⟨5, 0⟩ := by
      rw [tag_of_start start, quit_reading given]
    exact Bool.and_eq_true_iff.2 ⟨startsWith_of_tag tag, by rw [h]; rfl⟩

theorem keepsQuits_of_reportsQuit {record : String} (h : reportsQuit record = true) :
    keepsQuits record = true := by
  unfold keepsQuits
  rw [(Bool.and_eq_true_iff.1 h).1]
  rfl

/-- Such a record is about execution. -/
theorem topic_of_reportsQuit {record : String} (h : reportsQuit record = true) :
    Topic.ofRecord record = .execution := by
  obtain ⟨rest, e⟩ := List.isPrefixOf_iff_prefix.1 (Bool.and_eq_true_iff.1 h).1
  unfold Topic.ofRecord
  rw [← e]
  rfl

theorem interruptsOf_passed {records : List String} {record : String} (h : hasTag record = false) :
    interruptsOf (records ++ [record]) = interruptsOf records := by
  unfold interruptsOf
  rw [List.filter_append, List.filter_cons_of_neg (by simp [h]), List.filter_nil, List.append_nil]

/-- **One record more.** -/
theorem interruptsOf_append {records : List String} {record : String} (h : hasTag record = true) :
    interruptsOf (records ++ [record]) =
      if keepsQuits record then interruptsOf records + (if reportsQuit record then 1 else 0)
      else 0 := by
  unfold interruptsOf
  rw [List.filter_append, List.filter_cons_of_pos h, List.filter_nil, List.reverse_append,
    List.reverse_singleton, List.singleton_append, List.takeWhile_cons]
  by_cases keeps : keepsQuits record = true
  · rw [if_pos keeps, if_pos keeps, List.countP_cons]
  · rw [if_neg keeps, if_neg keeps]
    rfl

/-! ## What does not count -/

/-- How often the host was told that gdb is lost. -/
def World.lossesTold (w : World) : Nat := w.calls.count .gdbLost

/-- Whether an event is a delivery before a call returned. -/
def Event.isDelivered : Event → Bool
  | delivered _ => true
  | _ => false

/-- How often something was delivered before a call returned. -/
def World.interjections (w : World) : Nat := w.events.countP Event.isDelivered

/-- The count of gdb's interrupts and what the host was told of gdb being lost, unless more was
delivered before a call returned. -/
structure Tally (k quits losses : Nat) (w : World) : Prop where
  least : k ≤ w.interjections
  same : w.interjections = k → w.session.quits = quits ∧ w.lossesTold = losses

theorem Change.apply_quits {c : Change} (h : c.isCount = false) (s : Session) :
    (c.apply s).quits = s.quits := by
  cases c with
  | quits n => cases h
  | woken => rw [woken_apply]
  | _ => rfl

namespace Tally

variable {k quits losses : Nat} {w v : World}

/-- Only the count itself and the events matter. -/
theorem congr (h : Tally k quits losses w) (count : v.session.quits = w.session.quits)
    (events : v.events = w.events) : Tally k quits losses v := by
  have told : v.lossesTold = w.lossesTold := by
    unfold World.lossesTold World.calls
    rw [events]
  have nested : v.interjections = w.interjections := by
    unfold World.interjections
    rw [events]
  refine ⟨by rw [nested]; exact h.least, fun none => ?_⟩
  rw [count, told]
  exact h.same (nested.symm.trans none)

/-- Something else happened. -/
theorem note (h : Tally k quits losses w) {e : Event} (other : e.call? ≠ some .gdbLost) :
    Tally k quits losses { w with events := e :: w.events } := by
  have told : ({ w with events := e :: w.events } : World).lossesTold = w.lossesTold := by
    unfold World.lossesTold World.calls
    rw [List.filterMap_cons]
    split
    · rfl
    · rename_i call is
      exact List.count_cons_of_ne fun same => other (is.trans (congrArg some same))
  have grows : w.interjections ≤ ({ w with events := e :: w.events } : World).interjections :=
    (List.sublist_cons_self e w.events).countP_le
  refine ⟨Nat.le_trans h.least grows, fun none => ?_⟩
  rw [told]
  exact h.same (Nat.le_antisymm (none ▸ grows) h.least)

theorem notes (h : Tally k quits losses w) {new : List Event}
    (others : ∀ e ∈ new, e.call? ≠ some .gdbLost) :
    Tally k quits losses { w with events := new ++ w.events } := by
  induction new with
  | nil => exact h
  | cons e new ih =>
    exact (ih fun e he => others e (List.mem_cons_of_mem _ he)).note (others e List.mem_cons_self)

/-- When more was delivered, nothing is said any more. -/
theorem interjected (more : k < w.interjections) : Tally k quits losses w :=
  ⟨Nat.le_of_lt more, fun none => absurd none (by omega)⟩

end Tally

/-- Only the record of a finished interrupt counts, and only the storm's end reports a loss: every
other step keeps both numbers. -/
theorem tally_lenient (k quits losses : Nat) : Lenient (Tally k quits losses) where
  change c hc w h := h.congr (c.apply_quits hc w.session) rfl
  rebind _ _ h := h.congr rfl rfl
  note e he _ h := h.note (by cases e <;> simp_all [Event.call?, Event.isRemark])
  request _ _ h := h.congr rfl rfl
  flag _ _ h := h.congr rfl rfl
  gate _ _ h := h.congr rfl rfl
  await _ h := h.congr rfl rfl
  send _ _ h := h.congr rfl rfl

/-- The session's end leaves the count and tells the host of no loss. -/
theorem tally_finish (k quits losses code : Nat) (link : Link) :
    (finish code).Keeps (Tally k quits losses) link := by
  intro w h
  cases ha : w.session.alive with
  | false =>
    rw [after_of_ok (finish_dead ha code)]
    exact h
  | true =>
    obtain ⟨notes, logged, e⟩ := finish_alive link ha code
    let ending : List Event := notes ++ [.closed, .told (.sessionEnded code) w.session.ended,
      .logged .info s!"debug session ended with exit code {code}"]
    -- the lines about the end are no loss that is told
    have others : ∀ e ∈ ending, e.call? ≠ some .gdbLost := by
      intro e he
      rcases List.mem_append.1 he with he | he
      · obtain ⟨level, text, rfl⟩ := logged e he
        simp [Event.call?]
      · simp only [List.mem_cons, List.not_mem_nil, or_false] at he
        rcases he with rfl | rfl | rfl <;> simp [Event.call?, HostCall.gdbLost]
    have ended : Tally k quits losses { w with session := w.session.ended } := h.congr rfl rfl
    have told := ended.notes others
    rw [after_of_ok e]
    rwa [List.append_assoc] at told

/-- What was delivered before a call returned stays in the record of a session. -/
theorem interjections_invariant (peer : Peer) (config : Config) (k : Nat) :
    Invariant peer config fun w => k ≤ w.interjections := by
  have grows : ∀ (e : Event) (w : World), k ≤ w.interjections →
      k ≤ ({ w with events := e :: w.events } : World).interjections := fun e w h =>
    Nat.le_trans h (List.sublist_cons_self e w.events).countP_le
  have pliant : Pliant fun w : World => k ≤ w.interjections :=
    { session := fun _ _ h => h
      rebind := fun _ _ h => h
      note := fun e _ => grows e
      send := fun _ _ h => h }
  refine pliant.invariant (fun _ _ w => grows _ w) fun code depth w h => ?_
  exact ((tally_finish k w.session.quits w.lossesTold code _) w ⟨h, fun _ => ⟨rfl, rfl⟩⟩).least

theorem World.interjections_delivered (w : World) (delivery : String) :
    ({ w with events := .delivered delivery :: w.events } : World).interjections =
      w.interjections + 1 := List.countP_cons_of_pos rfl

section Within

variable (peer : Peer) (config : Config) (k quits losses : Nat) (depth : Nat)

/-- Once something is delivered before a call returns, nothing is said any more. -/
theorem tally_react (past : List Call) (call : Call) :
    (react past call).Keeps (Tally k quits losses) (.within peer config depth) := by
  refine .read (.forM fun delivery _ w h => ?_)
  have nested := ((interjections_invariant peer config (k + 1)).nested depth).deliver delivery
  refine Tally.interjected (lockstep_diag_iff.1 nested { w with
    events := .delivered delivery :: w.events } ?_)
  rw [World.interjections_delivered]
  exact Nat.succ_le_succ h.least

variable {peer config k quits losses depth} in
/-- Every other kind of news keeps the count and the losses told, whatever a hit inside it does. -/
theorem tally_news
    (hit : ∀ id file line thread, Keeps (Tally k quits losses) (.within peer config depth)
      (fun link => link.hit id file line thread : Act Unit)) :
    (diag (.within peer config depth) (Tally k quits losses)).News where
  toGround := (tally_lenient k quits losses).ground (fun past command =>
      tally_react peer config k quits losses depth past (.request command))
    ((tally_lenient k quits losses).resume (tally_react peer config k quits losses depth))
    (fun code => tally_finish k quits losses code _) hit
  pass call routine _ := lockstep_diag_iff.2 fun w h => h.note <| by
    intro told
    cases told
    simp [HostCall.isRoutine, HostCall.gdbLost] at routine
  stop call stop := lockstep_diag_iff.2 fun w h => h.note <| by
    intro told
    cases told
    cases stop

variable {peer config k quits losses depth} in
theorem tally_edits
    (hit : ∀ id file line thread, Keeps (Tally k quits losses) (.within peer config depth)
      (fun link => link.hit id file line thread : Act Unit))
    (recount : ∀ id hits, Keeps (Tally k quits losses) (.within peer config depth)
      (fun link => link.recount id hits : Act Unit)) :
    (diag (.within peer config depth) (Tally k quits losses)).EditGround :=
  (tally_news hit).toGround.editGround (tally_lenient k quits losses).flag
    ((tally_lenient k quits losses).interrupt (tally_react peer config k quits losses depth))
    recount

/-- What is nested in a call neither counts nor gives gdb up, unless it is a delivery. -/
theorem tally_below :
    (∀ id file line thread, Keeps (Tally k quits losses) (.within peer config depth)
        (fun link => link.hit id file line thread : Act Unit)) ∧
      ∀ id hits, Keeps (Tally k quits losses) (.within peer config depth)
        (fun link => link.recount id hits : Act Unit) := by
  induction depth with
  | zero => exact ⟨fun _ _ _ _ _ h => h, fun _ _ _ h => h⟩
  | succ depth ih =>
    obtain ⟨hit, recount⟩ := ih
    have edits := tally_edits hit recount
    -- a nested call is the operation itself over the link below
    constructor
    · intro id file line thread w h
      have judged := (tally_news hit).handleHit edits.stopAtHit id file line thread
      exact lockstep_diag_iff.1 judged w h
    · intro id hits w h
      exact lockstep_diag_iff.1 (edits.updateHitCount id hits) w h

variable {record : String}

/-- **A record that reports no interrupt** neither counts nor gives gdb up, whatever it leads to. -/
theorem tally_handleRecord (other : reportsQuit record = false) :
    (handleRecord record).Keeps (Tally k quits losses) (.within peer config depth) := by
  obtain ⟨hit, recount⟩ := tally_below peer config k quits losses depth
  have news := tally_news hit
  have edits := tally_edits hit recount
  refine lockstep_diag_iff.1 ?_
  unfold handleRecord
  split
  · exact (edits.handleBreakpoint record).discard
  · refine (news.handleExecution fun read => ?_).discard
    rw [(reportsQuit_iff record).2 read] at other
    cases other
  · exact (news.handleOutput record).discard
  · exact .pure _

/-- What was counted before a record that reports no interrupt is counted after it, or forgotten. -/
theorem receive_other (other : reportsQuit record = false) (w : World) :
    let v := (receive record).after (.within peer config depth) w
    w.interjections ≤ v.interjections ∧ (v.interjections = w.interjections →
      v.session.quits = (if keepsQuits record then w.session.quits else 0) ∧
        v.lossesTold = w.lossesTold) := by
  intro v
  let q := if keepsQuits record then w.session.quits else 0
  have starts : Tally w.interjections q w.lossesTold (w.receiving record) := by
    unfold World.receiving q
    split
    · exact ⟨Nat.le_refl _, fun _ => ⟨rfl, rfl⟩⟩
    · exact ⟨Nat.le_refl _, fun _ => ⟨rfl, rfl⟩⟩
  have handled : (attempt (handleRecord record) >>= logDropped record).Keeps
      (Tally w.interjections q w.lossesTold) (.within peer config depth) := by
    refine (tally_handleRecord peer config _ q _ depth other).attempt.bind fun outcome => ?_
    cases outcome with
    | ok _ => exact .pure _
    | error cause => exact (tally_lenient _ _ _).note _ rfl
  have ends : Tally w.interjections q w.lossesTold v := by
    show Tally _ q _ ((receive record).after _ w)
    rw [after_congr (receive_apply record (.within peer config depth) w)]
    exact handled _ starts
  exact ⟨ends.least, ends.same⟩

end Within

end DebugLink
