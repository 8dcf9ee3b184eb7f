import DebugLink.Proofs.Judgement
import DebugLink.Proofs.Lifetime
import DebugLink.Proofs.Written
import DebugLink.Session.Scripted
import Mathlib.Data.List.DropRight
import Mathlib.Data.List.Forall2

/-!
# The table of breakpoints as a log

What the table holds of a breakpoint can be read off the records that were handled, field by field:
a record that gives a whole snapshot replaces what was known, and after it each field is what was
said of it last.

* `Notice.applied`: what a record does to the table.
* `receiveAlive_notedIn`, `forM_notedIn`: so a record and a run of records do, and no more that
  matters here.
* `Logged`, `LoggedIn`: what the log says of an entry, and of a table.
* `logged_applied`, `logged_foldl`: each record and each run of records keep the table so.
* `table_reads_log`: the table after any run.
-/

namespace DebugLink

open Act Breakpoint Record Reading

namespace Breakpoint.Notice

/-- The table after a notice. -/
def applied (t : Table) : Notice → Table
  | inserted s | modified s => t.insert s
  | deleted id => t.erase id
  | enabled id => t.markEnabled id true
  | disabled id => t.markEnabled id false
  | ignoreCount id count => t.modify id fun s => { s with ignoreCount := count }
  | condition id text => t.modify id fun s => { s with condition := text }
  | hit _ _ _ _ | conditionError | unused => t

/-- The snapshot that a notice gives of a breakpoint. -/
def snapshotOf? (id : Nat) : Notice → Option Snapshot
  | inserted s | modified s => if s.id = id then some s else none
  | _ => none

/-- The condition that a notice gives a breakpoint. -/
def conditionOf? (id : Nat) : Notice → Option String
  | condition k text => if k = id then some text else none
  | _ => none

/-- What a notice says of whether a breakpoint is enabled, to it alone or to all of them. -/
def enabledOf? (id : Nat) : Notice → Option Bool
  | inserted s | modified s => if s.id = id then some s.enabled else none
  | enabled k => if k = allBreakpoints ∨ id = k then some true else none
  | disabled k => if k = allBreakpoints ∨ id = k then some false else none
  | _ => none

end Breakpoint.Notice

/-! ## Records without bound breakpoints -/

/-- **What is shown changed**, and nothing else: where threads stand. -/
structure World.Shown (w v : World) : Prop where
  session : v.session =
    { w.session with
      threadsDirty := v.session.threadsDirty
      phase := v.session.phase
      thread := v.session.thread
      document := v.session.document }
  bound : v.bound = w.bound

namespace World.Shown

variable {u v w : World}

theorem trans (h : u.Shown v) (k : v.Shown w) : u.Shown w := by
  refine ⟨?_, k.bound.trans h.bound⟩
  rw [k.session, h.session]

end World.Shown

/-- A step that gives a value and changes what is shown. -/
def Shows (act : Act Unit) (link : Link) : Prop := ∀ w, ∃ v, act link w = .ok () v ∧ w.Shown v

namespace Shows

variable {link : Link}

theorem pure : Shows (Pure.pure ()) link := fun w => ⟨w, rfl, rfl, rfl⟩

/-- Two shows in a row are one. -/
theorem bind {act : Act Unit} {next : Unit → Act Unit} (first : Shows act link)
    (second : Shows (next ()) link) : Shows (act >>= next) link := by
  intro w
  obtain ⟨u, e, shown⟩ := first w
  obtain ⟨v, e', shown'⟩ := second u
  exact ⟨v, (bind_ok e next).trans e', shown.trans shown'⟩

theorem tell (call : HostCall) : Shows (tell call) link := fun _ => ⟨_, rfl, rfl, rfl⟩

/-- The list of threads is told without a look at the table. -/
theorem refreshThreads : Shows refreshThreads link := by
  intro w
  unfold Act.refreshThreads
  rw [look_apply, update_apply]
  split
  · exact ⟨_, rfl, rfl, rfl⟩
  · exact ⟨_, rfl, rfl, rfl⟩

theorem publishLocation (file : String) (line : Nat) : Shows (publishLocation file line) link :=
  fun _ => ⟨_, rfl, rfl, rfl⟩

/-- A completed step leaves the table. -/
theorem completeStep (file : String) (line : Nat) : Shows (completeStep file line) link := by
  intro w
  unfold Act.completeStep
  rw [look_apply]
  split
  · exact ⟨_, rfl, rfl, rfl⟩
  · exact ⟨_, rfl, rfl, rfl⟩

theorem showHit (file : String) (line thread : Nat) : Shows (showHit file line thread) link := by
  have outdated : Shows outdate link := (tell _).bind ((tell _).bind refreshThreads)
  exact outdated.bind ((tell _).bind fun _ => ⟨_, rfl, rfl, rfl⟩)

end Shows

section Unbound

variable {link : Link} {w : World} (unbound : w.bound = [])

include unbound

/-- **A hit of a breakpoint that is not bound** is shown. -/
theorem handleHit_shown (id : Nat) (file : String) (line thread : Nat) :
    ∃ v, handleHit id file line thread link w = .ok () v ∧ w.Shown v := by
  obtain ⟨u, first, shown⟩ := (Shows.showHit file line thread : Shows _ link) w
  rw [handleHit_eq, bind_ok first, look_apply]
  split
  · obtain ⟨v, completed, shown'⟩ := (Shows.completeStep file line : Shows _ link) u
    exact ⟨v, completed, shown.trans shown'⟩
  · obtain ⟨v, published, shown'⟩ := (Shows.publishLocation file line : Shows _ link) u
    have free : v.bound.findIdx? (·.gdbId == id) = none := by
      rw [shown'.bound, shown.bound, unbound]
      rfl
    refine ⟨v, ?_, shown.trans shown'⟩
    rw [bind_ok published, judgeHit_unbound free]

end Unbound

/-- **A notice was noted in the table**: breakpoints are bound as before, and the session has not
ended by it. -/
structure World.NotedIn (n : Notice) (w v : World) : Prop where
  alive : v.session.alive = w.session.alive
  bound : v.bound = w.bound
  table : v.session.table = n.applied w.session.table

section Within

variable (peer : Peer) (config : Config) (depth : Nat) {w : World} (unbound : w.bound = [])

include unbound

/-- A hit changes nothing in the table. -/
theorem applyNotice_hit (id : Nat) (file : String) (line thread : Nat) :
    let hit := Notice.hit id file line thread
    ∃ v, applyNotice hit (.within peer config (depth + 1)) w = .ok () v ∧ w.NotedIn hit v := by
  cases free : w.session.conditionUpdate.isFree with
  | false => exact ⟨w, applyHit_dropped free id file line thread _, rfl, rfl, rfl⟩
  | true =>
    let x : World :=
      { w with session := { w.session with conditionUpdate := ⟨false⟩ } }
    let link := Link.within peer config depth
    obtain ⟨v, handled, shown⟩ : ∃ v, handleHit id file line thread link x = .ok () v ∧
      x.Shown v := handleHit_shown (w := x) unbound id file line thread
    have deeper : attempt (fun link => link.hit id file line thread)
        (.within peer config (depth + 1)) x = .ok (.ok ()) v := attempt_ok handled
    refine ⟨{ v with session := { v.session with conditionUpdate := ⟨true⟩ } }, ?_, ?_⟩
    · rw [applyHit_taken free, bind_ok deeper]
      rfl
    · refine ⟨?_, shown.bound, ?_⟩
      · show v.session.alive = w.session.alive
        rw [shown.session]
      · show v.session.table = w.session.table
        rw [shown.session]

/-- A notice is applied to the table. -/
theorem applyNotice_notedIn (notice : Notice) :
    ∃ v, applyNotice notice (.within peer config (depth + 1)) w = .ok () v ∧
      w.NotedIn notice v := by
  cases notice with
  | inserted snapshot => exact ⟨_, applyNotice_inserted snapshot _ w, rfl, rfl, rfl⟩
  | modified snapshot =>
    let y : World :=
      { w with session :=
        { w.session with
          unknownCode := snapshot.function == Record.unknownFunction
          table := w.session.table.insert snapshot } }
    -- no bound breakpoint has the number, so the count of hits goes nowhere
    have counted : updateHitCount snapshot.id snapshot.hits (.within peer config depth) y =
        .ok () y := by
      have looked : findBound? snapshot.id (.within peer config depth) y = .ok none y := by
        show EStateM.Result.ok (w.bound.findIdx? (·.gdbId == snapshot.id)) y = _
        rw [unbound]
        rfl
      unfold updateHitCount
      rw [bind_ok looked]
      rfl
    exact ⟨y, counted, rfl, rfl, rfl⟩
  | hit id file line thread => exact applyNotice_hit peer config depth unbound id file line thread
  | _ => exact ⟨_, rfl, rfl, rfl, rfl⟩

/-- **One record** is applied to the table. -/
theorem receiveAlive_notedIn {record : String} {notice : Notice} (h : Announces record notice)
    (alive : w.session.alive = true) :
    ∃ v, receiveAlive record (.within peer config (depth + 1)) w = .ok () v ∧
      w.NotedIn notice v := by
  -- what announces a notice has room for a tag, so it is not skipped
  have long : w.session.alive && decide (1 < Text.utf8Length record.toList) := by
    rw [alive, decide_eq_true (Notice.one_lt_of_read h.read)]
    rfl
  have before : (w.receiving record).bound = w.bound ∧
      (w.receiving record).session.alive = w.session.alive ∧
      (w.receiving record).session.table = w.session.table := by
    unfold World.receiving
    split
    · exact ⟨rfl, rfl, rfl⟩
    · exact ⟨rfl, rfl, rfl⟩
  obtain ⟨v, applied, noted⟩ :=
    applyNotice_notedIn peer config depth (before.1.trans unbound) notice
  have handled : handleRecord record (.within peer config (depth + 1)) (w.receiving record) =
      .ok () v := by
    unfold handleRecord
    rw [h.topic]
    dsimp only
    unfold handleBreakpoint
    rw [h.read, discard_eq_bind]
    dsimp only
    rw [bind_assoc, bind_ok applied]
    rfl
  refine ⟨v, ?_, noted.alive.trans before.2.1, noted.bound.trans before.1, ?_⟩
  · show (if w.session.alive && decide (1 < Text.utf8Length record.toList) then receive record
      else pure () : Act Unit) _ w = _
    rw [if_pos long, receive_apply, bind_ok (attempt_ok handled)]
    rfl
  · rw [noted.table, before.2.2]

/-- **A run of records** is applied to the table, one after the other. -/
theorem forM_notedIn {records : List String} {notices : List Notice}
    (announced : List.Forall₂ Announces records notices) (alive : w.session.alive = true) :
    ∃ v, (records.forM receiveAlive : Act PUnit) (.within peer config (depth + 1)) w = .ok () v ∧
      v.session.table = notices.foldl Notice.applied w.session.table := by
  induction announced generalizing w with
  | nil => exact ⟨w, rfl, rfl⟩
  | cons h later ih =>
    obtain ⟨u, first, noted⟩ := receiveAlive_notedIn peer config depth unbound h alive
    obtain ⟨v, rest, table⟩ := ih (noted.bound.trans unbound) (noted.alive.trans alive)
    refine ⟨v, (bind_ok first _).trans rest, ?_⟩
    rw [table, noted.table]
    rfl

end Within

/-- Each notice of a sequence stands in a record of its own. -/
theorem announced_of_mem {records : List String} {notices : List Notice}
    (announced : List.Forall₂ Announces records notices) {n : Notice} (mem : n ∈ notices) :
    ∃ record, Announces record n := by
  induction announced with
  | nil => cases mem
  | cons h later ih =>
    rcases List.mem_cons.1 mem with rfl | mem
    · exact ⟨_, h⟩
    · exact ih mem

/-! ## The log of an entry -/

/-- What was said last is what the last one said, or what was said before. -/
theorem getLast?_filterMap_snoc {α β : Type} (f : α → Option β) (l : List α) (a : α) :
    ((l ++ [a]).filterMap f).getLast? = (f a).or (l.filterMap f).getLast? := by
  rw [List.filterMap_append]
  cases said : f a with
  | none => simp [said]
  | some b => simp [said]

/-- What was said since the last snapshot of a breakpoint. -/
def sinceSnapshot (id : Nat) (notices : List Notice) : List Notice :=
  notices.rtakeWhile fun n => (n.snapshotOf? id).isNone

/-- **An entry as the log says**: there was a snapshot of its breakpoint, the condition is the one
given last since then, and it is enabled or not as was said last. -/
structure Logged (id : Nat) (notices : List Notice) (s : Snapshot) : Prop where
  given : ∃ n ∈ notices, (n.snapshotOf? id).isSome
  condition : s.condition =
    ((sinceSnapshot id notices).filterMap (·.conditionOf? id)).getLast?.getD ""
  enabled : (notices.filterMap (·.enabledOf? id)).getLast? = some s.enabled

namespace Logged

variable {id : Nat} {notices : List Notice} {s s' : Snapshot} {n : Notice}

/-- A snapshot without a condition starts the log anew. -/
theorem of_snapshot (given : n.snapshotOf? id = some s) (enabled : n.enabledOf? id = some s.enabled)
    (blank : s.condition = "") : Logged id (notices ++ [n]) s := by
  refine ⟨⟨n, List.mem_append_right _ List.mem_cons_self, by rw [given]; rfl⟩, ?_, ?_⟩
  · unfold sinceSnapshot
    rw [List.rtakeWhile_concat, given, if_neg (by simp), blank]
    rfl
  · rw [getLast?_filterMap_snoc, enabled]
    rfl

/-- Any other notice says something of one field, or nothing. -/
theorem snoc (h : Logged id notices s) (other : n.snapshotOf? id = none)
    (condition : s'.condition = (n.conditionOf? id).getD s.condition)
    (enabled : s'.enabled = (n.enabledOf? id).getD s.enabled) : Logged id (notices ++ [n]) s' := by
  obtain ⟨first, mem, given⟩ := h.given
  refine ⟨⟨first, List.mem_append_left _ mem, given⟩, ?_, ?_⟩
  · have since : sinceSnapshot id (notices ++ [n]) = sinceSnapshot id notices ++ [n] := by
      unfold sinceSnapshot
      rw [List.rtakeWhile_concat, if_pos (by rw [other]; rfl)]
    rw [since, getLast?_filterMap_snoc, condition, h.condition]
    cases n.conditionOf? id <;> rfl
  · rw [getLast?_filterMap_snoc, h.enabled, enabled]
    cases n.enabledOf? id <;> rfl

end Logged

/-- **A table as the log says** of one number: if it has an entry, that is as the log says. -/
def LoggedIn (id : Nat) (notices : List Notice) (t : Table) : Prop :=
  ∀ s, t.find? id = some s → Logged id notices s

namespace LoggedIn

variable {id : Nat} {notices : List Notice} {t t' : Table} {n : Notice}

/-- A notice that says nothing of an entry, and at most removes it. -/
theorem silent (h : LoggedIn id notices t) (fewer : ∀ s, t'.find? id = some s → t.find? id = some s)
    (other : n.snapshotOf? id = none) (condition : n.conditionOf? id = none)
    (enabled : n.enabledOf? id = none) : LoggedIn id (notices ++ [n]) t' := fun s found =>
  (h s (fewer s found)).snoc other (by rw [condition]; rfl) (by rw [enabled]; rfl)

/-- A notice that changes a field of some entries. -/
theorem changed (h : LoggedIn id notices t) {p : Prop} [Decidable p] {f : Snapshot → Snapshot}
    (entry : t'.find? id = if p then (t.find? id).map f else t.find? id)
    (other : n.snapshotOf? id = none)
    (condition : ∀ s, (if p then f s else s).condition = (n.conditionOf? id).getD s.condition)
    (enabled : ∀ s, (if p then f s else s).enabled = (n.enabledOf? id).getD s.enabled) :
    LoggedIn id (notices ++ [n]) t' := by
  intro s found
  rw [entry] at found
  obtain ⟨old, there, rfl⟩ : ∃ old, t.find? id = some old ∧ (if p then f old else old) = s := by
    split at found
    · rename_i here
      obtain ⟨old, there, e⟩ := Option.map_eq_some_iff.1 found
      exact ⟨old, there, by rw [if_pos here, e]⟩
    · rename_i elsewhere
      exact ⟨s, found, if_neg elsewhere⟩
  exact (h old there).snoc other (condition old) (enabled old)

/-- A snapshot takes the place of what was there, and says nothing of other breakpoints. -/
theorem replaced (h : LoggedIn id notices t) {given : Snapshot}
    (snapshot : n.snapshotOf? id = if given.id = id then some given else none)
    (enabled : n.enabledOf? id = if given.id = id then some given.enabled else none)
    (condition : n.conditionOf? id = none)
    (blank : ∀ s, n.snapshotOf? id = some s → s.condition = "") :
    LoggedIn id (notices ++ [n]) (t.insert given) := by
  intro s found
  rw [Table.find?_insert] at found
  split at found
  · rename_i here
    cases found
    rw [if_pos here] at snapshot enabled
    exact .of_snapshot snapshot enabled (blank _ snapshot)
  · rename_i elsewhere
    rw [if_neg elsewhere] at snapshot enabled
    exact (h s found).snoc snapshot (by rw [condition]; rfl) (by rw [enabled]; rfl)

/-- A notice that enables or disables a breakpoint, or all of them. -/
theorem marked (h : LoggedIn id notices t) (k : Nat) (on : Bool)
    (enabled : n.enabledOf? id = if k = allBreakpoints ∨ id = k then some on else none)
    (other : n.snapshotOf? id = none) (condition : n.conditionOf? id = none) :
    LoggedIn id (notices ++ [n]) (t.markEnabled k on) := by
  refine h.changed (Table.find?_markEnabled t k id on) other (fun s => ?_) fun s => ?_
  · rw [condition]
    split <;> rfl
  · rw [enabled]
    split <;> rfl

end LoggedIn

/-- **Each notice keeps the table as the log says**, if it gives no condition with a snapshot. -/
theorem logged_applied {t : Table} {notices : List Notice} {id : Nat}
    (h : LoggedIn id notices t) (n : Notice)
    (blank : ∀ s, n.snapshotOf? id = some s → s.condition = "") :
    LoggedIn id (notices ++ [n]) (n.applied t) := by
  -- each notice tells of one entry, of one field of it, or of nothing
  cases n with
  | inserted given => exact h.replaced rfl rfl rfl blank
  | modified given => exact h.replaced rfl rfl rfl blank
  | deleted k => exact h.silent (fun _ => Table.find?_of_erase) rfl rfl rfl
  | enabled k => exact h.marked k true rfl rfl rfl
  | disabled k => exact h.marked k false rfl rfl rfl
  | ignoreCount k count =>
    refine h.changed (Table.find?_modify t k id _ fun _ => rfl) rfl (fun s => ?_) fun s => ?_
    · split <;> rfl
    · split <;> rfl
  | condition k text =>
    refine h.changed (Table.find?_modify t k id _ fun _ => rfl) rfl (fun s => ?_) fun s => ?_
    · -- the table asks for the number the other way round
      show _ = (if k = id then some text else none).getD s.condition
      by_cases here : id = k
      · rw [if_pos here, if_pos here.symm]
        rfl
      · rw [if_neg here, if_neg (Ne.symm here)]
        rfl
    · split <;> rfl
  | hit _ _ _ _ => exact h.silent (fun _ found => found) rfl rfl rfl
  | conditionError => exact h.silent (fun _ found => found) rfl rfl rfl
  | unused => exact h.silent (fun _ found => found) rfl rfl rfl

/-- **The table of a run is as the log says.** -/
theorem logged_foldl {notices : List Notice} {id : Nat}
    (blank : ∀ n ∈ notices, ∀ s, n.snapshotOf? id = some s → s.condition = "") :
    LoggedIn id notices (notices.foldl Notice.applied {}) := by
  -- a log grows at its end, and so does the table that it tells of
  induction notices using List.reverseRecOn with
  | nil =>
    intro s found
    cases found
  | append_singleton notices n ih =>
    rw [List.foldl_append]
    exact logged_applied (ih fun m mem => blank m (List.mem_append_left _ mem)) n
      (blank n (List.mem_append_right _ List.mem_cons_self))

namespace Breakpoint.Notice

/-- A snapshot that is read has no condition: the record has no field for one. -/
theorem gives_snapshot (mayBePending : Bool) :
    Reading.Gives (·.condition = "") (snapshot mayBePending) := by
  unfold snapshot
  refine .bind fun _ => .bind fun _ => .bind fun _ => ?_
  extract_lets
  split
  · exact .pure rfl
  · exact .bind fun _ => .bind fun _ => .bind fun _ => .bind fun _ => .bind fun _ => .pure rfl

/-- **No record gives a condition with a snapshot.** -/
theorem condition_of_read {record : String} {n : Notice} (h : read record = .ok n) {id : Nat}
    {s : Snapshot} (given : n.snapshotOf? id = some s) : s.condition = "" := by
  have given_of : ∀ {t : Snapshot}, (if t.id = id then some t else none) = some s → t = s := by
    intro t e
    split at e
    · exact Option.some.inj e
    · cases e
  refine of_snapshot gives_snapshot h ?_
  cases n with
  | inserted t => exact .inl (congrArg Notice.inserted (given_of given))
  | modified t => exact .inr (congrArg Notice.modified (given_of given))
  | _ => cases given

end Breakpoint.Notice

/-- **The table reads the log.** Over any link, let a live session with an empty table and no bound
breakpoints handle deliveries of any well-formed records about breakpoints. All are handled, and
every entry of the table is then as the log says: its condition is the one given last since the last
record that inserted or modified its breakpoint, and none if there was none, for either of these
replaces the whole entry; and it is enabled or disabled as was said last, to it or to all. -/
theorem table_reads_log (peer : Peer) (config : Config) (depth : Nat) {w : World}
    {deliveries : List String} {notices : List Notice} (alive : w.session.alive = true)
    (fresh : w.session.table = {}) (unbound : w.bound = [])
    (announced : List.Forall₂ Announces (deliveries.flatMap recordsOf) notices) :
    ∃ v, (deliveries.forM deliver : Act PUnit) (.within peer config (depth + 1)) w = .ok () v ∧
      ∀ id s, v.session.table.find? id = some s →
        (∃ n ∈ notices, (n.snapshotOf? id).isSome) ∧
        s.condition =
          ((sinceSnapshot id notices).filterMap (·.conditionOf? id)).getLast?.getD "" ∧
        (notices.filterMap (·.enabledOf? id)).getLast? = some s.enabled := by
  obtain ⟨v, run, table⟩ := forM_notedIn peer config depth unbound announced alive
  refine ⟨v, by rw [forM_deliver, run], fun id s found => ?_⟩
  have blank : ∀ n ∈ notices, ∀ s, n.snapshotOf? id = some s → s.condition = "" := by
    intro n mem s given
    obtain ⟨record, announces⟩ := announced_of_mem announced mem
    exact Notice.condition_of_read announces.read given
  rw [table, fresh] at found
  have logged := logged_foldl blank s found
  exact ⟨logged.given, logged.condition, logged.enabled⟩

/-- A breakpoint that is inserted, gets a condition and is modified, then disabled with all others
and given another condition. -/
theorem table_reads_log_edited :
    let link := Link.within ({} : Script).peer {} 1
    let deliveries := ["20;1;y;0x10;main;a.c;3;0\r\n28;1;n > 2", "24\r\n21;1;y;0x10;main;a.c;3;1",
      "28;1;m;k\r\n24;1"]
    let v := (deliveries.forM deliver : Act PUnit).after link {}
    (deliveries.forM deliver : Act PUnit) link {} = .ok () v ∧
      ∃ s, v.session.table.find? 1 = some s ∧ s.condition = "m;k" ∧ s.enabled = false := by
  intro link deliveries v
  let born : Snapshot := ⟨1, true, .resolved 16, "main", "a.c", 3, 0, 0, ""⟩
  let notices : List Notice := [.inserted born, .condition 1 "n > 2", .disabled 0,
    .modified { born with hits := 1 }, .condition 1 "m;k", .disabled 1]
  have records : deliveries.flatMap recordsOf = ["20;1;y;0x10;main;a.c;3;0", "28;1;n > 2", "24",
      "21;1;y;0x10;main;a.c;3;1", "28;1;m;k", "24;1"] := by decide +kernel
  have announced : List.Forall₂ Announces (deliveries.flatMap recordsOf) notices := by
    rw [records]
    exact .cons ⟨rfl, rfl⟩ <| .cons ⟨rfl, rfl⟩ <| .cons ⟨rfl, rfl⟩ <| .cons ⟨rfl, rfl⟩ <|
      .cons ⟨rfl, rfl⟩ <| .cons ⟨rfl, rfl⟩ .nil
  obtain ⟨u, run, log⟩ := table_reads_log ({} : Script).peer {} 0 (w := {}) rfl rfl rfl announced
  obtain rfl : v = u := after_of_ok run
  have there : (v.session.table.find? 1).isSome = true := by decide +kernel
  obtain ⟨s, found⟩ := Option.isSome_iff_exists.1 there
  obtain ⟨-, condition, enabled⟩ := log 1 s found
  refine ⟨run, s, found, ?_, ?_⟩
  · rw [condition]
    decide +kernel
  · have last : (notices.filterMap (·.enabledOf? 1)).getLast? = some false := by decide +kernel
    exact Option.some.inj (enabled.symm.trans last)

set_option maxRecDepth 100000 in
/-- A breakpoint that was modified has no condition in the table any more, though one was given
since it was inserted and nothing was said of it after that. -/
theorem modified_forgets_condition :
    let link := Link.within ({} : Script).peer {} 1
    let records := ["20;1;y;0x10;main;a.c;3;0", "28;1;n > 2", "21;1;y;0x10;main;a.c;3;1"]
    let born : Snapshot := ⟨1, true, .resolved 16, "main", "a.c", 3, 0, 0, ""⟩
    let since : List Notice := [.condition 1 "n > 2", .modified { born with hits := 1 }]
    let v := (records.forM receiveAlive : Act PUnit).after link {}
    List.Forall₂ Announces records (.inserted born :: since) ∧
      (records.forM receiveAlive : Act PUnit).returns link {} = true ∧
      (since.filterMap (·.conditionOf? 1)).getLast? = some "n > 2" ∧
      v.session.table.find? 1 = some { born with hits := 1, condition := "" } := by
  intro link records born since v
  refine ⟨.cons ⟨rfl, rfl⟩ <| .cons ⟨rfl, rfl⟩ <| .cons ⟨rfl, rfl⟩ .nil, ?_, ?_, ?_⟩
  · decide +kernel
  · decide +kernel
  · decide +kernel

end DebugLink
