import DebugLink.Proofs.NumberingPeer
import DebugLink.Proofs.Orphans
import DebugLink.Proofs.ServedAnew

/-!
# What is restored of a breakpoint that is created anew

When the breakpoint of a bound one is created anew, its pass count and its condition are given
again. Whether it was enabled is not.

* `Restored`: all that the user configured is what gdb has of the new breakpoint.
* `servesWhole_of_settles`: what each call leaves of the breakpoint that it creates anew.
* `recreation_restores_iff`: all that the user configured is restored exactly if the breakpoint was
  enabled and its pass count is not misread.
-/

namespace DebugLink

open Act Breakpoint Text

/-! ## What is restored -/

/-- The condition that a bound breakpoint is to have after an operation. -/
def Operation.conditionFor (b : Bound) : Operation → Condition
  | setCondition _ c => c
  | _ => b.condition

/-- **All that the user configured was restored** of the bound breakpoint `b`, which became `c`
after the commands `start`: `s` is what gdb has of it now, enabled as the one that it replaced, and
every command after it was inserted was about it. -/
structure Restored (holds : List Call → Table) (start sent : List Call) (b c : Bound)
    (s : Snapshot) : Prop where
  entry : (holds sent).find? c.gdbId = some s
  enabled : ((holds start).find? b.gdbId).map (·.enabled) = some s.enabled
  passCount : c.passCount = b.passCount
  text : s.condition = c.condition.gdbText
  compared : c.condition.style = .whenChanged → s.ignoreCount = 0
  counted : c.condition.style ≠ .whenChanged → c.passCount.CallsFor c.hits s.ignoreCount
  unhit : s.hits = 0
  anew : ∃ later place past, sent = later ++ .request ("-break-insert " ++ place) :: past ∧
    start <:+ past ∧ (holds past).find? c.gdbId = none ∧
    ∀ call ∈ later, ∃ e : Echoed, call = .request (e.command c.gdbId)

/-- **What a call leaves of a breakpoint that it creates anew.** -/
theorem servesWhole_of_settles {link : Link} {holds : List Call → Table} {w v : World} {i : Nat}
    {b : Bound} (op : Operation) (recount : op.IsRecount i) (recreates : op.Recreates b)
    (whole : op ≠ .resetHitCount i false) (obeys : link.peer.Obeys holds)
    (room : link.HasRoom w.sent) (rests : w.Rests i b) (one : b.gdbId ≠ allBreakpoints)
    (small : b.gdbId < limit32) (returned : op.act.Settles link w v) :
    v.ServesWhole holds w.sent i b.passCount (op.conditionFor b) := by
  -- the three operations that create a breakpoint anew
  cases op with
  | resetHitCount j resetCondition =>
    cases recount
    cases resetCondition with
    | false => exact absurd rfl whole
    | true =>
      have reset := surely_resetHitCount obeys (i := i) room one small
      have dropped := (reset.imp (fun _ h => h) (fun _ _ h => h.2) fun _ h => h).discard
      obtain ⟨_, serves⟩ := dropped.of_settles ⟨rfl, rests⟩ returned
      exact serves
  | setHitCount j hits =>
    cases recount
    obtain ⟨rfl, hit⟩ := recreates
    obtain ⟨_, serves⟩ :=
      (surely_setHitCount obeys room one small hit).of_settles ⟨rfl, rests⟩ returned
    exact serves
  | setCondition j c =>
    cases recount
    obtain ⟨_, serves⟩ :=
      (surely_setCondition_hit obeys room one small recreates c).of_settles ⟨rfl, rests⟩ returned
    exact serves
  | _ => exact recount.elim

/-- **Whether all that the user configured is restored.** A gdb does what it is told and has room
for what is inserted. A live session whose target is stopped, with no resumption due, has a bound
breakpoint for which gdb has `old`. A call about its hits or its condition creates it anew and
returns. Then gdb has what the bound one calls for, enabled as `old` was, if and only if `old` was
enabled and the pass count, unless the session compares values, is not misread without hits. -/
theorem recreation_restores_iff {link : Link} {holds : List Call → Table} {w v : World} {i : Nat}
    {b : Bound} {old : Snapshot} (op : Operation) (recount : op.IsRecount i)
    (recreates : op.Recreates b) (whole : op ≠ .resetHitCount i false)
    (obeys : link.peer.Obeys holds) (room : link.HasRoom w.sent) (alive : w.session.alive = true)
    (stopped : w.session.phase = .stopped) (settled : w.session.needsResume = false)
    (found : w.bound[i]? = some b) (one : b.gdbId ≠ allBreakpoints) (small : b.gdbId < limit32)
    (there : (holds w.sent).find? b.gdbId = some old) (returned : op.act.Settles link w v) :
    (∃ c s, v.bound[i]? = some c ∧ c.condition = op.conditionFor b ∧ c.hits = 0 ∧
        Restored holds w.sent v.sent b c s) ↔
      old.enabled = true ∧
        ((op.conditionFor b).style = .whenChanged ∨ ¬b.passCount.IsMisread 0) := by
  obtain ⟨c, s, ⟨anew, conditioned⟩, serves⟩ := servesWhole_of_settles op recount recreates whole
    obeys room ⟨alive, stopped, settled, b.held, found⟩ one small returned
  obtain ⟨held, found'⟩ := serves.bound
  -- what was computed of the pass count is what gdb has, unless the session compares values
  have paced : (op.conditionFor b).style ≠ .whenChanged →
      s.ignoreCount = ignoreCountFor (nextStop b.passCount 0) := by
    intro other
    rw [conditioned.counted other, anew.passCount]
  constructor
  · rintro ⟨c', s', now, -, -, restored⟩
    cases found'.symm.trans now
    cases serves.entry.symm.trans restored.entry
    have same : old.enabled = s.enabled := by
      have enabled := restored.enabled
      rw [there] at enabled
      exact Option.some.inj enabled
    refine ⟨same.trans anew.enabled, ?_⟩
    by_cases style : (op.conditionFor b).style = .whenChanged
    · exact .inl style
    · refine .inr fun misread => not_callsFor_of_isMisread misread ?_
      have called : c.passCount.CallsFor c.hits s.ignoreCount :=
        restored.counted (conditioned.condition ▸ style)
      rwa [paced style, anew.passCount, anew.hits] at called
  · rintro ⟨enabled, read⟩
    refine ⟨{ c with held }, s, found', conditioned.condition, anew.hits, serves.entry, ?_,
      anew.passCount, ?_, ?_, ?_, anew.unhit, serves.anew⟩
    · rw [there, anew.enabled]
      exact congrArg some enabled
    · rw [conditioned.text]
      exact congrArg Condition.gdbText conditioned.condition.symm
    · intro style
      exact conditioned.compared (conditioned.condition ▸ style)
    · intro style
      have other : (op.conditionFor b).style ≠ .whenChanged := conditioned.condition ▸ style
      show c.passCount.CallsFor c.hits s.ignoreCount
      rw [paced other, anew.passCount, anew.hits]
      exact callsFor_nextStop (read.resolve_left other)
/-- A breakpoint at a function that was hit, with a condition and a pass count. -/
def countedAtMain : Bound :=
  { gdbId := 1, location := .function "main", hits := 5, passCount := ⟨.multiple, 4⟩,
    condition := .whenTrue " n > 2 " }

set_option maxRecDepth 100000 in
/-- A breakpoint that was enabled: the new one lets three hits pass, under the same condition. -/
theorem recreation_restores_enabled :
    let link := Link.within numberingPeer {} 0
    let w : World :=
      { session := { phase := .stopped }, bound := [countedAtMain],
        sent := [.request "-break-insert main"] }
    let v := (Operation.resetHitCount 0 true).act.after link w
    ((tableAfter v.sent).find? 3).map (fun s => (s.enabled, s.ignoreCount, s.condition)) =
        some (true, 3, "n > 2") ∧
      ∃ c s, v.bound[0]? = some c ∧ c.condition = .whenTrue " n > 2 " ∧ c.hits = 0 ∧
        Restored tableAfter w.sent v.sent countedAtMain c s := by
  intro link w v
  have outcome : (Operation.resetHitCount 0 true).act.outcome? link w = some (.ok ()) := by
    decide +kernel
  let old : Snapshot := ⟨1, true, .resolved 16, "main", "a.c", 3, 0, 0, ""⟩
  have there : (tableAfter w.sent).find? 1 = some old := by decide +kernel
  refine ⟨by decide +kernel, ?_⟩
  exact (recreation_restores_iff (i := 0) (b := countedAtMain) (.resetHitCount 0 true) rfl trivial
    (by simp) obeys_numberingPeer (hasRoom_numberingPeer (by decide)) rfl rfl rfl rfl (by decide)
    (by decide) there (Settles.of_outcome? outcome)).2 ⟨rfl, .inr (by decide)⟩

set_option maxRecDepth 100000 in
/-- A breakpoint that was disabled: the new one is enabled. -/
theorem recreation_restores_disabled :
    let link := Link.within numberingPeer {} 0
    let w : World :=
      { session := { phase := .stopped }, bound := [countedAtMain],
        sent := [.request "-break-disable 1", .request "-break-insert main"] }
    let v := (Operation.resetHitCount 0 true).act.after link w
    numberingPeer.Obeys tableAfter ∧ link.HasRoom w.sent ∧
      (Operation.resetHitCount 0 true).act.Settles link w v ∧
      ((tableAfter w.sent).find? 1).map (·.enabled) = some false ∧
      ¬∃ c s, v.bound[0]? = some c ∧ Restored tableAfter w.sent v.sent countedAtMain c s := by
  intro link w v
  have outcome : (Operation.resetHitCount 0 true).act.outcome? link w = some (.ok ()) := by
    decide +kernel
  have before : ((tableAfter w.sent).find? 1).map (·.enabled) = some false := by decide +kernel
  refine ⟨obeys_numberingPeer, hasRoom_numberingPeer (by decide), Settles.of_outcome? outcome,
    before, ?_⟩
  rintro ⟨c, s, found, restored⟩
  -- the breakpoint was off, and the one that replaces it is on
  obtain ⟨number, after⟩ : (v.bound[0]?).map (·.gdbId) = some 4 ∧
      ((tableAfter v.sent).find? 4).map (·.enabled) = some true := by decide +kernel
  rw [found] at number
  have entry := restored.entry
  rw [show c.gdbId = 4 from Option.some.inj number] at entry
  rw [entry, Option.map_some] at after
  cases before.symm.trans (restored.enabled.trans after)

end DebugLink
