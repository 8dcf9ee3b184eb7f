import DebugLink.Proofs.AllottedNumbers
import DebugLink.Proofs.IgnoreCount
import DebugLink.Proofs.TableLog

/-!
# A gdb that does what it is told

What gdb has of a breakpoint can be followed through the operations of the session if it accepts
every command about one that there is. Each step that gives a detail then has a value, and says what
gdb has afterwards.

* `Peer.Obeys`: a gdb that does what it is told, and what it has of each breakpoint.
* `World.Serves`: what gdb has of a bound breakpoint that was created anew, and what it was told.
* `Surely`: a step that does not fail, with a rule for each kind of step.
* `surely_edit`, `surely_setPassCount`, `surely_giveCondition`: what gdb has after a detail, a pass
  count and a condition.
-/

namespace DebugLink

open Act Breakpoint Text

/-! ## A gdb that does what it is told -/

/-- **A gdb that does what it is told**: `holds` tells by the commands sent so far what it has of
each breakpoint. It accepts every command about a breakpoint; one that it inserts is enabled and was
not hit. -/
structure Peer.Obeys (peer : Peer) (holds : List Call → Table) : Prop
    extends Peer.Heedful peer fun past => (holds past).numbers where
  quiet : ∀ past command, peer.reactions past (.request command) = []
  edit : ∀ past id (e : Echoed), id < limit32 →
    peer.answer past (e.command id) = .ok (Mi.answer (e.command id) (.ofResult "^done" [])) ∧
      holds (.request (e.command id) :: past) = e.applied id (holds past)
  insert : ∀ past place, ∃ answer snapshot?,
    peer.answer past ("-break-insert " ++ place) = .ok answer ∧
      Inserts (fun past => (holds past).numbers) past ("-break-insert " ++ place) answer snapshot? ∧
      ∀ s, snapshot? = some s → s.enabled = true ∧ s.hits = 0 ∧
        holds (.request ("-break-insert " ++ place) :: past) = (holds past).insert s

/-- **There is room** for the breakpoints of a call: gdb refuses no insertion after at most two
commands of it. -/
def Link.HasRoom (link : Link) (sent : List Call) : Prop :=
  ∀ past place, sent <:+ past → past.length ≤ sent.length + 2 →
    ¬link.Refuses past ("-break-insert " ++ place)

theorem Peer.Obeys.allots {peer : Peer} {holds : List Call → Table} (h : peer.Obeys holds) :
    peer.Allots fun past => (holds past).numbers where
  toHeedful := h.toHeedful
  quiet := h.quiet
  insert past place := by
    obtain ⟨answer, snapshot?, answered, inserts, -⟩ := h.insert past place
    exact ⟨answer, snapshot?, answered, inserts⟩
  delete past id one small := by
    obtain ⟨answered, now⟩ := h.edit past id .delete small
    refine .inr ⟨?_, ?_⟩
    · rw [answered, Echoed.answer_delete_done]
    · rw [now]
      exact (holds past).numbers_erase one

/-! ## What gdb has of a bound breakpoint -/

/-- **A session that rests**, with a bound breakpoint in this place, whatever is held of it. -/
structure World.Rests (i : Nat) (b : Bound) (w : World) : Prop where
  alive : w.session.alive = true
  stopped : w.session.phase = .stopped
  settled : w.session.needsResume = false
  bound : ∃ held, w.bound[i]? = some { b with held }

/-- **gdb serves a bound breakpoint** that was created anew after the commands `start`: `s` is what
it has of it, and every command since it was inserted was about it. -/
structure World.Serves (holds : List Call → Table) (start : List Call) (i : Nat) (b : Bound)
    (s : Snapshot) (w : World) : Prop extends World.Rests i b w where
  one : b.gdbId ≠ allBreakpoints
  small : b.gdbId < limit32
  entry : (holds w.sent).find? b.gdbId = some s
  anew : ∃ later place past, w.sent = later ++ .request ("-break-insert " ++ place) :: past ∧
    start <:+ past ∧ (holds past).find? b.gdbId = none ∧
    ∀ call ∈ later, ∃ e : Echoed, call = .request (e.command b.gdbId)

section Unheld

variable {holds : List Call → Table} {start : List Call} {i : Nat} {b : Bound} {s : Snapshot}

theorem unheld_rests : Unheld (World.Rests i b) where
  gates j f w h := by
    obtain ⟨held, found⟩ := h.bound
    refine ⟨h.alive, h.stopped, h.settled, ?_⟩
    by_cases here : j = i
    · exact ⟨f held, by simp [here, found]⟩
    · exact ⟨held, by simp [here, found]⟩
  critical _ _ h := { h with }
  conditionUpdate _ _ h := { h with }

theorem unheld_serves : Unheld (World.Serves holds start i b s) where
  gates j f w h := { h with toRests := unheld_rests.gates j f w h.toRests }
  critical _ _ h := { h with }
  conditionUpdate _ _ h := { h with }

end Unheld

/-! ## Steps that do not fail -/

/-- **A sure step** gives a value unless it stops for good. -/
abbrev Surely {α : Type} (link : Link) (P : World → Prop) (act : Act α) (Q : α → World → Prop) :
    Prop := Contract link P act Q fun _ => False

theorem unheld_false : Unheld fun _ => False :=
  ⟨fun _ _ _ h => h, fun _ _ h => h, fun _ _ h => h⟩

/-- What holds after a sure step that returned. -/
theorem Act.Contract.of_settles {α : Type} {link : Link} {P : World → Prop} {act : Act α}
    {Q : α → World → Prop} (h : Surely link P act Q) {w v : World} (hw : P w)
    (returned : act.Settles link w v) : ∃ a, Q a v := by
  have ends := h w hw
  rcases returned.ok_or_failed with ⟨a, e⟩ | ⟨cause, e⟩
  · rw [e] at ends
    exact ⟨a, ends⟩
  · rw [e] at ends
    exact ends.elim

/-- What the user wants gdb to check; nothing, if the session compares values. -/
def Breakpoint.Condition.gdbText (c : Condition) : String :=
  if c.style = .whenTrue then String.ofList (trim c.expression.toList) else ""

/-- What gdb has of a breakpoint after a pass count was given. -/
def Breakpoint.Bound.toldCount (b : Bound) (p : PassCount) (s : Snapshot) : Snapshot :=
  if b.comparesValues then s else { s with ignoreCount := ignoreCountFor (nextStop p b.hits) }

namespace Breakpoint.Bound

variable (b : Bound) (p : PassCount) (s : Snapshot)

theorem toldCount_enabled : (b.toldCount p s).enabled = s.enabled := by
  unfold toldCount
  split <;> rfl

theorem toldCount_hits : (b.toldCount p s).hits = s.hits := by
  unfold toldCount
  split <;> rfl

theorem toldCount_ignoreCount (plain : b.comparesValues = false) :
    (b.toldCount p s).ignoreCount = ignoreCountFor (nextStop p b.hits) := by
  unfold toldCount
  rw [plain, if_neg Bool.false_ne_true]

end Breakpoint.Bound

/-- A bound breakpoint that was given a condition. -/
def Breakpoint.Bound.given (b : Bound) (c : Condition) : Bound :=
  if c.style = .whenChanged then b.withComparison c else b.withGdbCondition c

namespace Breakpoint.Bound

variable (b : Bound) (c : Condition)

theorem given_passCount : (b.given c).passCount = b.passCount := by
  unfold given
  split <;> rfl

theorem given_hits : (b.given c).hits = b.hits := by
  unfold given
  split <;> rfl

theorem given_condition : (b.given c).condition = c := by
  unfold given
  split <;> rfl

theorem given_comparesValues : (b.given c).comparesValues = decide (c.style = .whenChanged) := by
  unfold given
  split
  · rename_i style
    exact (decide_eq_true style).symm
  · rename_i style
    exact (decide_eq_false style).symm

end Breakpoint.Bound

/-- What gdb has of a breakpoint after a condition was given. -/
def Breakpoint.Condition.told (c : Condition) (s : Snapshot) : Snapshot :=
  { s with
    condition := c.gdbText
    ignoreCount := if c.style = .whenChanged then 0 else s.ignoreCount }

section Serves

variable {holds : List Call → Table} {start : List Call} {link : Link} {i : Nat} {b : Bound}
  {s : Snapshot} {α : Type}

/-- A step may look at the bound breakpoint. -/
theorem surely_bound {P : World → Prop} {next : Bound → Act α} {Q : α → World → Prop}
    (rests : ∀ w, P w → w.Rests i b) (h : ∀ held, Surely link P (next { b with held }) Q) :
    Surely link P (Act.bound i >>= next) Q := by
  intro w hw
  obtain ⟨held, found⟩ := (rests w hw).bound
  rw [bind_ok (boundAt_apply found)]
  exact h held w hw

/-- A step may look at whether the target runs. -/
theorem surely_isRunning {P : World → Prop} {next : Bool → Act α} {Q : α → World → Prop}
    (rests : ∀ w, P w → w.Rests i b) (h : Surely link P (next false) Q) :
    Surely link P (isRunning >>= next) Q := by
  refine .isRunning (fun w ⟨hw, runs⟩ => ?_) (h.pre fun _ => And.left)
  cases (rests w hw).stopped.symm.trans runs.1

/-- A change of the bound breakpoint. -/
theorem surely_updateBound {f : Bound → Bound} (number : (f b).gdbId = b.gdbId)
    (same : ∀ held, f { b with held } = { f b with held }) :
    Surely link (World.Serves holds start i b s) (updateBound i f)
      fun _ => World.Serves holds start i (f b) s := by
  intro w h
  obtain ⟨held, found⟩ := h.bound
  rw [updateBound_apply found]
  refine { h with bound := ⟨held, ?_⟩, one := ?_, small := ?_, entry := ?_, anew := ?_ }
  · rw [← same]
    exact List.getElem?_set_self (List.getElem?_eq_some_iff.1 found).1
  · rw [number]; exact h.one
  · rw [number]; exact h.small
  · rw [number]; exact h.entry
  · rw [number]; exact h.anew

variable (obeys : link.peer.Obeys holds)

include obeys

/-- **A command about a detail** is obeyed. -/
theorem surely_edit {e : Echoed} (unpaused : e.pauses = false) (allowed : e.Allowed) {s' : Snapshot}
    (changed : e.change s = some s') :
    Surely link (World.Serves holds start i b s) (e.act b.gdbId)
      fun _ => World.Serves holds start i b s' := by
  intro w h
  obtain ⟨answered, now⟩ := obeys.edit w.sent b.gdbId e h.small
  have echoes : link.Echoes w (e.command b.gdbId) (.ofResult "^done" []) :=
    ⟨answered, obeys.quiet _ _, fun due => Bool.noConfusion (h.settled.symm.trans due)⟩
  rw [e.act_apply h.alive allowed, unpaused, if_neg Bool.false_ne_true,
    Echoed.ask_accepted h.small echoes isError_done]
  refine { h with entry := ?_, anew := ?_ }
  · show (holds (.request (e.command b.gdbId) :: w.sent)).find? b.gdbId = some s'
    rw [now, Echoed.find?_applied h.one, if_pos rfl, h.entry]
    exact changed
  · obtain ⟨later, place, past, sent, since, fresh, about⟩ := h.anew
    refine ⟨.request (e.command b.gdbId) :: later, place, past, ?_, since, fresh, ?_⟩
    · show Call.request (e.command b.gdbId) :: w.sent = _
      rw [sent]
      rfl
    · intro call mem
      rcases List.mem_cons.1 mem with rfl | mem
      · exact ⟨e, rfl⟩
      · exact about call mem

theorem surely_stopAtHit {n : Int} (bounded : n ≠ leastInt64) :
    Surely link (World.Serves holds start i b s) (stopAtHit b.gdbId n)
      fun _ => World.Serves holds start i b { s with ignoreCount := ignoreCountFor n } :=
  surely_edit obeys (e := .stopAt n) rfl bounded (Echoed.change_stopAt n s)

theorem surely_setGdbCondition (text : String) :
    Surely link (World.Serves holds start i b s) (setGdbCondition b.gdbId text)
      fun _ => World.Serves holds start i b
        { s with condition := String.ofList (trim text.toList) } :=
  surely_edit obeys (e := .condition text) rfl trivial rfl

/-- **A pass count** that is given to a breakpoint that gdb judges alone. -/
theorem surely_setPassCount (bounded : b.hits < limit32) (p : PassCount) :
    Surely link (World.Serves holds start i b s) (setPassCount i p)
      fun _ => World.Serves holds start i (b.withPassCount p) (b.toldCount p s) := by
  have sent : Surely link (World.Serves holds start i b s) (sendPassCount i p)
      (Contract.Outcome (fun _ => World.Serves holds start i (b.withPassCount p) (b.toldCount p s))
        fun _ => False) := by
    unfold sendPassCount
    refine (surely_updateBound rfl fun _ => rfl).bind fun _ =>
      surely_bound (fun _ => World.Serves.toRests) fun held => ?_
    dsimp only
    -- gdb is told nothing of a breakpoint of which the session compares values
    split
    · rename_i compares
      have same : b.toldCount p s = s := if_pos compares
      rw [same]
      exact .pure fun _ h => h
    · rename_i plain
      have now : b.toldCount p s = { s with ignoreCount := ignoreCountFor (nextStop p b.hits) } :=
        if_neg plain
      rw [now]
      exact (surely_stopAtHit obeys (b := b.withPassCount p)
        (nextStop_ne_leastInt64 p bounded)).discard.attempt
  rw [setPassCount_eq]
  refine .withGates (.inRegion (surely_isRunning (fun _ => World.Serves.toRests) ?_) unheld_serves
    (fun _ => unheld_serves) unheld_false) unheld_serves (fun _ => unheld_serves) unheld_false
  exact sent.bind fun outcome => .settle outcome

/-- What gdb is told of a condition. -/
theorem surely_sendCondition (c : Condition) :
    Surely link (World.Serves holds start i b s) (sendCondition i c)
      fun _ => World.Serves holds start i (b.given c) (c.told s) := by
  have empty : trim [] = [] := rfl
  unfold sendCondition
  refine surely_bound (fun _ => World.Serves.toRests) fun held => ?_
  dsimp only
  -- one case for each style of the condition
  split
  · rename_i style
    have same : b.given c = b.withGdbCondition c := if_neg (by rw [style]; decide)
    have told : c.told s = { s with condition := String.ofList (trim c.expression.toList) } := by
      simp [Condition.told, Condition.gdbText, style]
    rw [same, told, if_neg (by rw [style]; decide)]
    exact (surely_updateBound rfl fun _ => rfl).bind fun _ =>
      (surely_setGdbCondition obeys (b := b.withGdbCondition c) c.expression).discard
  · rename_i style
    have same : b.given c = b.withGdbCondition c := if_neg (by rw [style]; decide)
    have told : c.told s = { s with condition := String.ofList (trim "".toList) } := by
      simp [Condition.told, Condition.gdbText, style, empty]
    rw [same, told, if_pos style]
    exact (surely_updateBound rfl fun _ => rfl).bind fun _ =>
      (surely_setGdbCondition obeys (b := b.withGdbCondition c) "").discard
  · rename_i style
    have same : b.given c = b.withComparison c := if_pos style
    have told : c.told s = { s with
        ignoreCount := ignoreCountFor 1, condition := String.ofList (trim "".toList) } := by
      simp [Condition.told, Condition.gdbText, style, empty, show ignoreCountFor 1 = 0 from rfl]
    rw [same, told]
    exact (surely_updateBound rfl fun _ => rfl).bind fun _ =>
      (surely_stopAtHit obeys (b := b.withComparison c) (by decide)).discard.bind fun _ =>
        (surely_setGdbCondition obeys (b := b.withComparison c) "").discard

/-- Whether gdb has to count hits again after a condition. -/
def countsAgain (b : Bound) (c : Condition) : Bool :=
  b.comparesValues && decide (c.style ≠ .whenChanged)

theorem surely_giveCondition (c : Condition) :
    Surely link (World.Serves holds start i b s) (giveCondition i c) fun changed w =>
      changed = (false, countsAgain b c) ∧ w.Serves holds start i (b.given c) (c.told s) := by
  refine .inRegion (surely_isRunning (fun _ => World.Serves.toRests) ?_) unheld_serves
    (fun changed => ?_) unheld_false
  · refine surely_bound (fun _ => World.Serves.toRests) fun held => ?_
    exact (surely_sendCondition obeys c).bind fun _ => .pure fun w h => ⟨rfl, h⟩
  · exact unheld_serves.of_and

end Serves

end DebugLink
