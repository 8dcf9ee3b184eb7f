import DebugLink.Proofs.Echo
import Mathlib.Data.Finset.Erase
import Mathlib.Data.Finset.Dedup
import Mathlib.Data.Finset.Insert

/-!
# Commands about details of breakpoints

Most commands that edit a breakpoint are about a detail of it: whether it is enabled, how many hits
pass, under which condition it stops. What gdb answers is about details as well, and so applying it
leaves the table with entries for the same numbers. Pass counts and conditions of bound breakpoints
are given by such commands alone, as long as gdb need not create the breakpoint anew.

* `Table.numbers`: the numbers that have an entry, and what each operation does to them.
* `Notice.isDetail`, `World.Detailed`: a notice about a detail, and what applying it may touch.
* `Peer.Heeds`, `Echoed.settles_ask`: a gdb that answers a command by a notice about a detail.
* `World.Stands`: the numbers in the table and those of gdb, while the target is stopped.
* `Stands.keeps_setPassCount`, `Stands.keeps_setCondition`: what is given by such commands alone.
-/

namespace DebugLink

open Act Breakpoint Record

/-! ## Numbers -/

namespace Breakpoint

namespace Table

/-- The numbers of the breakpoints in the table. -/
def numbers (t : Table) : Finset Nat := (t.entries.map (·.id)).toFinset

theorem mem_numbers {t : Table} {id : Nat} : id ∈ t.numbers ↔ (t.find? id).isSome = true := by
  simp [numbers, find?, List.find?_isSome]

/-- A breakpoint in the table adds its number. -/
theorem numbers_insert (t : Table) (s : Snapshot) :
    (t.insert s).numbers = Insert.insert s.id t.numbers := by
  ext k
  rw [mem_numbers, find?_insert, Finset.mem_insert, mem_numbers]
  by_cases same : s.id = k
  · simp [same]
  · simp [same, Ne.symm same]

/-- One out of the table takes its number with it. -/
theorem numbers_erase (t : Table) {id : Nat} (one : id ≠ allBreakpoints) :
    (t.erase id).numbers = t.numbers.erase id := by
  ext k
  rw [mem_numbers, find?_erase t k one, Finset.mem_erase, mem_numbers]
  by_cases same : k = id
  · simp [same]
  · simp [same]

/-- An entry that is changed in place keeps its number. -/
theorem numbers_modify (t : Table) (id : Nat) {f : Snapshot → Snapshot}
    (keeps : ∀ s, (f s).id = s.id) : (t.modify id f).numbers = t.numbers := by
  ext k
  rw [mem_numbers, find?_modify t id k f keeps, mem_numbers]
  split
  · rw [Option.isSome_map]
  · rfl

/-- A mark takes no number away. -/
theorem numbers_markEnabled (t : Table) (id : Nat) (enabled : Bool) :
    (t.markEnabled id enabled).numbers = t.numbers := by
  ext k
  rw [mem_numbers, find?_markEnabled, mem_numbers]
  split
  · rw [Option.isSome_map]
  · rfl

end Table

/-! ## Notices about details -/

/-- Whether a notice is about a detail: no breakpoint comes or goes by it, and none was hit. -/
def Notice.isDetail : Notice → Bool
  | enabled _ | disabled _ | ignoreCount _ _ | condition _ _ | conditionError | unused => true
  | _ => false

/-- **A record is about a detail** if its second digit says so. -/
theorem Notice.detail_of_read {record : String} {tag : Tag} {n : Notice}
    (ht : Tag.read record = .ok tag) (h : read record = .ok n) (kind : tag.kind ∈ [3, 4, 6, 8]) :
    n.isDetail = true := by
  have looked : ∀ {next : Cursor → Reading Notice} c, (get >>= next) c = next c c := fun _ => rfl
  obtain ⟨c, d, start, reads⟩ := Reading.of_run h
  cases (tag_of_start start).symm.trans ht
  unfold reading at reads
  rw [looked] at reads
  refine (?_ : Reading.Gives (·.isDetail = true) _) c n d reads
  -- one case for each digit of a detail
  simp only [List.mem_cons, List.not_mem_nil, or_false] at kind
  rcases kind with e | e | e | e <;> rw [e]
  · exact .bind fun _ => .pure rfl
  · exact .bind fun _ => .pure rfl
  · exact .bind fun _ => .bind fun _ => .pure rfl
  · show Reading.Gives _ (if c.hasDelimiter = true then _ else _)
    split
    · exact .bind fun _ => .bind fun _ => .pure rfl
    · exact .bind fun _ => .pure rfl

end Breakpoint

/-- **A detail was noted**: nothing changed but details of the breakpoints of gdb. -/
structure World.Detailed (w v : World) : Prop extends World.Noted w v where
  numbers : v.session.table.numbers = w.session.table.numbers

theorem World.Detailed.refl (w : World) : w.Detailed w := ⟨⟨rfl, rfl, rfl, rfl⟩, rfl⟩

namespace Act

variable {link : Link} {w : World}

/-- A notice of a detail changes the table in its details, the numbers kept. -/
theorem applyNotice_detailed {notice : Notice} (detail : notice.isDetail = true) (link : Link)
    (w : World) : ∃ v, applyNotice notice link w = .ok () v ∧ w.Detailed v := by
  have same : ∀ f : Table → Table, (∀ t, (f t).numbers = t.numbers) →
      ∃ v, updateTable f link w = .ok () v ∧ w.Detailed v :=
    fun f keeps => ⟨_, rfl, ⟨rfl, rfl, rfl, rfl⟩, keeps _⟩
  cases notice with
  | enabled id => exact same _ fun t => t.numbers_markEnabled id true
  | disabled id => exact same _ fun t => t.numbers_markEnabled id false
  | ignoreCount id count =>
    exact same (·.modify id fun s => { s with ignoreCount := count }) fun t =>
      t.numbers_modify id fun _ => rfl
  | condition id text =>
    exact same (·.modify id fun s => { s with condition := text }) fun t =>
      t.numbers_modify id fun _ => rfl
  | conditionError => exact ⟨w, rfl, .refl w⟩
  | unused => exact ⟨w, rfl, .refl w⟩
  | _ => cases detail

/-- A record that announces details is handled, or it cannot be read; the numbers stay either
way. -/
theorem settles_handleDetail {record : String}
    (detail : ∀ n, Notice.read record = .ok n → n.isDetail = true) (link : Link) (w : World) :
    ∃ v, (handleBreakpoint record).Settles link w v ∧ w.Detailed v := by
  unfold handleBreakpoint
  cases hr : Notice.read record with
  | error defect => exact ⟨w, .of_failed rfl, .refl w⟩
  | ok notice =>
    obtain ⟨v, applied, detailed⟩ := applyNotice_detailed (detail notice hr) link w
    exact ⟨v, .dropped (.of_ok applied) _, detailed⟩

end Act

/-! ## Commands -/

/-- **A gdb that heeds a command**: nothing arrives meanwhile, and what it answers is about a
detail. -/
structure Peer.Heeds (peer : Peer) (past : List Call) (command : String) : Prop where
  quiet : peer.reactions past (.request command) = []
  detail : ∀ answer, peer.answer past command = .ok answer →
    ∀ n, Notice.read answer = .ok n → n.isDetail = true

/-- **What gdb answers to a command about a detail** is about a detail, whatever its result. -/
theorem Echoed.detail_of_answer {e : Echoed} (other : e ≠ .delete) {id : Nat}
    {response : Mi.Response} {n : Notice}
    (read : Notice.read (Mi.answer (e.command id) response) = .ok n) : n.isDetail = true := by
  obtain ⟨verb, hv, delete, rest, h⟩ := e.exists_verb id
  obtain ⟨kind, tag, known, deletes⟩ := Mi.tag_of_answer hv (Mi.head_words hv h) read
  refine Notice.detail_of_read tag read ?_
  -- of all that is answered only a deletion has this digit
  have five : kind ≠ 5 := fun same => other (delete (deletes same))
  simp only [List.mem_cons, List.not_mem_nil, or_false] at known ⊢
  omega

section Commands

variable {link : Link} {w : World} {command : String}

/-- A request and what is done with its answer, if that notes details only. -/
theorem Peer.Heeds.settles {α : Type} {next : String → Act α}
    (heeds : link.peer.Heeds w.sent command)
    (each : ∀ answer, (∀ n, Notice.read answer = .ok n → n.isDetail = true) → ∀ u,
      ∃ v, (next answer).Settles link u v ∧ u.Detailed v) :
    ∃ v, (request command >>= next).Settles link w v ∧
      (w.requesting command (link.peer.answer w.sent command)).Detailed v := by
  have asked := request_quiet heeds.quiet
  cases answered : link.peer.answer w.sent command with
  | error cause =>
    rw [answered] at asked
    exact ⟨_, .of_failed (bind_failed asked next), .refl _⟩
  | ok answer =>
    rw [answered] at asked
    obtain ⟨v, settles, detailed⟩ := each answer (heeds.detail answer answered) _
    exact ⟨v, .after_ok asked settles, detailed⟩

/-- An edit that is heeded changes details at most. -/
theorem settles_requestEcho (heeds : link.peer.Heeds w.sent command) (id : Nat) :
    ∃ v, (requestEcho command id).Settles link w v ∧
      (w.requesting command (link.peer.answer w.sent command)).Detailed v := by
  unfold requestEcho
  refine heeds.settles fun answer detail u => ?_
  extract_lets digit
  split
  · exact ⟨_, .of_ok rfl, ⟨rfl, rfl, rfl, rfl⟩, rfl⟩
  · obtain ⟨v, handled, detailed⟩ := settles_handleDetail detail link u
    refine ⟨v, ?_, detailed⟩
    rcases handled.ok_or_failed with ⟨notice, e⟩ | ⟨cause, e⟩
    · refine .after_ok e ?_
      split <;> exact .of_ok rfl
    · exact .of_failed (bind_failed e _)

/-- So does a request whose answer is handled as a notice. -/
theorem settles_requestNotice_detail (heeds : link.peer.Heeds w.sent command) :
    ∃ v, (requestNotice command).Settles link w v ∧
      (w.requesting command (link.peer.answer w.sent command)).Detailed v := by
  unfold requestNotice
  refine heeds.settles fun answer detail u => ?_
  split
  · exact ⟨u, .of_ok rfl, .refl u⟩
  · obtain ⟨v, handled, detailed⟩ := settles_handleDetail detail link u
    exact ⟨v, handled.discard.dropped true, detailed⟩

/-- **A command about a detail** is asked, and its answer noted. -/
theorem Echoed.settles_ask {e : Echoed} {id : Nat}
    (heeds : link.peer.Heeds w.sent (e.command id)) : ∃ v, (e.ask id).Settles link w v ∧
      (w.requesting (e.command id) (link.peer.answer w.sent (e.command id))).Detailed v := by
  cases e with
  | delete => exact settles_requestEcho heeds id
  | enable on => exact settles_requestEcho heeds id
  | condition text => exact settles_requestNotice_detail heeds
  | stopAt n => exact settles_requestNotice_detail heeds

end Commands

/-! ## Steps that a stopped session makes of them -/

namespace Act.Keeps

variable {α : Type} {I : World → Prop} {link : Link}

theorem discard {act : Act α} (h : act.Keeps I link) : (Functor.discard act).Keeps I link := by
  rw [discard_eq_bind]
  exact .bind h fun _ => .pure _

/-- What follows a step is about what it gives. -/
theorem bind_of {β : Type} {Q : α → Prop} {act : Act α} {next : α → Act β}
    (first : act.Keeps I link) (gives : ∀ w a v, I w → act link w = .ok a v → Q a)
    (second : ∀ a, Q a → (next a).Keeps I link) : (act >>= next).Keeps I link := by
  intro w hw
  have kept := first w hw
  rw [Act.after_bind]
  cases e : act link w with
  | ok a v =>
    rw [after_of_ok e] at kept
    exact second a (gives w a v hw e) v kept
  | error halt v =>
    rw [after_of_error e] at kept
    exact kept

/-- What is held meanwhile. -/
theorem holding {take : World → Option World} {give : World → World} {act : Act α}
    (taken : ∀ w v, I w → take w = some v → I v) (given : ∀ w, I w → I (give w))
    (h : act.Keeps I link) : (Act.holding take give act).Keeps I link := by
  intro w hw
  cases ht : take w with
  | none =>
    unfold after Act.holding
    rw [ht]
    exact hw
  | some v =>
    have kept := h v (taken w v hw ht)
    have either : (Act.holding take give act).after link w = act.after link v ∨
        (Act.holding take give act).after link w = give (act.after link v) := after_holding ht
    rcases either with e | e <;> rw [e]
    · exact kept
    · exact given _ kept

/-- A step may look at the breakpoint in a place; without one an assertion fails. -/
theorem boundAt {i : Nat} {next : Bound → Act α}
    (each : ∀ b w, w.bound[i]? = some b → I w → I ((next b).after link w)) :
    (bound i >>= next).Keeps I link := by
  intro w hw
  cases found : w.bound[i]? with
  | none =>
    have failed : (bound i >>= next) link w = .error .assertion w := by
      unfold Act.bound
      rw [bind_apply, get_apply, found]
      rfl
    rw [after_of_error failed]
    exact hw
  | some b =>
    rw [after_congr (bind_ok (boundAt_apply found) next)]
    exact each b w found hw

/-- A step may look at whether the target runs when it does not. -/
theorem isRunning {next : Bool → Act α}
    (idle : ∀ w, I w → ¬(w.session.phase = .running ∧ w.session.runMode))
    (h : (next false).Keeps I link) : (Act.isRunning >>= next).Keeps I link := by
  intro w hw
  rw [after_congr (isRunning_bind_of_idle (idle w hw))]
  exact h w hw

end Act.Keeps

/-- The number of a bound breakpoint and its hits. -/
def Breakpoint.Bound.tally (b : Bound) : Nat × Nat := (b.gdbId, b.hits)

/-- The breakpoint in this place was not hit, so that gdb need not create it anew. -/
def Hitless (i : Nat) (tallies : List (Nat × Nat)) : Prop :=
  ∀ id hits, tallies[i]? = some (id, hits) → hits = 0

/-- **Where a session stands** while its target is stopped: the numbers `T` have an entry in its
table and the numbers `L` are those of gdb, where `live` tells these by the commands sent; and its
bound breakpoints have these numbers and hits. -/
structure World.Stands (live : List Call → Finset Nat) (T L : Finset Nat)
    (tallies : List (Nat × Nat)) (w : World) : Prop where
  alive : w.session.alive = true
  stopped : w.session.phase = .stopped
  settled : w.session.needsResume = false
  table : w.session.table.numbers = T
  live : live w.sent = L
  bound : w.bound.map Bound.tally = tallies

/-- **A gdb that heeds commands about details**: no breakpoint comes or goes by them. -/
structure Peer.Heedful (peer : Peer) (live : List Call → Finset Nat) : Prop where
  heeds : ∀ past id (e : Echoed), e ≠ .delete → peer.Heeds past (e.command id)
  same : ∀ past id (e : Echoed), e ≠ .delete →
    live (.request (e.command id) :: past) = live past

namespace World.Stands

variable {live : List Call → Finset Nat} {T L : Finset Nat} {tallies : List (Nat × Nat)}
  {link : Link}

/-- Where a session stands for which only its table became another one. -/
theorem became {T' L' : Finset Nat} {w v : World} (h : w.Stands live T L tallies)
    (session : v.session = { w.session with
      unknownCode := v.session.unknownCode, table := v.session.table })
    (bound : v.bound = w.bound) (table : v.session.table.numbers = T') (sent : live v.sent = L') :
    v.Stands live T' L' tallies where
  alive := by rw [session]; exact h.alive
  stopped := by rw [session]; exact h.stopped
  settled := by rw [session]; exact h.settled
  table := table
  live := sent
  bound := by rw [bound]; exact h.bound

/-- A command about a detail leaves the session where it stands. -/
theorem detailed {w v : World} {command : String} {answer : Except Failure String}
    (h : w.Stands live T L tallies) (same : live (.request command :: w.sent) = live w.sent)
    (noted : (w.requesting command answer).Detailed v) : v.Stands live T L tallies :=
  h.became noted.session noted.bound (noted.numbers.trans h.table)
    ((congrArg live noted.sent).trans (same.trans h.live))

theorem idle (w : World) (h : w.Stands live T L tallies) :
    ¬(w.session.phase = .running ∧ w.session.runMode) := by
  rintro ⟨running, -⟩
  cases h.stopped.symm.trans running

theorem tally_of_bound {w : World} (h : w.Stands live T L tallies) {i : Nat} {b : Bound}
    (found : w.bound[i]? = some b) : tallies[i]? = some b.tally := by
  rw [← h.bound, List.getElem?_map, found]
  rfl

theorem exists_bound {w : World} (h : w.Stands live T L tallies) {i : Nat} {k : Nat × Nat}
    (found : tallies[i]? = some k) : ∃ b, w.bound[i]? = some b ∧ b.tally = k := by
  rw [← h.bound, List.getElem?_map] at found
  exact Option.map_eq_some_iff.1 found

/-- The bound breakpoints became other ones. -/
theorem rebind {w : World} (h : w.Stands live T L tallies) (bounds : List Bound) :
    ({ w with bound := bounds } : World).Stands live T L (bounds.map Bound.tally) :=
  { h with bound := rfl }

/-- A change of bound breakpoints that leaves numbers and hits alone. -/
theorem rebind_same {w : World} {bounds : List Bound} (h : w.Stands live T L tallies)
    (same : bounds.map Bound.tally = w.bound.map Bound.tally) :
    ({ w with bound := bounds } : World).Stands live T L tallies :=
  { h with bound := same.trans h.bound }

/-- A change that keeps each breakpoint's tally keeps all of them. -/
theorem map_modify {f : Bound → Bound} (same : ∀ b, (f b).tally = b.tally) (bounds : List Bound)
    (i : Nat) : (bounds.modify i f).map Bound.tally = bounds.map Bound.tally := by
  refine List.ext_getElem? fun j => ?_
  rw [List.getElem?_map, List.getElem?_map, List.getElem?_modify]
  cases bounds[j]? with
  | none => rfl
  | some b => by_cases here : i = j <;> simp [here, same]

theorem keeps_updateBound (i : Nat) {f : Bound → Bound} (same : ∀ b, (f b).tally = b.tally) :
    (updateBound i f).Keeps (World.Stands live T L tallies) link :=
  fun w h => h.rebind_same (map_modify same w.bound i)

theorem takeRegion {w v : World} (h : w.Stands live T L tallies)
    (taken : (w.session.critical.tryTake.map fun critical =>
      { w with session := { w.session with critical } }) = some v) : v.Stands live T L tallies := by
  obtain ⟨permit, -, rfl⟩ := Option.map_eq_some_iff.1 taken
  exact { h with }

/-- Taking gates is no change of a tally. -/
theorem takeGates {w v : World} {i : Nat} {gates : Gates} (h : w.Stands live T L tallies)
    (taken : Act.takeGates i gates w = some v) : v.Stands live T L tallies := by
  obtain ⟨b, now, found, -, rfl⟩ := of_takeGates taken
  refine h.rebind_same ?_
  rw [← modify_of_getElem? found fun b => { b with held := now }]
  exact map_modify (f := fun b => { b with held := now }) (fun _ => rfl) w.bound i

theorem giveGates {w : World} (h : w.Stands live T L tallies) (i : Nat) (gates : Gates) :
    (Act.giveGates i gates w).Stands live T L tallies :=
  h.rebind_same (map_modify (f := (·.free gates)) (fun _ => rfl) w.bound i)

theorem keeps_inRegion {α : Type} {act : Act α}
    (h : act.Keeps (World.Stands live T L tallies) link) :
    (inRegion act).Keeps (World.Stands live T L tallies) link :=
  .holding (fun _ _ => takeRegion) (fun _ h => { h with }) h

theorem keeps_withGates {α : Type} {i : Nat} {gates : Gates} {act : Act α}
    (h : act.Keeps (World.Stands live T L tallies) link) :
    (withGates i gates act).Keeps (World.Stands live T L tallies) link :=
  .holding (fun _ _ => takeGates) (fun _ h => h.giveGates i gates) h

variable (heedful : link.peer.Heedful live)

include heedful

/-- **A command about a detail**, given while the target is stopped. -/
theorem keeps_act {e : Echoed} (other : e ≠ .delete) (id : Nat) :
    (e.act id).Keeps (World.Stands live T L tallies) link := by
  intro w h
  by_cases allowed : e.Allowed
  · obtain ⟨v, settles, noted⟩ := Echoed.settles_ask (heedful.heeds w.sent id e other)
    have after := h.detailed (heedful.same w.sent id e other) noted
    rw [after_congr (e.act_apply h.alive allowed)]
    split
    · obtain ⟨outcome, asked⟩ := settles
      rw [after_congr (whilePaused_stopped h.stopped asked after.settled), after_settle]
      exact after
    · rw [settles.after_eq]
      exact after
  · -- the least number has no predecessor: it fails before anything is asked
    cases e with
    | stopAt n =>
      have least : n = leastInt64 := not_not.1 allowed
      have failed : stopAtHit id n link w = .error .assertion w := by
        unfold stopAtHit
        rw [if_pos least]
        rfl
      show (stopAtHit id n).after link w |>.Stands live T L tallies
      rw [after_of_error failed]
      exact h
    | _ => exact absurd trivial allowed

theorem keeps_stopAtHit (id : Nat) (n : Int) :
    (stopAtHit id n).Keeps (World.Stands live T L tallies) link :=
  keeps_act heedful (e := .stopAt n) Echoed.noConfusion id

theorem keeps_setGdbCondition (id : Nat) (text : String) :
    (setGdbCondition id text).Keeps (World.Stands live T L tallies) link :=
  keeps_act heedful (e := .condition text) Echoed.noConfusion id

/-- **A pass count.** -/
theorem keeps_setPassCount (i : Nat) (p : PassCount) :
    (setPassCount i p).Keeps (World.Stands live T L tallies) link := by
  unfold setPassCount
  refine keeps_withGates (keeps_inRegion (.isRunning idle ?_))
  refine .bind (keeps_updateBound i fun _ => rfl) fun _ => .boundAt fun b w _ =>
    (?_ : Keeps _ link _) w
  extract_lets told
  have h_told : ∀ outcome, (told outcome).Keeps (World.Stands live T L tallies) link :=
    fun outcome => .settle outcome
  split
  · exact .bind (.pure _) h_told
  · exact .bind (keeps_stopAtHit heedful _ _).discard.attempt h_told

omit heedful in
theorem hits_eq_zero {w : World} {i : Nat} {b : Bound} (hitless : Hitless i tallies)
    (h : w.Stands live T L tallies) (found : w.bound[i]? = some b) : b.hits = 0 :=
  hitless b.gdbId b.hits (h.tally_of_bound found)

theorem keeps_sendCondition (i : Nat) (c : Condition) :
    (sendCondition i c).Keeps (World.Stands live T L tallies) link := by
  unfold sendCondition
  refine .boundAt fun b w _ => (?_ : Keeps _ link _) w
  dsimp only
  split
  · exact .bind (keeps_updateBound i fun _ => rfl) fun _ =>
      (keeps_setGdbCondition heedful _ _).discard
  · exact .bind (keeps_updateBound i fun _ => rfl) fun _ =>
      (keeps_setGdbCondition heedful _ _).discard
  · exact .bind (keeps_updateBound i fun _ => rfl) fun _ =>
      .bind (keeps_stopAtHit heedful _ _).discard fun _ =>
        (keeps_setGdbCondition heedful _ _).discard

theorem keeps_giveCondition (i : Nat) (c : Condition) :
    (giveCondition i c).Keeps (World.Stands live T L tallies) link :=
  keeps_inRegion <| .isRunning idle <| .boundAt fun _ w _ =>
    Keeps.bind (keeps_sendCondition heedful i c) (fun _ => .pure _) w

omit heedful in
/-- A target that is stopped was not running when its condition was given. -/
theorem not_running_of_giveCondition {i : Nat} {c : Condition} {w v : World}
    {changed : Bool × Bool} (h : w.Stands live T L tallies)
    (e : giveCondition i c link w = .ok changed v) : changed.1 = false := by
  unfold giveCondition inRegion at e
  obtain ⟨y, _, entered, given, -⟩ := holding_ok e
  rw [isRunning_bind_of_idle ((h.takeRegion entered).idle y)] at given
  obtain ⟨_, _, _, sent⟩ := of_bind_ok given
  obtain ⟨_, _, _, last⟩ := of_bind_ok sent
  cases last
  rfl

/-- What comes after a condition, for a target that was not running. -/
theorem keeps_endCondition (i : Nat) {changed : Bool × Bool} (idle : changed.1 = false) :
    (endCondition i changed).Keeps (World.Stands live T L tallies) link := by
  obtain ⟨wasRunning, countsAgain⟩ := changed
  cases idle
  unfold endCondition
  dsimp only
  split
  · exact .boundAt fun b w _ => Keeps.bind (keeps_setPassCount heedful i _) (fun _ => .pure _) w
  · exact .pure _

theorem keeps_changeCondition {i : Nat} (hitless : Hitless i tallies) (c : Condition) :
    (changeCondition i c).Keeps (World.Stands live T L tallies) link := by
  rw [changeCondition_eq]
  -- without hits the breakpoint need not be created anew
  refine keeps_withGates (.boundAt fun b w found h => ?_)
  rw [if_neg (not_not.2 (hits_eq_zero hitless h found))]
  exact keeps_giveCondition heedful i c w h

omit heedful in
theorem not_running_of_changeCondition {i : Nat} (hitless : Hitless i tallies) {c : Condition}
    {w v : World} {changed : Bool × Bool} (h : w.Stands live T L tallies)
    (e : changeCondition i c link w = .ok changed v) : changed.1 = false := by
  rw [changeCondition_eq] at e
  obtain ⟨u, _, taken, held, -⟩ := holding_ok e
  have stands := h.takeGates taken
  obtain ⟨b, _, looked, changed⟩ := of_bind_ok held
  obtain ⟨found, rfl⟩ := getElem?_of_bound looked
  rw [if_neg (not_not.2 (hits_eq_zero hitless stands found)), pure_bind] at changed
  exact not_running_of_giveCondition stands changed

/-- **A condition** of a breakpoint that was not hit. -/
theorem keeps_setCondition {i : Nat} (hitless : Hitless i tallies) (c : Condition) :
    (setCondition i c).Keeps (World.Stands live T L tallies) link := by
  have applied : (applyCondition i c).Keeps (World.Stands live T L tallies) link := by
    rw [applyCondition_eq]
    exact .bind_of (keeps_changeCondition heedful hitless c)
      (fun _ _ _ h e => not_running_of_changeCondition hitless h e)
      fun _ idle => keeps_endCondition heedful i idle
  unfold setCondition
  refine .look fun s => ?_
  split
  · exact applied
  · exact .bind (fun _ h => { h with }) fun _ => .bind applied.attempt fun _ =>
      .bind (fun _ h => { h with }) fun _ => .settle _

end World.Stands

end DebugLink
