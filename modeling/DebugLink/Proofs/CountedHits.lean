import DebugLink.Proofs.Judgement
import DebugLink.Proofs.IgnoreCount
import Mathlib.Data.Nat.Find

/-!
# Hits that gdb counts

The hits of a plain breakpoint are counted by gdb, which lets as many of them pass as its ignore
count says. The session gives an ignore count when it is given a pass count, and again after every
stop when the pass count is of a kind that needs it. So the session and gdb run in a loop: what the
session computes from the hits it was told decides which hits it is told of next.

* `PassCount.Aligned`: the ignore count runs out at the hit that is allowed next.
* `CallsFor.aligned`, `rearm_aligned`: so does the ignore count of a pass count that was just given,
  and the one that follows a stop.
* `inStep_setPassCount`, `strike_inStep`: session and gdb get in step, and one hit keeps them so.
* `rearmed_stops_iff`: in every run exactly the allowed hits are told to the host.
-/

namespace DebugLink

open Act Breakpoint

/-! ## Ignore counts that run out in time -/

/-- **Aligned** with a pass count is an ignore count after which the next hit is the one that is
allowed, as far as the hits can be counted. -/
def Breakpoint.PassCount.Aligned (p : PassCount) (hits ignore : Nat) : Prop :=
  ∀ k, hits < k → k ≤ hits + ignore + 1 → k ≤ ignoreForever →
    (p.allows k = true ↔ k = hits + ignore + 1)

/-- A pass count for which gdb is told after every stop which hits to let pass. -/
def Breakpoint.PassCount.IsRearmed (p : PassCount) : Prop :=
  p.style = .equal ∨ p.style = .multiple ∧ 1 ≤ p.count

section Arithmetic

variable {p : PassCount} {hits count : Nat}

/-- Every ignore count that is sent fits in the word that gdb keeps it in. -/
theorem ignoreCountFor_lt (n : Int) : ignoreCountFor n < Text.limit32 := by
  have : Text.limit32 = 4294967296 := rfl
  unfold ignoreCountFor ignoreForever
  split
  · omega
  · omega

/-- The ignore count that a pass count calls for is aligned with it. -/
theorem Breakpoint.PassCount.CallsFor.aligned (h : p.CallsFor hits count) :
    p.Aligned hits count := by
  intro k later within small
  have forever : ignoreForever = 2147483647 := rfl
  -- the count leads to the first hit to stop at, or to none within reach
  by_cases some : ∃ n, hits < n ∧ p.allows n = true
  · obtain ⟨after, allowed⟩ := Nat.find_spec some
    have least : ∀ j, hits < j → p.allows j = true → Nat.find some ≤ j := fun j above e =>
      Nat.find_min' some ⟨above, e⟩
    have counted : count = min (Nat.find some - hits - 1) ignoreForever :=
      h.next _ after allowed fun j above below => Bool.eq_false_iff.2 fun e =>
        absurd (least j above e) (Nat.not_le.2 below)
    constructor
    · intro e
      have first := least k later e
      omega
    · intro e
      have same : k = Nat.find some := by omega
      rw [same]
      exact allowed
  · have none : ∀ j, hits < j → p.allows j = false := fun j above =>
      Bool.eq_false_iff.2 fun e => some ⟨j, above, e⟩
    have counted := h.never none
    constructor
    · intro e
      exact absurd e (by simp [none k later])
    · intro e
      omega

/-- A hit that passes brings the next allowed one closer. -/
theorem Breakpoint.PassCount.Aligned.passed (h : p.Aligned hits count) (pos : count ≠ 0) :
    p.Aligned (hits + 1) (count - 1) := by
  intro k later within small
  have next : hits + 1 + (count - 1) + 1 = hits + count + 1 := by omega
  rw [next] at within ⊢
  exact h k (by omega) within small

/-- The next hit stops exactly when no hit is let pass. -/
theorem Breakpoint.PassCount.Aligned.allows_next (h : p.Aligned hits count)
    (small : hits + 1 ≤ ignoreForever) : p.allows (hits + 1) = true ↔ count = 0 := by
  have next := h (hits + 1) (by omega) (by omega) small
  rw [next]
  omega

/-- **After a stop** one ignore count is sent, and it is aligned with the pass count. -/
theorem rearm_aligned {b : Bound} (follows : b.Follows p) (rearmed : p.IsRearmed)
    (hit : 0 < b.hits) (allowed : p.allows b.hits = true) :
    ∃ n, b.rearm = [.request (breakAfter b.gdbId (ignoreCountFor n))] ∧
      p.Aligned b.hits (ignoreCountFor n) := by
  obtain ⟨style, every⟩ := p
  have once : b.stopsOnce = decide (style = .equal) := (congrArg Bound.stopsOnce follows).symm
  have multiples : b.stopsEvery = if style = .multiple then every else 0 :=
    (congrArg Bound.stopsEvery follows).symm
  unfold Bound.rearm
  rcases rearmed with rfl | ⟨rfl, pos⟩
  · refine ⟨(ignoreForever : Int), if_pos once, ?_⟩
    have last : b.hits = every := by simpa [PassCount.allows] using allowed
    -- there is no further hit to stop at, and more than can be counted pass
    have passing : ignoreCountFor (ignoreForever : Int) = 2147483646 := by decide
    intro k later within small
    rw [passing]
    simp only [PassCount.allows, beq_iff_eq]
    unfold ignoreForever at small
    omega
  · have some : 0 < every := pos
    have cycle : b.stopsEvery = every := multiples
    have ahead : nextStop ⟨.multiple, every⟩ b.hits = ((every - b.hits % every : Nat) : Int) := by
      have small : b.hits % every < every := Nat.mod_lt b.hits some
      have next : nextStop ⟨.multiple, every⟩ b.hits = (every : Int) - (b.hits % every : Nat) :=
        if_pos some
      omega
    refine ⟨nextStop ⟨.multiple, every⟩ b.hits, ?_, (callsFor_nextStop ?_).aligned⟩
    · rw [if_neg (by rw [once]; decide), if_pos (by omega), cycle, ahead]
    · rintro (⟨other, -⟩ | ⟨-, none⟩)
      · cases other
      · exact absurd none (Nat.ne_of_gt some)

end Arithmetic

/-! ## The breakpoint of gdb -/

/-- A command as it was sent. -/
def Call.command : Call → String
  | submit command | request command => command

/-- The ignore count that a command gives a breakpoint of gdb. -/
def Call.ignoreCount? (id : Nat) (call : Call) : Option Nat :=
  match Text.words call.command.toList with
  | [verb, number, count] =>
    if verb = "-break-after".toList ∧ number = (toString id).toList then Text.readNat32 count
    else none
  | _ => none

/-- A breakpoint as gdb has it: its number, how often it was hit, and how many of the next hits
pass. -/
structure GdbPoint where
  id : Nat
  hits : Nat
  ignore : Nat
  deriving DecidableEq, Repr

/-- The breakpoint after commands that gdb was sent, the last one first. The last ignore count
holds. -/
def GdbPoint.heed (g : GdbPoint) (calls : List Call) : GdbPoint :=
  { g with ignore := (calls.findSome? (·.ignoreCount? g.id)).getD g.ignore }

/-- The count is read back from the command that carries it. -/
theorem ignoreCount?_breakAfter (id : Nat) {count : Nat} (bounded : count < Text.limit32) :
    (Call.request (breakAfter id count)).ignoreCount? id = some count := by
  unfold Call.ignoreCount? Call.command
  rw [words_breakAfter]
  dsimp only
  rw [if_pos ⟨rfl, rfl⟩]
  exact Text.readNat32_toString bounded

/-- The command that resumes the target gives no ignore count. -/
theorem ignoreCount?_continue (c : Config) (id : Nat) :
    (Call.submit c.continueCommand).ignoreCount? id = none := by
  have letters : ("-exec-continue".toList.all (!Text.isBlank ·)) = true := by decide +kernel
  have verb : ∀ x ∈ "-exec-continue".toList, Text.isBlank x = false := by
    simpa only [List.all_eq_true, Bool.not_eq_true'] using letters
  have split : c.continueCommand.toList =
      "-exec-continue".toList ++ ' ' :: ("--thread-group ".toList ++ c.threadGroup.toList) := by
    have literal : "-exec-continue --thread-group ".toList =
        "-exec-continue".toList ++ ' ' :: "--thread-group ".toList := by decide +kernel
    unfold Config.continueCommand
    rw [String.toList_append]
    show ("-exec-continue --thread-group " : String).toList ++ _ = _
    rw [literal, List.append_assoc]
    rfl
  unfold Call.ignoreCount? Call.command
  rw [split, Text.words_append verb (by decide) (by decide)]
  split
  · rename_i e
    have other : "-exec-continue".toList = _ := (List.cons.inj e).1
    rw [← other, if_neg (fun h => absurd h.1 (by decide))]
  · rfl

/-- What was sent after an ignore count and gives none leaves it as it is. -/
theorem GdbPoint.heed_breakAfter (g : GdbPoint) (earlier : List Call) {later : List Call}
    {count : Nat} (bounded : count < Text.limit32)
    (silent : ∀ call ∈ later, call.ignoreCount? g.id = none) :
    g.heed (later ++ .request (breakAfter g.id count) :: earlier) = { g with ignore := count } := by
  have last : (later ++ .request (breakAfter g.id count) :: earlier).findSome?
      (·.ignoreCount? g.id) = some count := by
    rw [List.findSome?_append, List.findSome?_eq_none_iff.2 silent, List.findSome?_cons,
      ignoreCount?_breakAfter g.id bounded]
    rfl
  unfold heed
  rw [last]
  rfl

/-! ## gdb and the session in a loop -/

/-- What was sent in a world since another one. -/
def World.sentSince (w v : World) : List Call := v.sent.take (v.sent.length - w.sent.length)

theorem World.sentSince_of_append {w v : World} {calls : List Call}
    (h : v.sent = calls ++ w.sent) : w.sentSince v = calls := by
  unfold sentSince
  rw [h]
  exact List.take_left' (by simp)

/-- A breakpoint of gdb, and the session that has it bound. -/
structure System where
  gdb : GdbPoint
  world : World

namespace System

variable (link : Link)

/-- The session does something, and gdb heeds what it is sent. -/
def perform (op : Operation) (s : System) : System where
  gdb := s.gdb.heed (s.world.sentSince (op.act.after link s.world))
  world := op.act.after link s.world

/-- gdb counts a hit and tells the session so. -/
def count (record : String) (s : System) : System :=
  perform link (.receive record) { s with gdb := { s.gdb with hits := s.gdb.hits + 1 } }

/-- **The breakpoint is hit**: the hit is counted, and then it passes or is told to the session. -/
def strike (counted hit : String) (s : System) : System :=
  let t := s.count link counted
  if t.gdb.ignore = 0 then t.perform link (.receive hit)
  else { t with gdb := { t.gdb with ignore := t.gdb.ignore - 1 } }

/-- A hit as gdb tells of it. It can be counted, and when it stops, the session finds the target
running and every gate free. -/
structure Strikes (counted hit : String) (s : System) : Prop where
  bounded : s.gdb.hits + 1 ≤ ignoreForever
  counts : ∃ state : Snapshot, Announces counted (.modified state) ∧ state.id = s.gdb.id ∧
    state.hits = s.gdb.hits + 1
  stops : ∃ file line thread, Announces hit (.hit s.gdb.id file line thread)
  arrives : (s.count link counted).gdb.ignore = 0 →
    (s.count link counted).world.session.phase = .running ∧ (s.count link counted).world.Free

/-- **The session agrees with gdb** about a plain breakpoint that is bound in this place. -/
structure Agrees (i : Nat) (b : Bound) (s : System) : Prop where
  found : s.world.bound[i]? = some b
  first : s.world.bound.findIdx? (·.gdbId == s.gdb.id) = some i
  number : b.gdbId = s.gdb.id
  hits : b.hits = s.gdb.hits
  plain : b.comparesValues = false

/-- **In step** with a pass count are gdb and a session that agree about a breakpoint when the
ignore count is aligned. -/
structure InStep (p : PassCount) (i : Nat) (s : System) : Prop where
  agrees : ∃ b, s.Agrees i b ∧ b.Follows p
  aligned : p.Aligned s.gdb.hits s.gdb.ignore

/-- Something else that the session does, which has nothing to do with the breakpoint. -/
structure Apart (i : Nat) (op : Operation) (s : System) : Prop where
  gdb : (s.perform link op).gdb = s.gdb
  bound : (s.perform link op).world.bound[i]? = s.world.bound[i]?
  first : (s.perform link op).world.bound.findIdx? (·.gdbId == s.gdb.id) =
    s.world.bound.findIdx? (·.gdbId == s.gdb.id)

/-- The systems to which hits of a breakpoint lead, whatever else the session does between them. -/
inductive Reaches (i : Nat) (s : System) : System → Prop
  | refl : Reaches i s s
  | strike {t : System} {counted hit : String} :
      Reaches i s t → t.Strikes link counted hit → Reaches i s (t.strike link counted hit)
  | perform {t : System} {op : Operation} :
      Reaches i s t → t.Apart link i op → Reaches i s (t.perform link op)

variable {link}

theorem perform_of_ok {op : Operation} {s : System} {v : World} {calls : List Call}
    (e : op.act link s.world = .ok () v) (sent : v.sent = calls ++ s.world.sent) :
    s.perform link op = ⟨s.gdb.heed calls, v⟩ := by
  unfold perform
  rw [after_of_ok e, World.sentSince_of_append sent]

end System

section Loop

variable {peer : Peer} (config : Config) (depth : Nat) {i : Nat} {b : Bound} {s : System}

namespace System

/-- **A hit is counted** on both sides. -/
theorem count_agrees {counted : String} (h : s.Agrees i b)
    (record : ∃ state : Snapshot, Announces counted (.modified state) ∧ state.id = s.gdb.id ∧
      state.hits = s.gdb.hits + 1) :
    let t := s.count (.within peer config (depth + 1)) counted
    t.gdb = { s.gdb with hits := s.gdb.hits + 1 } ∧
      t.Agrees i { b with hits := s.gdb.hits + 1 } ∧ t.world.hitsTold = s.world.hitsTold := by
  obtain ⟨state, announced, number, hits⟩ := record
  -- a report changes the hits of its breakpoint and sends nothing
  obtain ⟨z, e, scene⟩ := receive_recount peer config depth announced
    (by rw [number]; exact h.first) h.found h.plain (by omega)
  have sent : z.sent = [] ++ s.world.sent := congrArg Scene.sent scene
  have bound : z.bound = s.world.bound.set i { b with hits := s.gdb.hits + 1 } := by
    rw [← hits]
    exact congrArg Scene.bound scene
  intro t
  have reached : t = ⟨{ s.gdb with hits := s.gdb.hits + 1 }, z⟩ :=
    perform_of_ok (s := { s with gdb := { s.gdb with hits := s.gdb.hits + 1 } })
      (show Operation.act (.receive counted) _ _ = _ from e) sent
  rw [reached]
  refine ⟨rfl, ?_, World.hitsTold_of_stops (congrArg Scene.stops scene)⟩
  exact
    { found := by
        rw [bound]
        exact List.getElem?_set_self (List.getElem?_eq_some_iff.1 h.found).1
      first := by
        rw [bound, findIdx?_set h.found { b with hits := s.gdb.hits + 1 } rfl]
        exact h.first
      number := h.number
      hits := rfl
      plain := h.plain }

/-- **A hit that stops** is told to the host, and gdb is told which hits to let pass. -/
theorem report_agrees (attentive : peer.Attentive) {hit : String} (h : s.Agrees i b)
    (record : ∃ file line thread, Announces hit (.hit s.gdb.id file line thread))
    (runs : s.world.session.phase = .running) (free : s.world.Free) :
    let t := s.perform (.within peer config (depth + 1)) (.receive hit)
    t.gdb = s.gdb.heed b.rearm ∧ t.Agrees i b ∧ t.world.hitsTold = s.world.hitsTold + 1 := by
  obtain ⟨file, line, thread, announced⟩ := record
  rw [← h.number] at announced
  obtain ⟨z, e, scene⟩ := receive_hit_plain peer config depth announced free runs
    (by rw [h.number]; exact h.first) h.found attentive h.plain
  have sent : z.sent = b.rearm ++ s.world.sent := congrArg Scene.sent scene
  have bound : z.bound = s.world.bound := congrArg Scene.bound scene
  intro t
  have reached : t = ⟨s.gdb.heed b.rearm, z⟩ :=
    perform_of_ok (show Operation.act (.receive hit) _ _ = _ from e) sent
  rw [reached]
  refine ⟨rfl, ?_, World.hitsTold_of_hit (congrArg Scene.stops scene)⟩
  exact
    { found := by rw [bound]; exact h.found
      first := by rw [bound]; exact h.first
      number := h.number
      hits := h.hits
      plain := h.plain }

variable {config depth}

/-- **A stop** keeps gdb and the session in step: the ignore count that follows it is aligned. -/
theorem report_inStep (attentive : peer.Attentive) {p : PassCount} (rearmed : p.IsRearmed)
    {hit : String} (h : s.Agrees i b) (follows : b.Follows p) (counted : 0 < s.gdb.hits)
    (allowed : p.allows s.gdb.hits = true)
    (record : ∃ file line thread, Announces hit (.hit s.gdb.id file line thread))
    (runs : s.world.session.phase = .running) (free : s.world.Free) :
    let t := s.perform (.within peer config (depth + 1)) (.receive hit)
    t.InStep p i ∧ t.gdb.hits = s.gdb.hits ∧ t.world.hitsTold = s.world.hitsTold + 1 := by
  obtain ⟨gdb, agrees, told⟩ := report_agrees config depth attentive h record runs free
  rw [← h.hits] at counted allowed
  obtain ⟨n, rearm, aligned⟩ := rearm_aligned follows rearmed counted allowed
  have silent : ∀ call ∈ ([] : List Call), call.ignoreCount? s.gdb.id = none := by simp
  have heeded := s.gdb.heed_breakAfter [] (ignoreCountFor_lt n) silent
  intro t
  have sent : t.gdb = { s.gdb with ignore := ignoreCountFor n } := by
    rw [gdb, rearm, h.number, ← heeded]
    rfl
  refine ⟨⟨⟨b, agrees, follows⟩, ?_⟩, ?_, told⟩
  · rw [sent, ← h.hits]
    exact aligned
  · rw [sent]

/-- **A hit that passes** keeps gdb and the session in step: the next allowed one is closer. -/
theorem passed_inStep {p : PassCount} {hits : Nat} (h : s.Agrees i b) (follows : b.Follows p)
    (counted : s.gdb.hits = hits + 1) (aligned : p.Aligned hits s.gdb.ignore)
    (passes : s.gdb.ignore ≠ 0) :
    InStep p i { s with gdb := { s.gdb with ignore := s.gdb.ignore - 1 } } := by
  refine ⟨⟨b, ⟨h.found, h.first, h.number, h.hits, h.plain⟩, follows⟩, ?_⟩
  show p.Aligned s.gdb.hits (s.gdb.ignore - 1)
  rw [counted]
  exact aligned.passed passes

/-- **One hit** keeps gdb and the session in step, and it is told to the host exactly if the pass
count allows it. -/
theorem strike_inStep (attentive : peer.Attentive) {p : PassCount} (rearmed : p.IsRearmed)
    {counted hit : String} (h : s.InStep p i)
    (strikes : s.Strikes (.within peer config (depth + 1)) counted hit) :
    let t := s.strike (.within peer config (depth + 1)) counted hit
    t.InStep p i ∧ t.gdb.hits = s.gdb.hits + 1 ∧
      t.world.hitsTold = s.world.hitsTold + if p.allows (s.gdb.hits + 1) then 1 else 0 := by
  obtain ⟨b, agrees, follows⟩ := h.agrees
  obtain ⟨gdb, agrees', told⟩ := count_agrees config depth agrees strikes.counts
  have follows' : ({ b with hits := s.gdb.hits + 1 } : Bound).Follows p := by
    unfold Bound.Follows at follows ⊢
    rw [← follows]
    rfl
  have allows_iff := h.aligned.allows_next strikes.bounded
  have arrives := strikes.arrives
  unfold System.strike
  generalize s.count (.within peer config (depth + 1)) counted = u at *
  have hits : u.gdb.hits = s.gdb.hits + 1 := by rw [gdb]
  have ignore : u.gdb.ignore = s.gdb.ignore := by rw [gdb]
  have id : u.gdb.id = s.gdb.id := by rw [gdb]
  rw [← hits] at allows_iff ⊢
  rw [← ignore] at allows_iff
  -- gdb stops exactly when nothing is left to ignore, and then it also reports the hit
  by_cases stops : u.gdb.ignore = 0
  · have allowed := allows_iff.2 stops
    obtain ⟨runs, free⟩ := arrives stops
    obtain ⟨inStep, hits', told'⟩ := report_inStep attentive rearmed agrees' follows'
      (by omega) allowed (by rw [id]; exact strikes.stops) runs free
    dsimp only
    rw [if_pos stops, if_pos allowed]
    exact ⟨inStep, hits', told'.trans (by rw [told])⟩
  · have refused : ¬p.allows u.gdb.hits = true := fun e => stops (allows_iff.1 e)
    dsimp only
    rw [if_neg stops, if_neg refused]
    exact ⟨passed_inStep agrees' follows' hits (ignore ▸ h.aligned) stops, rfl, told⟩

/-- **A pass count that is given** gets a session in step that agrees with gdb. -/
theorem inStep_setPassCount (attentive : peer.Attentive) {p : PassCount} (rearmed : p.IsRearmed)
    (given : (Act.setPassCount i p).returns (.within peer config depth) s.world = true)
    (agrees : (s.perform (.within peer config depth) (.setPassCount i p)).Agrees i b) :
    (s.perform (.within peer config depth) (.setPassCount i p)).InStep p i := by
  obtain ⟨_, set⟩ := ok_of_returns given
  obtain ⟨follows, later, earlier, sent, silent⟩ :=
    setPassCount_given attentive set agrees.found agrees.plain
  have number : b.gdbId = s.gdb.id := agrees.number
  have hits : b.hits = s.gdb.hits := agrees.hits
  have read : p.IsMisread b.hits → False := by
    rintro (⟨other, -⟩ | ⟨other, none⟩)
    · rcases rearmed with same | ⟨same, -⟩ <;> rw [same] at other <;> cases other
    · rcases rearmed with same | ⟨-, some⟩
      · rw [same] at other
        cases other
      · omega
  -- only the last command sets an ignore count; a resumption after it sets none
  have heard : (s.perform (.within peer config depth) (.setPassCount i p)).gdb =
      { s.gdb with ignore := ignoreCountFor (nextStop p b.hits) } := by
    rw [perform_of_ok (show Operation.act (.setPassCount i p) _ _ = _ from set) sent, number]
    refine GdbPoint.heed_breakAfter s.gdb earlier (ignoreCountFor_lt _) fun call mem => ?_
    rw [silent call mem]
    exact ignoreCount?_continue config s.gdb.id
  refine ⟨⟨b, agrees, follows⟩, ?_⟩
  rw [heard, ← hits]
  exact (callsFor_nextStop read).aligned

/-- A session that agrees with gdb still does so after a pass count was given, if the target does
not run meanwhile. -/
theorem agrees_setPassCount {link : Link} (attentive : link.peer.Attentive) (p : PassCount)
    (h : s.Agrees i b) (bounded : s.gdb.hits < Text.limit32) (idle : ¬s.world.Runs)
    (gate : b.held.hitCount = false) (region : s.world.session.critical.isFree = true) :
    (s.perform link (.setPassCount i p)).Agrees i (b.withPassCount p) := by
  obtain ⟨v, settles, bound, -⟩ := settles_setPassCount attentive p h.found h.plain
    (by rw [h.hits]; exact bounded) idle gate region
  have world : (s.perform link (.setPassCount i p)).world = v := settles.after_eq
  refine ⟨?_, ?_, h.number, h.hits, h.plain⟩
  · rw [world, bound]
    exact List.getElem?_set_self (List.getElem?_eq_some_iff.1 h.found).1
  · rw [world, bound, findIdx?_set h.found (b.withPassCount p) rfl]
    exact h.first

/-- What has nothing to do with the breakpoint keeps gdb and the session in step. -/
theorem Apart.inStep {link : Link} {op : Operation} {p : PassCount} (apart : s.Apart link i op)
    (h : s.InStep p i) : (s.perform link op).InStep p i := by
  obtain ⟨b, agrees, follows⟩ := h.agrees
  refine ⟨⟨b, ⟨?_, ?_, ?_, ?_, agrees.plain⟩, follows⟩, ?_⟩
  · rw [apart.bound]
    exact agrees.found
  · rw [apart.gdb, apart.first]
    exact agrees.first
  · rw [apart.gdb]
    exact agrees.number
  · rw [apart.gdb]
    exact agrees.hits
  · rw [apart.gdb]
    exact h.aligned

/-- **Every run** keeps gdb and the session in step. -/
theorem Reaches.inStep (attentive : peer.Attentive) {p : PassCount} (rearmed : p.IsRearmed)
    {t : System} (h : s.InStep p i) (run : s.Reaches (.within peer config (depth + 1)) i t) :
    t.InStep p i := by
  induction run with
  | refl => exact h
  | strike _ strikes ih => exact (strike_inStep attentive rearmed ih strikes).1
  | perform _ apart ih => exact apart.inStep ih

/-- Resuming the target has nothing to do with the breakpoint: a run goes on after every stop. -/
theorem apart_resume {link : Link} (attentive : link.peer.Attentive) (i : Nat) (s : System) :
    s.Apart link i .resume := by
  obtain ⟨bound, sent⟩ := after_resume_attentive attentive (w := s.world)
  have silent : s.gdb.heed [.submit link.config.continueCommand] = s.gdb := by
    unfold GdbPoint.heed
    rw [List.findSome?_cons, ignoreCount?_continue]
    rfl
  refine ⟨?_, congrArg (·[i]?) bound, congrArg (List.findIdx? _) bound⟩
  show s.gdb.heed (s.world.sentSince (resume.after link s.world)) = s.gdb
  rcases sent with same | more
  · have nothing : (resume.after link s.world).sent = [] ++ s.world.sent := same
    rw [World.sentSince_of_append nothing]
    rfl
  · have one : (resume.after link s.world).sent =
        [.submit link.config.continueCommand] ++ s.world.sent := more
    rw [World.sentSince_of_append one]
    exact silent

end System

end Loop

/-- **The pass counts that are given again stop at the allowed hits.** A plain breakpoint is given a
pass count of one hit or of the multiples of a number, and afterwards the session knows as many hits
as gdb. However the run goes on, the next hit is told to the host exactly if the pass count allows
its number. -/
theorem rearmed_stops_iff (peer : Peer) (config : Config) (depth i : Nat) (p : PassCount)
    (b : Bound) (s t : System) (counted hit : String) (attentive : peer.Attentive)
    (rearmed : p.IsRearmed)
    (given : (Act.setPassCount i p).returns (.within peer config (depth + 1)) s.world = true)
    (agrees : (s.perform (.within peer config (depth + 1)) (.setPassCount i p)).Agrees i b)
    (run : (s.perform (.within peer config (depth + 1)) (.setPassCount i p)).Reaches
      (.within peer config (depth + 1)) i t)
    (strikes : t.Strikes (.within peer config (depth + 1)) counted hit) :
    (t.strike (.within peer config (depth + 1)) counted hit).world.hitsTold =
      t.world.hitsTold + if p.allows (t.gdb.hits + 1) then 1 else 0 := by
  have start := System.inStep_setPassCount attentive rearmed given agrees
  exact (System.strike_inStep attentive rearmed (run.inStep attentive rearmed start) strikes).2.2

/-- A breakpoint that was never hit. -/
def neverHit : Bound := { gdbId := 1, location := .function "main" }

/-- A session whose target stopped, with this breakpoint and every gate free, and gdb that has the
same breakpoint. -/
def stoppedBeforeHits : System where
  gdb := ⟨1, 0, 0⟩
  world := { session := { phase := .stopped, runMode := false }, bound := [neverHit] }

/-- What gdb tells of the breakpoint when it was hit so often. -/
def stateAfter (hits : Nat) : Snapshot :=
  { id := 1, enabled := true, address := .resolved 0x401136, function := "main", file := "a.c"
    line := 5, hits }

set_option maxRecDepth 100000 in
/-- Of the multiples of two the first one is the second hit: the first hit passes, and the second
one is told. -/
theorem rearmed_stops_multiple :
    let link := Link.within (interruptedPeer "") {} 1
    let p : PassCount := ⟨.multiple, 2⟩
    let s := stoppedBeforeHits
    let start := s.perform link (.setPassCount 0 p)
    let first := "21;1;y;0x401136;main;a.c;5;1"
    let second := "21;1;y;0x401136;main;a.c;5;2"
    let hit := "27;1;a.c;5;2"
    let t := (start.perform link .resume).strike link first hit
    (link.peer.Attentive ∧ p.IsRearmed ∧ (Act.setPassCount 0 p).returns link s.world = true ∧
        start.Agrees 0 (neverHit.withPassCount p) ∧ start.Reaches link 0 t ∧
        t.Strikes link second hit) ∧
      t.world.hitsTold = 0 ∧ (t.strike link second hit).world.hitsTold = t.world.hitsTold + 1 := by
  intro link p s start first second hit t
  have attentive : link.peer.Attentive := interruptedPeer_attentive ""
  have rearmed : p.IsRearmed := .inr ⟨rfl, by decide⟩
  have given : (Act.setPassCount 0 p).returns link s.world = true := by decide +kernel
  have agrees : start.Agrees 0 (neverHit.withPassCount p) :=
    System.agrees_setPassCount attentive p ⟨rfl, rfl, rfl, rfl, rfl⟩ (by decide)
      (fun runs => absurd runs.1 (by decide)) rfl rfl
  have counts : Announces "21;1;y;0x401136;main;a.c;5;1" (.modified (stateAfter 1)) := ⟨rfl, rfl⟩
  have counts' : Announces "21;1;y;0x401136;main;a.c;5;2" (.modified (stateAfter 2)) := ⟨rfl, rfl⟩
  have tells : Announces "27;1;a.c;5;2" (.hit 1 "a.c" 5 2) := ⟨rfl, rfl⟩
  -- the first hit is ignored by gdb itself, so the program has not heard of it
  have resumed : (start.perform link .resume).gdb = ⟨1, 0, 1⟩ := by decide +kernel
  have strikes : (start.perform link .resume).Strikes link first hit := by
    refine ⟨?_, ⟨stateAfter 1, counts, ?_⟩, ⟨"a.c", 5, 2, ?_⟩, ?_⟩
    · rw [resumed]
      decide
    · rw [resumed]
      exact ⟨rfl, rfl⟩
    · rw [resumed]
      exact tells
    · decide +kernel
  have run : start.Reaches link 0 t :=
    .strike (.perform .refl (System.apart_resume attentive 0 start)) strikes
  have passed : t.gdb = ⟨1, 1, 0⟩ := by decide +kernel
  have strikes' : t.Strikes link second hit := by
    refine ⟨?_, ⟨stateAfter 2, counts', ?_⟩, ⟨"a.c", 5, 2, ?_⟩, ?_⟩
    · rw [passed]
      decide
    · rw [passed]
      exact ⟨rfl, rfl⟩
    · rw [passed]
      exact tells
    · decide +kernel
  have told := rearmed_stops_iff (interruptedPeer "") {} 0 0 p _ s t second hit attentive rearmed
    given agrees run strikes'
  rw [passed, if_pos (by decide)] at told
  exact ⟨⟨attentive, rearmed, given, agrees, run, strikes'⟩, by decide +kernel, told⟩

end DebugLink
