import DebugLink.Proofs.Lifetime
import DebugLink.Proofs.Setup
import DebugLink.Proofs.Written
import DebugLink.Session.Scripted

/-!
# Hit counts that gdb reports

Where gdb counts the hits of a bound breakpoint, the count that the session knows is the one that
gdb reported last. Nothing else that is handled touches it, nor anything else of the breakpoint.

* `heard`: the records that found the session alive.
* `lastCount?`: the hit count that records give last for a number.
* `watched_receiveAlive`, `watched_run`: what one record does to a breakpoint, and what a run does.
* `hits_follow_reports`: after any run the hits are those that were reported last.
-/

namespace DebugLink

open Act Breakpoint

/-- The records of a run that found the session alive. -/
def heard (link : Link) : World → List String → List String
  | _, [] => []
  | w, record :: records =>
    let later := heard link ((receiveAlive record).after link w) records
    if w.session.alive then record :: later else later

/-- The hit count that a record gives for a number. -/
def countFor? (id : Nat) (record : String) : Option Nat :=
  match reportOf? record with
  | some s => if s.id = id then some s.hits else none
  | none => none

/-- The hit count that records give last for a number. -/
def lastCount? (id : Nat) (records : List String) : Option Nat :=
  (records.filterMap (countFor? id)).getLast?

/-- What a record gives counts unless a later one gives something. -/
theorem lastCount?_cons_getD (id : Nat) (record : String) (records : List String) (hits : Nat) :
    (lastCount? id (record :: records)).getD hits =
      (lastCount? id records).getD ((countFor? id record).getD hits) := by
  unfold lastCount?
  cases report : countFor? id record with
  | none =>
    rw [List.filterMap_cons_none report]
    rfl
  | some count =>
    rw [List.filterMap_cons_some report, List.getLast?_cons]
    cases (records.filterMap (countFor? id)).getLast? <;> rfl

/-- **A breakpoint is watched** in its place: it is the first one of its number there. -/
structure World.Watched (i : Nat) (b : Bound) (w : World) : Prop where
  found : w.bound[i]? = some b
  first : w.bound.findIdx? (·.gdbId == b.gdbId) = some i

namespace World.Watched

variable {i : Nat} {b : Bound} {v w : World}

/-- A breakpoint that gdb counts the hits of is the same where the breakpoints are set up as they
were. -/
theorem of_setups (h : w.Watched i b) (plain : b.comparesValues = false)
    (same : v.setups = w.setups) : v.Watched i b := by
  have numbers : ∀ u : World, u.bound.map (·.gdbId) = u.setups.map (·.gdbId) := by
    intro u
    unfold setups
    rw [List.map_map]
    exact List.map_congr_left fun c _ => (Bound.setup_gdbId c).symm
  constructor
  · have there : v.bound[i]?.map Bound.setup = some b.setup := by
      rw [← getElem?_setups, same, getElem?_setups, h.found]
      rfl
    obtain ⟨c, found, setup⟩ := Option.map_eq_some_iff.1 there
    rw [found, Bound.eq_of_setup plain setup]
  · rw [findIdx?_gdbId, numbers, same, ← numbers, ← findIdx?_gdbId]
    exact h.first

/-- A report for its number sets its hits, and one for another number nothing. -/
theorem of_report (h : w.Watched i b) (plain : b.comparesValues = false) {id hits : Nat}
    (reported : v.bound = recounted id hits w.bound) :
    v.Watched i (if id = b.gdbId then { b with hits } else b) := by
  unfold recounted at reported
  by_cases here : id = b.gdbId
  · subst here
    rw [if_pos rfl]
    rw [h.first] at reported
    dsimp only at reported
    rw [modify_of_getElem? h.found, if_neg (by simp [plain])] at reported
    constructor
    · rw [reported]
      exact List.getElem?_set_self (List.getElem?_eq_some_iff.1 h.found).1
    · rw [reported, findIdx?_set h.found { b with hits } rfl]
      exact h.first
  · rw [if_neg here]
    -- the report is for the first breakpoint of its number, which is another one
    cases first : w.bound.findIdx? (·.gdbId == id) with
    | none =>
      rw [first] at reported
      exact ⟨by rw [reported]; exact h.found, by rw [reported]; exact h.first⟩
    | some j =>
      have size := (List.findIdx?_eq_some_iff_getElem.1 first).1
      have there : w.bound[j]? = some w.bound[j] := List.getElem?_eq_getElem size
      have number := gdbId_of_findIdx? first there
      have apart : j ≠ i := by
        rintro rfl
        exact here (number.symm.trans (congrArg Bound.gdbId (Option.some.inj
          (there.symm.trans h.found))))
      rw [first] at reported
      dsimp only at reported
      rw [modify_of_getElem? there] at reported
      constructor
      · rw [reported, List.getElem?_set_ne apart]
        exact h.found
      · rw [reported, findIdx?_set there _ (by split <;> rfl)]
        exact h.first

end World.Watched

section Run

variable {peer : Peer} (reticent : peer.Reticent) {config : Config} {depth i : Nat} {b : Bound}
  (plain : b.comparesValues = false)

include reticent plain

/-- **One record** sets the hits of a watched breakpoint if it reports them, and changes nothing
else of it. -/
theorem watched_receive {w v : World} {record : String} (h : w.Watched i b)
    (counts : ∀ s, reportOf? record = some s → 1 ≤ s.hits)
    (run : receive record (.within peer config (depth + 1)) w = .ok () v) :
    v.Watched i { b with hits := (countFor? b.gdbId record).getD b.hits } := by
  unfold countFor?
  -- only a report counts, and every other record leaves the count
  cases report : reportOf? record with
  | none =>
    have here : (Link.within peer config (depth + 1)).peer.Reticent := by
      rw [Link.within_peer]
      exact reticent
    have kept := KeepsSetup.receive here (.within reticent config (depth + 1)) report w rfl
    rw [run] at kept
    exact h.of_setups plain kept
  | some s =>
    obtain ⟨z, done, scene⟩ := receive_report peer config depth (reportOf?_eq_some_iff.1 report)
      (Nat.one_le_iff_ne_zero.1 (counts s report)) w
    cases run.symm.trans done
    have watched := h.of_report plain (congrArg Scene.bound scene)
    dsimp only
    split
    · rename_i same
      rwa [if_pos same] at watched
    · rename_i other
      rwa [if_neg other] at watched

/-- **One record does to the watched breakpoint what it counts**, and nothing in an ended
session. -/
theorem watched_receiveAlive {w v : World} {record : String} (h : w.Watched i b)
    (counts : ∀ s, reportOf? record = some s → 1 ≤ s.hits)
    (run : receiveAlive record (.within peer config (depth + 1)) w = .ok () v) :
    v.Watched i { b with hits :=
      if w.session.alive then (countFor? b.gdbId record).getD b.hits else b.hits } := by
  cases alive : w.session.alive with
  | false =>
    rw [receiveAlive_dead alive] at run
    cases run
    exact h
  | true =>
    have chosen : receiveAlive record (.within peer config (depth + 1)) w =
        (if 1 < Text.utf8Length record.toList then receive record else pure ())
          (.within peer config (depth + 1)) w := by
      show (if w.session.alive && decide (1 < Text.utf8Length record.toList) then _ else _ :
        Act Unit) _ w = _
      rw [alive]
      simp
    rw [chosen] at run
    split at run
    · exact watched_receive reticent plain h counts run
    · rename_i short
      cases run
      -- what has no room for a tag reports nothing
      have none : countFor? b.gdbId record = none := by
        unfold countFor?
        cases report : reportOf? record with
        | none => rfl
        | some s =>
          exact absurd (Notice.one_lt_of_read (reportOf?_eq_some_iff.1 report).read) short
      rw [none]
      exact h

/-- **A run of records** leaves a watched breakpoint with the hits that were reported last. -/
theorem watched_run {records : List String} {w v : World} (h : w.Watched i b)
    (counts : ∀ record ∈ records, ∀ s, reportOf? record = some s → 1 ≤ s.hits)
    (run : (records.forM receiveAlive : Act PUnit) (.within peer config (depth + 1)) w = .ok () v) :
    v.Watched i { b with hits := (lastCount? b.gdbId
      (heard (.within peer config (depth + 1)) w records)).getD b.hits } := by
  -- the hits that are watched change from record to record, so the breakpoint is generalized too
  induction records generalizing w b with
  | nil =>
    cases run
    exact h
  | cons record records ih =>
    have both : (receiveAlive record >>= fun _ => records.forM receiveAlive : Act PUnit)
        (.within peer config (depth + 1)) w = .ok () v := run
    obtain ⟨_, u, first, later⟩ := of_bind_ok both
    have watched := watched_receiveAlive reticent plain h
      (counts record List.mem_cons_self) first
    have rest := fun c (plain : Bound.comparesValues c = false) (watched : u.Watched i c) =>
      ih plain watched (fun r hr => counts r (List.mem_cons_of_mem _ hr)) later
    unfold heard
    rw [after_of_ok first]
    dsimp only
    cases alive : w.session.alive with
    | false =>
      rw [alive] at watched
      exact rest b plain watched
    | true =>
      rw [alive, if_pos rfl] at watched
      rw [if_pos rfl, lastCount?_cons_getD]
      exact rest { b with hits := (countFor? b.gdbId record).getD b.hits } plain watched

end Run

/-- A breakpoint that compares values takes no hit count over. -/
theorem getElem?_recounted {bounds : List Bound} {i : Nat} {b : Bound} (found : bounds[i]? = some b)
    (compares : b.comparesValues = true) (id hits : Nat) :
    (recounted id hits bounds)[i]? = some b := by
  unfold recounted
  split
  · rename_i j first
    rw [List.getElem?_modify, found]
    by_cases here : j = i
    · simp [here, compares]
    · simp [here]
  · exact found

/-- **Hit counts follow gdb and nothing else.** Over any link to a reticent peer, let deliveries of
any records be handled to the end, with no report of a hit count of zero among them. A bound
breakpoint that gdb counts the hits of, and that is the first one of its number, then has the hits
that were last reported for its number while the session was alive, those that it had if there was
no report, and is otherwise as it was. No report ever changes a breakpoint that compares values. -/
theorem hits_follow_reports {peer : Peer} (reticent : peer.Reticent) (config : Config)
    (depth : Nat) {w v : World} {deliveries : List String}
    (counts : ∀ record ∈ deliveries.flatMap recordsOf, ∀ s, reportOf? record = some s →
      1 ≤ s.hits)
    (run : deliveries.forM deliver (.within peer config (depth + 1)) w = .ok () v) :
    (∀ (i : Nat) (b : Bound), w.bound[i]? = some b → b.comparesValues = false →
        w.bound.findIdx? (·.gdbId == b.gdbId) = some i →
        v.bound[i]? = some { b with hits := (lastCount? b.gdbId
          (heard (.within peer config (depth + 1)) w
            (deliveries.flatMap recordsOf))).getD b.hits }) ∧
      ∀ (u : World) record s, reportOf? record = some s → 1 ≤ s.hits →
        ∀ (i : Nat) (b : Bound), u.bound[i]? = some b → b.comparesValues = true →
          ((receive record).after (.within peer config (depth + 1)) u).bound[i]? = some b := by
  rw [forM_deliver] at run
  refine ⟨fun i b found plain first => ?_, fun u record s report positive i b found compares => ?_⟩
  · exact (watched_run reticent plain ⟨found, first⟩ counts run).found
  · obtain ⟨z, done, scene⟩ := receive_report peer config depth (reportOf?_eq_some_iff.1 report)
      (Nat.one_le_iff_ne_zero.1 positive) u
    have bound : z.bound = recounted s.id s.hits u.bound := congrArg Scene.bound scene
    rw [after_of_ok done, bound]
    exact getElem?_recounted found compares s.id s.hits

/-- A session whose target runs, with one breakpoint that gdb counts the hits of and one that
compares values. -/
def runningBoth : World where
  session := { phase := .running }
  bound := [{ gdbId := 1, location := .function "main", hits := 1 },
    { gdbId := 2, location := .function "step", hits := 4, comparesValues := true }]

/-- A peer that accepts every command is reticent. -/
theorem reticent_accepting : ({ accepting := true } : Script).peer.Reticent :=
  Peer.Attentive.reticent
    { answers := fun _ _ _ h => by
        injection h with e
        exact ⟨_, e.symm⟩
      reactions := fun _ _ _ => rfl }

set_option maxRecDepth 100000 in
/-- Two reports, a hit between them, a report for the other breakpoint, and one after the end of the
session: the second report counts. -/
theorem hits_follow_reports_second :
    let link := Link.within ({ accepting := true } : Script).peer {} 1
    let deliveries := ["21;1;y;0x10;main;a.c;3;2\r\n27;1;a.c;3;1",
      "21;1;y;0x10;main;a.c;3;5\r\n21;2;y;0x20;step;a.c;9;1\r\n43;0",
      "21;1;y;0x10;main;a.c;3;7"]
    let v := (deliveries.forM deliver : Act PUnit).after link runningBoth
    (deliveries.forM deliver : Act PUnit) link runningBoth = .ok () v ∧
      v.bound[0]? = some { gdbId := 1, location := .function "main", hits := 5 } := by
  intro link deliveries v
  obtain ⟨⟨⟩, run⟩ : ∃ value, (deliveries.forM deliver : Act PUnit) link runningBoth =
      .ok value v := ok_of_returns (by decide +kernel)
  have counts : ∀ record ∈ deliveries.flatMap recordsOf, ∀ s, reportOf? record = some s →
      1 ≤ s.hits := by
    have each : ((deliveries.flatMap recordsOf).all fun record =>
        (reportOf? record).all fun s => decide (1 ≤ s.hits)) = true := by decide +kernel
    intro record mem s report
    have positive := List.all_eq_true.1 each record mem
    rw [report] at positive
    simpa using positive
  have last : lastCount? 1 (heard link runningBoth (deliveries.flatMap recordsOf)) = some 5 := by
    decide +kernel
  have follows := (hits_follow_reports reticent_accepting {} 0 counts run).1 0 _ rfl rfl rfl
  refine ⟨run, follows.trans ?_⟩
  rw [last]
  rfl

end DebugLink
