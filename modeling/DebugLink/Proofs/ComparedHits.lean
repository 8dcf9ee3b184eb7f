import DebugLink.Proofs.Judgement
import DebugLink.Proofs.Lockstep.Operation

/-!
# Runs of hits at a breakpoint that compares values

A breakpoint that compares values is hit every time, and the session counts its hits, because gdb's
count says nothing about changes. But only a hit that stops is counted, and whether it stops is
decided with the count before it. A pass count that does not allow the first stop never sees another
count.

* `passing_receive`: a hit that is not allowed is not counted either.
* `passing_run`: so no hit of a whole run is told to the host.
* `exactly_nth_hit_iff`: a pass count of exactly `N` hits is met by a run of hits exactly if the run
  is too short for the `N`-th one.
-/

namespace DebugLink

open Act Breakpoint

/-- Whether evaluating the expression of a breakpoint gives a value, and a new one. -/
def World.findsChange (link : Link) (i : Nat) (w : World) : Bool :=
  match w.bound[i]? with
  | none => false
  | some b =>
    match query (Variable.evaluate b.condition.expression none) link w with
    | .ok e _ => e.valid && b.previousValue ≠ e.value
    | .error _ _ => false

/-- A change that is found is an evaluation that returned another value. -/
theorem World.value_of_findsChange {link : Link} {i : Nat} {w : World} {b : Bound}
    (found : w.bound[i]? = some b) (h : w.findsChange link i = true) :
    ∃ value y, b.previousValue ≠ value ∧
      query (Variable.evaluate b.condition.expression none) link w = .ok ⟨true, value⟩ y := by
  unfold findsChange at h
  rw [found] at h
  dsimp only at h
  split at h
  · rename_i e y evaluates
    obtain ⟨valid, value⟩ := e
    simp only [Bool.and_eq_true, decide_eq_true_eq] at h
    obtain ⟨rfl, changed⟩ := h
    exact ⟨value, y, changed, evaluates⟩
  · cases h

/-- **Hits pass**: the target runs with every gate free, and the breakpoint is as given but for the
value that was found last. -/
structure World.Passing (i : Nat) (b : Bound) (w : World) : Prop where
  runs : w.session.phase = .running
  free : w.Free
  first : w.bound.findIdx? (·.gdbId == b.gdbId) = some i
  found : ∃ value, w.bound[i]? = some { b with previousValue := value }

section Passing

variable {peer : Peer} (attentive : peer.Attentive) {config : Config} {depth i : Nat} {b : Bound}
  (compares : b.comparesValues = true) (passes : b.passCount.allows b.hits = false)

include attentive compares passes

/-- **One hit passes**: it is not told, and the next one finds the same breakpoint. -/
theorem passing_receive {w : World} {record file : String} {line thread : Nat}
    (h : Announces record (.hit b.gdbId file line thread)) (hw : w.Passing i b)
    (change : w.findsChange (.within peer config (depth + 1)) i = true) :
    let z := (receive record).after (.within peer config (depth + 1)) w
    z.Passing i b ∧ z.hitsTold = w.hitsTold := by
  obtain ⟨last, found⟩ := hw.found
  obtain ⟨value, y, changed, evaluates⟩ := World.value_of_findsChange found change
  obtain ⟨z, done, scene⟩ := receive_hit_passed (b := { b with previousValue := last }) peer config
    depth h hw.free hw.runs hw.first found attentive compares evaluates changed passes
  -- only the value it was compared with is new
  have bound : z.bound = w.bound.set i { b with previousValue := value } :=
    congrArg Scene.bound scene
  intro z'
  have same : z' = z := after_of_ok done
  rw [same]
  refine ⟨⟨congrArg Scene.phase scene, ⟨?_, ?_, ?_, ?_⟩, ?_, value, ?_⟩,
    World.hitsTold_of_stops (congrArg Scene.stops scene)⟩
  · rw [show z.session.breakAll = w.session.breakAll from congrArg Scene.breakAll scene]
    exact hw.free.breakAll
  · rw [show z.session.conditionUpdate = w.session.conditionUpdate from
      congrArg Scene.conditionUpdate scene]
    exact hw.free.conditionUpdate
  · rw [show z.session.critical = w.session.critical from congrArg Scene.critical scene]
    exact hw.free.critical
  · intro x hx
    rw [bound] at hx
    rcases List.mem_or_eq_of_mem_set hx with hx | rfl
    · exact hw.free.bound x hx
    · exact hw.free.bound { b with previousValue := last } (List.mem_of_getElem? found)
  · rw [bound, findIdx?_set found { b with previousValue := value } rfl]
    exact hw.first
  · rw [bound]
    exact List.getElem?_set_self (List.getElem?_eq_some_iff.1 found).1

/-- **No hit of a run is told** if none is allowed. -/
theorem passing_run {records : List String} {w : World} (hw : w.Passing i b)
    (hits : ∀ record ∈ records, ∃ file line thread,
      Announces record (.hit b.gdbId file line thread))
    (change : ∀ k < records.length,
      (Operation.run (.within peer config (depth + 1)) ((records.take k).map .receive)
        w).findsChange (.within peer config (depth + 1)) i = true) :
    (Operation.run (.within peer config (depth + 1)) (records.map .receive) w).hitsTold =
      w.hitsTold := by
  induction records generalizing w with
  | nil => rfl
  | cons record records ih =>
    obtain ⟨file, line, thread, h⟩ := hits record List.mem_cons_self
    have first := change 0 (Nat.succ_pos _)
    obtain ⟨passing, told⟩ := passing_receive attentive compares passes h hw first
    have rest := ih passing (fun r hr => hits r (List.mem_cons_of_mem _ hr)) fun k hk =>
      change (k + 1) (Nat.succ_lt_succ hk)
    exact rest.trans told

end Passing

/-- **Exactly the `N`-th hit.** A run of hits at a breakpoint that compares values, with a pass
count of exactly `N` hits and none counted so far, where every hit finds a new value: the host is
told of the `N`-th hit and of no other one exactly if there is no `N`-th hit. -/
theorem exactly_nth_hit_iff (peer : Peer) (config : Config) (depth i N : Nat) (b : Bound)
    (w : World) (records : List String) (attentive : peer.Attentive) (hw : w.Passing i b)
    (compares : b.comparesValues = true) (policy : b.passCount = ⟨.equal, N⟩) (pos : 1 ≤ N)
    (uncounted : b.hits = 0)
    (hits : ∀ record ∈ records, ∃ file line thread,
      Announces record (.hit b.gdbId file line thread))
    (change : ∀ k < records.length,
      (Operation.run (.within peer config (depth + 1)) ((records.take k).map .receive)
        w).findsChange (.within peer config (depth + 1)) i = true) :
    let told (k : Nat) := (Operation.run (.within peer config (depth + 1))
      ((records.take k).map .receive) w).hitsTold
    (∀ k < records.length, told (k + 1) = told k + if k + 1 = N then 1 else 0) ↔
      records.length < N := by
  intro told
  have passes : b.passCount.allows b.hits = false := by
    rw [policy, uncounted]
    simp only [PassCount.allows, beq_eq_false_iff_ne]
    omega
  have untold : ∀ k ≤ records.length, told k = w.hitsTold := by
    intro k hk
    refine passing_run attentive compares passes hw
      (fun r hr => hits r (List.mem_of_mem_take hr)) fun j hj => ?_
    have short : j < records.length := by
      rw [List.length_take] at hj
      omega
    rw [List.take_take, Nat.min_eq_left (by rw [List.length_take] at hj; omega)]
    exact change j short
  constructor
  · intro exactly
    refine Nat.lt_of_not_le fun long => ?_
    -- the hit that should be told is not
    have nth := exactly (N - 1) (by omega)
    rw [untold _ (by omega), untold _ (by omega), if_pos (by omega)] at nth
    omega
  · intro short k hk
    rw [untold _ (by omega), untold _ (by omega), if_neg (by omega)]
    rfl

/-- A peer for which the value of every expression is the number of commands sent before. -/
def countingPeer : Peer where
  answer past command := .ok (Mi.answer command (.ofResult s!"^done,value=\"{past.length}\"" []))

theorem countingPeer_attentive : countingPeer.Attentive where
  answers past command answer h := by
    injection h with e
    exact ⟨_, e.symm⟩
  reactions _ _ _ := rfl

/-- A breakpoint that compares values of a counter, and is to stop at one hit only. -/
def comparingOnce (N : Nat) : Bound :=
  { gdbId := 1, location := .function "main", passCount := ⟨.equal, N⟩ : Bound }.withComparison
    (.whenChanged "counter")

/-- A session whose target runs, with this breakpoint and every gate free. -/
def runningComparing (N : Nat) : World where
  session := { phase := .running }
  bound := [comparingOnce N]

/-- The example runs with all gates open and its breakpoint in the first place. -/
theorem runningComparing_passing (N : Nat) : (runningComparing N).Passing 0 (comparingOnce N) where
  runs := rfl
  free := ⟨rfl, rfl, rfl, by simp [runningComparing, comparingOnce, Bound.withComparison]⟩
  first := rfl
  found := ⟨"counter", rfl⟩

set_option maxRecDepth 100000 in
/-- Two hits are too few for the third one. -/
theorem exactly_nth_hit_two :
    let link := Link.within countingPeer {} 1
    let w := runningComparing 3
    let records := ["27;1;a.c;5;2", "27;1;a.c;5;2"]
    let told (k : Nat) := (Operation.run link ((records.take k).map .receive) w).hitsTold
    (countingPeer.Attentive ∧ w.Passing 0 (comparingOnce 3) ∧
        (∀ r ∈ records, Announces r (.hit 1 "a.c" 5 2)) ∧
        ∀ k < 2, (Operation.run link ((records.take k).map .receive) w).findsChange link 0 =
          true) ∧
      ∀ k < 2, told (k + 1) = told k + if k + 1 = 3 then 1 else 0 := by
  intro link w records told
  have hits : ∀ r ∈ records, Announces r (.hit 1 "a.c" 5 2) := by
    intro r hr
    obtain rfl : r = "27;1;a.c;5;2" := by simpa [records] using hr
    exact ⟨rfl, rfl⟩
  have changes : ∀ k < 2,
      (Operation.run link ((records.take k).map .receive) w).findsChange link 0 = true := by
    decide +kernel
  exact ⟨⟨countingPeer_attentive, runningComparing_passing 3, hits, changes⟩,
    (exactly_nth_hit_iff countingPeer {} 0 0 3 (comparingOnce 3) w records countingPeer_attentive
      (runningComparing_passing 3) rfl rfl (by decide) rfl
      (fun r hr => ⟨_, _, _, hits r hr⟩) changes).2 (by decide)⟩

set_option maxRecDepth 100000 in
/-- A hit that finds a new value and is the one to stop at: the host is not told, the target is
resumed and nothing was counted. -/
theorem exactly_nth_hit_first :
    let link := Link.within countingPeer {} 1
    let w := runningComparing 1
    let z := (receive "27;1;a.c;5;2").after link w
    w.findsChange link 0 = true ∧ z.hitsTold = w.hitsTold ∧ z.session.phase = .running ∧
      z.bound = [{ comparingOnce 1 with previousValue := "0" }] ∧
      z.wakes {} = [.submit ({} : Config).continueCommand] := by
  decide +kernel

end DebugLink
