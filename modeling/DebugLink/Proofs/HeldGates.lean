import DebugLink.Breakpoint.Bound

/-!
# Who holds the gates of a breakpoint

The gates of a bound breakpoint are taken in sets, by any number of holders, and each holder gives
back what it took whenever it likes. The breakpoint itself only knows which gates are held; whose
they are is known to the holders, each of whom has a guard for the set that it took.

* `Shared.Sound`: the guards that are out have no gate in common, and what is held is what they
  were given for.
* `Shared.sound_step`, `Shared.sound_run`: this is kept by every attempt and every return, in any
  order.
* `gates_exclusive`: what it means for those who take the gates.
-/

namespace DebugLink.Breakpoint

/-- One of the two gates. -/
inductive Gate where
  | hitCount
  | condition
  deriving DecidableEq, Repr

namespace Gates

/-- Whether a gate is in a set. -/
def has (g : Gates) : Gate → Bool
  | .hitCount => g.hitCount
  | .condition => g.condition

@[simp] theorem has_empty (gate : Gate) : has {} gate = false := by cases gate <;> rfl

@[simp] theorem has_union (a b : Gates) (gate : Gate) :
    (a.union b).has gate = (a.has gate || b.has gate) := by cases gate <;> rfl

@[simp] theorem has_without (a b : Gates) (gate : Gate) :
    (a.without b).has gate = (a.has gate && !b.has gate) := by cases gate <;> rfl

/-- A set is known by the gates in it. -/
theorem ext_has {a b : Gates} (h : ∀ gate, a.has gate = b.has gate) : a = b :=
  congr (congrArg Gates.mk (h .hitCount)) (h .condition)

/-- Two guards meet if they share a gate. -/
theorem meets_iff {a b : Gates} :
    a.meets b = true ↔ ∃ gate, a.has gate = true ∧ b.has gate = true := by
  constructor
  · intro h
    rcases Bool.or_eq_true_iff.1 h with h | h
    · exact ⟨.hitCount, Bool.and_eq_true_iff.1 h⟩
    · exact ⟨.condition, Bool.and_eq_true_iff.1 h⟩
  · rintro ⟨gate, first, second⟩
    unfold meets
    cases gate <;> simp_all [has]

/-- Sets with no gate in common. -/
theorem not_meets_iff {a b : Gates} :
    a.meets b = false ↔ ∀ gate, a.has gate = true → b.has gate = false := by
  rw [← Bool.not_eq_true, meets_iff]
  simp

/-- The gates of any of the sets. -/
def unionOf (guards : List Gates) : Gates := guards.foldr union {}

/-- The union has a gate if one of the guards has it. -/
theorem has_unionOf {guards : List Gates} {gate : Gate} :
    (unionOf guards).has gate = true ↔ ∃ guard ∈ guards, guard.has gate = true := by
  induction guards with
  | nil => simp [unionOf]
  | cons guard others ih =>
    have split : (unionOf (guard :: others)).has gate =
        (guard.has gate || (unionOf others).has gate) := has_union _ _ _
    simp [split, ih]

end Gates

/-- A breakpoint whose gates are shared, and the guards that are out, the oldest first. -/
structure Shared where
  breakpoint : Bound
  guards : List Gates := []
  deriving DecidableEq, Repr

/-- What a holder does: it tries to take a set of gates, or it drops one of the guards. -/
inductive GateCall where
  | tryLock (gates : Gates)
  | drop (place : Nat)
  deriving DecidableEq, Repr

namespace Shared

open Gates

/-- A holder tries to take a set of gates and keeps the guard that it is given. -/
def tryLock (s : Shared) (gates : Gates) : Option Shared :=
  (s.breakpoint.tryHold gates).map fun b => ⟨b, s.guards ++ [gates]⟩

/-- The holder of a guard drops it. -/
def drop (s : Shared) (place : Nat) : Shared :=
  match s.guards[place]? with
  | some guard => ⟨s.breakpoint.free guard, s.guards.eraseIdx place⟩
  | none => s

/-- A holder acts. An attempt that is refused leaves all as it is. -/
def step (s : Shared) : GateCall → Shared
  | .tryLock gates => (s.tryLock gates).getD s
  | .drop place => s.drop place

/-- The holders act one after another. -/
def run (s : Shared) (calls : List GateCall) : Shared := calls.foldl step s

/-- **What the breakpoint and its holders agree on**: no gate is held twice, and exactly what the
guards were given for is held. -/
structure Sound (s : Shared) : Prop where
  apart : s.guards.Pairwise fun a b => a.meets b = false
  held : s.breakpoint.held = unionOf s.guards

variable {s t : Shared} {gates guard : Gates} {gate : Gate} {place : Nat}

theorem Sound.has_held (h : s.Sound) :
    s.breakpoint.held.has gate = true ↔ ∃ guard ∈ s.guards, guard.has gate = true := by
  rw [h.held, has_unionOf]

/-- An attempt is refused when a gate of it is held by anyone, and by nothing else. -/
theorem tryLock_eq_none_iff : s.tryLock gates = none ↔ s.breakpoint.held.meets gates = true := by
  unfold tryLock Bound.tryHold Gates.tryTake
  cases s.breakpoint.held.meets gates <;> simp

theorem tryLock_eq_some_iff :
    s.tryLock gates = some t ↔ s.breakpoint.held.meets gates = false ∧
      t = ⟨{ s.breakpoint with held := s.breakpoint.held.union gates }, s.guards ++ [gates]⟩ := by
  unfold tryLock Bound.tryHold Gates.tryTake
  cases s.breakpoint.held.meets gates <;> simp [eq_comm]

theorem drop_of_guard (h : s.guards[place]? = some guard) :
    s.drop place = ⟨s.breakpoint.free guard, s.guards.eraseIdx place⟩ := by
  simp [drop, h]

/-! ## One step -/

/-- **Taking gates keeps the lock sound**: they are taken only if all of them are free. -/
theorem Sound.tryLock (h : s.Sound) (taken : s.tryLock gates = some t) : t.Sound := by
  obtain ⟨free, rfl⟩ := tryLock_eq_some_iff.1 taken
  refine ⟨?_, ext_has fun gate => ?_⟩
  · -- no gate of the new guard was held, so none of those that are out has one of them
    refine List.pairwise_append.2 ⟨h.apart, List.pairwise_singleton _ _, ?_⟩
    intro guard out new alone
    rw [List.mem_singleton.1 alone]
    refine not_meets_iff.2 fun gate mine => ?_
    exact not_meets_iff.1 free gate (h.has_held.2 ⟨guard, out, mine⟩)
  · rw [has_union, Bool.eq_iff_iff, Bool.or_eq_true, h.has_held, has_unionOf]
    simp [or_and_right, exists_or]

/-- The guards beside one that is out have none of its gates. -/
theorem Sound.apart_eraseIdx (h : s.Sound) (out : s.guards[place]? = some guard) {other : Gates}
    (beside : other ∈ s.guards.eraseIdx place) (mine : guard.has gate = true) :
    other.has gate = false := by
  obtain ⟨inside, rfl⟩ := List.getElem?_eq_some_iff.1 out
  obtain ⟨n, within, different, rfl⟩ := List.mem_eraseIdx_iff_getElem.1 beside
  have pairs := List.pairwise_iff_getElem.1 h.apart
  -- the other guard was given out before this one or after it
  rcases Nat.lt_or_gt_of_ne different with before | after
  · refine Bool.eq_false_iff.2 fun theirs => ?_
    have := not_meets_iff.1 (pairs n place within inside before) gate theirs
    rw [mine] at this
    cases this
  · exact not_meets_iff.1 (pairs place n inside within after) gate mine

/-- A gate is still held after a guard was dropped when it was held and the guard was not for it. -/
theorem Sound.has_drop (h : s.Sound) (out : s.guards[place]? = some guard) :
    (∃ other ∈ s.guards.eraseIdx place, other.has gate = true) ↔
      s.breakpoint.held.has gate = true ∧ guard.has gate = false := by
  rw [h.has_held]
  constructor
  · rintro ⟨other, beside, theirs⟩
    refine ⟨⟨other, List.mem_of_mem_eraseIdx beside, theirs⟩, Bool.eq_false_iff.2 fun mine => ?_⟩
    rw [h.apart_eraseIdx out beside mine] at theirs
    cases theirs
  · rintro ⟨⟨other, among, theirs⟩, notMine⟩
    refine ⟨other, ?_, theirs⟩
    obtain ⟨n, inside, rfl⟩ := List.getElem_of_mem among
    refine List.mem_eraseIdx_iff_getElem.2 ⟨n, inside, ?_, rfl⟩
    rintro rfl
    rw [List.getElem?_eq_getElem inside, Option.some.injEq] at out
    rw [out, notMine] at theirs
    cases theirs

/-- **Dropping a guard keeps the lock sound**: it gives back its own gates and no others. -/
theorem Sound.drop (h : s.Sound) (place : Nat) : (s.drop place).Sound := by
  cases out : s.guards[place]? with
  | none => simpa [Shared.drop, out] using h
  | some guard =>
    rw [drop_of_guard out]
    -- what is left are some of the guards, so they stay apart
    refine ⟨h.apart.sublist (List.eraseIdx_sublist _ _), ext_has fun gate => ?_⟩
    rw [Bool.eq_iff_iff, has_unionOf, h.has_drop out]
    simp [Bound.free]

/-- **One step** keeps what the breakpoint and its holders agree on. -/
theorem sound_step (h : s.Sound) (call : GateCall) : (s.step call).Sound := by
  cases call with
  | tryLock gates =>
    cases attempt : s.tryLock gates with
    | none => simpa [step, attempt] using h
    | some t => simpa [step, attempt] using h.tryLock attempt
  | drop place => exact h.drop place

/-- Nothing but the held gates of the breakpoint is touched. -/
theorem breakpoint_step (s : Shared) (call : GateCall) :
    { (s.step call).breakpoint with held := {} } = { s.breakpoint with held := {} } := by
  cases call with
  | tryLock gates =>
    cases attempt : s.tryLock gates with
    | none => simp [step, attempt]
    | some t =>
      obtain ⟨-, rfl⟩ := tryLock_eq_some_iff.1 attempt
      simp [step, attempt]
  | drop place =>
    cases out : s.guards[place]? with
    | none => simp [step, Shared.drop, out]
    | some guard => simp [step, drop_of_guard out, Bound.free]

/-! ## All steps -/

theorem sound_run (h : s.Sound) (calls : List GateCall) : (s.run calls).Sound := by
  induction calls generalizing s with
  | nil => exact h
  | cons call rest ih => exact ih (sound_step h call)

theorem breakpoint_run (s : Shared) (calls : List GateCall) :
    { (s.run calls).breakpoint with held := {} } = { s.breakpoint with held := {} } := by
  induction calls generalizing s with
  | nil => rfl
  | cons call rest ih => exact (ih (s.step call)).trans (breakpoint_step s call)

end Shared

open Gates Shared in
/-- **The gates of a breakpoint are exclusive, and are taken all or not at all.** Let any number of
holders take gates of a breakpoint that nobody holds and give them back, in whatever order. At every
point what is held is what the guards that are out were given for, and no two of them share a gate.
An attempt succeeds exactly when none of the gates it is for is held; the guard then holds these
gates beside all that were held. A refused attempt changes nothing. Dropping a guard frees its own
gates and no other. When no guard is out both gates are free. All else of the breakpoint stays as it
was. -/
theorem gates_exclusive (b : Bound) (unheld : b.held = {}) (calls : List GateCall) :
    let s := Shared.run ⟨b, []⟩ calls
    (s.guards.Pairwise (fun one other => ∀ gate, ¬(one.has gate = true ∧ other.has gate = true)) ∧
      ∀ gate, s.breakpoint.held.has gate = true ↔ ∃ guard ∈ s.guards, guard.has gate = true) ∧
    (∀ gates, ((s.tryLock gates).isSome = true ↔
        ∀ gate, gates.has gate = true → s.breakpoint.held.has gate = false) ∧
      (∀ t, s.tryLock gates = some t → s.step (.tryLock gates) = t ∧
        t.guards = s.guards ++ [gates] ∧ ∀ gate, t.breakpoint.held.has gate = true ↔
          s.breakpoint.held.has gate = true ∨ gates.has gate = true) ∧
      (s.tryLock gates = none → s.step (.tryLock gates) = s)) ∧
    (∀ place guard, s.guards[place]? = some guard →
      (s.drop place).guards = s.guards.eraseIdx place ∧
      (∀ gate, guard.has gate = true → s.breakpoint.held.has gate = true) ∧
      ∀ gate, (s.drop place).breakpoint.held.has gate = true ↔
        s.breakpoint.held.has gate = true ∧ guard.has gate = false) ∧
    (s.guards = [] → ∀ gate, s.breakpoint.held.has gate = false) ∧
    s.breakpoint = { b with held := s.breakpoint.held } := by
  intro s
  have start : Sound ⟨b, []⟩ := ⟨List.Pairwise.nil, unheld⟩
  have sound : s.Sound := sound_run start calls
  refine ⟨⟨sound.apart.imp ?_, fun gate => sound.has_held⟩, ?_, ?_, ?_, ?_⟩
  · rintro one other apart gate ⟨mine, theirs⟩
    rw [not_meets_iff.1 apart gate mine] at theirs
    cases theirs
  · intro gates
    refine ⟨?_, ?_, fun refused => by simp [step, refused]⟩
    · rw [← Option.ne_none_iff_isSome, Ne, tryLock_eq_none_iff, Bool.not_eq_true, not_meets_iff]
      refine forall_congr' fun gate => ?_
      cases s.breakpoint.held.has gate <;> cases gates.has gate <;> simp
    · intro t taken
      refine ⟨by simp [step, taken], ?_⟩
      obtain ⟨-, rfl⟩ := tryLock_eq_some_iff.1 taken
      exact ⟨rfl, fun gate => by simp⟩
  · intro place guard out
    rw [drop_of_guard out]
    refine ⟨rfl, fun gate mine => ?_, fun gate => by simp [Bound.free]⟩
    exact sound.has_held.2 ⟨guard, List.mem_of_getElem? out, mine⟩
  · intro none gate
    refine Bool.eq_false_iff.2 fun held => ?_
    obtain ⟨guard, out, -⟩ := sound.has_held.1 held
    rw [none] at out
    cases out
  · have same : { s.breakpoint with held := {} } = { b with held := {} } := breakpoint_run _ calls
    have : s.breakpoint = { ({ s.breakpoint with held := {} } : Bound) with
        held := s.breakpoint.held } := rfl
    rw [this, same]

/-- Three holders: the first has the gate of the hit count, the second is refused both, the third
takes the gate of the condition; the first then drops its guard. -/
theorem gates_exclusive_partly_dropped :
    ({ gdbId := 1, location := .function "main" } : Bound).held = {} ∧
    (Shared.run ⟨{ gdbId := 1, location := .function "main" }, []⟩
      [.tryLock .hitCountOnly, .tryLock .both, .tryLock .conditionOnly, .drop 0]).guards =
        [.conditionOnly] ∧
    ((Shared.run ⟨{ gdbId := 1, location := .function "main" }, []⟩
      [.tryLock .hitCountOnly, .tryLock .both, .tryLock .conditionOnly, .drop 0]).tryLock
        .hitCountOnly).isSome = true := by
  refine ⟨rfl, by decide, ?_⟩
  refine ((gates_exclusive { gdbId := 1, location := .function "main" } rfl
    [.tryLock .hitCountOnly, .tryLock .both, .tryLock .conditionOnly, .drop 0]).2.1
      .hitCountOnly).1.2 ?_
  intro gate asked
  cases gate with
  | hitCount => decide
  | condition => cases asked

end DebugLink.Breakpoint
