import DebugLink.Breakpoint.Basic

/-!
# The table of breakpoints

The snapshots of a session, one for each number, in increasing order of their numbers.

* `find?_insert`, `find?_erase`, `find?_modify`, `find?_markEnabled`: what each operation does to
  the entry of a number.
* `erase_eq_self`, `modify_eq_self`: where there is no entry, there is nothing to do.
-/

namespace DebugLink.Breakpoint

/-- The snapshots of a session in increasing order of their numbers. -/
structure Table where
  entries : List Snapshot := []
  deriving DecidableEq, Repr

namespace Table

/-- The snapshot of a number. -/
def find? (t : Table) (id : Nat) : Option Snapshot := t.entries.find? (·.id == id)

/-- The list with the snapshot in the place of its number. -/
def insertInto (s : Snapshot) : List Snapshot → List Snapshot
  | [] => [s]
  | e :: es =>
    if s.id < e.id then s :: e :: es
    else if s.id = e.id then s :: es
    else e :: insertInto s es

/-- The table with this snapshot for its number. -/
def insert (t : Table) (s : Snapshot) : Table := ⟨insertInto s t.entries⟩

/-- The table without a number; without any when the number addresses them all. -/
def erase (t : Table) (id : Nat) : Table :=
  if id = allBreakpoints then ⟨[]⟩ else ⟨t.entries.filter (·.id != id)⟩

/-- The table with one snapshot changed; it is unchanged when there is none. -/
def modify (t : Table) (id : Nat) (f : Snapshot → Snapshot) : Table :=
  ⟨t.entries.map fun s => if s.id = id then f s else s⟩

/-- The table with one snapshot, or every one, marked as enabled or not. -/
def markEnabled (t : Table) (id : Nat) (enabled : Bool) : Table :=
  if id = allBreakpoints then ⟨t.entries.map fun s => { s with enabled }⟩
  else t.modify id fun s => { s with enabled }

/-- An inserted snapshot is found by its number, and hides no other. -/
theorem find?_insert (t : Table) (s : Snapshot) (id : Nat) :
    (t.insert s).find? id = if s.id = id then some s else t.find? id := by
  obtain ⟨es⟩ := t
  simp only [insert, find?]
  induction es with
  | nil => by_cases h : s.id = id <;> simp [insertInto, h]
  | cons e es ih =>
    simp only [insertInto]
    split
    · by_cases h : s.id = id <;> simp [h]
    · split
      · rename_i h
        by_cases hi : s.id = id <;> simp [hi, ← h]
      · rename_i hne
        by_cases he : e.id = id
        · have : s.id ≠ id := fun hs => hne (hs.trans he.symm)
          simp [he, this]
        · simp [he, ih]

/-- An erased number is not found, and all others are. -/
theorem find?_erase (t : Table) {k : Nat} (id : Nat) (one : k ≠ allBreakpoints) :
    (t.erase k).find? id = if id = k then none else t.find? id := by
  obtain ⟨es⟩ := t
  simp only [erase, one, if_false, find?]
  induction es with
  | nil => simp
  | cons e es ih =>
    by_cases he : e.id = k <;> by_cases hi : id = k <;> by_cases hid : e.id = id <;>
      simp_all

/-- What is there after something was erased was there before. -/
theorem find?_of_erase {t : Table} {k id : Nat} {s : Snapshot}
    (h : (t.erase k).find? id = some s) : t.find? id = some s := by
  by_cases one : k = allBreakpoints
  · unfold erase at h
    rw [if_pos one] at h
    cases h
  · rw [find?_erase t id one] at h
    split at h
    · cases h
    · exact h

/-- A change that keeps numbers shows in its own snapshot alone. -/
theorem find?_modify (t : Table) (k id : Nat) (f : Snapshot → Snapshot)
    (keeps : ∀ s, (f s).id = s.id) :
    (t.modify k f).find? id = if id = k then (t.find? id).map f else t.find? id := by
  obtain ⟨es⟩ := t
  simp only [modify, find?]
  induction es with
  | nil => simp
  | cons e es ih =>
    by_cases he : e.id = k <;> by_cases hi : id = k <;> by_cases hid : e.id = id <;>
      simp_all

theorem markEnabled_of_ne (t : Table) {id : Nat} (one : id ≠ allBreakpoints) (enabled : Bool) :
    t.markEnabled id enabled = t.modify id fun s => { s with enabled } := if_neg one

/-- A mark shows in its own snapshot, or in all of them. -/
theorem find?_markEnabled (t : Table) (k id : Nat) (enabled : Bool) :
    (t.markEnabled k enabled).find? id =
      if k = allBreakpoints ∨ id = k then (t.find? id).map fun s => { s with enabled }
      else t.find? id := by
  by_cases all : k = allBreakpoints
  · rw [if_pos (.inl all)]
    unfold markEnabled
    rw [if_pos all]
    exact List.find?_map
  · rw [markEnabled_of_ne t all]
    refine (find?_modify t k id (fun s => { s with enabled }) fun _ => rfl).trans ?_
    simp [all]

/-- Where there is no snapshot of a number, none of the entries has it. -/
theorem ne_of_find?_eq_none {t : Table} {id : Nat} (h : t.find? id = none) :
    ∀ s ∈ t.entries, s.id ≠ id := by
  intro s mem e
  exact absurd (List.find?_eq_none.1 h s mem) (by simp [e])

theorem modify_eq_self {t : Table} {id : Nat} (h : t.find? id = none) (f : Snapshot → Snapshot) :
    t.modify id f = t := by
  have same : (t.entries.map fun s => if s.id = id then f s else s) = t.entries.map fun s => s :=
    List.map_congr_left fun s mem => if_neg (ne_of_find?_eq_none h s mem)
  unfold modify
  rw [same, List.map_id']

theorem erase_eq_self {t : Table} {id : Nat} (one : id ≠ allBreakpoints) (h : t.find? id = none) :
    t.erase id = t := by
  unfold erase
  rw [if_neg one, List.filter_eq_self.2 fun s mem => by simpa using ne_of_find?_eq_none h s mem]

end Table

end DebugLink.Breakpoint
