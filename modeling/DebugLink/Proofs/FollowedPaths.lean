import DebugLink.Variable.Resolve

/-!
# Following a path

A path is read piece by piece, and each piece is looked up in what was found before it. What was
read together with what is left is always the path, and the node found last is the one that the
steps read so far lead to. So the path leads to the place that its steps lead to, and whatever is
found or not, it is the whole path that is evaluated.

* `stepsFrom_nextPiece`: a step of a path is a piece of it.
* `followed_path`: the path is put together again.
* `followed_place`: the steps of a path lead to the same place.
* `followed_isRoot`: only a variable itself is taken for one.
* `resolve_eq`: what a path is resolved to.
-/

namespace DebugLink.Variable

/-! ## Pieces and steps -/

/-- Between brackets nothing divides a path. -/
theorem stepsFrom_inBrackets (seen s : List Char) :
    stepsFrom true seen s =
      match Text.cut? [']'] s with
      | some (index, rest) => stepsFrom false (']' :: (index.reverse ++ seen)) rest
      | none => [seen.reverse ++ s] := by
  induction s generalizing seen with
  | nil => simp [stepsFrom, Text.cut?]
  | cons c s ih =>
    rw [stepsFrom, if_pos rfl, Text.cut?]
    by_cases closed : c = ']'
    · subst closed
      simp
    · have other : ¬[']'].isPrefixOf (c :: s) = true := by simp [Ne.symm closed]
      rw [if_neg other, bne_iff_ne.2 closed, ih]
      cases Text.cut? [']'] s <;> simp

/-- **A step** of a path ends where its next piece does, and the others are those of the rest. -/
theorem stepsFrom_nextPiece (seen s : List Char) :
    stepsFrom false seen s =
      (seen.reverse ++ (nextPiece s).text) ::
        if (nextPiece s).rest = [] ∧ (nextPiece s).separator = [] then []
        else stepsFrom false ((nextPiece s).separator.reverse ++ (nextPiece s).text.reverse ++ seen)
          (nextPiece s).rest := by
  induction s generalizing seen with
  | nil => simp [stepsFrom, nextPiece]
  | cons c s ih =>
    rw [nextPiece]
    -- a dot, a bracket or an arrow ends the piece; any other character is part of it
    by_cases dot : c = '.'
    · subst dot
      simp [stepsFrom]
    by_cases bracket : c = '['
    · subst bracket
      simp only [stepsFrom, Bool.false_eq_true, if_false, beq_self_eq_true, stepsFrom_inBrackets,
        true_or, or_true, if_true]
      cases Text.cut? [']'] s <;> simp [stepsFrom]
    by_cases arrow : c = '-' ∧ s.head? = some '>'
    · obtain ⟨rfl, next⟩ := arrow
      obtain ⟨s, rfl⟩ := List.head?_eq_some_iff.1 next
      simp [stepsFrom]
    · have plain : ¬(c = '.' ∨ c = '[' ∨ c = '-' ∧ s.head? = some '>') := by
        rw [not_or, not_or]
        exact ⟨dot, bracket, arrow⟩
      have outside : (c == '[') = false := beq_false_of_ne bracket
      simp only [if_neg dot, if_neg bracket, if_neg arrow, stepsFrom, Bool.false_eq_true, if_false,
        if_neg plain, outside]
      rw [ih]
      simp

namespace Frame

variable (frame : Frame)

/-! ## Where a path leads -/

/-- The place to which steps lead from another one, or from none yet. What is found nowhere ends the
search. -/
def walk : Option Place → List (List Char) → Option Place
  | place?, [] => place?
  | place?, step :: steps =>
    (frame.lookUp { place? } step).place?.bind fun place => walk (some place) steps

theorem lookUp_place (trail : Trail) (path : List Char) :
    (frame.lookUp trail path).place? = (frame.lookUp { place? := trail.place? } path).place? := by
  unfold lookUp
  cases trail.place? <;> rfl

/-- From a place on, each step is a child. -/
theorem walk_some (place : Place) (steps : List (List Char)) :
    frame.walk (some place) steps =
      steps.foldlM (fun place step => frame.child? place (String.ofList step)) place := by
  induction steps generalizing place with
  | nil => rfl
  | cons step steps ih =>
    rw [walk, List.foldlM_cons]
    exact congrArg _ (funext ih)

/-- Walking the steps of a path is locating it. -/
theorem walk_steps (path : String) : frame.walk none (steps path.toList) = frame.locate? path := by
  unfold locate?
  cases steps path.toList with
  | nil => rfl
  | cons first more => exact congrArg _ (funext fun place => walk_some frame place more)

theorem lookUp_path (trail : Trail) (path : List Char) : (frame.lookUp trail path).path = path := by
  unfold lookUp
  split <;> rfl

/-- **The path is put together again**, whatever is found on the way. -/
theorem followed_path (trail : Trail) (separator rest : List Char) :
    (frame.follow trail separator rest).path = trail.path ++ separator ++ rest := by
  fun_induction follow frame trail separator rest with
  | case1 trail separator rest piece next last =>
    have whole : piece.text ++ piece.separator ++ piece.rest = rest := nextPiece_append rest
    simp only [next, lookUp_path, ← whole, List.append_assoc]
  | case2 trail separator rest piece next further ih =>
    have whole : piece.text ++ piece.separator ++ piece.rest = rest := nextPiece_append rest
    rw [ih]
    simp only [next, lookUp_path, ← whole, List.append_assoc]

/-- **The place** is the one to which the steps lead. -/
theorem followed_place (trail : Trail) (separator rest : List Char) :
    (frame.follow trail separator rest).place? =
      frame.walk trail.place? (stepsFrom false (trail.path ++ separator).reverse rest) := by
  fun_induction follow frame trail separator rest with
  | case1 trail separator rest piece next last =>
    rw [stepsFrom_nextPiece, walk, ← lookUp_place, List.reverse_reverse]
    change next.place? = next.place?.bind _
    obtain lost | ended := last
    · rw [lost, Option.bind_none]
    · rw [if_pos ended]
      cases next.place? <;> rfl
  | case2 trail separator rest piece next further ih =>
    rw [not_or] at further
    obtain ⟨place, found⟩ := Option.ne_none_iff_exists'.1 further.1
    rw [ih, stepsFrom_nextPiece _ rest, walk, ← lookUp_place, List.reverse_reverse,
      if_neg further.2]
    change _ = next.place?.bind _
    rw [found, Option.bind_some]
    simp [next, lookUp_path, piece]

/-- It is marked whether the trail has left the variables. -/
def Marked (trail : Trail) : Prop :=
  (trail.place? = none → trail.isRoot = true) ∧
    ∀ place, trail.place? = some place → trail.isRoot = place.children.isEmpty

/-- A root is found at the top of its tree. -/
theorem children_of_root? {name : String} {place : Place} (found : frame.root? name = some place) :
    place.children = [] := by
  unfold root? at found
  split at found
  · cases found
    rfl
  · obtain ⟨root, -, rfl⟩ := Option.map_eq_some_iff.1 found
    rfl

theorem children_of_child? {name : String} {place inner : Place}
    (found : frame.child? place name = some inner) :
    ∃ i, inner.children = place.children ++ [i] := by
  obtain ⟨node, -, found⟩ := Option.bind_eq_some_iff.1 found
  obtain ⟨i, -, rfl⟩ := Option.map_eq_some_iff.1 found
  exact ⟨i, rfl⟩

/-- Each step of the lookup marks the root for what it is. -/
theorem marked_lookUp {trail : Trail} (marked : Marked trail) (path : List Char) :
    ∀ place, (frame.lookUp trail path).place? = some place →
      (frame.lookUp trail path).isRoot = place.children.isEmpty := by
  intro place found
  unfold lookUp at found ⊢
  split at found
  · rename_i start
    rw [children_of_root? frame found]
    exact marked.1 start
  · obtain ⟨i, behind⟩ := children_of_child? frame found
    rw [behind]
    simp

/-- **What is found is marked as a root exactly if it is one.** -/
theorem followed_isRoot {trail : Trail} (marked : Marked trail) (separator rest : List Char)
    {place : Place} (found : (frame.follow trail separator rest).place? = some place) :
    (frame.follow trail separator rest).isRoot = place.children.isEmpty := by
  fun_induction follow frame trail separator rest with
  | case1 trail separator rest piece next last => exact marked_lookUp frame marked _ place found
  | case2 trail separator rest piece next further ih =>
    refine ih ⟨fun lost => ?_, marked_lookUp frame marked _⟩ found
    exact absurd lost (not_or.1 further).1

end Frame

/-! ## Resolving -/

variable {m : Type → Type} [Monad m] [Wire m]

/-- **A path is resolved** by its steps, and evaluated as a whole. -/
theorem resolve_eq (limits : Limits) (path : String) (frame : Frame) :
    (resolve limits path frame : m (Except Failure Node × Frame)) =
      match (frame.locate? path).bind fun place =>
        (frame.at? place).map fun node => (place, node) with
      | some (place, node) => do
        let (outcome, node) ← (reevaluate limits path place.children.isEmpty).run.run node
        return (outcome.map fun () => node, frame.replaceAt place node)
      | none => do return (← (resolveExpression limits path).run, frame) := by
  have whole : (frame.follow {} [] path.toList).path = path.toList := frame.followed_path {} [] _
  have leads : (frame.follow {} [] path.toList).place? = frame.locate? path :=
    (frame.followed_place {} [] _).trans (frame.walk_steps path)
  have fresh : Frame.Marked {} := ⟨fun _ => rfl, fun place found => by cases found⟩
  have marked : ∀ place, frame.locate? path = some place →
      (frame.follow {} [] path.toList).isRoot = place.children.isEmpty := fun place found =>
    frame.followed_isRoot fresh _ _ (leads.trans found)
  unfold resolve
  simp only [whole, leads, String.ofList_toList]
  cases found : (frame.locate? path).bind fun place =>
    (frame.at? place).map fun node => (place, node) with
  | none => rfl
  | some target =>
    obtain ⟨place, located, here⟩ := Option.bind_eq_some_iff.1 found
    obtain ⟨node, -, rfl⟩ := Option.map_eq_some_iff.1 here
    simp only [marked place located]

end DebugLink.Variable
