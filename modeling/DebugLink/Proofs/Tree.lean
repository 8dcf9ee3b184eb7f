import DebugLink.Proofs.Brackets
import DebugLink.Proofs.QuotedText

/-!
# Results as trees

A result of gdb is a tree: a string, or a tuple or list of such trees, each of which may have a name
before it. Strings are quoted, so they may hold whatever the tree is written with.

* `Label`: a name, which holds nothing that a tree is written with.
* `passed_written`: what stands deeper than the tuples that are looked for is passed by.
* `tuplesAt_items`: the tuples of a list are found among its elements.
* `tuples_written`: what a field holds is cut into its own tuples, as they are written.
-/

namespace DebugLink.Mi

open Text

/-! ## Trees and their text -/

/-- Whether a character is written without an escape, and is none of those between strings. -/
def isLabelChar (c : Char) : Bool :=
  escapeChar c == [c] && !(['=', ',', '{', '}', '[', ']'].contains c)

/-- A name of a result: letters, digits, dashes, and whatever else a tree is not written with. -/
structure Label where
  text : String
  clean : text.toList.all isLabelChar = true

/-- A result: a string, or a tuple or list of results that may have names. -/
inductive Tree
  | text (value : String)
  | tuple (items : List (Option Label × Tree))
  | list (items : List (Option Label × Tree))

/-- A name with its equal sign, where there is one. -/
def leadIn : Option Label → List Char
  | none => []
  | some label => label.text.toList ++ ['=']

mutual

/-- The tree as gdb writes it. -/
def Tree.written : Tree → List Char
  | .text value => (quote value).toList
  | .tuple items => '{' :: ((writtenItems items).tail ++ ['}'])
  | .list items => '[' :: ((writtenItems items).tail ++ [']'])

/-- The items as gdb writes them, with a comma before each. -/
def writtenItems : List (Option Label × Tree) → List Char
  | [] => []
  | (label?, tree) :: items => ',' :: (leadIn label? ++ tree.written ++ writtenItems items)

end

/-- The items with a comma between each two. -/
def bareItems (items : List (Option Label × Tree)) : List Char := (writtenItems items).tail

/-- Whether a tree is a tuple. -/
def Tree.isTuple : Tree → Bool
  | tuple _ => true
  | _ => false

/-- The tuples that a tree is made of: itself, or those among the elements of a list. Tuples inside
of other elements are not among them. -/
def Tree.ownTuples : Tree → List Tree
  | text _ => []
  | tuple items => [tuple items]
  | list items => (items.map Prod.snd).filter isTuple

theorem writtenItems_cons (label? : Option Label) (tree : Tree)
    (items : List (Option Label × Tree)) : writtenItems ((label?, tree) :: items) =
      ',' :: (leadIn label? ++ (tree.written ++ writtenItems items)) := by
  rw [writtenItems, List.append_assoc]

theorem bareItems_cons (label? : Option Label) (tree : Tree) (items : List (Option Label × Tree)) :
    bareItems ((label?, tree) :: items) =
      leadIn label? ++ (tree.written ++ writtenItems items) := by
  rw [bareItems, writtenItems_cons, List.tail_cons]

/-! ## The scan of a tree -/

namespace Label

theorem isLabelChar_of_mem (label : Label) {c : Char} (mem : c ∈ label.text.toList) :
    isLabelChar c = true :=
  List.all_eq_true.1 label.clean c mem

theorem not_mem (label : Label) {c : Char} (special : isLabelChar c = false) :
    c ∉ label.text.toList := fun mem => by
  rw [label.isLabelChar_of_mem mem] at special
  cases special

end Label

section Scan

variable {level : Nat}

/-- A search passes the label of a value, as no mark is in a label. -/
theorem passed_leadIn {depth : Nat} (label? : Option Label) :
    Passed level depth (leadIn label?) := by
  cases label? with
  | none => exact Passed.nil
  | some label =>
    have marks : ∀ c ∈ scanMarks, isLabelChar c = false := by
      simp [scanMarks, isLabelChar, escapeChar]
    have name : Passed level depth label.text.toList :=
      Passed.of_forall fun c mem marked => label.not_mem (marks c marked) mem
    exact name.append (Passed.char (c := '=') (by decide))

theorem passed_text {depth : Nat} (value : String) :
    Passed level depth (Tree.text value).written := by
  rw [Tree.written, toList_quote]
  exact Passed.quoted value.toList

mutual

/-- **Deeper than the tuples** that are looked for, a tree is passed by. -/
theorem passed_written (tree : Tree) (depth : Nat) (deep : level ≤ depth) (inside : depth ≠ 0) :
    Passed level depth tree.written := by
  cases tree with
  | text value => exact passed_text value
  | tuple items =>
    have inner := passed_writtenItems items (depth + 1) (Nat.le_succ_of_le deep) depth.succ_ne_zero
    exact (inner.2).braces inside (by omega)
  | list items =>
    have inner := passed_writtenItems items (depth + 1) (Nat.le_succ_of_le deep) depth.succ_ne_zero
    exact (inner.2).brackets inside

/-- Items are passed by, with the comma before them and without. -/
theorem passed_writtenItems (items : List (Option Label × Tree)) (depth : Nat)
    (deep : level ≤ depth) (inside : depth ≠ 0) :
    Passed level depth (writtenItems items) ∧ Passed level depth (bareItems items) := by
  cases items with
  | nil => exact ⟨Passed.nil, Passed.nil⟩
  | cons item items =>
    obtain ⟨label?, tree⟩ := item
    have first := (passed_leadIn label?).append
      ((passed_written tree depth deep inside).append
        (passed_writtenItems items depth deep inside).1)
    rw [writtenItems_cons, bareItems_cons]
    exact ⟨(Passed.char (c := ',') (by decide)).append first, first⟩

end

/-- One open bracket before it, a tree is taken for the tuple that it is, or passed by. -/
theorem tuplesAt_element (tree : Tree) (since rest : List Char) :
    ∃ later, tuplesAt 2 ⟨1, false, false, since⟩ (tree.written ++ rest) =
      ([tree].filter Tree.isTuple).map Tree.written ++
        tuplesAt 2 ⟨1, false, false, later⟩ rest := by
  cases tree with
  | text value => exact ⟨_, passed_text value since rest⟩
  | tuple items =>
    have inner : Passed 2 2 (bareItems items) :=
      (passed_writtenItems items 2 (Nat.le_refl 2) (by decide)).2
    obtain ⟨later, found⟩ := tuplesAt_found inner since rest
    refine ⟨later, ?_⟩
    have written : (Tree.tuple items).written ++ rest =
        '{' :: (bareItems items ++ '}' :: rest) := by
      simp [Tree.written, bareItems]
    rw [written, found]
    rfl
  | list items =>
    have inner : Passed 2 2 (bareItems items) :=
      (passed_writtenItems items 2 (Nat.le_refl 2) (by decide)).2
    exact ⟨_, inner.brackets (by decide) since rest⟩

/-- **The tuples of a list** are found among its elements, up to the bracket that closes it. -/
theorem tuplesAt_items (items : List (Option Label × Tree)) (since rest : List Char) :
    tuplesAt 2 ⟨1, false, false, since⟩ (writtenItems items ++ ']' :: rest) =
        (Tree.list items).ownTuples.map Tree.written ∧
      tuplesAt 2 ⟨1, false, false, since⟩ (bareItems items ++ ']' :: rest) =
        (Tree.list items).ownTuples.map Tree.written := by
  -- on the items, with the text since the last bracket kept along
  induction items generalizing since with
  | nil => exact ⟨by simp [writtenItems, tuplesAt, Tree.ownTuples],
      by simp [bareItems, writtenItems, tuplesAt, Tree.ownTuples]⟩
  | cons item items ih =>
    obtain ⟨label?, tree⟩ := item
    have own : (Tree.list ((label?, tree) :: items)).ownTuples =
        [tree].filter Tree.isTuple ++ (Tree.list items).ownTuples := by
      rw [Tree.ownTuples, List.map_cons, ← List.singleton_append, List.filter_append]
      rfl
    have bare : ∀ since, tuplesAt 2 ⟨1, false, false, since⟩
        (leadIn label? ++ (tree.written ++ writtenItems items) ++ ']' :: rest) =
          (Tree.list ((label?, tree) :: items)).ownTuples.map Tree.written := by
      intro since
      obtain ⟨later, found⟩ := tuplesAt_element tree ((leadIn label?).reverse ++ since)
        (writtenItems items ++ ']' :: rest)
      rw [List.append_assoc, List.append_assoc, passed_leadIn label? since, found, (ih later).1,
        own, List.map_append]
    have comma : Passed 2 1 [','] := .char (by decide)
    rw [writtenItems_cons, bareItems_cons]
    exact ⟨(comma since _).trans (bare _), bare since⟩

end Scan

/-- Wherever a name is found, what stands under it is cut into the tuples that it is made of. -/
theorem tuples_of_valueAt? {key : String} {tree : Tree} {s rest : List Char}
    (found : valueAt? key s = some (tree.written ++ rest)) :
    tuples key s = tree.ownTuples.map Tree.written := by
  rw [tuples, found]
  -- a text has no tuples, a tuple is one, and a list has those of its items
  cases tree with
  | text value => rw [Tree.written, toList_quote]; rfl
  | tuple items =>
    have inner : Passed 1 1 (bareItems items) :=
      (passed_writtenItems items 1 (Nat.le_refl 1) Nat.one_ne_zero).2
    obtain ⟨later, found⟩ := tuplesAt_found inner [] rest
    have written : (Tree.tuple items).written ++ rest =
        '{' :: (bareItems items ++ '}' :: rest) := by
      simp [Tree.written, bareItems]
    rw [written]
    exact found
  | list items =>
    have written : (Tree.list items).written ++ rest = '[' :: (bareItems items ++ ']' :: rest) := by
      simp [Tree.written, bareItems]
    rw [written]
    have opened : tuplesAt 2 {} ('[' :: (bareItems items ++ ']' :: rest)) =
        tuplesAt 2 ⟨1, false, false, ['[']⟩ (bareItems items ++ ']' :: rest) := by
      rw [tuplesAt]
      simp
    exact opened.trans (tuplesAt_items items _ rest).2

/-- **What a field holds is cut into its own tuples.** Under any name, whatever the tree and
whatever follows it, these are the tuple itself or the tuples among the elements of a list, in their
order and as they are written; nothing of what is nested deeper or follows is among them. -/
theorem tuples_written (key : String) (tree : Tree) (rest : List Char) :
    tuples key (key.toList ++ '=' :: (tree.written ++ rest)) =
      tree.ownTuples.map Tree.written :=
  tuples_of_valueAt? (valueAt?_own key (tree.written ++ rest))

end DebugLink.Mi
