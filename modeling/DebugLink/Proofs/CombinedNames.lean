import DebugLink.Proofs.ShownNames

/-!
# Names put together

The name of a part is the name of its owner with the part behind it, as the shape of the owner has
it. The parts are found by reading the name from the right. That is right for a part of any owner
whose own name holds no dereference. The target of a pointer is written in front of its name, and
then the last dot of the name is taken for the one before a part: so the name comes out as it should
only if there is no dot in the name of the pointer.

* `exists_cutLast?`: the last occurrence is not before any other one.
* `displayName_plain`: a name without access levels, when no other names are known.
* `length_join_of_mem`: a dot that is taken for the one before a part is replaced.
* `combined_names_iff`: when parts and targets are shown as they should be.
-/

namespace DebugLink

open Text

namespace Text

/-! ## The last occurrence -/

theorem eq_append_of_cutLast? {pat s before behind : List Char}
    (cut : cutLast? pat s = some (before, behind)) : s = before ++ (pat ++ behind) := by
  induction s generalizing before behind with
  | nil =>
    rw [cutLast?] at cut
    split at cut
    · rename_i empty
      cases cut
      rw [List.isEmpty_iff.1 empty]
      rfl
    · cases cut
  | cons c s ih =>
    rw [cutLast?] at cut
    cases later : cutLast? pat s with
    | some sides =>
      rw [later] at cut
      cases cut
      exact congrArg (c :: ·) (ih later)
    | none =>
      rw [later] at cut
      dsimp only at cut
      split at cut
      · rename_i leads
        cases cut
        exact (List.prefix_iff_eq_append.1 (List.isPrefixOf_iff_prefix.1 leads)).symm
      · cases cut

/-- **The last occurrence** is not before any other one. -/
theorem exists_cutLast? {pat : List Char} (given : pat ≠ []) (s t : List Char) :
    ∃ before behind, cutLast? pat (s ++ (pat ++ t)) = some (before, behind) ∧ s <+: before := by
  induction s with
  | nil =>
    obtain ⟨c, more, rfl⟩ := List.exists_cons_of_ne_nil given
    rw [List.nil_append, List.cons_append, cutLast?]
    cases cutLast? (c :: more) (more ++ t) with
    | some sides => exact ⟨c :: sides.1, sides.2, rfl, List.nil_prefix⟩
    | none =>
      have leads : (c :: more).isPrefixOf (c :: (more ++ t)) = true :=
        List.isPrefixOf_iff_prefix.2 (List.prefix_append (c :: more) t)
      exact ⟨[], _, if_pos leads, List.nil_prefix⟩
  | cons c s ih =>
    obtain ⟨before, behind, cut, leads⟩ := ih
    refine ⟨c :: before, behind, ?_, (List.prefix_cons_inj c).2 leads⟩
    rw [List.cons_append, cutLast?, cut]

end Text

namespace Variable

/-! ## Shown names -/

/-- No segment of the name is an access level. -/
def Levelless (name : List Char) : Prop := ∀ segment ∈ fields '.' name, segment ∉ accessLevels

instance (name : List Char) : Decidable (Levelless name) :=
  inferInstanceAs (Decidable (∀ segment ∈ fields '.' name, segment ∉ accessLevels))

theorem Levelless.part {owner part : List Char} (plain : Levelless owner) (single : '.' ∉ part)
    (other : part ∉ accessLevels) : Levelless (owner ++ '.' :: part) := by
  unfold Levelless
  rw [fields_append_cons, fields_of_not_mem single]
  exact List.forall_mem_append.2 ⟨plain, List.forall_mem_singleton.2 other⟩

/-- gdb's name for the target of a pointer. -/
theorem Levelless.target {owner : List Char} (plain : Levelless owner) :
    Levelless (owner ++ '.' :: '*' :: owner) := by
  obtain ⟨f, fs, e, starred⟩ := fields_cons_of_ne (by decide : '*' ≠ '.') owner
  unfold Levelless at plain ⊢
  rw [fields_append_cons, starred]
  rw [e] at plain
  refine List.forall_mem_append.2 ⟨e ▸ plain, List.forall_mem_cons.2 ⟨?_, ?_⟩⟩
  · simp [accessLevels]
  · exact fun segment mem => plain segment (List.mem_cons_of_mem f mem)

/-- **A name without access levels** is shown as it is, but for a dereference and the combinator,
when no other names are known. -/
theorem displayName_plain {raw : List Char} (plain : Levelless raw) (shape : Shape) :
    displayName raw shape {} = shape.join (withDereference raw) := by
  have known : withShownOwner {} raw = raw := by
    unfold withShownOwner
    cases cutLast? ['.'] raw <;> rfl
  have whole : withoutAccessLevels raw = raw := by
    have kept : (fields '.' raw).filter (fun segment => !accessLevels.contains segment) =
        fields '.' raw := List.filter_eq_self.2 fun segment mem => by simpa using plain segment mem
    rw [withoutAccessLevels, kept, intercalate_fields]
  rw [displayName, known, whole]

/-- The name is that of a target: a dereference stands in front of the text before the last one. -/
theorem withDereference_append (s t : List Char) :
    ∃ owner behind, withDereference (s ++ (['.', '*'] ++ t)) = '*' :: '(' :: owner ++ [')'] ∧
      s ++ (['.', '*'] ++ t) = owner ++ (['.', '*'] ++ behind) ∧ s <+: owner := by
  obtain ⟨owner, behind, cut, leads⟩ := exists_cutLast? (List.cons_ne_nil '.' ['*']) s t
  exact ⟨owner, behind, by rw [withDereference, cut], eq_append_of_cutLast? cut, leads⟩

/-! ## Combinators -/

/-- Behind a pointer, the last dot of a name is replaced by an arrow. -/
theorem length_join_of_mem {name : List Char} (dotted : '.' ∈ name) :
    (Shape.pointer.join name).length = name.length + 1 := by
  obtain ⟨s, t, rfl⟩ := List.append_of_mem dotted
  obtain ⟨before, behind, cut, -⟩ := exists_cutLast? (List.cons_ne_nil '.' []) s t
  have whole : s ++ '.' :: t = before ++ '.' :: behind := eq_append_of_cutLast? cut
  rw [List.singleton_append] at cut
  rw [Shape.join, cut, whole]
  simp only [List.length_append, List.length_cons]
  omega

theorem Shape.join_of_not_mem {name : List Char} (undotted : '.' ∉ name) (shape : Shape) :
    shape.join name = name := by
  have absent : ¬['.'] <:+: name := fun inside => undotted (inside.subset List.mem_cons_self)
  rw [join, cutLast?_of_not_infix absent]

theorem Shape.join_scalar (name : List Char) : Shape.scalar.join name = name := by
  rw [join]
  cases cutLast? ['.'] name <;> rfl

/-! ## Parts and targets -/

section Combined

variable {owner : List Char} (plain : Levelless owner)

include plain

/-- A part of an owner whose name holds no dereference. -/
theorem displayName_combined (direct : ¬['.', '*'] <:+: owner) {part : List Char}
    (single : '.' ∉ part) (starless : '*' ∉ part) (other : part ∉ accessLevels) (shape : Shape) :
    displayName (owner ++ '.' :: part) shape {} = shape.part owner part := by
  have star : '*' ∉ '.' :: part :=
    List.not_mem_cons_of_ne_of_not_mem (by decide) starless
  have direct : ¬['.', '*'] <:+: owner ++ '.' :: part := by
    intro inside
    have early : ['.'] ++ ['*'] <:+: owner := infix_of_append_infix star inside
    exact direct early
  rw [displayName_plain (plain.part single other), withDereference, cutLast?_of_not_infix direct,
    Shape.join_part single]

/-- With a dereference in the name of the owner, its parts are taken for targets. -/
theorem displayName_dereferenced (dereferenced : ['.', '*'] <:+: owner) :
    displayName (owner ++ '.' :: ['x']) .scalar {} ≠ Shape.scalar.part owner ['x'] := by
  obtain ⟨s, t, rfl⟩ := dereferenced
  obtain ⟨shown, behind, deref, -⟩ := withDereference_append s (t ++ '.' :: ['x'])
  have regrouped : s ++ ['.', '*'] ++ t ++ '.' :: ['x'] =
      s ++ (['.', '*'] ++ (t ++ '.' :: ['x'])) := by simp
  rw [displayName_plain (plain.part (by decide) (by decide)), Shape.join_scalar, regrouped, deref]
  intro same
  -- the one ends in a parenthesis, the other in the part
  have whole : ('*' :: '(' :: shown) ++ [')'] = (s ++ ['.', '*'] ++ t ++ ['.']) ++ ['x'] :=
    same.trans (List.append_cons _ '.' ['x'])
  have last : [')'] = ['x'] := List.append_inj_right' whole rfl
  cases last

/-- **The target of a pointer** is shown as it should be if its name holds no dot. With one, the
name that is shown has an arrow in the place of a dot, and is longer. -/
theorem displayName_target_iff :
    displayName (owner ++ '.' :: '*' :: owner) .pointer {} = '*' :: '(' :: owner ++ [')'] ↔
      '.' ∉ owner := by
  obtain ⟨shown, behind, deref, whole, leads⟩ := withDereference_append owner owner
  have raw : owner ++ '.' :: '*' :: owner = owner ++ (['.', '*'] ++ owner) := rfl
  rw [displayName_plain plain.target, raw, deref]
  constructor
  · intro same dotted
    have inside : '.' ∈ '*' :: '(' :: shown ++ [')'] := by simp [leads.subset dotted]
    have lengths := congrArg List.length same
    rw [length_join_of_mem inside] at lengths
    have longer := leads.length_le
    simp only [List.length_append, List.length_cons, List.length_nil] at lengths
    omega
  · intro undotted
    -- no dereference is behind the one between both, as there is no dot behind it
    obtain ⟨more, rfl⟩ := leads
    rw [List.append_assoc, List.append_cancel_left_eq] at whole
    have none : more = [] := by
      cases more with
      | nil => rfl
      | cons c more =>
        have later : '*' :: owner = more ++ '.' :: '*' :: behind := (List.cons.inj whole).2
        have dotted : '.' ∈ '*' :: owner := later ▸ by simp
        exact absurd ((List.mem_cons.1 dotted).resolve_left (by decide)) undotted
    rw [none, List.append_nil]
    exact Shape.join_of_not_mem (by simpa using undotted) _

end Combined

/-- **When parts and targets are shown as they should be**, for an owner of any name without access
levels. A part of any name without a dot, a star and an access level has the owner's name with the
part behind it as the shape has it, exactly if the owner's name holds no dereference. The target of
a pointer has the owner's name in parentheses behind a star, exactly if that name holds no dot. -/
theorem combined_names_iff {owner : List Char} (plain : Levelless owner) :
    ((∀ (shape : Shape) {part : List Char}, '.' ∉ part → '*' ∉ part → part ∉ accessLevels →
        displayName (owner ++ '.' :: part) shape {} = shape.part owner part) ↔
      ¬['.', '*'] <:+: owner) ∧
    (displayName (owner ++ '.' :: '*' :: owner) .pointer {} = '*' :: '(' :: owner ++ [')'] ↔
      '.' ∉ owner) := by
  refine ⟨⟨fun combined dereferenced => ?_, fun direct => ?_⟩, displayName_target_iff plain⟩
  · refine displayName_dereferenced plain dereferenced ?_
    exact combined .scalar (by decide) (by decide) (by decide)
  · exact fun shape _ single starless other =>
      displayName_combined plain direct single starless other shape

/-- A pointer that is an element of an array in a structure that is pointed to. -/
theorem combined_names_element :
    Levelless "p->a[1]".toList ∧ (¬['.', '*'] <:+: "p->a[1]".toList ∧
      displayName "p->a[1].next".toList .structPointer {} = "p->a[1]->next".toList) ∧
    displayName "p->a[1].*p->a[1]".toList .pointer {} = "*(p->a[1])".toList := by
  have plain : Levelless "p->a[1]".toList := by decide
  have direct : ¬['.', '*'] <:+: "p->a[1]".toList := by
    rw [← contains_iff]
    decide
  have both := combined_names_iff plain
  have next : displayName ("p->a[1]".toList ++ '.' :: "next".toList) .structPointer {} =
      Shape.structPointer.part "p->a[1]".toList "next".toList :=
    both.1.2 direct _ (by decide) (by decide) (by decide)
  exact ⟨plain, ⟨direct, next⟩, both.2.2 (by decide)⟩

/-- The target of the pointer `s.p` is shown as that of a pointer `s->p`. -/
theorem target_misnamed :
    Levelless "s.p".toList ∧ displayName "s.p.*s.p".toList .pointer {} = "*(s->p)".toList ∧
      displayName "s.p.*s.p".toList .pointer {} ≠ "*(s.p)".toList := by
  decide

end Variable

end DebugLink
