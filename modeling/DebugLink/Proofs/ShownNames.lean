import DebugLink.Proofs.Separated
import DebugLink.Variable.Expand
import Mathlib.Data.Bool.AllAny

/-!
# Names of listed parts

What is listed of a variable object is named after it, with a segment for each access level on the
way. Shown is the name of the owner with the name of the part put to it as the owner's shape has it:
either because the level is known by the owner's name, or because the segments are taken out, which
leaves the name of the object.

* `cutLast?_append_cons`, `contains_iff`: searching.
* `PartName`, `OwnerName`: names that are not taken for anything else.
* `isAccessLevel_level`, `isAccessLevel_part`: levels are told from parts.
* `Below`: a level of an object, through any number of levels.
* `displayName_part`: the name that is shown for a part, with the owner as it is known.
* `withShownOwner_known`, `withShownOwner_unknown`: how the owner is known.
-/

namespace DebugLink

open Text

namespace Text

/-! ## Searching -/

theorem contains_iff {pat s : List Char} : contains pat s = true ↔ pat <:+: s := by
  unfold contains
  induction s with
  | nil => cases pat <;> simp [cut?]
  | cons c s ih =>
    rw [cut?, List.infix_cons_iff, ← ih]
    split
    · rename_i leads
      simp [List.isPrefixOf_iff_prefix.1 leads]
    · rename_i other
      simp [mt List.isPrefixOf_iff_prefix.2 other]

theorem cutLast?_of_not_infix {pat s : List Char} (absent : ¬pat <:+: s) :
    cutLast? pat s = none := by
  induction s with
  | nil =>
    rw [cutLast?, if_neg]
    intro empty
    rw [List.isEmpty_iff.1 empty] at absent
    exact absent (List.nil_infix)
  | cons c s ih =>
    rw [cutLast?, ih fun inside => absent (List.infix_cons inside)]
    exact if_neg fun leads => absent (List.isPrefixOf_iff_prefix.1 leads).isInfix

/-- The last separator is the one behind which there is none. -/
theorem cutLast?_append_cons {sep : Char} {t : List Char} (absent : sep ∉ t) (s : List Char) :
    cutLast? [sep] (s ++ sep :: t) = some (s, t) := by
  have behind : cutLast? [sep] t = none :=
    cutLast?_of_not_infix fun inside => absent (inside.subset List.mem_cons_self)
  induction s with
  | nil => rw [List.nil_append, cutLast?, behind]; simp
  | cons c s ih => rw [List.cons_append, cutLast?, ih]

theorem before?_append (s tail : List Char) : before? tail (s ++ tail) = some s := by
  simp [before?]

theorem before?_of_not_suffix {tail s : List Char} (other : ¬tail <:+ s) : before? tail s = none :=
  if_neg fun ends => other (List.isSuffixOf_iff_suffix.1 ends)

end Text

namespace Variable

/-! ## Parts -/

/-- The name of a part that is neither divided nor taken for something else. -/
structure PartName (part : List Char) : Prop where
  whole : ∀ sign ∈ ['.', '*', ';', '#'], sign ∉ part
  undivided : ¬"::".toList <:+: part
  /-- It is given, and no access level, also with a quote behind it. -/
  other : ∀ word ∈ [] :: accessLevels, part ≠ word ∧ part ≠ word ++ ['"']

/-- A part put to its owner as a shape has it. -/
def Shape.part (shape : Shape) (owner part : List Char) : List Char :=
  match shape with
  | pointer | structPointer => owner ++ '-' :: '>' :: part
  | array | structArray => owner ++ '[' :: part ++ [']']
  | struct | scalar => owner ++ '.' :: part

theorem Shape.join_part {part : List Char} (single : '.' ∉ part) (shape : Shape)
    (owner : List Char) : shape.join (owner ++ '.' :: part) = shape.part owner part := by
  unfold join
  rw [cutLast?_append_cons single]
  cases shape <;> rfl

/-- Owners of different names have no part of one name. -/
theorem Shape.part_inj {shape : Shape} {a b part : List Char}
    (same : shape.part a part = shape.part b part) : a = b := by
  cases shape <;> simpa [Shape.part] using same

/-! ## Levels -/

/-- The word for an access level. -/
abbrev AccessWord := { word : List Char // word ∈ accessLevels }

theorem AccessWord.whole (word : AccessWord) :
    '.' ∉ word.1 ∧ (∀ sign ∈ [';', '#'], sign ∉ word.1) ∧ ¬"::".toList <:+: word.1 := by
  have all : ∀ w ∈ accessLevels,
      '.' ∉ w ∧ ';' ∉ w ∧ '#' ∉ w ∧ contains "::".toList w = false := by decide
  obtain ⟨dot, first, second, colons⟩ := all word.1 word.2
  exact ⟨dot, List.forall_mem_cons.2 ⟨first, List.forall_mem_singleton.2 second⟩,
    fun inside => by rw [contains_iff.2 inside] at colons; cases colons⟩

/-- **A level is known** for what it is. -/
theorem isAccessLevel_level {owner : List Char} (given : owner ≠ []) (word : AccessWord) :
    isAccessLevel (owner ++ '.' :: word.1) = true := by
  have last : ∀ w ∈ accessLevels, ¬['"'] <:+ '.' :: w ∧ ¬['.'] <:+ '.' :: w ∧ w ≠ [] := by decide
  obtain ⟨unquoted, undotted, filled⟩ := last word.1 word.2
  have ends : ∀ c, ¬[c] <:+ '.' :: word.1 → ¬[c] <:+ owner ++ '.' :: word.1 := by
    intro c other suffix
    exact other (List.suffix_of_suffix_length_le suffix (List.suffix_append _ _) (by simp))
  unfold isAccessLevel
  dsimp only
  rw [before?_of_not_suffix (ends _ unquoted), Option.getD_none,
    before?_of_not_suffix (ends _ undotted), Option.getD_none, List.any_eq_true]
  refine ⟨word.1, word.2, ?_⟩
  rw [before?_append]
  simpa using given

theorem eq_of_suffix_append_cons {sep : Char} {a b s : List Char} (ha : sep ∉ a) (hb : sep ∉ b)
    (ends : sep :: a <:+ s ++ sep :: b) : a = b := by
  obtain ⟨lead, e⟩ := ends
  have cut := cutLast?_append_cons ha lead
  rw [e, cutLast?_append_cons hb] at cut
  exact ((Prod.mk.inj (Option.some.inj cut)).2).symm

/-- **A part is not taken** for a level. -/
theorem isAccessLevel_part (owner : List Char) {part : List Char} (named : PartName part) :
    isAccessLevel (owner ++ '.' :: part) = false := by
  have undotted : '.' ∉ part := named.whole '.' (by decide)
  -- what the quote behind the part is taken away from is itself a part
  have bare : ∃ shown : List Char, (before? ['"'] (owner ++ '.' :: part)).getD
      (owner ++ '.' :: part) = owner ++ '.' :: shown ∧ '.' ∉ shown ∧
      ∀ word ∈ [] :: accessLevels, shown ≠ word := by
    by_cases quoted : ['"'] <:+ part
    · obtain ⟨shown, rfl⟩ := quoted
      refine ⟨shown, ?_, fun mem => undotted (List.mem_append_left _ mem), ?_⟩
      · rw [← List.cons_append, ← List.append_assoc, before?_append, Option.getD_some]
      · rintro word listed rfl
        exact (named.other _ listed).2 rfl
    · have given : 1 ≤ part.length :=
        List.length_pos_iff.2 (named.other [] List.mem_cons_self).1
      have unended : ¬['"'] <:+ owner ++ '.' :: part := fun ends => quoted
        (List.suffix_of_suffix_length_le ends ⟨owner ++ ['.'], by simp⟩ given)
      rw [before?_of_not_suffix unended, Option.getD_none]
      exact ⟨part, rfl, undotted, fun word listed => (named.other word listed).1⟩
  obtain ⟨shown, e, single, other⟩ := bare
  unfold isAccessLevel
  dsimp only
  have unended : before? ['.'] (owner ++ '.' :: shown) = none := by
    refine before?_of_not_suffix fun ends => ?_
    have empty := eq_of_suffix_append_cons List.not_mem_nil single ends
    exact other [] List.mem_cons_self empty.symm
  rw [e, unended, Option.getD_none, List.any_eq_false]
  intro word listed
  have whole : '.' ∉ word := (AccessWord.whole ⟨word, listed⟩).1
  rw [before?_of_not_suffix fun ends => other word (List.mem_cons_of_mem _ listed)
    (eq_of_suffix_append_cons whole single ends).symm]
  exact Bool.false_ne_true

/-! ## Owners -/

/-- The name of a variable object or of its node, without access levels. -/
structure OwnerName (owner : List Char) : Prop where
  given : owner ≠ []
  whole : ∀ sign ∈ [';', '#'], sign ∉ owner
  undivided : ¬"::".toList <:+: owner
  direct : ¬['.', '*'] <:+: owner
  plain : ∀ segment ∈ fields '.' owner, segment ∉ accessLevels

/-- The longer name of an object is as good as the plain one. -/
theorem OwnerName.prefixed {owner : List Char} (named : OwnerName owner) :
    OwnerName (objectLead.toList ++ owner) := by
  have lead : objectLead.toList = ['v', 'o', '_'] := by decide
  obtain ⟨f, fs, e⟩ := List.exists_cons_of_ne_nil (fields_ne_nil '.' owner)
  have segments : fields '.' (objectLead.toList ++ owner) = ('v' :: 'o' :: '_' :: f) :: fs := by
    rw [lead]
    simp [fields, e]
  refine ⟨by simp [named.given], ?_, ?_, ?_, ?_⟩
  · intro sign mem inside
    obtain early | late := List.mem_append.1 inside
    · have apart : ∀ sign ∈ [';', '#'], sign ∉ objectLead.toList :=
        List.all_iff_forall_prop.1 (by decide)
      exact apart sign mem early
    · exact named.whole sign mem late
  · exact fun inside => named.undivided (infix_of_infix_append (by decide) inside)
  · exact fun inside => named.direct (infix_of_infix_append (by decide) inside)
  · intro segment mem
    rw [segments] at mem
    obtain rfl | later := List.mem_cons.1 mem
    · simp [accessLevels]
    · exact named.plain segment (e ▸ List.mem_cons_of_mem f later)

/-- A level of an object, or the object itself. -/
structure Below (owner level : List Char) : Prop where
  given : level ≠ []
  whole : ∀ sign ∈ [';', '#'], sign ∉ level
  undivided : ¬"::".toList <:+: level
  segments : (fields '.' level).filter (fun segment => !accessLevels.contains segment) =
    fields '.' owner

namespace Below

theorem refl {owner : List Char} (named : OwnerName owner) : Below owner owner :=
  ⟨named.given, named.whole, named.undivided,
    List.filter_eq_self.2 fun segment mem => by simpa using named.plain segment mem⟩

/-- No sign is in the name of a part, if there is none in what is put to the level. -/
theorem not_mem {owner level part : List Char} (below : Below owner level)
    (absent : ∀ sign ∈ [';', '#'], sign ∉ part) :
    ∀ sign ∈ [';', '#'], sign ∉ level ++ '.' :: part := by
  intro sign mem inside
  have apart : ∀ sign ∈ [';', '#'], sign ≠ '.' := List.all_iff_forall_prop.1 (by decide)
  obtain early | late := List.mem_append.1 inside
  · exact below.whole sign mem early
  · exact absent sign mem (List.mem_of_ne_of_mem (apart sign mem) late)

theorem level {owner level : List Char} (below : Below owner level) (word : AccessWord) :
    Below owner (level ++ '.' :: word.1) := by
  obtain ⟨single, signs, undivided⟩ := word.whole
  refine ⟨by simp, below.not_mem signs, ?_, ?_⟩
  · intro inside
    exact (infix_append_cons (by decide) inside).elim below.undivided undivided
  · rw [fields_append_cons, List.filter_append, below.segments, fields_of_not_mem single]
    simp [word.2]

end Below

/-! ## What is shown -/

/-- **The name of a part is shown** with the owner of the level that is shown for its own. -/
theorem displayName_part {owner shown raw part : List Char} (named : OwnerName owner)
    (below : Below owner shown) (partName : PartName part) (shape : Shape) {names : NameMap}
    (translated : withShownOwner names raw = shown ++ '.' :: part) :
    displayName raw shape names = shape.part owner part := by
  have single : '.' ∉ part := partName.whole '.' (by decide)
  have other : part ∉ accessLevels := fun listed =>
    (partName.other part (List.mem_cons_of_mem _ listed)).1 rfl
  have plain : withoutAccessLevels (shown ++ '.' :: part) = owner ++ '.' :: part := by
    have segments : (fields '.' (shown ++ '.' :: part)).filter
        (fun segment => !accessLevels.contains segment) = fields '.' (owner ++ '.' :: part) := by
      rw [fields_append_cons, fields_append_cons, List.filter_append, below.segments,
        fields_of_not_mem single]
      simp [other]
    rw [withoutAccessLevels, segments, intercalate_fields]
  have star : '*' ∉ '.' :: part :=
    List.not_mem_cons_of_ne_of_not_mem (by decide) (partName.whole '*' (by decide))
  have direct : ¬['.', '*'] <:+: owner ++ '.' :: part := by
    intro inside
    have early : ['.'] ++ ['*'] <:+: owner := infix_of_append_infix star inside
    exact named.direct early
  rw [displayName, translated, plain, withDereference, cutLast?_of_not_infix direct,
    Shape.join_part single]

theorem withShownOwner_known {names : NameMap} {level shown part : List Char} (single : '.' ∉ part)
    (known : names.shown? level = some shown) :
    withShownOwner names (level ++ '.' :: part) = shown ++ '.' :: part := by
  rw [withShownOwner, cutLast?_append_cons single]
  dsimp only
  rw [known]

theorem withShownOwner_unknown {names : NameMap} {level part : List Char} (single : '.' ∉ part)
    (unknown : names.shown? level = none) :
    withShownOwner names (level ++ '.' :: part) = level ++ '.' :: part := by
  rw [withShownOwner, cutLast?_append_cons single]
  dsimp only
  rw [unknown]

end Variable

end DebugLink
