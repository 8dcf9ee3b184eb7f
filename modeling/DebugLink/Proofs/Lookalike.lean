import DebugLink.Proofs.Tree

/-!
# Strings that look like fields

The search for a name does not know where strings begin and end. So a string in which something
looks like the field comes to be taken for it, if it stands before the field. Strings that follow
make no difference.

* `resembles_of_escape`: escapes make nothing look like a field.
* `lookUp_strings`: strings in which nothing looks like the field are passed.
* `rawField?_stray`: what is read where something does.
* `field_read_iff`: when the string of a field is read.
-/

namespace DebugLink.Mi

open Text

/-! ## What looks like a field -/

section Resembles

variable {key : String}

theorem Resembles.mono {s t : List Char} (inside : s <:+: t) (h : Resembles key s) :
    Resembles key t := by
  obtain ⟨mark, starts, here⟩ := h
  exact ⟨mark, starts, here.trans inside⟩

/-- A text resembles a field at its first character, or behind it. -/
theorem resembles_cons_iff {c : Char} {s : List Char} :
    Resembles key (c :: s) ↔ (c ∈ fieldMarks ∧ key.toList ++ ['='] <+: s) ∨ Resembles key s := by
  constructor
  · rintro ⟨mark, starts, here⟩
    obtain first | later := List.infix_cons_iff.1 here
    · obtain ⟨rfl, leads⟩ := List.cons_prefix_cons.1 first
      exact .inl ⟨starts, leads⟩
    · exact .inr ⟨mark, starts, later⟩
  · rintro (⟨starts, leads⟩ | later)
    · exact ⟨c, starts, (List.cons_prefix_cons.2 ⟨rfl, leads⟩).isInfix⟩
    · exact later.mono (List.suffix_cons c s).isInfix

theorem resembles_cons_of_not_mem {c : Char} (unmarked : c ∉ fieldMarks) {s : List Char} :
    Resembles key (c :: s) ↔ Resembles key s :=
  resembles_cons_iff.trans (or_iff_right fun first => unmarked first.1)

theorem not_resembles_nil : ¬Resembles key [] := by
  rintro ⟨mark, -, here⟩
  exact List.cons_ne_nil _ _ (List.infix_nil.1 here)

/-- What looks like the field does so at a first place. -/
theorem exists_first_resemblance {s : List Char} (h : Resembles key s) :
    ∃ lead mark tail, mark ∈ fieldMarks ∧ s = lead ++ mark :: (key.toList ++ '=' :: tail) ∧
      ¬Resembles key lead := by
  induction s with
  | nil => exact absurd h not_resembles_nil
  | cons c s ih =>
    by_cases here : c ∈ fieldMarks ∧ key.toList ++ ['='] <+: s
    · obtain ⟨starts, tail, rfl⟩ := here
      exact ⟨[], c, tail, starts, by simp, not_resembles_nil⟩
    · obtain ⟨lead, mark, tail, starts, rfl, first⟩ :=
        ih ((resembles_cons_iff.1 h).resolve_left here)
      refine ⟨c :: lead, mark, tail, starts, rfl, fun before => ?_⟩
      obtain ⟨marked, leads⟩ | later := resembles_cons_iff.1 before
      · exact here ⟨marked, leads.trans (List.prefix_append lead _)⟩
      · exact first later

/-- What leads an escaped text and has no backslash leads the text itself. -/
theorem prefix_of_prefix_escape {p s : List Char} (plain : '\\' ∉ p) (leads : p <+: escape s) :
    p <+: s := by
  induction s generalizing p with
  | nil => exact leads
  | cons c s ih =>
    cases p with
    | nil => exact List.nil_prefix
    | cons x p =>
      rw [escape_cons] at leads
      obtain ⟨itself, -⟩ | ⟨letter, -, escaped⟩ := escapeChar_cases c
      · rw [itself, List.singleton_append] at leads
        obtain ⟨rfl, rest⟩ := List.cons_prefix_cons.1 leads
        exact List.cons_prefix_cons.2 ⟨rfl, ih (fun mem => plain (List.mem_cons_of_mem x mem)) rest⟩
      · rw [escaped, List.cons_append] at leads
        obtain ⟨rfl, -⟩ := List.cons_prefix_cons.1 leads
        exact absurd List.mem_cons_self plain

/-- **Escapes make nothing look like a field**: the letter behind a backslash starts none. -/
theorem resembles_of_escape (plain : '\\' ∉ key.toList) {s : List Char}
    (h : Resembles key (escape s)) : Resembles key s := by
  induction s with
  | nil => exact h
  | cons c s ih =>
    rw [escape_cons] at h
    obtain ⟨itself, -⟩ | ⟨letter, mem, escaped⟩ := escapeChar_cases c
    · rw [itself, List.singleton_append] at h
      obtain ⟨starts, leads⟩ | later := resembles_cons_iff.1 h
      · exact resembles_cons_iff.2 (.inl ⟨starts, prefix_of_prefix_escape (by simp [plain]) leads⟩)
      · exact resembles_cons_iff.2 (.inr (ih later))
    · have unmarked : ∀ d ∈ ['\\', '"', 'n', 't'], d ∉ fieldMarks := by simp [fieldMarks]
      rw [escaped] at h
      have later := (resembles_cons_of_not_mem (unmarked letter mem)).1
        ((resembles_cons_of_not_mem (c := '\\') (by decide)).1 h)
      exact resembles_cons_iff.2 (.inr (ih later))

end Resembles

/-! ## Fields with strings -/

/-- Fields that hold strings, as items of a tree. -/
def strings (fields : List (Label × String)) : List (Option Label × Tree) :=
  fields.map fun field => (some field.1, .text field.2)

theorem writtenItems_strings_cons (label : Label) (value : String)
    (fields : List (Label × String)) :
    writtenItems (strings ((label, value) :: fields)) =
      ',' :: bareItems (strings ((label, value) :: fields)) := by
  rw [strings, List.map_cons, writtenItems_cons, bareItems_cons]

theorem bareItems_text_cons (label : Label) (value : String) (items : List (Option Label × Tree)) :
    bareItems ((some label, .text value) :: items) = label.text.toList ++ '=' ::
      (('"' :: escape value.toList) ++ '"' :: writtenItems items) := by
  rw [bareItems_cons, leadIn, Tree.written, toList_quote]
  simp

theorem bareItems_strings_cons (label : Label) (value : String) (fields : List (Label × String))
    (rest : List Char) : bareItems (strings ((label, value) :: fields)) ++ rest =
      label.text.toList ++ '=' ::
        (('"' :: escape value.toList) ++ '"' :: (writtenItems (strings fields) ++ rest)) := by
  rw [strings, List.map_cons, bareItems_text_cons]
  simp [strings]

/-- A text of characters without escapes is written as it is. -/
theorem escape_eq_self {s : List Char} (plain : ∀ c ∈ s, escapeChar c = [c]) : escape s = s := by
  induction s with
  | nil => rfl
  | cons c s ih =>
    obtain ⟨head, tail⟩ := List.forall_mem_cons.1 plain
    rw [escape_cons, head, ih tail]
    rfl

namespace Label

variable (label : Label)

theorem undivided : '=' ∉ label.text.toList := label.not_mem rfl

theorem startsField_of_mem {c : Char} (mem : c ∈ label.text.toList) : startsField c = false := by
  have marks : ∀ d ∈ fieldMarks, isLabelChar d = false := by simp [fieldMarks, isLabelChar]
  exact Bool.eq_false_iff.2 fun starts => label.not_mem (marks c (startsField_iff.1 starts)) mem

theorem escape_eq {s : List Char} (part : s ⊆ label.text.toList) : escape s = s := by
  refine escape_eq_self fun c mem => ?_
  have clean := label.isLabelChar_of_mem (part mem)
  rw [isLabelChar, Bool.and_eq_true, beq_iff_eq] at clean
  exact clean.1

end Label

section Search

variable (key : Label)

/-- The string of another field is passed, if nothing in it looks like the field. -/
theorem lookUp_string {label : Label} {value : String} (other : label.text ≠ key.text)
    (plain : ¬Resembles key.text value.toList) (rest : List Char) :
    lookUp key.text ','
        (label.text.toList ++ '=' :: (('"' :: escape value.toList) ++ '"' :: rest)) =
      lookUp key.text '"' rest := by
  have differs : key.text.toList ≠ label.text.toList := fun e => other (String.toList_inj.1 e).symm
  rw [lookUp_other key.undivided label.undivided (fun _ mem => label.startsField_of_mem mem)
    (.inl differs)]
  refine lookUp_past key.undivided ?_ (key.not_mem rfl) (by decide) rest
  rw [resembles_cons_of_not_mem (by decide), resembles_cons_of_not_mem (by decide)]
  exact mt (resembles_of_escape (key.not_mem rfl)) plain

/-- **Strings in which nothing looks like the field** are passed, up to the next field. -/
theorem lookUp_strings {before : List (Label × String)}
    (fresh : ∀ f ∈ before, f.1.text ≠ key.text)
    (plain : ∀ f ∈ before, ¬Resembles key.text f.2.toList) (label : Label) (value : String)
    (after : List (Label × String)) (rest : List Char) :
    lookUp key.text ',' (bareItems (strings (before ++ (label, value) :: after)) ++ rest) =
      lookUp key.text ',' (bareItems (strings ((label, value) :: after)) ++ rest) := by
  induction before with
  | nil => rfl
  | cons field before ih =>
    obtain ⟨name, other⟩ := field
    have next : ∃ name' other' fields, before ++ (label, value) :: after =
        (name', other') :: fields := by
      cases before with
      | nil => exact ⟨_, _, _, rfl⟩
      | cons f before => exact ⟨f.1, f.2, _, rfl⟩
    obtain ⟨name', other', fields, e⟩ := next
    have tail := ih (fun f mem => fresh f (List.mem_cons_of_mem _ mem))
      (fun f mem => plain f (List.mem_cons_of_mem _ mem))
    rw [← tail, List.cons_append, bareItems_strings_cons,
      lookUp_string key (fresh _ List.mem_cons_self) (plain _ List.mem_cons_self), e,
      writtenItems_strings_cons]
    -- behind the closing quote there is a comma, with which the next field starts
    exact lookUp_past (s := []) key.undivided (by
      rw [resembles_cons_of_not_mem (by decide)]
      exact not_resembles_nil) (key.not_mem rfl) (by decide) _

/-- **Something in a string that looks like the field** is taken for it. -/
theorem lookUp_stray {label : Label} {value : String} (other : label.text ≠ key.text)
    {lead tail : List Char} {mark : Char} (starts : mark ∈ fieldMarks)
    (split : value.toList = lead ++ mark :: (key.text.toList ++ '=' :: tail))
    (first : ¬Resembles key.text lead) (rest : List Char) :
    lookUp key.text ','
        (label.text.toList ++ '=' :: (('"' :: escape value.toList) ++ '"' :: rest)) =
      some (escape tail ++ '"' :: rest) := by
  have marks : ∀ c ∈ fieldMarks, isLabelChar c = false ∧ escapeChar c = [c] ∧ c ≠ '=' := by
    simp [fieldMarks, isLabelChar, escapeChar]
  obtain ⟨foreign, itself, unequal⟩ := marks mark starts
  have equal : escapeChar '=' = ['='] := rfl
  have escaped : escape value.toList =
      escape lead ++ mark :: (key.text.toList ++ '=' :: escape tail) := by
    rw [split, escape_append, escape_cons, itself, escape_append,
      key.escape_eq (List.Subset.refl _), escape_cons, equal]
    rfl
  have shape : ('"' :: escape value.toList) ++ '"' :: rest = ('"' :: escape lead) ++ mark ::
      (key.text.toList ++ '=' :: (escape tail ++ '"' :: rest)) := by
    rw [escaped]
    simp
  have differs : key.text.toList ≠ label.text.toList := fun e => other (String.toList_inj.1 e).symm
  have plain : ¬Resembles key.text ('=' :: '"' :: escape lead) := by
    rw [resembles_cons_of_not_mem (by decide), resembles_cons_of_not_mem (by decide)]
    exact mt (resembles_of_escape (key.not_mem rfl)) first
  rw [lookUp_other key.undivided label.undivided (fun _ mem => label.startsField_of_mem mem)
    (.inl differs), shape, lookUp_past key.undivided plain (key.not_mem foreign) unequal]
  exact lookUp_found (startsField_iff.2 starts) _

section Read

variable {key} {before : List (Label × String)} (fresh : ∀ f ∈ before, f.1.text ≠ key.text)
  (plain : ∀ f ∈ before, ¬Resembles key.text f.2.toList) {after : List (Label × String)}
  {s rest : List Char}

include fresh plain

/-- The string of the field is read whole, whatever it holds. -/
theorem rawField?_strings {value : String} (found : valueAt? key.text s =
      lookUp key.text ',' (bareItems (strings (before ++ (key, value) :: after)) ++ rest)) :
    rawField? key.text s = some (escape value.toList) := by
  rw [lookUp_strings key fresh plain, bareItems_strings_cons, lookUp_found rfl] at found
  rw [rawField?, found]
  exact quotedBody?_escape value.toList _

/-- Of something that looks like the field, a string is read only if the string that it stands in
ends there; what is read then goes on to the next quote. -/
theorem rawField?_stray {label : Label} {value : String} (other : label.text ≠ key.text)
    {lead tail : List Char} {mark : Char} (starts : mark ∈ fieldMarks)
    (split : value.toList = lead ++ mark :: (key.text.toList ++ '=' :: tail))
    (first : ¬Resembles key.text lead) (found : valueAt? key.text s =
      lookUp key.text ',' (bareItems (strings (before ++ (label, value) :: after)) ++ rest)) :
    rawField? key.text s =
      if tail = [] then quotedBody? (writtenItems (strings after) ++ rest) else none := by
  rw [lookUp_strings key fresh plain, bareItems_strings_cons,
    lookUp_stray key other starts split first] at found
  rw [rawField?, found]
  cases tail with
  | nil => rfl
  | cons c tail =>
    rw [escape_cons, if_neg (List.cons_ne_nil c tail)]
    obtain ⟨itself, -, quote⟩ | ⟨letter, -, escaped⟩ := escapeChar_cases c
    · rw [itself]
      simp [quote]
    · rw [escaped]
      rfl

end Read

end Search

/-! ## When the string of a field is read -/

/-- What stands between the string of a field and that of the next one. -/
def between (next : Label) : List Char := ',' :: (next.text.toList ++ ['='])

/-- What stands between two values needs no escape. -/
theorem escape_between (next : Label) : escape (between next) = between next := by
  have comma : escapeChar ',' = [','] := rfl
  have equal : escape ['='] = ['='] := rfl
  rw [between, escape_cons, comma, escape_append, next.escape_eq (List.Subset.refl _), equal]
  rfl

/-- A string that starts where another one ends goes on to the next. -/
theorem quotedBody?_between (next : Label) (value : String) (fields : List (Label × String))
    (rest : List Char) :
    quotedBody? (writtenItems (strings ((next, value) :: fields)) ++ rest) =
      some (between next) := by
  have written : writtenItems (strings ((next, value) :: fields)) ++ rest = between next ++
      '"' :: (escape value.toList ++ '"' :: (writtenItems (strings fields) ++ rest)) := by
    rw [writtenItems_strings_cons, List.cons_append, bareItems_strings_cons]
    simp [between]
  rw [written]
  exact escape_between next ▸ quotedBody?_escape (between next) _

/-- In the first of the strings in which something looks like the field, that stands at the end, and
the value happens to be what stands between that string and the next. -/
def Mimics (key : Label) (value : String) (before : List (Label × String)) : Prop :=
  ∃ early label other late lead mark, before = early ++ (label, other) :: late ∧
    (∀ f ∈ early, ¬Resembles key.text f.2.toList) ∧ mark ∈ fieldMarks ∧
    other.toList = lead ++ mark :: (key.text.toList ++ ['=']) ∧ ¬Resembles key.text lead ∧
    value.toList = between ((late.map Prod.fst).headD key)

/-- Of several lookalikes there is a first one. -/
theorem exists_first_lookalike {key : String} {before : List (Label × String)}
    (h : ¬∀ f ∈ before, ¬Resembles key f.2.toList) :
    ∃ early label value late, before = early ++ (label, value) :: late ∧
      (∀ f ∈ early, ¬Resembles key f.2.toList) ∧ Resembles key value.toList := by
  induction before with
  | nil => exact absurd (List.forall_mem_nil _) h
  | cons field before ih =>
    obtain ⟨label, value⟩ := field
    by_cases here : Resembles key value.toList
    · exact ⟨[], label, value, before, rfl, List.forall_mem_nil _, here⟩
    · have later : ¬∀ f ∈ before, ¬Resembles key f.2.toList := fun plain =>
        h (List.forall_mem_cons.2 ⟨here, plain⟩)
      obtain ⟨early, label', value', late, rfl, plain, there⟩ := ih later
      exact ⟨(label, value) :: early, label', value', late, rfl,
        List.forall_mem_cons.2 ⟨here, plain⟩, there⟩

/-- At the start of a text a field may start, and behind the text there is nothing. -/
theorem valueAt?_strings (key : Label) (fields : List (Label × String)) :
    valueAt? key.text (bareItems (strings fields)) =
      lookUp key.text ',' (bareItems (strings fields) ++ []) := by
  rw [List.append_nil]
  rfl

section Mistaken

variable {key label : Label} {value other : String} {early late after : List (Label × String)}
  {lead tail : List Char} {mark : Char}

/-- Where something in a string before looks like the field, the most that is read is what stands
between that string and the next. -/
theorem rawField?_mistaken
    (fresh : ∀ f ∈ early ++ (label, other) :: late, f.1.text ≠ key.text)
    (plain : ∀ f ∈ early, ¬Resembles key.text f.2.toList) (starts : mark ∈ fieldMarks)
    (split : other.toList = lead ++ mark :: (key.text.toList ++ '=' :: tail))
    (first : ¬Resembles key.text lead) :
    rawField? key.text (bareItems (strings (early ++ (label, other) :: late ++
        (key, value) :: after))) =
      if tail = [] then some (between ((late.map Prod.fst).headD key)) else none := by
  have next : ∃ string fields, late ++ (key, value) :: after =
      ((late.map Prod.fst).headD key, string) :: fields := by
    cases late with
    | nil => exact ⟨_, _, rfl⟩
    | cons f late => exact ⟨_, _, rfl⟩
  obtain ⟨string, fields, next⟩ := next
  have found := rawField?_stray (fun f mem => fresh f (List.mem_append_left _ mem)) plain
    (fresh (label, other) (List.mem_append_right early List.mem_cons_self)) starts split first
    (valueAt?_strings key (early ++ (label, other) :: (late ++ (key, value) :: after)))
  rw [List.append_assoc, List.cons_append, found, next, quotedBody?_between]

end Mistaken

/-- **The string of a field is read**, whatever it holds and whatever follows, exactly if nothing in
the strings before looks like the field: a comma or an opening bracket with the name and an equal
sign behind it. There is one coincidence besides: the first such place is the end of a string, and
the value is what stands from there to the next quote. The names before are other names. -/
theorem field_read_iff (key : Label) (value : String) (before after : List (Label × String))
    (fresh : ∀ f ∈ before, f.1.text ≠ key.text) :
    rawField? key.text (bareItems (strings (before ++ (key, value) :: after))) =
        some (escape value.toList) ↔
      (∀ f ∈ before, ¬Resembles key.text f.2.toList) ∨ Mimics key value before := by
  constructor
  · intro read
    refine Classical.or_iff_not_imp_left.2 fun lookalike => ?_
    obtain ⟨early, label, other, late, rfl, plain, here⟩ := exists_first_lookalike lookalike
    obtain ⟨lead, mark, tail, starts, split, first⟩ := exists_first_resemblance here
    rw [rawField?_mistaken fresh plain starts split first] at read
    split at read
    · rename_i ends
      subst ends
      have same : value.toList = between ((late.map Prod.fst).headD key) :=
        calc value.toList = unescape (escape value.toList) := (unescape_escape _).symm
          _ = unescape (escape (between ((late.map Prod.fst).headD key))) := by
            rw [escape_between, Option.some.inj read]
          _ = between ((late.map Prod.fst).headD key) := unescape_escape _
      exact ⟨early, label, other, late, lead, mark, rfl, plain, starts, split, first, same⟩
    · cases read
  · rintro (plain | ⟨early, label, other, late, lead, mark, rfl, plain, starts, split, first, same⟩)
    · exact rawField?_strings fresh plain (valueAt?_strings key _)
    · rw [rawField?_mistaken fresh plain starts split first, if_pos rfl, same, escape_between]

/-- Behind a string with a comma and the name in it, but no equal sign, the field is read. -/
theorem field_read_behind : (∀ f ∈ [((⟨"a", rfl⟩ : Label), "x,b")], f.1.text ≠ "b") ∧
    rawField? "b" (bareItems (strings [(⟨"a", rfl⟩, "x,b"), (⟨"b", rfl⟩, "1")])) =
      some ['1'] :=
  ⟨by decide, (field_read_iff ⟨"b", rfl⟩ "1" [(⟨"a", rfl⟩, "x,b")] []
    (by decide)).2 (.inl (by decide))⟩

/-- In `a=",b=",b="1"` the string of the field is not read. -/
theorem field_hidden :
    (bareItems (strings [(⟨"a", rfl⟩, ",b="), (⟨"b", rfl⟩, "1")]) =
      "a=\",b=\",b=\"1\"".toList) ∧
    rawField? "b" (bareItems (strings [(⟨"a", rfl⟩, ",b="), (⟨"b", rfl⟩, "1")])) =
      some [',', 'b', '='] ∧
    escape "1".toList = ['1'] := by
  decide

end DebugLink.Mi
