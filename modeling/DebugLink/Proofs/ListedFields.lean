import DebugLink.Mi.Answer
import DebugLink.Proofs.Answer
import DebugLink.Proofs.Lookalike

/-!
# Listings as gdb writes them

A listing is a list of tuples of strings. The tuples are found whatever their strings hold, and a
string is read whole if nothing before it in its tuple looks like the field that it is in. A field
that a tuple does not have is never read as a string of gdb.

* `Legible`: no string of a tuple looks like a later field.
* `rawField?_tuple`, `stringOrEmpty_tuple`: the strings of a tuple.
* `stringOrEmpty_behind`: what is read behind a string that may look like it.
* `rawField?_missing`: what is read where there is no field of a name.
* `tuples_listed`: the tuples of a listing.
-/

namespace DebugLink.Mi

open Text

/-- No string in the tuple looks like a later field, of those that are read. -/
def Legible (sought : List String) (fields : List (Label × String)) : Prop :=
  fields.Pairwise fun field later =>
    later.1.text ∈ sought → ¬Resembles later.1.text field.2.toList

instance (sought : List String) (fields : List (Label × String)) :
    Decidable (Legible sought fields) := by
  unfold Legible
  infer_instance

/-- A tuple of strings as it is written. -/
def tupleText (fields : List (Label × String)) : List Char := (Tree.tuple (strings fields)).written

/-- A name is looked for in a tuple as it is among the fields of the tuple. -/
theorem valueAt?_tuple (key : Label) (fields : List (Label × String)) :
    valueAt? key.text (tupleText fields) =
      lookUp key.text ',' (bareItems (strings fields) ++ ['}']) := by
  have outside : ¬Resembles key.text [','] := not_resembles_of_undivided List.not_mem_nil ','
  have entered := lookUp_past (s := []) key.undivided outside (key.not_mem (c := '{') rfl)
    (by decide) (bareItems (strings fields) ++ ['}'])
  exact entered.trans (lookUp_of_startsField rfl rfl _)

theorem ne_of_fresh {key : String} {fields : List (Label × String)}
    (fresh : key ∉ fields.map (·.1.text)) : ∀ f ∈ fields, f.1.text ≠ key := fun _ mem e =>
  fresh (e ▸ List.mem_map_of_mem mem)

/-- Nothing before a field of a legible tuple looks like it. -/
theorem Legible.before {sought : List String} (before : List (Label × String)) (key : Label)
    {value : String} {after : List (Label × String)}
    (legible : Legible sought (before ++ (key, value) :: after)) (read : key.text ∈ sought) :
    ∀ f ∈ before, ¬Resembles key.text f.2.toList := fun f mem =>
  (List.pairwise_append.1 legible).2.2 f mem (key, value) List.mem_cons_self read

section Read

variable (before : List (Label × String)) {after : List (Label × String)} (key : Label)
  {value : String} (fresh : key.text ∉ before.map (·.1.text))
  (plain : ∀ f ∈ before, ¬Resembles key.text f.2.toList)

include fresh plain

theorem rawField?_tuple :
    rawField? key.text (tupleText (before ++ (key, value) :: after)) =
      some (escape value.toList) :=
  rawField?_strings (ne_of_fresh fresh) plain (valueAt?_tuple key _)

/-- **The string of a field** of a tuple is read if nothing before looks like it, whatever it holds
itself. -/
theorem stringOrEmpty_tuple :
    stringOrEmpty key.text (tupleText (before ++ (key, value) :: after)) = value := by
  rw [stringOrEmpty, string?, field?, rawField?_tuple before key fresh plain,
    Option.map_some, Option.map_some, unescape_escape, String.ofList_toList, Option.getD_some]

end Read

/-- Something in the string before a field may be taken for it. What is read then is what stands
between the two strings, or nothing. -/
theorem stringOrEmpty_behind (before : List (Label × String)) {after : List (Label × String)}
    (label key : Label) {other value : String} (apart : label.text ≠ key.text)
    (fresh : key.text ∉ before.map (·.1.text))
    (plain : ∀ f ∈ before, ¬Resembles key.text f.2.toList) :
    stringOrEmpty key.text (tupleText (before ++ (label, other) :: (key, value) :: after)) ∈
      [value, String.ofList (unescape (between key)), ""] := by
  by_cases looks : Resembles key.text other.toList
  · obtain ⟨lead, mark, tail, starts, split, first⟩ := exists_first_resemblance looks
    have raw := rawField?_stray (ne_of_fresh fresh) plain apart starts split first
      (valueAt?_tuple key (before ++ (label, other) :: (key, value) :: after))
    rw [quotedBody?_between] at raw
    rw [stringOrEmpty, string?, field?, raw]
    -- a string is read only if what looks like the field ends the one before it
    split
    · exact .tail _ (.head _)
    · exact .tail _ (.tail _ (.head _))
  · refine List.mem_cons.2 (.inl ?_)
    have shape : before ++ (label, other) :: (key, value) :: after =
        (before ++ [(label, other)]) ++ (key, value) :: after := by simp
    rw [shape]
    refine stringOrEmpty_tuple (before ++ [(label, other)]) key ?_
      (List.forall_mem_append.2 ⟨plain, List.forall_mem_singleton.2 looks⟩)
    rw [List.map_append, List.mem_append, not_or]
    exact ⟨fresh, by simpa using apart.symm⟩

/-- A name that nothing in the tuple has or looks like is not found. -/
theorem valueAt?_missing {key : Label} {fields : List (Label × String)}
    (fresh : ∀ f ∈ fields, f.1.text ≠ key.text)
    (plain : ∀ f ∈ fields, ¬Resembles key.text f.2.toList) :
    valueAt? key.text (tupleText fields) = none := by
  have ended : ∀ before, lookUp key.text before ['}'] = none := by
    intro before
    have passed := lookUp_past (s := []) key.undivided
      (not_resembles_of_undivided List.not_mem_nil before) (key.not_mem (c := '}') rfl)
      (by decide) []
    exact passed
  rw [valueAt?_tuple]
  obtain rfl | ⟨before, last, rfl⟩ := fields.eq_nil_or_concat
  · exact ended ','
  · rw [List.concat_eq_append] at fresh plain ⊢
    obtain ⟨fresh', freshLast⟩ := List.forall_mem_append.1 fresh
    obtain ⟨plain', plainLast⟩ := List.forall_mem_append.1 plain
    obtain ⟨label, value⟩ := last
    rw [lookUp_strings key fresh' plain', bareItems_strings_cons,
      lookUp_string key (freshLast _ List.mem_cons_self) (plainLast _ List.mem_cons_self)]
    exact ended '"'

/-- **A field that is missing** is never read as a string of gdb: what is read, if anything is, is
what stands between two strings. -/
theorem rawField?_missing (key : Label) {fields : List (Label × String)}
    (fresh : key.text ∉ fields.map (·.1.text)) {s : List Char}
    (read : rawField? key.text (tupleText fields) = some s) : s.head? = some ',' := by
  have fresh := ne_of_fresh fresh
  by_cases plain : ∀ f ∈ fields, ¬Resembles key.text f.2.toList
  · rw [rawField?, valueAt?_missing fresh plain] at read
    cases read
  · obtain ⟨early, label, other, late, rfl, plain, here⟩ := exists_first_lookalike plain
    obtain ⟨lead, mark, tail, starts, split, first⟩ := exists_first_resemblance here
    have fresh' : ∀ f ∈ early, f.1.text ≠ key.text := fun f mem =>
      fresh f (List.mem_append_left _ mem)
    have other' : label.text ≠ key.text :=
      fresh (label, other) (List.mem_append_right early List.mem_cons_self)
    rw [rawField?_stray fresh' plain other' starts split first (valueAt?_tuple key _)] at read
    split at read
    · cases late with
      | nil => cases read
      | cons next late =>
        rw [writtenItems_strings_cons, List.cons_append] at read
        obtain ⟨t, -, rfl⟩ :=
          Option.map_eq_some_iff.1 (show (quotedBody? _).map _ = some s from read)
        rfl
    · cases read

/-! ## Lists of tuples -/

/-- A tuple for each element, under a name or not, as elements of a list. -/
def listed (label? : Option Label) (rows : List (List (Label × String))) : Tree :=
  .list (rows.map fun row => (label?, .tuple (strings row)))

/-- **The tuples of a list** are found where the list is. -/
theorem tuples_listed {key : String} {label? : Option Label} {rows : List (List (Label × String))}
    {s rest : List Char} (found : valueAt? key s = some ((listed label? rows).written ++ rest)) :
    tuples key s = rows.map tupleText := by
  rw [tuples_of_valueAt? found, listed, Tree.ownTuples, List.map_map, List.filter_eq_self.2]
  · exact List.map_map
  · intro tree mem
    obtain ⟨row, -, rfl⟩ := List.mem_map.1 mem
    rfl

/-- The result of a command that was accepted, with these results. -/
def acceptedResult (results : List (Option Label × Tree)) : String :=
  String.ofList ("^done".toList ++ ',' :: bareItems results)

/-- The word in front of the results has no field in it, so the search begins behind it. -/
theorem valueAt?_acceptedResult (key : Label) (results : List (Option Label × Tree)) :
    valueAt? key.text (acceptedResult results).toList =
      lookUp key.text ',' (bareItems results) := by
  have search : ∀ s, valueAt? key.text s = lookUp key.text ',' s := fun _ => rfl
  have undivided : '=' ∉ "^done".toList := by decide
  have plain : ¬Resembles key.text (',' :: "^done".toList) :=
    not_resembles_of_undivided undivided ','
  have foreign : ',' ∉ key.text.toList := key.not_mem rfl
  unfold acceptedResult
  rw [String.toList_ofList, search, lookUp_past key.undivided plain foreign (by decide)]

/-- The answer to a command that was accepted. -/
theorem answer_acceptedResult (command : String) (results : List (Option Label × Tree))
    (console : List String) :
    answer command (.ofResult (acceptedResult results) console) =
      acceptedAnswer command (.ofResult (acceptedResult results) console) := by
  have leads : startsWith "^done" (acceptedResult results) = true := by
    unfold startsWith acceptedResult
    rw [List.isPrefixOf_iff_prefix, String.toList_ofList (l := _ ++ _)]
    exact List.prefix_append _ _
  have done : (Response.ofResult (acceptedResult results) console).status = .done := if_pos leads
  refine answer_accepted command ?_
  rw [Response.isError, done]

/-- The entries of an answer, with a sign between each two, come behind its tag. -/
theorem toList_tagged {tag : String} {a b : Char} (written : tag.toList = [a, b, ';'])
    (entries : List String) : (tag ++ "#".intercalate entries).toList =
      a :: b :: ';' :: ['#'].intercalate (entries.map String.toList) := by
  rw [String.toList_append, String.toList_intercalate, written]
  rfl

/-- The word before the first blank tells which command it is. -/
theorem headD_words {lead verb : String} {more : List Char}
    (written : lead.toList = verb.toList ++ ' ' :: more)
    (word : (verb.toList.all (!isBlank ·)) = true) (named : verb.toList ≠ []) (rest : String) :
    ((words (lead ++ rest).toList).map String.ofList).headD "" = verb := by
  have unbroken : ∀ c ∈ verb.toList, isBlank c = false := fun c mem => by
    simpa using List.all_eq_true.1 word c mem
  rw [String.toList_append, written, List.append_assoc, List.cons_append,
    words_append unbroken named (by decide)]
  exact String.ofList_toList

end DebugLink.Mi
