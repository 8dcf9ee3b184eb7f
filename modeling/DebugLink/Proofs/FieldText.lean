import DebugLink.Mi.Announcer
import DebugLink.Proofs.Brackets
import DebugLink.Proofs.FieldSearch
import DebugLink.Proofs.Written

/-!
# Fields as gdb writes them

gdb writes results as a tree of named values. A name is looked for in the text and not in the tree,
so it is found in whatever tuple it comes first. Where strings hold no equal sign, nothing but a
name is taken for one.

* `Plain`: a string that stands in the text as it is.
* `search_bareFields`: looking for a name in the text is looking for it in the tree.
* `passed_bareFields`: brackets match in the text of a tuple.
* `Shows`: a text shows the fields of a tree. `Shows.rawString?_eq`, `Shows.numberField?_eq`,
  `Shows.tuple?_eq`: what is read of such a text is what the tree holds.
* `Shows.carried`: fields in which nothing is looked for make no difference.
-/

namespace DebugLink.Mi

open Text

/-! ## Trees of values -/

/-- Whether a character is written without an escape, and separates neither a name from its value
nor the fields of a record. -/
def isPlainChar (c : Char) : Bool := escapeChar c == [c] && c != '=' && c != ';'

theorem isPlainChar_digit : ∀ d < 16, isPlainChar (Nat.digitChar d) = true := by decide

/-- A string that stands in the text of gdb, and later in a record, as it is. -/
structure Plain where
  text : String
  plain : text.toList.all isPlainChar = true

/-- A number. -/
def Plain.number (n : UInt32) : Plain where
  text := toString n.toNat
  plain := by
    refine List.all_eq_true.2 fun c mem => ?_
    have digits : paddedDigits 10 0 n.toNat = (toString n.toNat).toList := by
      rw [toList_toString, paddedDigits, Nat.zero_sub]
      rfl
    exact of_mem_paddedDigits (P := (isPlainChar · = true)) (by decide) (by decide)
      isPlainChar_digit c (digits ▸ mem)

/-- Whether a character stands in names of fields. -/
def isNameChar (c : Char) : Bool := c.isLower || c == '-'

/-- Whether a text is a name for fields. -/
def isName (key : String) : Bool := !key.toList.isEmpty && key.toList.all isNameChar

/-- A name of a field. -/
structure Name where
  text : String
  named : isName text = true

/-- A value as gdb writes it. -/
inductive Value
  | text (value : Plain)
  | list (values : List Value)
  | tuple (fields : List (Name × Value))

/-- The string in its quotes. -/
def quotedPlain (value : Plain) : List Char := '"' :: (value.text.toList ++ ['"'])

mutual

/-- The value as it is written. -/
def Value.written : Value → List Char
  | .text value => quotedPlain value
  | .list values => '[' :: ((writtenValues values).tail ++ [']'])
  | .tuple fields => '{' :: ((writtenFields fields).tail ++ ['}'])

/-- The values as they are written, with a comma before each. -/
def writtenValues : List Value → List Char
  | [] => []
  | value :: values => ',' :: (value.written ++ writtenValues values)

/-- The fields as they are written, with a comma before each. -/
def writtenFields : List (Name × Value) → List Char
  | [] => []
  | (name, value) :: fields =>
    ',' :: (name.text.toList ++ '=' :: (value.written ++ writtenFields fields))

end

/-- The values with a comma between each two. -/
def bareValues (values : List Value) : List Char := (writtenValues values).tail

/-- The fields with a comma between each two. -/
def bareFields (fields : List (Name × Value)) : List Char := (writtenFields fields).tail

mutual

/-- The first field of this name inside the value. -/
def Value.find? (key : String) : Value → Option Value
  | .text _ => none
  | .list values => findInside? key values
  | .tuple fields => findField? key fields

/-- The first field of this name inside one of the values. -/
def findInside? (key : String) : List Value → Option Value
  | [] => none
  | value :: values => (value.find? key).or (findInside? key values)

/-- The first field of this name, also inside of other fields. -/
def findField? (key : String) : List (Name × Value) → Option Value
  | [] => none
  | (name, value) :: fields =>
    if name.text = key then some value else (value.find? key).or (findField? key fields)

end

/-! ## Characters of names and strings -/

section Names

variable {key : String} (named : isName key = true)

include named

theorem isNameChar_of_mem {c : Char} (mem : c ∈ key.toList) : isNameChar c = true :=
  List.all_eq_true.1 (Bool.and_eq_true_iff.1 named).2 c mem

theorem not_mem_of_isName {c : Char} (other : isNameChar c = false) : c ∉ key.toList := by
  intro mem
  rw [isNameChar_of_mem named mem] at other
  cases other

end Names

namespace Plain

theorem not_mem (value : Plain) {c : Char} (special : isPlainChar c = false) :
    c ∉ value.text.toList := fun mem => by
  rw [List.all_eq_true.1 value.plain c mem] at special
  cases special

theorem escape_eq (value : Plain) : escape value.text.toList = value.text.toList := by
  -- stated for every part of the text, for the induction
  have part : ∀ s : List Char, s.all isPlainChar = true → escape s = s := by
    intro s
    induction s with
    | nil => exact fun _ => rfl
    | cons c s ih =>
      intro all
      rw [List.all_cons, Bool.and_eq_true] at all
      have rest := ih all.2
      have head : escapeChar c = [c] := by
        have plain := all.1
        simp only [isPlainChar, Bool.and_eq_true, beq_iff_eq] at plain
        exact plain.1.1
      unfold escape at rest ⊢
      rw [List.flatMap_cons, head, rest]
      rfl
  exact part _ value.plain

theorem unescape_eq (value : Plain) : unescape value.text.toList = value.text.toList := by
  rw [← value.escape_eq, unescape_escape, value.escape_eq]

theorem quotedBody?_eq (value : Plain) (rest : List Char) :
    quotedBody? (value.text.toList ++ '"' :: rest) = some value.text.toList := by
  rw [← value.escape_eq, quotedBody?_escape]

end Plain

/-! ## Looking for a name -/

/-- What follows a value does not continue a name. -/
def Apart (rest : List Char) : Prop := ∀ c ∈ rest.head?, isNameChar c = false ∧ c ≠ '='

section Search

variable {key : String}

section Named

variable (named : isName key = true)

include named

/-- Nothing is found in a text without equal signs. -/
theorem lookUp_pass {s : List Char} (undivided : '=' ∉ s) {c : Char} (other : isNameChar c = false)
    (unequal : c ≠ '=') (before : Char) (rest : List Char) :
    lookUp key before (s ++ c :: rest) = lookUp key c rest :=
  lookUp_past (not_mem_of_isName named rfl) (not_resembles_of_undivided undivided before)
    (not_mem_of_isName named other) unequal rest

/-- What follows a value stands apart from it, so it does not matter what the value ended with. -/
theorem lookUp_of_apart {rest : List Char} (apart : Apart rest) (b c : Char) :
    lookUp key b rest = lookUp key c rest := by
  cases rest with
  | nil => rfl
  | cons x rest =>
    obtain ⟨other, unequal⟩ := apart x rfl
    rw [← List.nil_append (x :: rest), lookUp_pass named List.not_mem_nil other unequal,
      lookUp_pass named List.not_mem_nil other unequal]

/-- A name is found where a field starts with it, and another is passed by. -/
theorem lookUp_name (name : Name) {before : Char} (starts : startsField before = true)
    (rest : List Char) : lookUp key before (name.text.toList ++ '=' :: rest) =
      if name.text = key then some rest else lookUp key '=' rest := by
  split
  · rename_i same
    subst same
    exact lookUp_found starts rest
  · rename_i other
    have differs : key.toList ≠ name.text.toList := fun e => other (String.toList_inj.1 e).symm
    refine lookUp_other (not_mem_of_isName named rfl) (not_mem_of_isName name.named rfl)
      (fun c mem => ?_) (.inl differs) rest
    have marks : ∀ d ∈ fieldMarks, isNameChar d = false := by simp [fieldMarks, isNameChar]
    refine Bool.eq_false_iff.2 fun mark => ?_
    exact not_mem_of_isName name.named (marks c (startsField_iff.1 mark)) mem

end Named

end Search

/-! ## Looking for a name in a tree -/

/-- What looking for a name gives where the tree holds this under it, and where it does not. -/
def Yields (found : Option Value) (result otherwise : Option (List Char)) : Prop :=
  match found with
  | some value => ∃ rest, result = some (value.written ++ rest)
  | none => result = otherwise

theorem Yields.or {a b : Option Value} {x y z : Option (List Char)} (first : Yields a x y)
    (second : Yields b y z) : Yields (a.or b) x z := by
  cases a with
  | some value => exact first
  | none => exact (show x = y from first) ▸ second

theorem quotedPlain_append (value : Plain) (rest : List Char) :
    quotedPlain value ++ rest = ('"' :: value.text.toList) ++ '"' :: rest := by
  simp [quotedPlain]

/-- Further fields begin with a comma, and that stands apart. -/
theorem apart_writtenFields (fields : List (Name × Value)) {rest : List Char} (apart : Apart rest) :
    Apart (writtenFields fields ++ rest) := by
  cases fields with
  | nil => exact apart
  | cons field fields =>
    intro c first
    cases first
    exact ⟨rfl, by decide⟩

theorem bareFields_cons (name : Name) (value : Value) (fields : List (Name × Value)) :
    bareFields ((name, value) :: fields) =
      name.text.toList ++ '=' :: (value.written ++ writtenFields fields) := by
  rw [bareFields, writtenFields, List.tail_cons]

theorem writtenFields_cons (field : Name × Value) (fields : List (Name × Value)) :
    writtenFields (field :: fields) = ',' :: bareFields (field :: fields) := by
  rw [bareFields, writtenFields, List.tail_cons]

/-- So do further values. -/
theorem apart_writtenValues (values : List Value) {rest : List Char} (apart : Apart rest) :
    Apart (writtenValues values ++ rest) := by
  cases values with
  | nil => exact apart
  | cons value values =>
    intro c first
    cases first
    exact ⟨rfl, by decide⟩

theorem apart_written (value : Value) (rest : List Char) : Apart (value.written ++ rest) := by
  intro c first
  cases value <;> cases first <;> exact ⟨rfl, by decide⟩

theorem apart_close {c : Char} (close : c = ']' ∨ c = '}') (rest : List Char) :
    Apart (c :: rest) := by
  intro d first
  cases first
  rcases close with rfl | rfl <;> decide

section Tree

variable {key : String} (named : isName key = true)

include named

/-- A comma before the fields makes no difference. -/
theorem lookUp_writtenFields (fields : List (Name × Value)) {rest : List Char}
    (apart : Apart rest) (before : Char) :
    lookUp key before (writtenFields fields ++ rest) =
      lookUp key ',' (bareFields fields ++ rest) := by
  cases fields with
  | nil => exact lookUp_of_apart named apart before ','
  | cons field fields =>
    rw [writtenFields_cons]
    exact lookUp_pass (s := []) named List.not_mem_nil rfl (by decide) before _

theorem lookUp_writtenValues (values : List Value) {rest : List Char} (apart : Apart rest)
    (before : Char) :
    lookUp key before (writtenValues values ++ rest) =
      lookUp key ',' (bareValues values ++ rest) := by
  cases values with
  | nil => exact lookUp_of_apart named apart before ','
  | cons value values => exact lookUp_pass (s := []) named List.not_mem_nil rfl (by decide) before _

/-- A bracket before a text and one behind it make no difference. -/
theorem lookUp_bracketed {opening close : Char} (opens : opening = '[' ∨ opening = '{')
    (closes : close = ']' ∨ close = '}') {rest : List Char} (apart : Apart rest) (s : List Char) :
    lookUp key '=' (opening :: (s ++ close :: rest)) = lookUp key ',' (s ++ close :: rest) ∧
      lookUp key ',' (close :: rest) = lookUp key ',' rest := by
  obtain ⟨other, unequal, starts⟩ :
      isNameChar opening = false ∧ opening ≠ '=' ∧ startsField opening = true := by
    rcases opens with rfl | rfl <;> decide
  have enter := lookUp_pass named (s := []) List.not_mem_nil other unequal '=' (s ++ close :: rest)
  obtain ⟨other', unequal'⟩ := apart_close closes rest close rfl
  have leave := lookUp_pass named (s := []) List.not_mem_nil other' unequal' ',' rest
  exact ⟨enter.trans (lookUp_of_startsField starts rfl _),
    leave.trans (lookUp_of_apart named apart close ',')⟩

mutual

/-- **Inside a value**, the name is found where the tree holds it. -/
theorem search_value (value : Value) (rest : List Char) (apart : Apart rest) :
    Yields (value.find? key) (lookUp key '=' (value.written ++ rest)) (lookUp key ',' rest) := by
  cases value with
  | text value =>
    rw [Value.written, quotedPlain_append]
    have free : '=' ∉ '"' :: value.text.toList := by simpa using value.not_mem rfl
    exact (lookUp_pass named free rfl (by decide) '=' rest).trans
      (lookUp_of_apart named apart '"' ',')
  | list values =>
    have split : (Value.list values).written ++ rest =
        '[' :: (bareValues values ++ ']' :: rest) := by
      simp [Value.written, bareValues]
    have inner := search_bareValues values (']' :: rest) (apart_close (.inl rfl) rest)
    obtain ⟨enter, leave⟩ := lookUp_bracketed named (.inl rfl) (.inl rfl) apart (bareValues values)
    rw [split, enter, ← leave]
    exact inner
  | tuple fields =>
    have split : (Value.tuple fields).written ++ rest =
        '{' :: (bareFields fields ++ '}' :: rest) := by
      simp [Value.written, bareFields]
    have inner := search_bareFields fields ('}' :: rest) (apart_close (.inr rfl) rest)
    obtain ⟨enter, leave⟩ := lookUp_bracketed named (.inr rfl) (.inr rfl) apart (bareFields fields)
    rw [split, enter, ← leave]
    exact inner

/-- **Among values**, the name is found where the tree holds it. -/
theorem search_bareValues (values : List Value) (rest : List Char) (apart : Apart rest) :
    Yields (findInside? key values) (lookUp key ',' (bareValues values ++ rest))
      (lookUp key ',' rest) := by
  cases values with
  | nil => exact rfl
  | cons value values =>
    have later := apart_writtenValues values apart
    have first := search_value value (writtenValues values ++ rest) later
    have before :=
      lookUp_of_apart named (apart_written value (writtenValues values ++ rest)) ',' '='
    rw [bareValues, writtenValues, List.tail_cons, List.append_assoc, before, findInside?]
    refine first.or ?_
    rw [lookUp_writtenValues named values apart ',']
    exact search_bareValues values rest apart

/-- **Among fields**, the name is found where the tree holds it. -/
theorem search_bareFields (fields : List (Name × Value)) (rest : List Char) (apart : Apart rest) :
    Yields (findField? key fields) (lookUp key ',' (bareFields fields ++ rest))
      (lookUp key ',' rest) := by
  cases fields with
  | nil => exact rfl
  | cons field fields =>
    obtain ⟨name, value⟩ := field
    have later := apart_writtenFields fields apart
    rw [bareFields_cons, List.append_assoc, List.cons_append, List.append_assoc,
      lookUp_name named name rfl, findField?]
    split
    · exact ⟨_, rfl⟩
    · have next := search_value value (writtenFields fields ++ rest) later
      refine next.or ?_
      rw [lookUp_writtenFields named fields apart ',']
      exact search_bareFields fields rest apart

end

end Tree

/-! ## Brackets in a tree -/

section Scan

variable {level depth : Nat}

theorem passed_plain (value : Plain) : Passed level depth (quotedPlain value) := by
  rw [quotedPlain, ← value.escape_eq]
  exact Passed.quoted value.text.toList

theorem passed_name (name : Name) : Passed level depth name.text.toList := by
  have marks : ∀ c ∈ scanMarks, isNameChar c = false := by simp [scanMarks, isNameChar]
  exact Passed.of_forall fun c mem marked => not_mem_of_isName name.named (marks c marked) mem

end Scan

mutual

/-- A search passes a value as a whole, nested ones included. -/
theorem passed_value (value : Value) (depth : Nat) : Passed 1 (depth + 1) value.written := by
  cases value with
  | text value => exact passed_plain value
  | list values => exact (passed_bareValues values (depth + 1)).brackets depth.succ_ne_zero
  | tuple fields =>
    exact (passed_bareFields fields (depth + 1)).braces depth.succ_ne_zero (by omega)

/-- It passes the values of a list, one by one. -/
theorem passed_bareValues (values : List Value) (depth : Nat) :
    Passed 1 (depth + 1) (bareValues values) := by
  cases values with
  | nil => exact Passed.nil
  | cons value values =>
    have later : Passed 1 (depth + 1) (writtenValues values) := by
      cases values with
      | nil => exact Passed.nil
      | cons next values =>
        exact (Passed.char (c := ',') (by decide)).append (passed_bareValues (next :: values) depth)
    exact (passed_value value depth).append later

/-- **Brackets match** in the text of fields. -/
theorem passed_bareFields (fields : List (Name × Value)) (depth : Nat) :
    Passed 1 (depth + 1) (bareFields fields) := by
  cases fields with
  | nil => exact Passed.nil
  | cons field fields =>
    obtain ⟨name, value⟩ := field
    have later : Passed 1 (depth + 1) (writtenFields fields) := by
      cases fields with
      | nil => exact Passed.nil
      | cons next fields =>
        rw [writtenFields_cons]
        exact (Passed.char (c := ',') (by decide)).append (passed_bareFields (next :: fields) depth)
    rw [bareFields_cons]
    exact (passed_name name).append (Passed.append (Passed.char (c := '=') (by decide))
      ((passed_value value depth).append later))

end

/-- A text that starts with a tuple has no other tuple in the same place. -/
theorem tuplesAt_tuple (fields : List (Name × Value)) (rest : List Char) :
    tuplesAt 1 {} ((Value.tuple fields).written ++ rest) = [(Value.tuple fields).written] := by
  have written : (Value.tuple fields).written ++ rest =
      '{' :: (bareFields fields ++ '}' :: rest) := by
    simp [Value.written, bareFields]
  obtain ⟨later, found⟩ := tuplesAt_found (passed_bareFields fields 0) [] rest
  rw [written]
  exact found

/-! ## Texts that show a tree -/

/-- The names that are looked for in announcements. -/
def soughtNames : List String :=
  ["reason", "thread-id", "frame", "bkptno", "exit-code", "signal-name", "signal-meaning", "bkpt",
    "id", "pid", "number", "enabled", "addr", "func", "file", "fullname", "line", "times"]

theorem isName_of_sought : ∀ key ∈ soughtNames, isName key = true := by decide

/-- Whether something that is looked for could be found in the field. -/
def isSought (field : Name × Value) : Bool :=
  soughtNames.any fun key => (findField? key [field]).isSome

/-- The fields in which something is looked for are these, in this order. There may be others. -/
def Carries (fields own : List (Name × Value)) : Prop := fields.filter isSought = own

/-- The text shows the fields: a name is found where they hold it. -/
def Shows (fields : List (Name × Value)) (s : List Char) : Prop :=
  ∀ key ∈ soughtNames, Yields (findField? key fields) (valueAt? key s) none

/-- **Fields written in a row show each of them.** -/
theorem shows_bare (fields : List (Name × Value)) : Shows fields (bareFields fields) := by
  intro key sought
  have named := isName_of_sought key sought
  have search := search_bareFields named fields [] fun c first => nomatch first
  rwa [List.append_nil] at search

/-- **A tuple shows its fields.** -/
theorem shows_tuple (fields : List (Name × Value)) :
    Shows fields (Value.tuple fields).written := by
  intro key sought
  have named := isName_of_sought key sought
  have search := search_value named (.tuple fields) [] fun c first => nomatch first
  have start : valueAt? key (Value.tuple fields).written =
      lookUp key '=' ((Value.tuple fields).written ++ []) := by
    rw [List.append_nil]
    have split : (Value.tuple fields).written = [] ++ '{' :: (bareFields fields ++ ['}']) := rfl
    exact (split ▸ lookUp_pass named List.not_mem_nil rfl (by decide) ',' _).trans
      (split ▸ lookUp_pass named List.not_mem_nil rfl (by decide) '=' _).symm
  rw [start]
  exact search

/-- A name is found in the first of two rows that has it. -/
theorem findField?_append (key : String) (a b : List (Name × Value)) :
    findField? key (a ++ b) = (findField? key a).or (findField? key b) := by
  induction a with
  | nil => rfl
  | cons field a ih =>
    obtain ⟨name, value⟩ := field
    rw [List.cons_append, findField?, findField?, ih]
    split
    · rfl
    · rw [Option.or_assoc]

/-- Leaving out the fields that nobody looks for changes no finding. -/
theorem findField?_sought {key : String} (sought : key ∈ soughtNames)
    (fields : List (Name × Value)) :
    findField? key (fields.filter isSought) = findField? key fields := by
  induction fields with
  | nil => rfl
  | cons field fields ih =>
    have split : ∀ rest, findField? key (field :: rest) =
        (findField? key [field]).or (findField? key rest) := findField?_append key [field]
    rw [List.filter_cons]
    split
    · rw [split, split fields, ih]
    · rename_i other
      have absent : findField? key [field] = none := by
        have none_found := List.any_eq_false.1 (Bool.eq_false_iff.2 other) key sought
        rwa [Option.not_isSome_iff_eq_none] at none_found
      rw [ih, split fields, absent, Option.none_or]

/-- All fields have names that are looked for. -/
def Named (fields : List (Name × Value)) : Prop :=
  (fields.all fun field => soughtNames.contains field.1.text) = true

namespace Named

variable {fields : List (Name × Value)}

theorem append {more : List (Name × Value)} (named : Named fields) (rest : Named more) :
    Named (fields ++ more) :=
  List.all_append.trans (Bool.and_eq_true_iff.2 ⟨named, rest⟩)

/-- Such fields can stand without any others. -/
theorem carries (named : Named fields) : Carries fields fields := by
  refine List.filter_eq_self.2 fun field mem => List.any_eq_true.2 ⟨field.1.text, ?_, ?_⟩
  · exact List.contains_iff_mem.1 (List.all_eq_true.1 named field mem)
  · rw [findField?, if_pos rfl]
    rfl

end Named

namespace Shows

variable {fields : List (Name × Value)} {s : List Char} (shows : Shows fields s)

include shows

/-- **Of the fields** that a text shows, those make a difference in which something is looked
for. -/
theorem carried {own : List (Name × Value)} (carries : Carries fields own) : Shows own s := by
  intro key sought
  rw [← carries, findField?_sought sought]
  exact shows key sought

variable {key : String} (sought : key ∈ soughtNames)

include sought

section Texts

variable (value? : Option Plain) (held : findField? key fields = value?.map .text)

include held

/-- **A shown field is read as it was written**, or missing where it was not. -/
theorem rawField?_eq : rawField? key s = value?.map (·.text.toList) := by
  have found := shows key sought
  rw [held] at found
  unfold rawField?
  cases value? with
  | none =>
    rw [show valueAt? key s = none from found]
    rfl
  | some value =>
    obtain ⟨rest, at_value⟩ := found
    rw [at_value, Value.written, quotedPlain_append]
    exact value.quotedBody?_eq rest

theorem rawString?_eq : rawString? key s = value?.map (·.text) := by
  rw [rawString?, shows.rawField?_eq sought value? held, Option.map_map]
  refine Option.map_congr fun value _ => ?_
  exact String.ofList_toList

/-- A plain string has no escapes, so it is read as it stands. -/
theorem string?_eq : string? key s = value?.map (·.text) := by
  rw [string?, field?, shows.rawField?_eq sought value? held, Option.map_map, Option.map_map]
  refine Option.map_congr fun value _ => ?_
  show String.ofList (unescape value.text.toList) = _
  rw [value.unescape_eq, String.ofList_toList]

end Texts

/-- A shown number is read back. -/
theorem numberField?_eq (number? : Option UInt32)
    (held : findField? key fields = (number?.map Plain.number).map .text) :
    numberField? key s = number?.map (·.toNat) := by
  rw [numberField?, shows.rawField?_eq sought _ held]
  cases number? with
  | none => rfl
  | some n => exact readTrimmed32_toString n.toNat_lt

/-- **A shown tuple is cut out with its braces**, whatever follows it. -/
theorem tuple?_eq {inner : List (Name × Value)}
    (held : findField? key fields = some (.tuple inner)) :
    tuple? key s = some (Value.tuple inner).written := by
  have found := shows key sought
  rw [held] at found
  obtain ⟨rest, at_tuple⟩ := found
  rw [tuple?, tuples, at_tuple]
  have split : (Value.tuple inner).written ++ rest =
      '{' :: (bareFields inner ++ ['}'] ++ rest) := rfl
  rw [split]
  show (tuplesAt 1 {} ('{' :: (bareFields inner ++ ['}'] ++ rest))).head? = _
  rw [← split, tuplesAt_tuple]
  rfl

end Shows

end DebugLink.Mi
