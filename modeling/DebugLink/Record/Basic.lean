import DebugLink.Text.Escaped

/-!
# Records

A record is one line of the positional format: two digits, the category and the kind, then a
delimiter and fields that are never named. This module holds the two digits, what can be wrong
with a record, and the topic that the first digit stands for.

* `read_eq_ok_iff`: a tag is read exactly from two leading digits.
-/

namespace DebugLink.Record

open Text

/-- What is wrong with a record. -/
inductive Defect
  /-- It has fewer than two bytes. -/
  | tooShort (record : String)
  /-- It does not start with two digits and a delimiter of one byte. -/
  | badTag (record : String)
  /-- It ends before the named field. -/
  | missing (record field : String)
  /-- The named field is no number of its width. -/
  | notNumeric (record field value : String)
  /-- It has as many delimiters as no form of it has. -/
  | shape (record : String) (delimiters : Nat)
  deriving DecidableEq, Repr

/-- The text in which a defect is reported. -/
def Defect.message : Defect → String
  | tooShort record => "record too short: " ++ quoted record
  | badTag record => "record has no numeric tag: " ++ quoted record
  | missing record field => s!"record {quoted record} is missing the {field} field"
  | notNumeric record field value =>
    s!"record {quoted record} has a non numeric {field}: {quoted value}"
  | shape record n => s!"record {quoted record} has an unexpected shape ({n} fields)"

/-- The two leading digits of a record. -/
structure Tag where
  category : Nat
  kind : Nat
  deriving DecidableEq, Repr

namespace Tag

/-- The tag of a record. -/
def read (record : String) : Except Defect Tag :=
  match record.toList with
  | [] => .error (.tooShort record)
  | [c] => .error (if c.utf8Size < 2 then .tooShort record else .badTag record)
  | c :: d :: _ =>
    match digit? 10 c, digit? 10 d with
    | some category, some kind => .ok ⟨category, kind⟩
    | _, _ => .error (.badTag record)

/-- Whether the text is the tag as it is written. -/
def isWritten (tag : Tag) (text : String) : Bool :=
  text.toList == [tag.category.digitChar, tag.kind.digitChar]

theorem read_eq_ok_iff {record : String} {tag : Tag} :
    read record = .ok tag ↔ ∃ c d s, record.toList = c :: d :: s ∧
      digit? 10 c = some tag.category ∧ digit? 10 d = some tag.kind := by
  constructor
  · intro h
    simp only [read] at h
    split at h
    · simp at h
    · simp at h
    · rename_i c d s hs
      split at h
      · simp only [Except.ok.injEq] at h
        subst h
        exact ⟨c, d, s, hs, by assumption, by assumption⟩
      · simp at h
  · rintro ⟨c, d, s, hs, hc, hd⟩
    simp [read, hs, hc, hd]

end Tag

/-- What a record is about. -/
inductive Topic
  | breakpoint
  | execution
  | output
  /-- Answers to commands, which nobody waits for here. -/
  | ignored
  deriving DecidableEq, Repr

/-- The topic of a record, read off its first character. -/
def Topic.ofRecord (record : String) : Topic :=
  match record.toList with
  | '2' :: _ => .breakpoint
  | '4' :: _ | '5' :: _ => .execution
  | '8' :: _ => .output
  | _ => .ignored

end DebugLink.Record
