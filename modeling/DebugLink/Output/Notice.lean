import DebugLink.Record.Cursor

/-!
# Records of output

A record of the category `8` carries text in quotes and repeats its tag after the closing quote,
because the text itself may hold quotes. The last such closing counts; without one the text
reaches to the end of the record.
-/

namespace DebugLink.Output

open Record Text

/-- Whose output it is. -/
inductive Stream
  /-- What gdb prints itself. -/
  | console
  /-- What the program prints, as far as gdb relays it. -/
  | target
  deriving DecidableEq, Repr

/-- The two digits that a record of a stream starts and ends with. -/
def Stream.tag : Stream → String
  | console => "80"
  | target => "81"

/-- What a record of output says. -/
inductive Notice
  | text (stream : Stream) (text : String)
  | unused
  deriving DecidableEq, Repr

namespace Notice

/-- The text between the opening quote and the last closing one with the tag. -/
def payload (record : String) (stream : Stream) : String :=
  let body := fromByte 4 record.toList
  match cutLast? ('"' :: '!' :: stream.tag.toList) body with
  | some cut => String.ofList cut.1
  | none => String.ofList body

/-- What a record of output says. -/
def read (record : String) : Except Defect Notice := do
  let tag := (← Cursor.start record).tag
  match tag.category, tag.kind with
  | 8, 0 => return text .console (payload record .console)
  | 8, 1 => return text .target (payload record .target)
  | _, _ => return unused

end Notice

end DebugLink.Output
