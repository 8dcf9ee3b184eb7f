import DebugLink.Text.Blank

/-!
# Shapes of types

The shape of a type decides how the names of its parts are put together: with an arrow behind a
pointer, with brackets in an array, with a dot otherwise.
-/

namespace DebugLink.Variable

open Text

/-- The shape of a type as far as the names of its parts are concerned. -/
inductive Shape
  | scalar
  | pointer
  | struct
  | structPointer
  | structArray
  | array
  deriving DecidableEq, Repr

namespace Shape

/-- The shape of a type, read off its name. -/
def ofType (type : String) : Shape :=
  let isStruct := contains "struct".toList type.toList
  let isPointer := type.toList.getLast? == some '*'
  let isArray := type.toList.contains '['
  match isStruct, isPointer, isArray with
  | true, true, _ => structPointer
  | true, false, true => structArray
  | true, false, false => struct
  | false, _, true => array
  | false, true, false => pointer
  | false, false, false => scalar

/-- The name of a part, with the last `.field` written as this shape has it. -/
def join (shape : Shape) (name : List Char) : List Char :=
  match cutLast? ['.'] name with
  | none => name
  | some (owner, part) =>
    match shape with
    | pointer | structPointer => owner ++ '-' :: '>' :: part
    | array | structArray => owner ++ '[' :: part ++ [']']
    | struct | scalar => name

end Shape

end DebugLink.Variable
