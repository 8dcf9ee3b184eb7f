import DebugLink.Variable.Shape

/-!
# Names of listed children

gdb names the parts of a variable after the variable object that was listed, with a level of its own
for each access specifier of a class. The user sees the name of the owner instead, without those
levels, and with the combinator that the shape of the owner calls for.
-/

namespace DebugLink.Variable

open Text

/-- The levels that gdb puts between a class and its parts. -/
def accessLevels : List (List Char) :=
  ["private".toList, "public".toList, "protected".toList]

/-- Whether a name ends in an access level, up to a dot and a quote behind it. -/
def isAccessLevel (name : List Char) : Bool :=
  let name := (before? ['"'] name).getD name
  let name := (before? ['.'] name).getD name
  accessLevels.any fun level =>
    match before? ('.' :: level) name with
    | some owner => !owner.isEmpty
    | none => false

/-- Names of gdb and the names that the user sees for them, each of the latter once. -/
structure NameMap where
  entries : List (List Char × List Char) := []
  deriving DecidableEq, Repr

namespace NameMap

/-- Binds a name of gdb to the one shown for it, in place of the one bound to that before. -/
def bind (names : NameMap) (gdbName shown : List Char) : NameMap :=
  ⟨go names.entries⟩
where
  /-- The entries with the first one for `shown` changed, or with a new one behind them. -/
  go : List (List Char × List Char) → List (List Char × List Char)
    | [] => [(gdbName, shown)]
    | e :: es => if e.2 = shown then (gdbName, shown) :: es else e :: go es

/-- The name shown for a name of gdb. -/
def shown? (names : NameMap) (gdbName : List Char) : Option (List Char) :=
  names.entries.lookup gdbName

end NameMap

/-- The name with the owner's part of it as it is shown. -/
def withShownOwner (names : NameMap) (name : List Char) : List Char :=
  match cutLast? ['.'] name with
  | some (owner, part) =>
    match names.shown? owner with
    | some shown => shown ++ '.' :: part
    | none => name
  | none => name

/-- The name without the segments that are access levels. -/
def withoutAccessLevels (name : List Char) : List Char :=
  ['.'].intercalate ((fields '.' name).filter fun segment => !accessLevels.contains segment)

/-- The name with a trailing dereference written in front. -/
def withDereference (name : List Char) : List Char :=
  match cutLast? ['.', '*'] name with
  | some (owner, _) => '*' :: '(' :: owner ++ [')']
  | none => name

/-- The name that the user sees for a listed child. -/
def displayName (raw : List Char) (owner : Shape) (names : NameMap) : List Char :=
  owner.join (withDereference (withoutAccessLevels (withShownOwner names raw)))

end DebugLink.Variable
