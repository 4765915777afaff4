import FilterQuery.Config.Text
import FilterQuery.Text.Pieces

/-! # Paths

Whether a configuration file holds YAML or JSON follows from the extension of its name.
-/

namespace FilterQuery.CommandLine

/-- The last name of a path; separators and single points at the end do not count. -/
def fileName? (path : List Char) : Option (List Char) :=
  match (Text.pieces '/' path).reverse.dropWhile fun p => p = [] ∨ p = ['.'] with
  | [] => none
  | name :: _ => if name = ['.', '.'] then none else some name

/-- What follows the last point of a name, unless the name begins with that point. -/
def extension? (name : List Char) : Option (List Char) :=
  match name.reverse.span (· != '.') with
  | (_, []) | (_, [_]) => none
  | (ext, _ :: _ :: _) => some ext.reverse

/-- The format of a file: YAML by one of two extensions, in any case, and JSON otherwise. -/
def formatOfPath (path : String) : DocumentFormat :=
  match ((fileName? path.toList).bind extension?).map (·.map Char.toLower) with
  | some ext => if ext = "yaml".toList ∨ ext = "yml".toList then .yaml else .json
  | none => .json

end FilterQuery.CommandLine
