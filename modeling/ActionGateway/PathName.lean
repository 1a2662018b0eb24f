/-! # Names of files in paths

The last part of a path names the file. Empty parts and parts that are a single dot say nothing
about the place of a file, so they are passed over; two dots lead upwards and name no file.
-/

namespace ActionGateway.PathName

/-- The parts of a path that count. -/
def parts (path : String) : List (List Char) :=
  (path.toList.splitOn '/').filter fun part => !part.isEmpty && part != ['.']

/-- A NUL is somewhere in the path; no file has such a path. -/
def holdsNul (path : String) : Bool :=
  path.toList.contains '\x00'

/-- The name of the file that a path leads to. -/
def fileName? (path : String) : Option String :=
  match (parts path).getLast? with
  | some part => if part = ['.', '.'] then none else some (String.ofList part)
  | none => none

/-- What follows the last dot of a file name. A name that has its only dot in front has no
extension. -/
def extensionOf (name : String) : Option String :=
  match name.toList.reverse.span (· != '.') with
  | (after, _ :: before) =>
    if before.isEmpty then none else some (String.ofList after.reverse)
  | _ => none

/-- The extension of the file that a path leads to. -/
def extension? (path : String) : Option String :=
  (fileName? path).bind extensionOf

/-- The directory that the file of a path is in, if the path names one. -/
def directory? (path : String) : Option String :=
  match (parts path).dropLast with
  | [] => none
  | above =>
    let joined := List.intercalate ['/'] above
    some (String.ofList (if path.toList.head? = some '/' then '/' :: joined else joined))

end ActionGateway.PathName
