/-!
# Names of partials

A partial is named like a file in a directory; one underscore before the file's name may be left out.
`normalize` leaves it out, and `defaultBinding` is the local that a collection's element is bound to
when the call does not say.
-/

namespace Stencil.Partial

/-- A path up to its last slash, and the rest. -/
def splitPath : List Char → List Char × List Char
  | [] => ([], [])
  | c :: rest =>
    let (directory, file) := splitPath rest
    if directory.isEmpty && c ≠ '/' then ([], c :: file) else (c :: directory, file)

/-- A file's name without one underscore at its start. -/
def dropUnderscore : List Char → List Char
  | '_' :: rest => rest
  | file => file

/-- The one form of all names of a partial. -/
def normalize (name : String) : String :=
  let (directory, file) := splitPath name.toList
  String.ofList (directory ++ dropUnderscore file)

/-- The local that an element is bound to by default. -/
def defaultBinding (name : String) : String :=
  String.ofList (dropUnderscore (splitPath name.toList).2)

theorem splitPath_append (name : List Char) : (splitPath name).1 ++ (splitPath name).2 = name := by
  induction name with
  | nil => rfl
  | cons c rest ih =>
    simp only [splitPath]
    split
    · rename_i none
      simp at none
      simpa [none.1] using ih
    · simpa using ih

end Stencil.Partial
