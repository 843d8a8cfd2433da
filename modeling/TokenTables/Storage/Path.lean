/-!
Paths as texts, with a slash between components. Joining adds nothing but a missing slash: no
component is resolved or removed.
-/

namespace TokenTables

namespace Path

def isAbsolute (path : String) : Bool := path.toList.head? = some '/'

def join (base path : String) : String :=
  if isAbsolute path || base.isEmpty then path
  else if base.toList.getLast? = some '/' then base ++ path
  else base ++ "/" ++ path

def segments (path : List Char) : List (List Char) :=
  match path with
  | [] => [[]]
  | '/' :: rest => [] :: segments rest
  | c :: rest =>
    match segments rest with
    | [] => [[c]]
    | segment :: others => (c :: segment) :: others

/-- Drops from the end, last character first, the slashes and the components that are a single
point. A point at the very beginning of a path is a component and stays. -/
def dropTrailingEmpty : List Char → List Char
  | '/' :: rest => dropTrailingEmpty rest
  | '.' :: '/' :: rest => dropTrailingEmpty rest
  | kept => kept

/-- The path without its last component, if it has one. What is left has no slash and no single
point at its end, unless it is the root or a point alone. -/
def parent? (path : String) : Option String :=
  let absolute := isAbsolute path
  match dropTrailingEmpty path.toList.reverse with
  | [] => none
  | kept =>
    let above := kept.dropWhile (· != '/')
    match above, dropTrailingEmpty above with
    | [], _ => some ""
    | _, [] => some (if absolute then "/" else "")
    | _, shorter => some (String.ofList shorter.reverse)

end Path

end TokenTables
