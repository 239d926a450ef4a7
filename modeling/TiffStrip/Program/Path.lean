namespace TiffStrip.Path

inductive Component where
  /-- The slash at the start. -/
  | root
  /-- A dot at the start. -/
  | here
  /-- Two dots. -/
  | up
  | name (name : String)
  deriving DecidableEq, Repr

/-- The texts between slashes. -/
def cut : List Char → List (List Char)
  | [] => [[]]
  | c :: rest =>
    match cut rest with
    | [] => [[c]]
    | piece :: pieces => if c = '/' then [] :: piece :: pieces else (c :: piece) :: pieces

/-- The names of a path, empty ones left out. -/
def pieces (path : String) : List String :=
  ((cut path.toList).filter (· ≠ [])).map String.ofList

/-- The component of a name that is not at the start. -/
def component? (piece : String) : Option Component :=
  match piece with
  | "." => none
  | ".." => some .up
  | piece => some (.name piece)

/-- The components of a path. -/
def components (path : String) : List Component :=
  let parts := (pieces path).filterMap component?
  if path.toList.head? = some '/' then .root :: parts
  else if (pieces path).head? = some "." then .here :: parts
  else parts

/-- Whether two paths have the same components. -/
def same (a b : String) : Bool :=
  components a = components b

/-- The name of what a path leads to, if the path ends in one. -/
def fileName? (path : String) : Option String :=
  match (components path).getLast? with
  | some (.name name) => some name
  | _ => none

/-- What messages call a file: its name, or the whole path. -/
def displayName (path : String) : String :=
  (fileName? path).getD path

end TiffStrip.Path
