import TiffStrip.Image.Png
import TiffStrip.Program.FileSystem
import TiffStrip.Program.Path

namespace TiffStrip

/-- The names that lead from the root to a file or directory. There need not be anything there. -/
abbrev Location := List String

structure Folder where
  files : List (Location × Content)
  /-- The directory that is worked in, at first the root. -/
  home : Location := []

namespace Folder

def file? (folder : Folder) (location : Location) : Option Content :=
  folder.files.lookup location

def isDirectory (folder : Folder) (location : Location) : Bool :=
  location.isPrefixOf folder.home || folder.files.any fun (place, _) =>
    location.length < place.length && location.isPrefixOf place

def checkDirectory (folder : Folder) (location : Location) : Except PathError Unit :=
  if folder.isDirectory location then .ok ()
  else .error (if (folder.file? location).isSome then .notDirectory else .missing)

/-- The longest name, in bytes. -/
def maxName : Nat := 255

def child (location : Location) (name : String) : Except PathError Location :=
  if maxName < name.utf8ByteSize then .error .nameTooLong else .ok (location ++ [name])

/-- Where one more name leads, which has to be in a directory. From the root there is no way up. -/
def step (folder : Folder) (location : Location) (name : String) : Except PathError Location := do
  folder.checkDirectory location
  match name with
  | "." => return location
  | ".." => return location.dropLast
  | name => child location name

def walk (folder : Folder) (start : Location) (names : List String) :
    Except PathError Location :=
  names.foldlM folder.step start

/-- Whether a path ends in a slash, and so asks for a directory. -/
def endsInSlash (path : String) : Bool :=
  path.toList.getLast? = some '/'

/-- The longest path, in bytes. -/
def maxPath : Nat := 4095

def start (folder : Folder) (path : String) : Except PathError Location :=
  if maxPath < path.utf8ByteSize then .error .nameTooLong
  else match path.toList with
    | [] => .error .missing
    | '/' :: _ => .ok []
    | _ => .ok folder.home

/-- What is found at the end of a path, nothing for a directory. -/
def find (folder : Folder) (path : String) : Except PathError (Option Content) := do
  let location ← folder.walk (← folder.start path) (Path.pieces path)
  if endsInSlash path then folder.checkDirectory location
  if folder.isDirectory location then return none
  match folder.file? location with
  | some content => return some content
  | none => throw .missing

/-- The folder with a file put at a location, in place of what is there. -/
def put (folder : Folder) (location : Location) (content : Content) : Folder :=
  { folder with files := (location, content) :: folder.files.filter (·.1 ≠ location) }

/-- The folder with a file written to a path. Whatever can only be the path of a directory is refused
before its last name is looked at. -/
def write (folder : Folder) (path : String) (content : Content) : Except PathError Folder := do
  let names := Path.pieces path
  let parent ← folder.walk (← folder.start path) names.dropLast
  folder.checkDirectory parent
  let some name := names.getLast? | throw .isDirectory
  if name = "." ∨ name = ".." ∨ endsInSlash path then throw .isDirectory
  let location ← child parent name
  if folder.isDirectory location then throw .isDirectory
  return folder.put location content

section

variable (png : Picture → Array UInt8) (folder : Folder) (path : String)

/-- The size that a directory is said to have. -/
def directorySize : Nat := 4096

def size : Except PathError Nat := do
  match ← folder.find path with
  | some content => return (content.bytes png).size
  | none => return directorySize

def read : Except PathError (Array UInt8) := do
  match ← folder.find path with
  | some content => return content.bytes png
  | none => throw .isDirectory

end

def system (png : Picture → Array UInt8 := Png.encode) : FileSystem (StateM Folder) where
  size path := return (← get).size png path
  read path := return (← get).read png path
  write path content := do
    match (← get).write path content with
    | .ok folder => set folder; return .ok ()
    | .error error => return .error error

end Folder

end TiffStrip
