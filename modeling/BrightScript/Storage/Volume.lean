import BrightScript.SortedMap
import BrightScript.Storage.Path

namespace BrightScript

/-- Why an operation on storage fails. -/
inductive StorageError where
  | notFound (path : String)
  | alreadyExists (path : String)
  | missingParent (path : String)
  | isDirectory (path : String)
  | notText (path : String)
  | unknownVolume (volume : String)
  | readOnly (volume : String)
  | invalidPath (path : String)
  deriving DecidableEq, Repr

def StorageError.message : StorageError → String
  | .notFound path => "No such file or directory '" ++ path ++ "'"
  | .alreadyExists path => "'" ++ path ++ "' already exists"
  | .missingParent path => "Parent directory of '" ++ path ++ "' does not exist"
  | .isDirectory path => "'" ++ path ++ "' is a directory"
  | .notText path => "'" ++ path ++ "' is not valid UTF-8 text"
  | .unknownVolume volume => "Unknown volume '" ++ volume ++ "'"
  | .readOnly volume => "Volume '" ++ volume ++ "' is read-only"
  | .invalidPath path => "'" ++ path ++ "' is not a volume path"

/-- The directories and files of a volume. -/
structure Volume where
  directories : List String
  files : SortedMap ByteArray

namespace Volume

/-- The volume that holds only its root. -/
def empty : Volume := ⟨["/"], .empty⟩

instance : Inhabited Volume := ⟨empty⟩

/-- Whether a canonical path is a directory. -/
def isDirectory (volume : Volume) (path : String) : Bool := volume.directories.contains path

/-- Whether a path is a directory or a file. -/
def hasEntry (volume : Volume) (path : String) : Bool :=
  let path := Path.normalize path
  volume.isDirectory path || volume.files.contains path

/-- Creates a directory inside an existing one. -/
def makeDirectory (volume : Volume) (path : String) : Except StorageError Volume :=
  let path := Path.normalize path
  if volume.hasEntry path then .error (.alreadyExists path)
  else if !volume.isDirectory (Path.parent path) then .error (.missingParent path)
  else .ok { volume with directories := path :: volume.directories }

/-- Writes a file inside an existing directory. -/
def write (volume : Volume) (path : String) (contents : ByteArray) : Except StorageError Volume :=
  let path := Path.normalize path
  if volume.isDirectory path then .error (.isDirectory path)
  else if !volume.isDirectory (Path.parent path) then .error (.missingParent path)
  else .ok { volume with files := volume.files.insert path contents }

def read (volume : Volume) (path : String) : Except StorageError ByteArray :=
  let path := Path.normalize path
  if volume.isDirectory path then .error (.isDirectory path)
  else
    match volume.files.get? path with
    | some contents => .ok contents
    | none => .error (.notFound path)

/-- Creates the directories behind `done` one after the other, skipping what exists, up to the first
that cannot be created. What was created before it stays. -/
def makeSteps (volume : Volume) (done : List Char) : List (List Char) → Volume × Option StorageError
  | [] => (volume, none)
  | segment :: rest =>
    let path := done ++ '/' :: segment
    -- a file is passed over like a directory, and only a segment behind it fails
    if volume.hasEntry (String.ofList path) then volume.makeSteps path rest
    else
      match volume.makeDirectory (String.ofList path) with
      | .ok grown => grown.makeSteps path rest
      | .error error => (volume, some error)

/-- Creates a directory and every missing one above it. -/
def makeTree (volume : Volume) (path : String) : Except StorageError Volume :=
  match volume.makeSteps [] (Path.segments path.toList) with
  | (grown, none) => .ok grown
  | (_, some error) => .error error

end Volume

end BrightScript
