import BrightScript.Name
import BrightScript.Storage.Volume

namespace BrightScript

/-- Volumes by name, in lower case and with the colon. -/
structure FileSystem where
  volumes : SortedMap Volume

namespace FileSystem

def empty : FileSystem := ⟨.empty⟩

/-- The volumes that every device has. -/
def standardVolumes : List String := ["pkg:", "common:", "tmp:", "cachefs:"]

/-- The volumes that programs may only read. -/
def readOnlyVolumes : List String := ["pkg:", "common:"]

/-- Puts a volume under a name, in place of any that was there. -/
def mount (system : FileSystem) (name : String) (volume : Volume) : FileSystem :=
  ⟨system.volumes.insert (Name.key name) volume⟩

def volume? (system : FileSystem) (name : String) : Option Volume :=
  system.volumes.get? (Name.key name)

/-- The file system of a device. -/
def standard : FileSystem :=
  standardVolumes.foldl (fun system name => system.mount name .empty) empty

instance : Inhabited FileSystem := ⟨standard⟩

/-- The name of the volume that a path lies on, and the path there. The name ends with the first
colon and is not empty. -/
def split (path : String) : Except StorageError (String × String) :=
  let name := path.toList.takeWhile (· != ':')
  match path.toList.dropWhile (· != ':') with
  | _ :: rest =>
    if name.isEmpty then .error (.invalidPath path)
    else .ok (Name.key (String.ofList (name ++ [':'])), String.ofList rest)
  | [] => .error (.invalidPath path)

def readText (system : FileSystem) (path : String) : Except StorageError String := do
  let (name, location) ← split path
  match system.volume? name with
  | none => .error (.unknownVolume name)
  | some volume =>
    let contents ← volume.read location
    match String.fromUTF8? contents with
    | some text => .ok text
    | none => .error (.notText path)

/-- Writes a text file for a program, which may not write everywhere. -/
def writeText (system : FileSystem) (path text : String) : Except StorageError FileSystem := do
  let (name, location) ← split path
  if readOnlyVolumes.contains name then .error (.readOnly name)
  else
    match system.volume? name with
    | none => .error (.unknownVolume name)
    | some volume =>
      let written ← volume.write location text.toUTF8
      .ok (system.mount name written)

end FileSystem

end BrightScript
