import BrightScript.Device.Basic
import BrightScript.Library.Basic
import BrightScript.Manifest
import BrightScript.Program.Linked
import BrightScript.Text.Utf8

namespace BrightScript

/-- The kinds of files in a package. -/
inductive AssetKind where
  | source
  | text
  | image
  | font
  | audio
  deriving DecidableEq, Repr

/-- The name of a kind in documents. -/
def AssetKind.tag : AssetKind → String
  | .source => "source"
  | .text => "text"
  | .image => "image"
  | .font => "font"
  | .audio => "audio"

/-- The name of a kind in messages. -/
def AssetKind.title : AssetKind → String
  | .source => "Source"
  | .text => "Text"
  | .image => "Image"
  | .font => "Font"
  | .audio => "Audio"

def AssetKind.all : List AssetKind := [.source, .text, .image, .font, .audio]

/-- One file of a package: its `id` counts in the payloads of its kind. -/
structure PackagePath where
  url : String
  id : Nat
  kind : AssetKind
  deriving DecidableEq, Repr

/-- A package. Audio is streamed by the host and has no payload. -/
structure Package where
  device : DeviceInfo := {}
  paths : List PackagePath
  sources : List String := []
  texts : List String := []
  images : List ByteArray := []
  fonts : List ByteArray := []

namespace AssetKind

/-- Reads a kind: its name, or an object with that name and no value. -/
def ofJson? (document : Json) : Option AssetKind :=
  match document with
  | .text tag => all.find? (·.tag == tag)
  | .object [(tag, .null)] => all.find? (·.tag == tag)
  | _ => none

end AssetKind

/-- Reads a file entry, all of whose fields are needed. -/
def PackagePath.ofJson? (document : Json) : Option PackagePath := do
  match ← Json.fields? ["url", "id", "type"] document with
  | [some url, some id, some kind] =>
    return ⟨← Json.text? url, ← Json.natBelow? 0x10000000000000000 id, ← AssetKind.ofJson? kind⟩
  | _ => none

namespace Package

/-- Reads a payload of bytes. -/
def bytesOfJson? (document : Json) : Option ByteArray := do
  let bytes ← Json.list? (Json.natBelow? 256) document
  return ByteArray.mk (bytes.map UInt8.ofNat).toArray

/-- Reads a package; only its paths are needed. -/
def ofJson? (document : Json) : Option Package := do
  match ← Json.fields? ["device", "paths", "brs", "texts", "images", "fonts"] document with
  | [device, some paths, sources, texts, images, fonts] =>
    return {
      device := ← Json.fieldOr? DeviceInfo.ofJson? {} device
      paths := ← Json.list? PackagePath.ofJson? paths
      sources := ← Json.fieldOr? (Json.list? Json.text?) [] sources
      texts := ← Json.fieldOr? (Json.list? Json.text?) [] texts
      images := ← Json.fieldOr? (Json.list? bytesOfJson?) [] images
      fonts := ← Json.fieldOr? (Json.list? bytesOfJson?) [] fonts }
  | _ => none

/-- The contents of a file. An audio file only records its number. -/
def payload? (package : Package) (path : PackagePath) : Option ByteArray :=
  match path.kind with
  | .source => package.sources[path.id]?.map String.toUTF8
  | .text => package.texts[path.id]?.map String.toUTF8
  | .image => package.images[path.id]?
  | .font => package.fonts[path.id]?
  | .audio => some (toString path.id).toUTF8

/-- Writes a file and creates the directories above it. -/
def writeAsset (volume : Volume) (url : String) (contents : ByteArray) :
    Except StorageError Volume := do
  let path := Path.normalize ("/" ++ url)
  let directory := Path.parent path
  let volume ← if volume.hasEntry directory then pure volume else volume.makeTree directory
  volume.write path contents

/-- The source unit of a file, if it is one and has a payload. -/
def unit? (package : Package) (path : PackagePath) : Option SourceUnit :=
  match path.kind with
  | .source => package.sources[path.id]?.map (⟨path.url, ·⟩)
  | _ => none

/-- Writes one file of the package; a file that has no payload or cannot be written is noted. -/
def installPath (package : Package) (volume : Volume) (path : PackagePath) :
    Volume × List String :=
  match package.payload? path with
  | none =>
    (volume, ["No " ++ path.kind.title ++ " payload #" ++ toString path.id ++ " for '" ++
      path.url ++ "'"])
  | some contents =>
    match writeAsset volume path.url contents with
    | .ok written => (written, [])
    | .error error => (volume, ["Could not write '" ++ path.url ++ "': " ++ error.message])

/-- Writes files of the package one after the other. -/
def installPaths (package : Package) (volume : Volume) : List PackagePath → Volume × List String
  | [] => (volume, [])
  | path :: paths =>
    let (written, notes) := package.installPath volume path
    let (final, others) := package.installPaths written paths
    (final, notes ++ others)

/-- The directory for bundled libraries on the `common:` volume. -/
def libraryRoot : String := "/LibCore"

/-- The libraries that installation puts on the `common:` volume. -/
def installedLibraries : List Library := [.core, .defender]

/-- Writes a library, where that is possible. -/
def installLibrary (volume : Volume) (library : Library) : Volume :=
  let path := libraryRoot ++ "/" ++ library.path
  let written : Except StorageError Volume := do
    let grown ← volume.makeTree (Path.parent path)
    grown.write path library.source.toUTF8
  match written with
  | .ok written => written
  | .error _ => volume

/-- The manifest on a volume; a volume without one has the empty manifest. -/
def manifestOn (volume : Volume) : Manifest :=
  match volume.read "/manifest" with
  | .ok contents => .parse (String.ofList (Text.decodeLossy contents.toList))
  | .error _ => .empty

/-- A package written to the volumes of a device, ready to run. -/
structure Installed where
  device : Device
  units : List SourceUnit
  manifest : Manifest
  warnings : List String

/-- Installs a package on a fresh device. Sources are run even where they cannot be written. -/
def install (package : Package) : Installed :=
  let common := installedLibraries.foldl installLibrary .empty
  let (volume, warnings) := package.installPaths .empty package.paths
  let files := (FileSystem.standard.mount "common:" common).mount "pkg:" volume
  { device := { info := package.device, files := files }
    units := package.paths.filterMap package.unit?
    manifest := manifestOn volume
    warnings := warnings }

end Package

end BrightScript
