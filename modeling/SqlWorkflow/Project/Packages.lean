import SqlWorkflow.FileTree
import SqlWorkflow.Settings.Read
import SqlWorkflow.Version

-- Either the settings pin a version and nothing of an installation is there, or the manifest
-- requires the package and a fitting version is installed.
namespace SqlWorkflow

structure Folder where
  path : String
  tree : FileTree
deriving Inhabited

namespace Folder

def pathOf (folder : Folder) (names : List String) : String :=
  names.foldl FilePath.join folder.path

def has (folder : Folder) (names : List String) : Bool :=
  (folder.tree.at? names).isSome

def read (folder : Folder) (names : List String) : Except Error String :=
  (folder.tree.readText names).mapError (Error.unreadableFile (folder.pathOf names))

end Folder

structure Manifest where
  name : Option String := none
  version : Option String := none
  dependencies : SortedMap String String := ∅
deriving DecidableEq, Inhabited

namespace Manifest

def fields : List String := ["name", "version", "dependencies"]

def readDependencies (document : Document) : Reading (SortedMap String String) := do
  let entries ← SettingsFormat.required SettingsFormat.json.entries? document
  let texts ← entries.mapM fun entry => do
    let key ← SettingsFormat.required SettingsFormat.jsonText? entry.1
    return (key, ← SettingsFormat.required SettingsFormat.jsonText? entry.2)
  return SortedMap.ofList texts

def intake : Document.Intake Manifest := fun name value manifest =>
  match name with
  | "name" =>
      some ((SettingsFormat.json.optionalText value).map ({ manifest with name := · }))
  | "version" =>
      some ((SettingsFormat.json.optionalText value).map ({ manifest with version := · }))
  | "dependencies" => some ((readDependencies value).map ({ manifest with dependencies := · }))
  | _ => none

def isForeign (entry : Document × Document) : Bool :=
  match entry.1 with
  | .scalar name .text => !fields.contains name
  | _ => false

def ofText (text : String) : Reading Manifest := do
  let (document, complete) := Json.readDocument text
  let entries ← SettingsFormat.required (SettingsFormat.json.fields? fields) document
  let manifest ← Document.takeFields SettingsFormat.jsonText? intake [] {}
    (entries.filter fun entry => !isForeign entry)
  if complete then return manifest else .error .malformed

def load (folder : Folder) (names : List String) : Except Error Manifest := do
  let text ← folder.read names
  (ofText text).mapError (Error.unreadableDocument (folder.pathOf names))

end Manifest

namespace Packages

def lockFile : String := "packages.lock"

def installedFolder : String := "dagform_packages"

def artifacts : List String := [manifestFile, lockFile, installedFolder]

def installedManifest : List String := [installedFolder, corePackage, manifestFile]

def installedVersion (folder : Folder) : Except Error String := do
  if !folder.has [manifestFile] then .error .missingCore
  else
    let manifest ← Manifest.load folder [manifestFile]
    match manifest.dependencies.get? corePackage with
    | none => .error .missingCore
    | some requirement =>
        let path := folder.pathOf installedManifest
        if !folder.has installedManifest then .error (.coreNotInstalled requirement path)
        else
          let installed ← Manifest.load folder installedManifest
          match installed.version with
          | none => .error (.unreadableDocument path .missingVersion)
          | some version =>
              if Version.satisfies requirement version then .ok version
              else .error (.coreMismatch requirement version)

-- A pinned version leaves no room for an installation; without one there has to be one.
def check (folder : Folder) (settings : Settings) : Except Error Unit :=
  match settings.coreVersion with
  | some version =>
      match artifacts.find? fun name => folder.has [name] with
      | some name => .error (.pinnedVersionConflict (folder.pathOf [name]) version)
      | none => .ok ()
  | none => (installedVersion folder).map fun _ => ()

end Packages

end SqlWorkflow
