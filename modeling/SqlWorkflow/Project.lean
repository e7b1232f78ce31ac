import SqlWorkflow.Project.Packages

namespace SqlWorkflow

inductive SettingsSource where
  | workflow
  | legacy
deriving DecidableEq

namespace SettingsSource

def fileName : SettingsSource → String
  | workflow => "workflow_settings.yaml"
  | legacy => "dagform.json"

def locate (folder : Folder) : Except Error SettingsSource :=
  if folder.has [workflow.fileName] then .ok workflow
  else if folder.has [legacy.fileName] then .ok legacy
  else .error (.settingsNotFound (folder.pathOf [workflow.fileName]))

def read : SettingsSource → String → Reading Settings
  | workflow => Settings.ofYamlText
  | legacy => Settings.ofJsonText

def load (source : SettingsSource) (folder : Folder) : Except Error Settings := do
  let text ← folder.read [source.fileName]
  let settings ← (source.read text).mapError
    (Error.unreadableDocument (folder.pathOf [source.fileName]))
  settings.validate
  return settings

end SettingsSource

def Settings.resolve (folder : Folder) (overrides : Overrides) : Except Error Settings := do
  let source ← SettingsSource.locate folder
  let settings ← source.load folder
  Packages.check folder settings
  let settings := settings.withOverrides overrides
  settings.validate
  return settings

structure Project where
  folder : Folder
  settings : Settings
  definitions : SortedSet String

namespace Project

def definitionsFolder : String := "definitions"

def isHidden (name : String) : Bool :=
  name.startsWith "."

def isDefinitionName (name : String) : Bool :=
  FilePath.extension? name == some "sqlx"

mutual

def definitionsIn (path : String) : FileTree → List String
  | .file _ => []
  | .directory entries => definitionsAmong path entries

def definitionsAmong (path : String) : List (String × FileTree) → List String
  | [] => []
  | (name, tree) :: entries =>
      let found :=
        if isHidden name then []
        else if tree.isDirectory then definitionsIn (path ++ "/" ++ name) tree
        else if isDefinitionName name then [path ++ "/" ++ name]
        else []
      found ++ definitionsAmong path entries

end

def discover (folder : Folder) : SortedSet String :=
  match folder.tree.at? [definitionsFolder] with
  | none => ∅
  | some tree => SortedSet.ofList (definitionsIn definitionsFolder tree)

def load (path : String) (tree : Option FileTree) (overrides : Overrides) : Except Error Project :=
  match tree.filter FileTree.isDirectory with
  | none => .error (.projectNotFound path)
  | some tree => do
      let folder : Folder := ⟨path, tree⟩
      let settings ← Settings.resolve folder overrides
      return { folder, settings, definitions := discover folder }

end Project

end SqlWorkflow
