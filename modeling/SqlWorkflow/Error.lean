import SqlWorkflow.Target

namespace SqlWorkflow

inductive ReadFailure where
  | missing
  | directory
  | notDirectory
  | notText
deriving DecidableEq

def ReadFailure.message : ReadFailure → String
  | missing => "No such file or directory (os error 2)"
  | directory => "Is a directory (os error 21)"
  | notDirectory => "Not a directory (os error 20)"
  | notText => "stream did not contain valid UTF-8"

inductive DocumentFault where
  | malformed
  | unknownField (name : String)
  | unknownVariant (name : String)
  | inexactNumber (name text : String)
  | notMapping
  | typeNotText (shown : String)
  | emptyName
  | missingVersion
deriving DecidableEq

def DocumentFault.message : DocumentFault → String
  | malformed => "the document does not have the expected form"
  | unknownField name => "unknown field `" ++ name ++ "`"
  | unknownVariant name => "unknown variant `" ++ name ++ "`"
  | inexactNumber name text =>
      "var '" ++ name ++ "' is the number " ++ text ++
        ", which may not match the text in the file; quote it"
  | notMapping => "config block must be a mapping"
  | typeNotText shown => "'type' must be a string, found " ++ shown
  | emptyName => "'name' cannot be empty"
  | missingVersion => "missing 'version' field"

inductive SettingsFault where
  | emptyField (field : String)
  | badSuffix (suffix : String)
deriving DecidableEq

def SettingsFault.message : SettingsFault → String
  | emptyField field => field ++ " cannot be empty"
  | badSuffix suffix =>
      "schemaSuffix '" ++ suffix ++ "' may only contain letters, digits, and underscores"

inductive DefinitionFault where
  | unterminated (keyword : String)
  | duplicate (keyword : String)
  | hooksNotAllowed
  | emptyQuery (kind : ActionKind)
deriving DecidableEq

def DefinitionFault.message : DefinitionFault → String
  | unterminated keyword => "unterminated '" ++ keyword ++ "' block"
  | duplicate keyword => "duplicate '" ++ keyword ++ "' block"
  | hooksNotAllowed =>
      "pre_operations and post_operations are only allowed for table, view, and incremental actions"
  | emptyQuery kind => kind.word ++ " has an empty query"

inductive VarsFault where
  | noEquals (pair : String)
  | emptyName (pair : String)
deriving DecidableEq

def VarsFault.message : VarsFault → String
  | noEquals pair => "expected key=value, found '" ++ pair ++ "'"
  | emptyName pair => "empty variable name in '" ++ pair ++ "'"

def corePackage : String := "dagform-core"

def manifestFile : String := "packages.json"

inductive Error where
  | settingsNotFound (path : String)
  | unreadableDocument (path : String) (fault : DocumentFault)
  | settingsInvalid (fault : SettingsFault)
  | projectNotFound (path : String)
  | pinnedVersionConflict (path version : String)
  | missingCore
  | coreNotInstalled (requirement path : String)
  | coreMismatch (requirement installed : String)
  | circularDependency (cycle : List Target)
  | duplicateTarget (target : Target) (files : List String)
  | unresolvedDependency (action dependency : Target)
  | actionNotFound (name : String)
  | declarationNotRunnable (name : String)
  | invalidDefinition (path : String) (fault : DefinitionFault)
  | unknownActionType (path found : String)
  | invalidConfig (path : String) (fault : DocumentFault)
  | unreadableFile (path : String) (reason : ReadFailure)
  | invalidVars (fault : VarsFault)
deriving DecidableEq

namespace Error

def displayCycle (cycle : List Target) : String :=
  Text.join " -> " (cycle.map Target.display)

def message : Error → String
  | settingsNotFound path => "[E001] No project settings found: expected " ++ path
  | unreadableDocument path fault => "[E002] Failed to parse " ++ path ++ ": " ++ fault.message
  | settingsInvalid fault => "[E003] Invalid settings: " ++ fault.message
  | projectNotFound path => "[E004] Project directory not found: " ++ path
  | pinnedVersionConflict path version =>
      "[E005] '" ++ path ++ "' must not exist when coreVersion " ++ version ++
        " is pinned in the project settings. Package installation is stateless and lazy; it " ++
        "happens when compile is called. Remove '" ++ path ++ "'"
  | missingCore =>
      "[E006] No core version found: set `coreVersion` in workflow_settings.yaml, or declare '" ++
        corePackage ++ "' in the dependencies of " ++ manifestFile
  | coreNotInstalled requirement path =>
      "[E007] '" ++ corePackage ++ "' " ++ requirement ++ " is declared in packages.json but is " ++
        "not installed: expected " ++ path ++ ". Install project packages before compiling"
  | coreMismatch requirement installed =>
      "[E008] Installed '" ++ corePackage ++ "' " ++ installed ++
        " does not satisfy the declared requirement " ++ requirement ++
        ". Reinstall project packages"
  | circularDependency cycle => "[E009] Circular dependency detected: " ++ displayCycle cycle
  | duplicateTarget target files =>
      "[E010] Duplicate action target '" ++ target.display ++ "' defined in " ++
        Text.join ", " files
  | unresolvedDependency action dependency =>
      "[E011] Action '" ++ action.display ++ "' depends on '" ++ dependency.display ++
        "', which is not defined in this project"
  | actionNotFound name => "[E012] Action not found: '" ++ name ++ "'"
  | declarationNotRunnable name =>
      "[E012] Action '" ++ name ++ "' is a declaration; declarations cannot be run"
  | invalidDefinition path fault =>
      "[E013] Invalid definition file " ++ path ++ ": " ++ fault.message
  | unknownActionType path found =>
      "[E014] Unknown action type '" ++ found ++ "' in " ++ path ++
        ". Valid types: table, view, incremental, assertion, operations, declaration"
  | invalidConfig path fault => "[E015] Invalid config block in " ++ path ++ ": " ++ fault.message
  | unreadableFile path reason => "[E016] Failed to read '" ++ path ++ "': " ++ reason.message
  | invalidVars fault => "[E017] Invalid value for --vars: " ++ fault.message

end Error

end SqlWorkflow
