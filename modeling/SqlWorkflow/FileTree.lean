import SqlWorkflow.Error

namespace SqlWorkflow

inductive FileTree where
  | file (text : Option String)
  | directory (entries : List (String × FileTree))
deriving Inhabited

namespace FileTree

def empty : FileTree := .directory []

def entries : FileTree → List (String × FileTree)
  | .file _ => []
  | .directory entries => entries

def isDirectory : FileTree → Bool
  | .file _ => false
  | .directory _ => true

def at? : FileTree → List String → Option FileTree
  | tree, [] => some tree
  | tree, name :: path => (tree.entries.lookup name).bind fun child => child.at? path

-- Why nothing is found at a path: a file on the way to it has nothing below it.
def absence : FileTree → List String → ReadFailure
  | .file _, _ :: _ => .notDirectory
  | _, [] => .missing
  | .directory entries, name :: path =>
      match entries.lookup name with
      | none => .missing
      | some child => child.absence path

def readText (tree : FileTree) (path : List String) : Except ReadFailure String :=
  match tree.at? path with
  | some (.file (some text)) => .ok text
  | some (.file none) => .error .notText
  | some (.directory _) => .error .directory
  | none => .error (tree.absence path)

def put (content : FileTree) : List String → FileTree → FileTree
  | [], tree =>
      match content, tree with
      | .directory [], .directory entries => .directory entries
      | content, _ => content
  | name :: path, tree =>
      let child := (tree.entries.lookup name).getD empty
      .directory (tree.entries.filter (·.1 != name) ++ [(name, put content path child)])

def ofPaths (files : List (List String × FileTree)) : FileTree :=
  files.foldl (fun tree file => put file.2 file.1 tree) empty

end FileTree

namespace FilePath

def join (base path : String) : String :=
  if path.startsWith "/" || base.isEmpty then path
  else if base.endsWith "/" then base ++ path
  else base ++ "/" ++ path

def names (path : String) : List String :=
  (Text.split '/' path).filter fun name => name != "" && name != "."

def extension? (name : String) : Option String :=
  match Text.splitFirst '.' name.toList.reverse with
  | some (_, []) => none
  | some (extension, _) => some (String.ofList extension.reverse)
  | none => none

end FilePath

end SqlWorkflow
