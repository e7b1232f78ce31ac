import SqlWorkflow.Command.Arguments

namespace SqlWorkflow

structure HelpEntry where
  label : String
  description : String
deriving DecidableEq

namespace HelpEntry

def lineWidth : Nat := 100

def labelWidth (entries : List HelpEntry) : Nat :=
  (entries.map fun entry => entry.label.length).foldl max 0

-- Whether descriptions get lines of their own: one does not fit beside labels that take more than
-- two fifths of the line.
def needsLines (entries : List HelpEntry) : Bool :=
  let taken := labelWidth entries + 4
  taken ≤ lineWidth && 2 * lineWidth < 5 * taken &&
    entries.any fun entry => lineWidth - taken < entry.description.length

def spaces (count : Nat) : String :=
  String.ofList (List.replicate count ' ')

def line (apart : Bool) (width : Nat) (entry : HelpEntry) : String :=
  let gap := if apart then "\n" ++ spaces 10 else spaces (width - entry.label.length + 2)
  "  " ++ entry.label ++ gap ++ entry.description ++ "\n"

def sectionText (title : String) (entries : List HelpEntry) : List String :=
  if entries.isEmpty then []
  else
    let lines := entries.map (line (needsLines entries) (labelWidth entries))
    [title ++ ":\n" ++ Text.join "" lines]

end HelpEntry

variable {α : Type}

def CommandOption.helpEntry (option : CommandOption α) : HelpEntry where
  label :=
    let letter := match option.letter with
      | some letter => String.ofList ['-', letter, ',', ' ']
      | none => HelpEntry.spaces 4
    let value := match option.effect with
      | .value label _ => " <" ++ label ++ ">"
      | _ => ""
    letter ++ "--" ++ option.name ++ value
  description := option.description

namespace HelpTopic

def about : HelpTopic → String
  | program => "dagform CLI - compile SQL definition projects and plan their execution"
  | compile => "Compile the project into a graph of actions"
  | run => "Compile, select actions, and print the execution plan"
  | install => "Check the installed core package of a packages.json project"
  | help => "Print this message or the help of the given subcommand(s)"

def usage : HelpTopic → String
  | program => programName ++ " [OPTIONS] <COMMAND>"
  | compile => programName ++ " compile [OPTIONS] [PROJECT_DIR]"
  | run => programName ++ " run [OPTIONS] [PROJECT_DIR]"
  | install => programName ++ " install [OPTIONS] [PROJECT_DIR]"
  | help => programName ++ " help [COMMAND]..."

def commands : HelpTopic → List HelpEntry
  | program =>
      [⟨"compile", compile.about⟩, ⟨"run", run.about⟩, ⟨"install", install.about⟩,
        ⟨"help", help.about⟩]
  | _ => []

def operands : HelpTopic → List HelpEntry
  | program => []
  | help => [⟨"[COMMAND]...", "Print help for the subcommand(s)"⟩]
  | _ => [⟨"[PROJECT_DIR]", "Path to project directory [default: .]"⟩]

def options : HelpTopic → List HelpEntry
  | program => Request.options.map CommandOption.helpEntry
  | compile => (CommandInput.options .compile CompileFlags.options).map CommandOption.helpEntry
  | run => (CommandInput.options .run RunFlags.options).map CommandOption.helpEntry
  | install =>
      (CommandInput.options .install ([] : List (CommandOption Unit))).map CommandOption.helpEntry
  | help => []

def text (topic : HelpTopic) : String :=
  Text.join "\n" ([topic.about ++ "\n", "Usage: " ++ topic.usage ++ "\n"] ++
    HelpEntry.sectionText "Commands" topic.commands ++
    HelpEntry.sectionText "Arguments" topic.operands ++
    HelpEntry.sectionText "Options" topic.options)

end HelpTopic

end SqlWorkflow
