import SqlWorkflow.Text.Blank
import SqlWorkflow.Text.Pieces

namespace SqlWorkflow.Sql

def isSeparator (line : List Char) : Bool :=
  Text.trimChars line == ['-', '-', '-']

def groups : List (List Char) → List (List (List Char))
  | [] => [[]]
  | line :: lines =>
      if isSeparator line then [] :: groups lines
      else match groups lines with
        | [] => [[line]]
        | group :: more => (line :: group) :: more

def joinLines (lines : List (List Char)) : List Char :=
  lines.flatMap (· ++ ['\n'])

def splitStatements (sql : String) : List String :=
  let texts := (groups (Text.linesOf (Text.splitOn '\n' sql.toList))).map fun group =>
    Text.trimChars (joinLines group)
  (texts.filter (!·.isEmpty)).map String.ofList

end SqlWorkflow.Sql
