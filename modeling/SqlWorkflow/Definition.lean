import SqlWorkflow.ConfigBlock.Read

-- Braces count only in code, not in quotes and not in comments, so the scanner of blocks keeps one
-- state for each character.
namespace SqlWorkflow

inductive BlockName where
  | config
  | preOperations
  | postOperations
deriving DecidableEq

namespace BlockName

def keyword : BlockName → String
  | config => "config"
  | preOperations => "pre_operations"
  | postOperations => "post_operations"

def all : List BlockName := [config, preOperations, postOperations]

def hasSqlComments : BlockName → Bool
  | config => false
  | _ => true

end BlockName

namespace Definition

def afterComment? : List Char → Option (List Char)
  | '*' :: '/' :: rest => some rest
  | _ :: rest => afterComment? rest
  | [] => none

theorem after_comment_shorter (text rest : List Char) (found : afterComment? text = some rest) :
    rest.length < text.length := by
  fun_induction afterComment? text with
  | case1 text =>
      cases found
      exact Nat.lt_add_of_pos_right (by decide : 0 < 2)
  | case2 _ _ _ ih => exact Nat.lt_succ_of_lt (ih found)
  | case3 => simp at found

theorem drop_while_length (p : Char → Bool) (text : List Char) :
    (text.dropWhile p).length ≤ text.length :=
  (List.dropWhile_suffix p).length_le

def skipTrivia (text : List Char) : List Char :=
  match text with
  | [] => []
  | '-' :: '-' :: rest => skipTrivia (rest.dropWhile (· != '\n'))
  | '/' :: '*' :: rest =>
      match _found : afterComment? rest with
      | none => '/' :: '*' :: rest
      | some after => skipTrivia after
  | c :: rest => if Text.isAsciiBlank c then skipTrivia rest else c :: rest
termination_by text.length
decreasing_by
  · have := drop_while_length (· != '\n') rest
    simp; omega
  · have := after_comment_shorter rest after ‹_›
    simp; omega
  · simp

def blockStart? (text : List Char) : Option (BlockName × List Char) :=
  BlockName.all.findSome? fun name =>
    (Text.dropStart? name.keyword.toList text).bind fun after =>
      match Text.trimLeft after with
      | '\x7b' :: rest => some (name, rest)
      | _ => none

inductive Place where
  | code (afterBlank : Bool)
  | quoted (quote : Char)
  | escaped (quote : Char)
  | lineComment
  | commentOpening
  | blockComment (afterStar : Bool)
deriving DecidableEq

def isQuote (c : Char) : Bool :=
  c == '"' || c == '\'' || c == '\x60'

def placeAfter (sqlComments afterBlank : Bool) (c : Char) (next : Option Char) : Place :=
  if !sqlComments && c == '#' && afterBlank then .lineComment
  else if sqlComments && c == '-' && next == some '-' then .lineComment
  else if sqlComments && c == '/' && next == some '*' then .commentOpening
  else if isQuote c then .quoted c
  else .code (Text.isBlank c)

-- The text up to the brace that closes `depth + 1` open ones, and the text after it.
def blockEnd? (sqlComments : Bool) : Nat → Place → List Char → Option (List Char × List Char)
  | _, _, [] => none
  | depth, place, c :: rest =>
      let onward := fun (depth : Nat) (place : Place) =>
        (blockEnd? sqlComments depth place rest).map fun parts => (c :: parts.1, parts.2)
      match place with
      | .code afterBlank =>
          if c = '\x7b' then onward (depth + 1) (.code false)
          else if c = '\x7d' then
            match depth with
            | 0 => some ([], rest)
            | outer + 1 => onward outer (.code false)
          else onward depth (placeAfter sqlComments afterBlank c rest.head?)
      | .quoted quote =>
          if c = '\\' then onward depth (.escaped quote)
          else if c = quote then onward depth (.code false)
          else onward depth (.quoted quote)
      | .escaped quote => onward depth (.quoted quote)
      | .lineComment => onward depth (if c = '\n' then .code true else .lineComment)
      | .commentOpening => onward depth (.blockComment false)
      | .blockComment afterStar =>
          onward depth (if afterStar && c == '/' then .code true else .blockComment (c == '*'))

structure Blocks where
  config : Option String := none
  preOperations : Option String := none
  postOperations : Option String := none
deriving DecidableEq, Inhabited

namespace Blocks

def get? (blocks : Blocks) : BlockName → Option String
  | .config => blocks.config
  | .preOperations => blocks.preOperations
  | .postOperations => blocks.postOperations

def set (blocks : Blocks) (name : BlockName) (text : String) : Blocks :=
  match name with
  | .config => { blocks with config := some text }
  | .preOperations => { blocks with preOperations := some text }
  | .postOperations => { blocks with postOperations := some text }

def missing (blocks : Blocks) : Nat :=
  BlockName.all.countP fun name => (blocks.get? name).isNone

theorem missing_set_lt (blocks : Blocks) (name : BlockName) (text : String)
    (absent : (blocks.get? name).isNone = true) :
    (blocks.set name text).missing < blocks.missing := by
  cases name <;> simp only [get?, Option.isNone_iff_eq_none] at absent <;>
    simp [missing, BlockName.all, set, get?, absent, List.countP_cons]

end Blocks

def readBlocks (blocks : Blocks) (text : List Char) :
    Except DefinitionFault (Blocks × List Char) :=
  match blockStart? (skipTrivia text) with
  | none => .ok (blocks, text)
  | some (name, inside) =>
      match blockEnd? name.hasSqlComments 0 (.code false) inside with
      | none => .error (.unterminated name.keyword)
      | some (content, rest) =>
          if _absent : (blocks.get? name).isNone then
            readBlocks (blocks.set name (String.ofList content)) rest
          else .error (.duplicate name.keyword)
termination_by blocks.missing
decreasing_by exact blocks.missing_set_lt name _ ‹_›

end Definition

structure Definition where
  path : String
  config : ConfigBlock := default
  warnings : List String := []
  preOperations : Option String := none
  postOperations : Option String := none
  body : String
deriving DecidableEq

namespace Definition

-- The last part of a path, without what follows its last dot unless nothing would be left.
def stemOf (path : String) : String :=
  let file := ((Text.splitOn '/' path.toList).getLast?).getD []
  match Text.splitFirst '.' file.reverse with
  | some (_, []) => String.ofList file
  | some (_, stem) => String.ofList stem.reverse
  | none => String.ofList file

def stem (definition : Definition) : String :=
  stemOf definition.path

def actionName (definition : Definition) : String :=
  definition.config.declaredName.getD definition.stem

def identity (definition : Definition) : Identity where
  name := definition.actionName
  schema := definition.config.declaredSchema
  database := definition.config.declaredDatabase

def ofText (path content : String) : Except Error Definition := do
  let (blocks, rest) ← (readBlocks {} content.toList).mapError (Error.invalidDefinition path)
  let noted ← match blocks.config with
    | none => pure ({} : ConfigBlock.Noted)
    | some text => ConfigBlock.ofText path text
  let hooked := blocks.preOperations.isSome || blocks.postOperations.isSome
  if hooked && noted.config.tableType?.isNone then
    .error (.invalidDefinition path .hooksNotAllowed)
  else
    return {
      path
      config := noted.config
      warnings := noted.warnings
      preOperations := blocks.preOperations.map Text.trim
      postOperations := blocks.postOperations.map Text.trim
      body := String.ofList (Text.trimChars rest) }

end Definition

end SqlWorkflow
