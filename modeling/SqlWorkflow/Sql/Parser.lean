import SqlWorkflow.SortedMap
import SqlWorkflow.Sql.Lex

-- A parser accepts a part of SQL and collects the relations and the common table expressions that
-- the part names. Nothing else of SQL is kept.
namespace SqlWorkflow.Sql

structure Reads where
  relations : SortedSet (List String) := ∅
  ctes : SortedSet String := ∅
  named : ∀ parts ∈ relations.toList, parts ≠ [] := by exact fun _ member => nomatch member

def Reads.addRelation (reads : Reads) (parts : List String) : Reads :=
  if blank : parts = [] then reads
  else
    { reads with
      relations := reads.relations.insert parts
      named := fun other member =>
        (SortedSet.mem_insert_item parts other _ member).elim (fun same => same ▸ blank)
          (reads.named other) }

def Reads.external (reads : Reads) : List (List String) :=
  reads.relations.toList.filter fun parts =>
    match parts with
    | [single] => !reads.ctes.contains single
    | _ => true

inductive Fault where
  | unexpected (spot : Option Spot)
  | tooDeep

structure State where
  tokens : List Placed
  reads : Reads := {}

abbrev Parser := ReaderT Warehouse (StateT State (Except Fault))

namespace Parser

def peekAt (n : Nat) : Parser (Option Token) := do
  return (← get).tokens[n]?.map Placed.token

def peek : Parser (Option Token) := peekAt 0

def peekKey : Parser (Option String) := do
  return (← peek).bind Token.key?

def skip : Parser Unit :=
  modify fun state => { state with tokens := state.tokens.tail }

def unexpected {α : Type} : Parser α := do
  throw (.unexpected ((← get).tokens.head?.map Placed.spot))

-- The result of a parser, or none and no step if it fails. Depth is no failure of that kind.
def attempt {α : Type} (parser : Parser α) : Parser (Option α) :=
  fun warehouse state =>
    match parser warehouse state with
    | .ok (result, state) => .ok (some result, state)
    | .error (.unexpected _) => .ok (none, state)
    | .error .tooDeep => .error .tooDeep

def caught {α : Type} (parser : Parser α) : Parser (Except Fault α) :=
  fun warehouse state =>
    match parser warehouse state with
    | .ok (result, state) => .ok (.ok result, state)
    | .error fault => .ok (.error fault, state)

def isFor (warehouse : Warehouse) : Parser Bool := do
  return (← read) == warehouse

def isNotFor (warehouse : Warehouse) : Parser Bool := do
  return (← read) != warehouse

def nextIsKey (key : String) : Parser Bool := do
  return (← peekKey) == some key

def nextIsSign (text : String) : Parser Bool := do
  return (← peek) == some (.sign text)

def nextAreKeys (keys : List String) : Parser Bool := do
  let tokens := (← get).tokens.take keys.length
  return tokens.map (fun placed => placed.token.key?) == keys.map some

def takeKeys (keys : List String) : Parser Bool := do
  if ← nextAreKeys keys then
    modify fun state => { state with tokens := state.tokens.drop keys.length }
    return true
  else return false

def takeKey (key : String) : Parser Bool := takeKeys [key]

def takeOneOf (keys : List String) : Parser (Option String) := do
  match ← peekKey with
  | some key => if keys.contains key then do skip; return some key else return none
  | none => return none

def optionalKeys (keys : List String) : Parser Unit := do
  let _ ← takeKeys keys

def optionalOneOf (keys : List String) : Parser Unit := do
  let _ ← takeOneOf keys

def expectKey (key : String) : Parser Unit := do
  if !(← takeKey key) then unexpected

def expectKeys (keys : List String) : Parser Unit :=
  keys.forM expectKey

def expectOneOf (keys : List String) : Parser String := do
  match ← takeOneOf keys with
  | some key => return key
  | none => unexpected

def takeSign (text : String) : Parser Bool := do
  if ← nextIsSign text then skip; return true else return false

def expectSign (text : String) : Parser Unit := do
  if !(← takeSign text) then unexpected

def repeatUpTo (step : Parser Bool) : Nat → Parser Unit
  | 0 => pure ()
  | bound + 1 => do
      if ← step then repeatUpTo step bound

def repeated (step : Parser Bool) : Parser Unit := do
  repeatUpTo step ((← get).tokens.length + 1)

def commas (item : Parser Unit) : Parser Unit :=
  repeated do
    item
    takeSign ","

def inBrackets (inner : Parser Unit) : Parser Unit := do
  expectSign "("
  inner
  expectSign ")"

def optionalBrackets (inner : Parser Unit) : Parser Unit := do
  if ← takeSign "(" then
    inner
    expectSign ")"

def identifier : Parser String := do
  match ← peek with
  | some (.word text _ _) => skip; return text
  | some (.text .single text) => skip; return text
  | some (.text .double text) => skip; return text
  | _ => unexpected

def name : Parser Unit := do
  let _ ← identifier

-- What goes on after a hyphen: a word or a number that touches it. A number that ends with a period
-- has a further part.
def hyphenated : Nat → String → Parser (String × Bool)
  | 0, text => return (text, false)
  | bound + 1, text => do
      match (← get).tokens with
      | ⟨.sign "-", _, true⟩ :: ⟨.word more false _, _, true⟩ :: _ =>
          skip; skip
          hyphenated bound (text ++ "-" ++ more)
      | ⟨.sign "-", _, true⟩ :: ⟨.number digits, _, true⟩ :: rest =>
          skip; skip
          let text := text ++ "-" ++ digits
          match text.toList.getLast?, rest with
          | some '.', _ => return (text.dropEnd 1 |>.toString, true)
          | _, ⟨.sign ".", _, _⟩ :: _ => return (text, false)
          | _, ⟨.sign "-", _, true⟩ :: _ => hyphenated bound text
          | _, ⟨_, _, true⟩ :: _ => unexpected
          | _, _ => return (text, false)
      | ⟨.sign "-", _, true⟩ :: _ => skip; unexpected
      | _ => return (text, false)

def tablePart : Parser (String × Bool) := do
  match ← read, ← peek with
  | .bigQuery, some (.word text false _) =>
      skip
      hyphenated (← get).tokens.length text
  | _, _ => return (← identifier, false)

-- The parts of a dotted name. Snowflake may leave the second one out.
def dotted (part : Parser (String × Bool)) : Nat → Nat → Parser (List String)
  | 0, _ => return []
  | bound + 1, index => do
      let (text, unfinished) ← if index = 1 && (← nextIsSign ".") && (← read) == .snowflake
        then pure ("", false) else part
      if ← pure unfinished <||> takeSign "." then return text :: (← dotted part bound (index + 1))
      else return [text]

def objectName : Parser (List String) := do
  dotted (do return (← identifier, false)) ((← get).tokens.length + 1) 0

def tableName : Parser (List String) := do
  dotted tablePart ((← get).tokens.length + 1) 0

def object : Parser Unit := do
  let _ ← objectName

def names : Parser Unit := inBrackets (commas name)

def pathParts (parts : List String) : List String :=
  (parts.flatMap (Text.split '.')).map Text.lower

def readsRelation (parts : List String) : Parser Unit :=
  modify fun state => { state with reads := state.reads.addRelation (pathParts parts) }

def definesCte (text : String) : Parser Unit :=
  modify fun state => { state with reads := { state.reads with
    ctes := state.reads.ctes.insert (Text.lower text) } }

def relation : Parser Unit := do
  readsRelation (← objectName)

end Parser

end SqlWorkflow.Sql
