import SqlWorkflow.Sql.Query

namespace SqlWorkflow.Sql

namespace Parser

def assignment (level : Level) : Parser Unit := do
  if ← nextIsSign "(" then inBrackets (commas object) else object
  expectSign "="
  whole level

def assignments (level : Level) : Parser Unit := commas (assignment level)

def condition (level : Level) : Parser Unit := do
  if ← takeKey "WHERE" then whole level

def returning (level : Level) : Parser Unit := do
  if ← takeKey "RETURNING" then commas (column level)

def onConflict (level : Level) : Parser Unit := do
  if ← takeKey "ON" then
    if ← takeKey "CONFLICT" then
      if ← takeKeys ["ON", "CONSTRAINT"] then object
      else if ← nextIsSign "(" then names
      expectKey "DO"
      if !(← takeKey "NOTHING") then
        expectKeys ["UPDATE", "SET"]
        assignments level
        condition level
    else
      expectKeys ["DUPLICATE", "KEY", "UPDATE"]
      assignments level

def nextIsBracketedQuery : Parser Bool := do
  return (← nextIsSign "(") && ((← peekAt 1).bind Token.key?) == some "SELECT"

def insertion (level : Level) : Parser Unit := do
  optionalKeys ["OVERWRITE"]
  optionalKeys ["INTO"]
  optionalKeys ["LOCAL"]
  optionalKeys ["TABLE"]
  relation
  if ← isFor .postgres <&&> takeKey "AS" then name
  if !(← takeKeys ["DEFAULT", "VALUES"]) then
    if !(← nextIsBracketedQuery) then
      if ← nextIsSign "(" then names
      if ← takeKey "PARTITION" then inBrackets (wholes level)
    level.query
  onConflict level
  returning level

def modification (level : Level) : Parser Unit := do
  joinedSource level
  let early ← takeKey "FROM"
  if early then sources level
  expectKey "SET"
  assignments level
  if !early then
    if ← takeKey "FROM" then sources level
  condition level
  returning level
  if ← takeKey "LIMIT" then whole level

def deletion (level : Level) : Parser Unit := do
  if !(← takeKey "FROM") then
    if (← read) != .bigQuery then
      commas object
      expectKey "FROM"
  commas (joinedSource level)
  if ← takeKey "USING" then commas (joinedSource level)
  condition level
  returning level
  optionalOrder level
  if ← takeKey "LIMIT" then
    if !(← takeKey "ALL") then whole level

def mergeClause (level : Level) : Parser Unit := do
  let missing ← takeKey "NOT"
  expectKey "MATCHED"
  let inSource ← if missing then takeKeys ["BY", "SOURCE"] else pure false
  if missing && !inSource then optionalKeys ["BY", "TARGET"]
  let fresh := missing && !inSource
  if ← takeKey "AND" then whole level
  expectKey "THEN"
  match ← takeOneOf ["UPDATE", "INSERT", "DELETE"] with
  | some "UPDATE" =>
      if fresh then unexpected
      expectKey "SET"
      assignments level
  | some "DELETE" => if fresh then unexpected
  | some _ =>
      if !fresh then unexpected
      if ← nextIsSign "(" then names
      if !(← isFor .bigQuery <&&> takeKey "ROW") then
        expectKey "VALUES"
        rows level
  | none => unexpected

def merging (level : Level) : Parser Unit := do
  optionalKeys ["INTO"]
  let bound := 2 * (← get).tokens.length + 2
  let _ ← source level bound
  expectKey "USING"
  let _ ← source level bound
  expectKey "ON"
  whole level
  repeated do
    if ← takeKey "WHEN" then
      mergeClause level
      return true
    else return false
  returning level

def change (level : Level) : String → Option (Parser Unit)
  | "INSERT" => some (insertion level)
  | "UPDATE" => some (modification level)
  | "DELETE" => some (deletion level)
  | "MERGE" => some (merging level)
  | _ => none

end Parser

end SqlWorkflow.Sql
