import SqlWorkflow.Sql.Expression

namespace SqlWorkflow.Sql

inductive Source where
  | joined
  | single (aliased : Bool)
deriving DecidableEq

namespace Parser

def aliasColumns : Parser Unit :=
  optionalBrackets <| commas do
    name
    let _ ← attempt dataType

def tableAlias : Parser Bool := do
  if ← optionalAlias Alias.isTable then
    aliasColumns
    return true
  else return false

def optionalTableAlias : Parser Unit := do
  let _ ← tableAlias

def sample (level : Level) : Parser Unit := do
  optionalOneOf ["BERNOULLI", "ROW", "SYSTEM", "BLOCK"]
  let bracketed ← takeSign "("
  if ← pure bracketed <&&> takeKey "BUCKET" then
    number
    expectKeys ["OUT", "OF"]
    number
    if ← takeKey "ON" then whole level
  else
    if (← attempt (whole level)).isNone then
      match ← peek with
      | some (.word _ _ _) => skip
      | _ => skip; unexpected
    optionalOneOf ["ROWS", "PERCENT"]
  if bracketed then expectSign ")"
  if (← takeOneOf ["REPEATABLE", "SEED"]).isSome then inBrackets number
  if ← takeKey "OFFSET" then whole level
where
  number : Parser Unit := do
    match ← peek with
    | some (.number _) => skip
    | some (.placeholder _) => skip
    | _ => unexpected

def optionalSample (level : Level) : Parser Unit := do
  if (← takeOneOf ["TABLESAMPLE", "SAMPLE"]).isSome then sample level

def optionalVersion (level : Level) : Parser Unit := do
  if (← read) != .postgres then
    if ← takeKeys ["FOR", "SYSTEM_TIME", "AS", "OF"] then whole level
    else if (← nextIsKey "AT") || (← nextIsKey "BEFORE") then
      let _ ← tableName
      call level

def aliasedExpr (level : Level) : Parser Unit := do
  whole level
  if ← takeKey "AS" then name

def pivot (level : Level) : Parser Unit := do
  let between := (precedences (← read)).between
  let column := do
    let _ ← level.expr between
  expectSign "("
  commas do
    match ← peek with
    | some (.word _ _ _) => skip
    | _ => skip; unexpected
    call level
    let _ ← optionalAlias fun warehouse key next => key ≠ "FOR" && Alias.isColumn warehouse key next
  expectKey "FOR"
  if ← nextIsSign "(" then inBrackets (commas column) else column
  expectKey "IN"
  inBrackets do
    if ← takeKey "ANY" then optionalOrder level
    else if ← nextIsQuery then level.query
    else commas (aliasedExpr level)
  if ← takeKeys ["DEFAULT", "ON", "NULL"] then inBrackets (whole level)
  expectSign ")"
  optionalTableAlias

def unpivot (level : Level) : Parser Unit := do
  if !(← takeKeys ["INCLUDE", "NULLS"]) then optionalKeys ["EXCLUDE", "NULLS"]
  inBrackets do
    whole level
    expectKey "FOR"
    name
    expectKey "IN"
    inBrackets (commas (aliasedExpr level))
  optionalTableAlias

def pivots (level : Level) : Parser Unit :=
  repeated do
    if ← takeKey "PIVOT" then
      pivot level
      return true
    else if ← takeKey "UNPIVOT" then
      unpivot level
      return true
    else return false

def subquery (level : Level) : Parser Source := do
  level.query
  expectSign ")"
  let aliased ← tableAlias
  optionalSample level
  return .single aliased

def rows (level : Level) : Parser Unit :=
  commas do
    optionalKeys ["ROW"]
    inBrackets (wholes level)

def unnest (level : Level) : Parser Source := do
  inBrackets (wholes level)
  optionalKeys ["WITH", "ORDINALITY"]
  let aliased ← tableAlias
  if ← takeKeys ["WITH", "OFFSET"] then
    let _ ← optionalAlias fun _ key _ => !Alias.notColumn.contains key
  return .single aliased

-- The name of a table. Snowflake can compute it from an expression, which names no relation.
def tableOrExpr (level : Level) : Parser Unit := do
  let computed := match ← peek with
    | some (.word _ false key) => key == "IDENTIFIER"
    | _ => false
  if computed && (← read) == .snowflake && (← peekAt 1) == some (.sign "(") then
    skip
    expectSign "("
    commas (argument level)
    expectSign ")"
  else readsRelation (← tableName)

def table (level : Level) : Parser Source := do
  let warehouse ← read
  tableOrExpr level
  if warehouse = .snowflake && (← nextIsSign "[") then jsonPath level
  optionalVersion level
  if ← takeSign "(" then
    if !(← takeSign ")") then
      commas (argument level)
      expectSign ")"
  optionalKeys ["WITH", "ORDINALITY"]
  let aliased ← tableAlias
  if (← nextIsKey "WITH") && (← peekAt 1) == some (.sign "(") then
    skip
    inBrackets (wholes level)
  optionalSample level
  pivots level
  return .single aliased

def joinCondition (level : Level) (natural : Bool) : Parser Unit := do
  if !natural then
    if ← takeKey "ON" then whole level
    else if ← takeKey "USING" then
      inBrackets (commas object)

def joinWords : Parser (Option Bool) := do
  optionalKeys ["GLOBAL"]
  if ← takeKey "CROSS" then
    if !(← takeKey "JOIN") then expectKey "APPLY"
    return some false
  else if ← takeKey "OUTER" then
    expectKey "APPLY"
    return some false
  else if ← takeKey "ASOF" then
    expectKey "JOIN"
    return some true
  else
    let natural ← takeKey "NATURAL"
    match ← takeOneOf ["INNER", "JOIN", "LEFT", "RIGHT", "ANTI", "SEMI", "FULL"] with
    | some "JOIN" => return some !natural
    | some "INNER" => expectKey "JOIN"; return some !natural
    | some "FULL" =>
        optionalKeys ["OUTER"]
        expectKey "JOIN"
        return some !natural
    | some key =>
        if key = "LEFT" || key = "RIGHT" then
          match ← takeOneOf ["OUTER", "SEMI", "ANTI", "JOIN"] with
          | some "JOIN" => return some !natural
          | some _ => expectKey "JOIN"; return some !natural
          | none => throw (.unexpected none)
        else
          expectKey "JOIN"
          return some !natural
    | none => if natural then unexpected else return none

def nextIsInnerJoin : Parser Bool := do
  return (← peekKey).any ["JOIN", "INNER", "LEFT", "RIGHT", "FULL"].contains

mutual

def source (level : Level) : Nat → Parser Source
  | 0 => unexpected
  | bound + 1 => do
      let warehouse ← read
      if ← takeKey "LATERAL" then
        if ← takeSign "(" then subquery level
        else
          object
          inBrackets do
            if !(← nextIsSign ")") then commas (argument level)
          return .single (← tableAlias)
      else if ← takeKey "TABLE" then
        inBrackets (whole level)
        return .single (← tableAlias)
      else if ← takeSign "(" then
        match ← attempt (subquery level) with
        | some found =>
            pivots level
            return found
        | none => bracketed level bound
      else if warehouse = .snowflake && (← nextIsKey "VALUES") &&
          (← peekAt 1) == some (.sign "(") then
        skip
        rows level
        return .single (← tableAlias)
      else if ← isNotFor .snowflake <&&> takeKey "UNNEST" then unnest level
      else table level

-- Joined tables after an opening bracket. Snowflake allows a single one in brackets too, with an
-- alias either inside or outside.
def bracketed (level : Level) : Nat → Parser Source
  | 0 => unexpected
  | bound + 1 => do
      let first ← source level bound
      let joined ← joins level bound
      if joined || first = .joined then
        expectSign ")"
        optionalTableAlias
        return .joined
      else if (← read) == .snowflake then
        expectSign ")"
        let outer ← tableAlias
        match first with
        | .single true => if outer then throw (.unexpected none) else return first
        | _ => return .single outer
      else unexpected

def joins (level : Level) : Nat → Parser Bool
  | 0 => return false
  | bound + 1 => do
      let asof ← nextIsKey "ASOF"
      match ← joinWords with
      | none => return false
      | some conditional =>
          let _ ← source level bound
          if asof then
            expectKey "MATCH_CONDITION"
            inBrackets (whole level)
          else if conditional && (← read) == .snowflake && (← nextIsInnerJoin) then
            let _ ← joins level bound
          if conditional then joinCondition level false
          let _ ← joins level bound
          return true

end

def joinedSource (level : Level) : Parser Unit := do
  let bound := 2 * (← get).tokens.length + 2
  let _ ← source level bound
  let _ ← joins level bound

def startsSource (warehouse : Warehouse) (key : String) (next : Option Token) : Bool :=
  match warehouse with
  | .snowflake =>
      !((key == "LIMIT" && Alias.limits next) || (key == "TABLE" && next == some (.sign "(")))
  | _ => key ∉ ["INTO", "LIMIT", "HAVING", "WHERE"]

def sources (level : Level) : Parser Unit :=
  commasUpTo startsSource [.snowflake] (joinedSource level)

end Parser

end SqlWorkflow.Sql
