import SqlWorkflow.Sql.Table

namespace SqlWorkflow.Sql

namespace Parser

def starOptions (level : Level) : Parser Unit := do
  if ← isFor .snowflake <&&> takeKey "ILIKE" then
    match ← peek with
    | some (.text .single _) => skip
    | _ => unexpected
  else if ← isFor .snowflake <&&> takeKey "EXCLUDE" then starExclusions
  if ← isFor .bigQuery <&&> takeKey "EXCEPT" then starExclusions
  if ← isNotFor .postgres <&&> takeKey "REPLACE" then
    inBrackets <| commas do
      whole level
      optionalKeys ["AS"]
      name
  if ← isFor .snowflake <&&> takeKey "RENAME" then
    if ← nextIsSign "(" then inBrackets (commas renamed) else renamed
where
  renamed : Parser Unit := do
    name
    expectKey "AS"
    name

-- A column of a selection. The word that starts the sources is no column.
def column (level : Level) : Parser Unit := do
  let warehouse ← read
  if warehouse = .snowflake then optionalKeys ["CONNECT_BY_ROOT"]
  match ← starOrExpr level with
  | .star => starOptions level
  | .starOf => starOptions level
  | .name text quoted =>
      if !quoted && Text.lower text = "from" then unexpected
      let _ ← optionalAlias Alias.isColumn
  | _ =>
      if warehouse = .bigQuery && (← nextIsSign ".") && (← peekAt 1) == some (.sign "*") then
        skip; skip
        starOptions level
      else
        let _ ← optionalAlias Alias.isColumn

def columns (level : Level) : Parser Unit :=
  commasUpTo Alias.isColumn [.bigQuery, .snowflake] (column level)

def tuple (level : Level) : Parser Unit :=
  inBrackets do
    if !(← nextIsSign ")") then wholes level

def groupItem (level : Level) : Parser Unit := do
  if (← read) == .bigQuery then whole level
  else if ← takeKeys ["GROUPING", "SETS"] then inBrackets (commas (tuple level))
  else if (← takeOneOf ["CUBE", "ROLLUP"]).isSome then
    inBrackets <| commas do
      if ← nextIsSign "(" then tuple level else whole level
  else if (← nextIsSign "(") && (← peekAt 1) == some (.sign ")") then
    skip; skip
  else whole level

def groups (level : Level) : Parser Unit := do
  if ← takeKeys ["GROUP", "BY"] then
    if !(← takeKey "ALL") then commas (groupItem level)
    if ← takeKeys ["GROUPING", "SETS"] then inBrackets (commas (tuple level))

def namedWindows (level : Level) : Parser Unit :=
  commas do
    name
    expectKey "AS"
    if ← takeSign "(" then window level
    else if (← read) == .bigQuery then name
    else unexpected

def windowClauses (level : Level) : Parser Unit := do
  if ← takeKey "WINDOW" then
    namedWindows level
    if ← takeKey "QUALIFY" then whole level
  else if ← takeKey "QUALIFY" then
    whole level
    if ← takeKey "WINDOW" then namedWindows level

def hierarchy (level : Level) : Parser Unit := do
  let connect := do
    expectKeys ["CONNECT", "BY"]
    optionalKeys ["NOCYCLE"]
    commas do
      optionalKeys ["PRIOR"]
      whole level
  if (← read) == .snowflake then
    if ← takeKey "START" then
      expectKey "WITH"
      whole level
      connect
    else if ← nextIsKey "CONNECT" then
      connect
      if ← takeKeys ["START", "WITH"] then whole level

def lateralViews (level : Level) : Parser Unit :=
  repeated do
    if ← takeKeys ["LATERAL", "VIEW"] then
      optionalKeys ["OUTER"]
      whole level
      object
      commas do
        let _ ← optionalAlias fun _ key _ =>
          key ∉ ["WHERE", "GROUP", "CLUSTER", "HAVING", "LATERAL"]
      return true
    else return false

def rowMode (level : Level) : Parser Unit := do
  let warehouse ← read
  if warehouse = .bigQuery then valueMode
  if !(← takeKey "ALL") then
    if ← takeKey "DISTINCT" then
      if warehouse = .bigQuery then valueMode
      if ← takeKey "ON" then tuple level
  if ← takeKey "TOP" then
    if ← takeSign "(" then
      whole level
      expectSign ")"
    else
      match ← peek with
      | some (.number _) => skip
      | _ => unexpected
    optionalKeys ["PERCENT"]
    optionalKeys ["WITH", "TIES"]
where
  valueMode : Parser Unit := do
    if ← takeKey "AS" then
      let _ ← expectOneOf ["VALUE", "STRUCT"]

def intoTable : Parser Unit := do
  if ← takeKey "INTO" then
    optionalOneOf ["TEMP", "TEMPORARY"]
    optionalKeys ["UNLOGGED"]
    optionalKeys ["TABLE"]
    object

def selection (level : Level) : Parser Unit := do
  rowMode level
  if !((← read) == .postgres && (← nextIsKey "FROM")) then columns level
  intoTable
  if ← takeKey "FROM" then sources level
  lateralViews level
  if ← takeKey "WHERE" then whole level
  groups level
  if ← takeKeys ["CLUSTER", "BY"] then wholes level
  if ← takeKeys ["DISTRIBUTE", "BY"] then wholes level
  if ← takeKeys ["SORT", "BY"] then orders level
  if ← takeKey "HAVING" then whole level
  windowClauses level
  hierarchy level

def operand (level : Level) : Parser Unit := do
  if ← takeKey "SELECT" then selection level
  else if ← takeSign "(" then
    level.query
    expectSign ")"
  else if (← takeOneOf ["VALUES", "VALUE"]).isSome then rows level
  else if ← takeKey "TABLE" then
    name
    if ← takeSign "." then name
  else unexpected

def setOperation : Parser Bool := do
  if (← takeOneOf ["UNION", "EXCEPT", "INTERSECT", "MINUS"]).isSome then
    optionalOneOf ["ALL", "DISTINCT"]
    optionalKeys ["BY", "NAME"]
    return true
  else return false

def setExpression (level : Level) : Parser Unit :=
  repeated do
    operand level
    setOperation

def limits (level : Level) : Parser Unit := do
  let offset := do
    whole level
    optionalOneOf ["ROW", "ROWS"]
  let skipped ← takeKey "OFFSET"
  if skipped then offset
  if ← takeKey "LIMIT" then
    if !(← takeKey "ALL") then whole level
    if !skipped then
      if ← takeKey "OFFSET" then offset

def fetched : Parser Unit := do
  if ← takeKey "FETCH" then
    optionalOneOf ["FIRST", "NEXT"]
    if (← takeOneOf ["ROW", "ROWS"]).isNone then
      value
      optionalKeys ["PERCENT"]
      optionalOneOf ["ROW", "ROWS"]
    if !(← takeKey "ONLY") then optionalKeys ["WITH", "TIES"]

def locks : Parser Unit :=
  repeated do
    if ← takeKey "FOR" then
      let _ ← expectOneOf ["UPDATE", "SHARE"]
      if ← takeKey "OF" then object
      if !(← takeKey "NOWAIT") then optionalKeys ["SKIP", "LOCKED"]
      return true
    else return false

def pipeStep (level : Level) : Parser Unit := do
  let aliased := do
    whole level
    let _ ← optionalAlias Alias.isColumn
  let key ← expectOneOf ["SELECT", "EXTEND", "SET", "DROP", "AS", "WHERE", "LIMIT", "AGGREGATE",
    "ORDER", "TABLESAMPLE", "RENAME", "UNION", "INTERSECT", "EXCEPT", "CALL", "PIVOT", "UNPIVOT",
    "JOIN", "INNER", "LEFT", "RIGHT", "FULL", "CROSS"]
  match key with
  | "SELECT" => columns level
  | "EXTEND" => commas aliased
  | "SET" => commas do
      object
      expectSign "="
      whole level
  | "DROP" => commas name
  | "AS" => name
  | "WHERE" => whole level
  | "LIMIT" =>
      whole level
      if ← takeKey "OFFSET" then whole level
  | "AGGREGATE" =>
      if !(← nextIsKey "GROUP") then
        commas do
          aliased
          orderOptions
      if ← takeKeys ["GROUP", "BY"] then
        commas do
          aliased
          orderOptions
  | "ORDER" =>
      expectKey "BY"
      orders level
  | "RENAME" => commas do
      name
      optionalKeys ["AS"]
      name
  | "CALL" =>
      object
      call level
      optionalTableAlias
  | "PIVOT" => pivot level
  | "UNPIVOT" => unpivot level
  | "TABLESAMPLE" => sample level
  | key =>
      if ["UNION", "INTERSECT", "EXCEPT"].contains key then
        optionalOneOf ["ALL", "DISTINCT"]
        optionalKeys ["BY", "NAME"]
        commas (inBrackets level.query)
      else
        if key ≠ "JOIN" then
          if key ≠ "CROSS" && key ≠ "INNER" then optionalKeys ["OUTER"]
          expectKey "JOIN"
        let bound := 2 * (← get).tokens.length + 2
        let _ ← source level bound
        joinCondition level (key == "CROSS")

def pipeSteps (level : Level) : Parser Unit := do
  if (← read) == .bigQuery then
    repeated do
      if ← takeSign "|>" then
        pipeStep level
        return true
      else return false

def cte (level : Level) : Parser Unit := do
  definesCte (← identifier)
  if !(← takeKey "AS") then
    aliasColumns
    expectKey "AS"
  if (← read) == .postgres then
    if !(← takeKey "MATERIALIZED") then optionalKeys ["NOT", "MATERIALIZED"]
  inBrackets level.query
  if ← takeKey "FROM" then name

-- A query. Statements that change rows can follow the common table expressions, too.
def query (level : Level) (change : String → Option (Parser Unit)) : Parser Unit := do
  if ← takeKey "WITH" then
    optionalKeys ["RECURSIVE"]
    commas (cte level)
  match (← peekKey).bind change with
  | some statement =>
      skip
      statement
  | none =>
      setExpression level
      optionalOrder level
      limits level
      fetched
      locks
      pipeSteps level

end Parser

end SqlWorkflow.Sql
