import SqlWorkflow.Sql.Query

namespace SqlWorkflow.Sql

namespace Parser

def settings (level : Level) : Parser Unit :=
  inBrackets do
    if !(← nextIsSign ")") then
      commas do
        name
        expectSign "="
        whole level

def optionalSettings (key : String) (level : Level) : Parser Unit := do
  if (← nextIsKey key) && (← peekAt 1) == some (.sign "(") then
    skip
    settings level

def ifAbsent : Parser Unit := optionalKeys ["IF", "NOT", "EXISTS"]

def ifPresent : Parser Unit := optionalKeys ["IF", "EXISTS"]

def optionalNames : Parser Unit := do
  if ← nextIsSign "(" then names

def referenceActions : Parser Unit :=
  repeated do
    if ← takeKey "ON" then
      let _ ← expectOneOf ["DELETE", "UPDATE"]
      if !(← takeKeys ["NO", "ACTION"]) then
        if ← takeKey "SET" then
          let _ ← expectOneOf ["NULL", "DEFAULT"]
        else
          let _ ← expectOneOf ["RESTRICT", "CASCADE"]
      return true
    else return false

def constraintOptions : Parser Unit :=
  repeated do
    let words := [["NOT", "DEFERRABLE"], ["DEFERRABLE"], ["INITIALLY", "DEFERRED"],
      ["INITIALLY", "IMMEDIATE"], ["NOT", "ENFORCED"], ["ENFORCED"]]
    words.anyM takeKeys

def references : Parser Unit := do
  object
  optionalNames
  referenceActions
  constraintOptions

def tableConstraint (level : Level) : Parser Bool := do
  let named ← takeKey "CONSTRAINT"
  if named then name
  if ← takeKeys ["PRIMARY", "KEY"] then
    names
    constraintOptions
    return true
  else if ← takeKey "UNIQUE" then
    if (← takeOneOf ["KEY", "INDEX"]).isSome && !(← nextIsSign "(") then name
    names
    constraintOptions
    return true
  else if ← takeKeys ["FOREIGN", "KEY"] then
    names
    expectKey "REFERENCES"
    references
    return true
  else if ← takeKey "CHECK" then
    inBrackets (whole level)
    constraintOptions
    return true
  else if named then unexpected
  else return false

def columnOption (level : Level) : Parser Bool := do
  let named ← takeKey "CONSTRAINT"
  if named then name
  let found ← do
    if ← takeKeys ["NOT", "NULL"] <||> takeKey "NULL" <||> takeKeys ["PRIMARY", "KEY"] then
      constraintOptions
      pure true
    else if ← takeKey "UNIQUE" then
      optionalKeys ["KEY"]
      constraintOptions
      pure true
    else if ← takeKey "DEFAULT" then whole level; pure true
    else if ← takeKey "COLLATE" then object; pure true
    else if ← takeKey "COMMENT" then value; pure true
    else if ← takeKey "REFERENCES" then references; pure true
    else if ← takeKey "CHECK" then
      inBrackets (whole level)
      constraintOptions
      pure true
    else if ← isFor .bigQuery <&&> takeKey "OPTIONS" then settings level; pure true
    else if ← isFor .snowflake <&&> (takeKey "AUTOINCREMENT" <||> takeKey "IDENTITY") then
      if ← nextIsSign "(" then inBrackets (wholes level)
      else if ← takeKey "START" then
        whole level
        expectKey "INCREMENT"
        whole level
      if !(← takeKey "ORDER") then optionalKeys ["NOORDER"]
      pure true
    else if ← takeKey "GENERATED" then
      if ← takeKeys ["BY", "DEFAULT"] <||> takeKey "ALWAYS" then
        expectKey "AS"
        if ← takeKey "IDENTITY" then
          if ← takeSign "(" then
            repeated do
              if ← nextIsSign ")" then return false else skip; return true
            expectSign ")"
        else
          inBrackets (whole level)
          if !(← takeKey "STORED") then optionalKeys ["VIRTUAL"]
      else unexpected
      pure true
    else pure false
  if named && !found then unexpected
  return found

def columnDefinition (level : Level) : Parser Unit := do
  name
  let _ ← dataType
  repeated (columnOption level)

-- The columns and constraints of a table. BigQuery allows one more comma at the end.
def tableColumns (level : Level) : Parser Unit := do
  if ← takeSign "(" then
    if !(← takeSign ")") then
      repeated do
        if !(← tableConstraint level) then
          if (← peek).any Token.isWord then columnDefinition level else unexpected
        let more ← takeSign ","
        let ended ← nextIsSign ")"
        if !more && !ended then unexpected
        return !(ended && (!more || (← read) == .bigQuery))
      expectSign ")"

def tableOption (level : Level) : Parser Bool := do
  let warehouse ← read
  if ← takeKeys ["PARTITION", "BY"] then whole level; return true
  else if ← takeKeys ["CLUSTER", "BY"] then
    if ← nextIsSign "(" then inBrackets (wholes level) else wholes level
    return true
  else if ← isFor .bigQuery <&&> takeKey "OPTIONS" then settings level; return true
  else if ← isFor .postgres <&&> takeKey "INHERITS" then
    inBrackets (commas object)
    return true
  else if warehouse ≠ .bigQuery && (← nextIsKey "WITH") && (← peekAt 1) == some (.sign "(") then
    skip
    settings level
    return true
  else if ← takeKeys ["ON", "COMMIT"] then
    if !(← takeKey "DROP") then
      let _ ← expectOneOf ["DELETE", "PRESERVE"]
      expectKey "ROWS"
    return true
  else if ← isFor .snowflake <&&> takeKey "COMMENT" then
    let _ ← takeSign "="
    value
    return true
  else if ← isFor .snowflake <&&> takeKeys ["COPY", "GRANTS"] then return true
  else return false

def tableDefinition (level : Level) : Parser Unit := do
  ifAbsent
  readsRelation (← if (← read) == .bigQuery then tableName else objectName)
  if ← takeKey "LIKE" then object
  if ← takeKey "CLONE" then object
  tableColumns level
  repeated (tableOption level)
  if ← takeKey "AS" then level.query

def viewDefinition (level : Level) : Parser Unit := do
  let warehouse ← read
  optionalKeys ["SECURE"]
  optionalKeys ["MATERIALIZED"]
  expectKey "VIEW"
  ifAbsent
  let _ ← if warehouse = .bigQuery then tableName else objectName
  ifAbsent
  if warehouse = .snowflake then optionalKeys ["COPY", "GRANTS"]
  optionalBrackets <| commas do
    name
    if ← isFor .bigQuery <&&> takeKey "OPTIONS" then settings level
    else if ← isFor .snowflake <&&> takeKey "COMMENT" then value
  optionalSettings "WITH" level
  if ← takeKey "CLUSTER" then
    expectKey "BY"
    optionalNames
  if warehouse = .bigQuery then optionalSettings "OPTIONS" level
  if ← isFor .snowflake <&&> takeKey "COMMENT" then
    expectSign "="
    value
  expectKey "AS"
  level.query
  if ← takeKey "WITH" then
    if warehouse = .postgres then
      optionalKeys ["NO"]
      expectKey "DATA"
    else unexpected

def functionDefinition (level : Level) : Parser Unit := do
  ifAbsent
  object
  inBrackets do
    if !(← nextIsSign ")") then
      commas do
        optionalOneOf ["IN", "OUT", "INOUT"]
        if (← peekAt 1).any Token.isWord then name
        let _ ← dataType
        if ← takeKey "DEFAULT" <||> takeSign "=" then whole level
  repeated do
    if ← takeKey "RETURNS" then
      let _ ← dataType
      return true
    else if ← takeKey "LANGUAGE" then name; return true
    else if ← takeKey "AS" then
      if (← nextIsSign "(") then whole level
      else value
      return true
    else if ← takeKey "OPTIONS" then settings level; return true
    else if ← takeKey "RETURN" then whole level; return true
    else if (← takeOneOf ["IMMUTABLE", "STABLE", "VOLATILE", "STRICT"]).isSome then return true
    else if ← takeKeys ["NOT", "DETERMINISTIC"] then return true
    else takeKey "DETERMINISTIC"

def indexDefinition (level : Level) : Parser Unit := do
  optionalKeys ["CONCURRENTLY"]
  ifAbsent
  if !(← nextIsKey "ON") then object
  expectKey "ON"
  relation
  if ← takeKey "USING" then name
  inBrackets (orders level)
  if ← takeKey "INCLUDE" then names
  optionalSettings "WITH" level
  condition
where
  condition : Parser Unit := do
    if ← takeKey "WHERE" then whole level

def creation (level : Level) : Parser Unit := do
  let replacing ← takeKeys ["OR", "REPLACE"]
  optionalOneOf ["LOCAL", "GLOBAL"]
  optionalKeys ["TRANSIENT"]
  optionalOneOf ["TEMP", "TEMPORARY"]
  let startsView := (← peekKey).any ["MATERIALIZED", "VIEW", "SECURE"].contains
  if startsView then viewDefinition level
  else if ← takeKey "TABLE" then tableDefinition level
  else if ← takeKey "FUNCTION" then functionDefinition level
  else if replacing then unexpected
  else if ← takeKey "SCHEMA" then
    ifAbsent
    object
    if (← read) == .bigQuery then optionalSettings "OPTIONS" level
  else if ← takeKey "DATABASE" then
    ifAbsent
    object
  else if ← takeKey "EXTENSION" then
    ifAbsent
    name
  else if ← takeKeys ["UNIQUE", "INDEX"] then indexDefinition level
  else if ← takeKey "INDEX" then indexDefinition level
  else unexpected

def optionalDropMode : Parser Unit := optionalOneOf ["CASCADE", "RESTRICT"]

def columnAlteration (level : Level) : Parser Unit := do
  name
  if ← takeKey "DROP" then
    if !(← takeKeys ["NOT", "NULL"]) then expectKey "DEFAULT"
  else if ← takeKeys ["SET", "DATA", "TYPE"] <||> takeKey "TYPE" then
    let _ ← dataType
    if ← takeKey "USING" then whole level
  else
    expectKey "SET"
    if ← takeKeys ["NOT", "NULL"] then return
    else if ← takeKey "OPTIONS" then settings level
    else
      expectKey "DEFAULT"
      whole level

def alteration (level : Level) : Parser Unit := do
  if ← takeKey "ADD" then
    if !(← tableConstraint level) then
      optionalKeys ["COLUMN"]
      ifAbsent
      columnDefinition level
  else if ← takeKey "DROP" then
    if ← takeKeys ["PRIMARY", "KEY"] then optionalDropMode
    else
      optionalOneOf ["CONSTRAINT", "COLUMN"]
      ifPresent
      name
      optionalDropMode
  else if ← takeKey "RENAME" then
    if ← takeKey "TO" then object
    else
      optionalOneOf ["COLUMN", "CONSTRAINT"]
      name
      expectKey "TO"
      name
  else if ← takeKey "ALTER" then
    optionalKeys ["COLUMN"]
    columnAlteration level
  else if ← takeKeys ["SWAP", "WITH"] then object
  else if ← takeKeys ["OWNER", "TO"] then name
  else if ← takeKeys ["CLUSTER", "BY"] then inBrackets (wholes level)
  else
    expectKey "SET"
    optionalKeys ["OPTIONS"]
    settings level

def altering (level : Level) : Parser Unit := do
  if ← takeKey "TABLE" then
    ifPresent
    optionalKeys ["ONLY"]
    relation
    commas (alteration level)
  else if ← takeKey "VIEW" then
    object
    optionalNames
    optionalSettings "WITH" level
    expectKey "AS"
    level.query
  else if ← takeKey "SCHEMA" then
    ifPresent
    object
    if ← takeKey "RENAME" then
      expectKey "TO"
      object
    else
      expectKey "SET"
      optionalKeys ["OPTIONS"]
      settings level
  else unexpected

def dropping : Parser Unit := do
  if ← takeKeys ["MATERIALIZED", "VIEW"] then pure ()
  else
    let _ ← expectOneOf ["TABLE", "VIEW", "INDEX", "ROLE", "SCHEMA", "DATABASE", "SEQUENCE", "STAGE",
      "TYPE", "USER", "STREAM", "FUNCTION", "PROCEDURE", "EXTENSION"]
  ifPresent
  commas do
    object
    optionalBrackets <| repeated do
      if ← nextIsSign ")" then return false else skip; return true
  let spot := (← get).tokens.head?.map Placed.spot
  let cascading ← takeKey "CASCADE"
  if (← takeKey "RESTRICT") && cascading then throw (.unexpected spot)
  optionalKeys ["PURGE"]
  if ← takeKey "ON" then object

def truncation : Parser Unit := do
  optionalKeys ["TABLE"]
  ifPresent
  commas do
    optionalKeys ["ONLY"]
    relation
    let _ ← takeSign "*"
  if (← read) == .postgres then
    if !(← takeKeys ["RESTART", "IDENTITY"]) then optionalKeys ["CONTINUE", "IDENTITY"]
    optionalDropMode

end Parser

end SqlWorkflow.Sql
