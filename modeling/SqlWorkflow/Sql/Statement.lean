import SqlWorkflow.Sql.Change
import SqlWorkflow.Sql.Define

namespace SqlWorkflow.Sql

namespace Parser

def setValues (level : Level) : Parser Unit :=
  commas (whole level)

def setting (level : Level) : Parser Unit := do
  let warehouse ← read
  optionalOneOf ["SESSION", "LOCAL", "GLOBAL"]
  if ← takeKeys ["TIME", "ZONE"] then
    let _ ← takeSign "=" <||> takeKey "TO"
    whole level
  else if ← takeKey "TRANSACTION" then modes
  else
    let several ← if warehouse = .postgres then pure false else takeSign "("
    if several then
      commas name
      expectSign ")"
    else object
    if !(← takeSign "=" <||> takeKey "TO") then unexpected
    if several then inBrackets (setValues level)
    else if warehouse = .snowflake then
      whole level
      repeated do
        if ← takeSign "," then
          object
          expectSign "="
          whole level
          return true
        else return false
    else setValues level
where
  modes : Parser Unit :=
    repeated do
      if ← takeKeys ["ISOLATION", "LEVEL"] then
        if !(← takeKeys ["REPEATABLE", "READ"]) then
          if ← takeKey "READ" then
            let _ ← expectOneOf ["UNCOMMITTED", "COMMITTED"]
          else
            let _ ← expectOneOf ["SERIALIZABLE", "SNAPSHOT"]
        let _ ← takeSign ","
        return true
      else if ← takeKeys ["READ", "ONLY"] <||> takeKeys ["READ", "WRITE"] then
        let _ ← takeSign ","
        return true
      else return false

def calling (level : Level) : Parser Unit := do
  object
  if ← nextIsSign "(" then call level

def optionalWork : Parser Unit := optionalOneOf ["TRANSACTION", "WORK"]

def optionalChain : Parser Unit := do
  if ← takeKey "AND" then
    optionalKeys ["NO"]
    expectKey "CHAIN"

def ending : Parser Unit := do
  optionalWork
  optionalChain

def rollingBack : Parser Unit := do
  ending
  if ← takeKey "TO" then
    optionalKeys ["SAVEPOINT"]
    name

def statementsUpTo (level : Level) (ends : List String) : Parser Unit :=
  repeated do
    match ← peek with
    | none => return false
    | some token =>
        if token.key?.any ends.contains then return false
        else
          level.statement
          expectSign ";"
          return true

def block (level : Level) : Parser Unit := do
  statementsUpTo level ["EXCEPTION", "END"]
  if ← takeKey "EXCEPTION" then
    repeated do
      if ← nextIsKey "END" then return false
      else
        expectKey "WHEN"
        repeated do
          if ← takeKey "THEN" then return false
          else
            name
            optionalKeys ["OR"]
            return true
        statementsUpTo level ["WHEN", "END"]
        return true
  expectKey "END"

def beginning (level : Level) : Parser Unit := do
  let transaction := match ← peek with
    | none => true
    | some (.sign ";") => true
    | some token => token.key?.any ["TRANSACTION", "WORK"].contains
  if transaction || (← read) == .postgres then
    optionalWork
    setting.modes
  else block level

def conditional (level : Level) : Parser Unit := do
  let branch := do
    whole level
    expectKey "THEN"
    statementsUpTo level ["ELSE", "ELSEIF", "END"]
  branch
  repeated do
    if ← takeKey "ELSEIF" then
      branch
      return true
    else return false
  if ← takeKey "ELSE" then statementsUpTo level ["END"]
  expectKeys ["END", "IF"]

def declaring (level : Level) : Parser Unit := do
  if (← read) != .bigQuery then unexpected
  commas name
  if ← takeKey "DEFAULT" then whole level
  else
    let _ ← dataType
    if ← takeKey "DEFAULT" then whole level

def executing (level : Level) : Parser Unit := do
  let immediate ← if (← read) == .postgres then pure false else takeKey "IMMEDIATE"
  if !immediate then object
  let bracketed ← takeSign "("
  let withoutArguments := if bracketed then nextIsSign ")" else do
    match ← peek with
    | none => return true
    | some (.sign ";") => return true
    | some token => return token.key? == some "USING"
  if !(← withoutArguments) then wholes level
  if bracketed then expectSign ")"
  if ← takeKey "INTO" then commas name
  if ← takeKey "USING" then commas (aliasedExpr level)

def explaining (level : Level) : Parser Unit := do
  if (← read) == .postgres && (← nextIsSign "(") then
    inBrackets <| commas do
      skip
      if !((← nextIsSign ",") || (← nextIsSign ")")) then skip
  else
    optionalKeys ["ANALYZE"]
    optionalKeys ["VERBOSE"]
    if ← takeKey "FORMAT" then
      let _ ← takeSign "="
      name
  if (← attempt level.statement).isNone then
    if (← read) == .snowflake then
      optionalOneOf ["EXTENDED", "FORMATTED"]
      optionalKeys ["TABLE"]
    else optionalOneOf ["EXTENDED", "FORMATTED"]
    relation

def anything : Parser Unit :=
  repeated do
    match ← peek with
    | none => return false
    | some token =>
        if token = .sign ";" || token = .sign "=" then return false
        else
          skip
          return true

def granting (key : String) : Parser Unit := do
  repeated do
    match ← peek with
    | none => return false
    | some token =>
        if token.key? == some key || token = .sign ";" then return false
        else
          skip
          return true
  expectKey key
  name
  anything

def commenting : Parser Unit := do
  ifPresent
  expectKey "ON"
  optionalKeys ["MATERIALIZED"]
  name
  object
  expectKey "IS"
  if !(← takeKey "NULL") then
    match ← peek with
    | some (.text _ _) => skip
    | _ => unexpected

def exporting (level : Level) : Parser Unit := do
  expectKey "DATA"
  if ← takeKeys ["WITH", "CONNECTION"] then object
  expectKey "OPTIONS"
  settings level
  expectKey "AS"
  level.query

def statementOf? (level : Level) (warehouse : Warehouse) (key : String) : Option (Parser Unit) :=
  match key with
  | "EXPLAIN" => some (explaining level)
  | "DESCRIBE" => some (explaining level)
  | "DESC" => some (explaining level)
  | "TRUNCATE" => some truncation
  | "CREATE" => some (creation level)
  | "ALTER" => some (altering level)
  | "DROP" => some dropping
  | "CALL" => some (calling level)
  | "SET" => some (setting level)
  | "SHOW" => some anything
  | "USE" => some do
      optionalOneOf ["DATABASE", "SCHEMA", "WAREHOUSE", "ROLE"]
      object
  | "GRANT" => some (granting "TO")
  | "REVOKE" => some (granting "FROM")
  | "START" => some do
      expectKey "TRANSACTION"
      setting.modes
  | "BEGIN" => some (beginning level)
  | "END" => some ending
  | "COMMIT" => some ending
  | "ROLLBACK" => some rollingBack
  | "SAVEPOINT" => some name
  | "RELEASE" => some do
      optionalKeys ["SAVEPOINT"]
      name
  | "IF" => some (conditional level)
  | "DECLARE" => some (declaring level)
  | "EXECUTE" => some (executing level)
  | "ASSERT" => some do
      whole level
      if ← takeKey "AS" then whole level
  | "ANALYZE" => some do
      optionalKeys ["TABLE"]
      relation
  | "COMMENT" => if warehouse = .bigQuery then none else some commenting
  | "EXPORT" => if warehouse = .bigQuery then some (exporting level) else none
  | key => change level key

def statement (level : Level) : Parser Unit := do
  match ← peek with
  | some (.sign "(") => level.query
  | some token =>
      match token.key? with
      | some key =>
          if ["SELECT", "WITH", "VALUES", "FROM"].contains key then level.query
          else match statementOf? level (← read) key with
            | some parser =>
                skip
                parser
            | none => unexpected
      | none => unexpected
  | none => unexpected

-- The parsers of a level. Those of the deepest level fail, since nothing fits into them.
def level : Nat → Level
  | 0 => ⟨fun _ => throw .tooDeep, throw .tooDeep, throw .tooDeep⟩
  | depth + 1 =>
      let inner := level depth
      ⟨expression inner, query inner (change inner), statement inner⟩

def maxDepth : Nat := 50

def statements : Nat → Nat → Parser Nat
  | 0, count => return count
  | bound + 1, count => do
      let separated ← takeSign ";"
      if separated then statements bound count
      else
        match ← peek with
        | none => return count
        | some _ =>
            (level maxDepth).statement
            match ← peek with
            | none => return count + 1
            | some (.sign ";") => statements bound (count + 1)
            | some token => if token.key? == some "END" then return count + 1 else unexpected

end Parser

structure Script where
  statements : Nat
  reads : Reads

inductive ReadError where
  | empty
  -- The place is missing if the text ends too early or is nested too deep.
  | malformed (spot : Option Spot)
deriving DecidableEq

def Script.ofText (warehouse : Warehouse) (text : String) : Except ReadError Script :=
  let text := Text.trim text
  if text.isEmpty then .error .empty
  else
    match tokenize warehouse text with
    | .error spot => .error (.malformed (some spot))
    | .ok tokens =>
        match Parser.statements (2 * tokens.length + 1) 0 warehouse { tokens } with
        | .ok (count, state) => .ok ⟨count, state.reads⟩
        | .error (.unexpected spot) => .error (.malformed spot)
        | .error .tooDeep => .error (.malformed none)

end SqlWorkflow.Sql
