import SqlWorkflow.Sql.Parser

namespace SqlWorkflow.Sql

inductive TypeKind where
  | known
  | interval
  | custom
deriving DecidableEq

namespace Parser

def wholeNumber : Parser Unit := do
  match ← peek with
  | some (.number text) => if text.toList.all Char.isDigit then skip else unexpected
  | _ => unexpected

def optionalPrecision : Parser Unit := optionalBrackets wholeNumber

def optionalScale : Parser Unit :=
  optionalBrackets do
    wholeNumber
    if ← takeSign "," then
      let _ ← takeSign "-"
      wholeNumber

def optionalLength : Parser Unit :=
  optionalBrackets do
    if !(← takeKey "MAX") then
      wholeNumber
      optionalOneOf ["CHARACTERS", "OCTETS"]

def optionalZone : Parser Unit := do
  if (← takeOneOf ["WITH", "WITHOUT"]).isSome then expectKeys ["TIME", "ZONE"]

def optionalModifiers : Parser Unit :=
  optionalBrackets <| commas do
    match ← peek with
    | some (.word _ _ _) => skip
    | some (.number _) => skip
    | some (.text .single _) => skip
    | _ => unexpected

def plainTypes : List String :=
  ["BOOLEAN", "BOOL", "REAL", "FLOAT4", "FLOAT8", "FLOAT32", "FLOAT64", "INT16", "INT32", "INT64",
    "INT128", "INT256", "UINT8", "UINT16", "UINT32", "UINT64", "UINT128", "UINT256", "HUGEINT",
    "UHUGEINT", "UUID", "DATE", "DATE32", "JSON", "JSONB", "REGCLASS", "TEXT", "TINYTEXT",
    "MEDIUMTEXT", "LONGTEXT", "TINYBLOB", "MEDIUMBLOB", "LONGBLOB", "BYTEA", "TSVECTOR", "TSQUERY",
    "TRIGGER"]

def measuredTypes : List String :=
  ["BINARY", "VARBINARY", "BLOB", "CLOB", "BYTES", "STRING", "DATETIME", "TIMESTAMP_NTZ"]

def wholeTypes : List String :=
  ["TINYINT", "INT2", "SMALLINT", "MEDIUMINT", "INT", "INT4", "INT8", "INTEGER", "BIGINT"]

def scaledTypes : List String :=
  ["FLOAT", "NUMERIC", "DECIMAL", "DEC", "BIGNUMERIC", "BIGDECIMAL"]

def namesType (key : String) : Bool :=
  [plainTypes, measuredTypes, wholeTypes, scaledTypes, ["DOUBLE", "VARCHAR", "NVARCHAR", "CHARACTER",
    "CHAR", "BIT", "VARBIT", "TIMESTAMP", "TIMESTAMPTZ", "TIME", "TIMETZ", "INTERVAL", "ARRAY",
    "STRUCT", "ENUM", "SET"]].any (·.contains key)

-- The end of the types inside of another one. A double sign can end two.
def closeAngle (ended : Bool) : Parser Bool := do
  if ended then return false
  else if ← takeSign ">" then return false
  else do
    expectSign ">>"
    return true

def texts : Parser Unit :=
  commas do
    match ← peek with
    | some (.text .single _) => skip
    | _ => unexpected

def typeWithin : Nat → Parser (TypeKind × Bool)
  | 0 => unexpected
  | bound + 1 => do
      let warehouse ← read
      let key := (← peekKey).getD ""
      let (kind, ended) ←
        if plainTypes.contains key then do skip; pure (TypeKind.known, false)
        else if measuredTypes.contains key then do skip; optionalPrecision; pure (.known, false)
        else if wholeTypes.contains key then do
          skip
          optionalPrecision
          optionalOneOf ["UNSIGNED", "SIGNED"]
          pure (.known, false)
        else if scaledTypes.contains key then do skip; optionalScale; pure (.known, false)
        else match key with
          | "DOUBLE" => do
              skip
              if !(← takeKey "PRECISION") then optionalScale
              pure (.known, false)
          | "VARCHAR" => do skip; optionalLength; pure (.known, false)
          | "NVARCHAR" => do skip; optionalLength; pure (.known, false)
          | "CHARACTER" => characters
          | "CHAR" => characters
          | "BIT" => do skip; optionalKeys ["VARYING"]; optionalPrecision; pure (.known, false)
          | "VARBIT" => do skip; optionalPrecision; pure (.known, false)
          | "TIMESTAMP" => do skip; optionalPrecision; optionalZone; pure (.known, false)
          | "TIMESTAMPTZ" => do skip; optionalPrecision; pure (.known, false)
          | "TIME" => do skip; optionalPrecision; optionalZone; pure (.known, false)
          | "TIMETZ" => do skip; optionalPrecision; pure (.known, false)
          | "INTERVAL" => do skip; pure (.interval, false)
          | "ARRAY" => do
              skip
              if warehouse = .snowflake then pure (.known, false)
              else
                expectSign "<"
                pure (.known, ← closeAngle (← typeWithin bound).2)
          | "STRUCT" =>
              if warehouse = .bigQuery then do
                skip
                pure (.known, ← fields bound)
              else custom
          | "ENUM" => do skip; inBrackets texts; pure (.known, false)
          | "SET" => do skip; inBrackets texts; pure (.known, false)
          | _ => custom
      if warehouse = .postgres then
        repeated do
          if ← takeSign "[" then
            let _ ← attempt wholeNumber
            expectSign "]"
            return true
          else return false
      return (kind, ended)
where
  characters : Parser (TypeKind × Bool) := do
    skip
    if !(← takeKeys ["LARGE", "OBJECT"]) then optionalKeys ["VARYING"]
    optionalLength
    return (.known, false)
  custom : Parser (TypeKind × Bool) := do
    object
    optionalModifiers
    return (.custom, false)
  fields : Nat → Parser Bool
    | 0 => unexpected
    | bound + 1 => do
        if !(← takeSign "<") then return false
        closeAngle (← moreFields bound)
  moreFields : Nat → Parser Bool
    | 0 => unexpected
    | bound + 1 => do
        let next ← peekAt 1
        if next.any Token.isWord then name
        let (_, ended) ← typeWithin bound
        if ← pure !ended <&&> takeSign "," then moreFields bound else return ended

def dataType : Parser TypeKind := do
  let (kind, ended) ← typeWithin (2 * (← get).tokens.length + 2)
  if ended then unexpected else return kind

end Parser

end SqlWorkflow.Sql
