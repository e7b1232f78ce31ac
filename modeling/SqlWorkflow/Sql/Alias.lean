import SqlWorkflow.Sql.Parser

-- A word that starts the next clause is no alias. Snowflake takes most of those words too, unless
-- the token after them makes a clause.
namespace SqlWorkflow.Sql

namespace Alias

def neither : List String :=
  ["WITH", "EXPLAIN", "ANALYZE", "SELECT", "WHERE", "GROUP", "SORT", "HAVING", "ORDER", "TOP",
    "LATERAL", "VIEW", "LIMIT", "OFFSET", "FETCH", "UNION", "EXCEPT", "INTERSECT", "MINUS", "CLUSTER",
    "DISTRIBUTE", "RETURNING", "FROM"]

def notTable : List String :=
  neither ++ ["PIVOT", "UNPIVOT", "ON", "JOIN", "INNER", "CROSS", "FULL", "LEFT", "RIGHT", "NATURAL",
    "USING", "GLOBAL", "ANTI", "SEMI", "OUTPUT", "ASOF", "MATCH_CONDITION", "OUTER", "SET", "QUALIFY",
    "WINDOW", "END", "FOR", "PARTITION", "PREWHERE", "SETTINGS", "FORMAT", "START", "CONNECT",
    "MATCH_RECOGNIZE", "SAMPLE", "TABLESAMPLE", "OPEN"]

def notColumn : List String :=
  neither ++ ["EXCLUDE", "VALUES", "INTO", "END"]

def notColumnOfBigQuery : List String :=
  ["WITH", "SELECT", "WHERE", "GROUP", "HAVING", "ORDER", "LATERAL", "LIMIT", "FETCH", "UNION",
    "EXCEPT", "INTERSECT", "FROM", "INTO", "END"]

def notColumnOfSnowflake : List String :=
  ["FROM", "GROUP", "HAVING", "INTERSECT", "INTO", "MINUS", "ORDER", "SELECT", "UNION", "WHERE",
    "WITH"]

def notTableOfSnowflake : List String :=
  ["WITH", "ORDER", "SELECT", "WHERE", "GROUP", "HAVING", "LATERAL", "UNION", "INTERSECT", "MINUS",
    "ON", "JOIN", "INNER", "CROSS", "FULL", "LEFT", "RIGHT", "NATURAL", "USING", "ASOF",
    "MATCH_CONDITION", "SET", "QUALIFY", "FOR", "START", "CONNECT", "SAMPLE", "TABLESAMPLE", "FROM"]

def limits : Option Token → Bool
  | some (.number _) => true
  | some (.placeholder _) => true
  | some (.text _ value) => value.isEmpty
  | some token => token.key? == some "NULL"
  | none => false

def nextIsOneOf (next : Option Token) (keys : List String) : Bool :=
  (next.bind Token.key?).any keys.contains

def startsLimit (key : String) (next : Option Token) : Bool :=
  (["LIMIT", "OFFSET", "FETCH"].contains key && limits next) ||
    (key == "FETCH" && nextIsOneOf next ["FIRST", "NEXT"])

def isColumn (warehouse : Warehouse) (key : String) (next : Option Token) : Bool :=
  match warehouse with
  | .bigQuery => !notColumnOfBigQuery.contains key
  | .postgres => !notColumn.contains key
  | .snowflake =>
      let ended := next == some (.sign ",") || next == none
      !(notColumnOfSnowflake.contains key || startsLimit key next ||
        (["EXCEPT", "RETURNING"].contains key && !ended))

def isTable (warehouse : Warehouse) (key : String) (next : Option Token) : Bool :=
  match warehouse with
  | .snowflake =>
      let ended := next == some (.sign ";") || next == none
      !(notTableOfSnowflake.contains key || startsLimit key next ||
        (["RETURNING", "PIVOT", "UNPIVOT", "EXCEPT", "MATCH_RECOGNIZE"].contains key && !ended) ||
        (["SEMI", "ANTI"].contains key && nextIsOneOf next ["JOIN", "OUTER"]) ||
        (key == "GLOBAL" && nextIsOneOf next ["FULL"]))
  | _ => !notTable.contains key

end Alias

namespace Parser

def optionalAlias (allowed : Warehouse → String → Option Token → Bool) : Parser Bool := do
  let explicit ← takeKey "AS"
  match ← peek with
  | some (.word _ quoted key) =>
      if explicit || quoted || allowed (← read) key (← peekAt 1) then skip; return true
      else return false
  | some (.text .single _) => skip; return true
  | some (.text .double _) => skip; return true
  | _ => if explicit then unexpected else return false

def endsList (goesOn : Warehouse → String → Option Token → Bool) : Parser Bool := do
  match ← peek with
  | none => return true
  | some (.word _ quoted key) =>
      return !quoted && !goesOn (← read) key (← peekAt 1)
  | some (.sign text) => return [")", ";", "]", "\x7d"].contains text
  | _ => return false

-- Items with commas between them. Some warehouses allow one more comma at the end.
def commasUpTo (goesOn : Warehouse → String → Option Token → Bool) (trailing : List Warehouse)
    (item : Parser Unit) : Parser Unit :=
  repeated do
    item
    if ← takeSign "," then
      return !(trailing.contains (← read) && (← endsList goesOn))
    else return false

end Parser

end SqlWorkflow.Sql
