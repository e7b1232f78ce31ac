import SqlWorkflow.Text.Blank
import SqlWorkflow.Text.Pieces

-- Each query returns the rows that violate its assertion, which passes when there are none.
namespace SqlWorkflow

inductive AssertionError where
  | emptyColumns (kind table : String)
  | emptyCondition (index : Nat) (table : String)
deriving DecidableEq

def AssertionError.message : AssertionError → String
  | emptyColumns kind table =>
      "[A001] Assertion '" ++ kind ++ "' on " ++ table ++ " has an empty column list"
  | emptyCondition index table =>
      "[A002] Row condition " ++ toString index ++ " on " ++ table ++ " is empty"

namespace AssertionSql

def usedColumns (columns : List String) : List String :=
  (columns.map Text.trim).filter (· ≠ "")

def uniqueKey (table : String) (columns : List String) : Except AssertionError String :=
  match usedColumns columns with
  | [] => .error (.emptyColumns "uniqueKey" table)
  | used =>
      let key := Text.join ", " used
      .ok ("select " ++ key ++ ", count(1) as row_count\nfrom " ++ table ++ "\ngroup by " ++ key ++
        "\nhaving count(1) > 1")

def nonNull (table : String) (columns : List String) : Except AssertionError String :=
  match usedColumns columns with
  | [] => .error (.emptyColumns "nonNull" table)
  | used =>
      .ok ("select * from " ++ table ++ " where " ++
        Text.join " or " (used.map (· ++ " is null")))

-- Backslashes come first, since a warehouse may let one take the quote behind it.
def escape (text : List Char) : List Char :=
  Text.replaceChar '\'' ['\'', '\''] (Text.replaceChar '\\' ['\\', '\\'] text)

def literal (text : String) : String :=
  String.ofList ('\'' :: escape text.toList ++ ['\''])

def conditionSelect (table condition : String) : String :=
  "select " ++ literal condition ++ " as failing_row_condition, * from " ++ table ++
    " where not (" ++ condition ++ ")"

def conditionSelects (table : String) : Nat → List String → Except AssertionError (List String)
  | _, [] => .ok []
  | index, condition :: rest =>
      let condition := Text.trim condition
      if condition = "" then .error (.emptyCondition index table)
      else do
        let selects ← conditionSelects table (index + 1) rest
        return conditionSelect table condition :: selects

def rowConditions (table : String) (conditions : List String) : Except AssertionError String :=
  (conditionSelects table 0 conditions).map (Text.join "\nunion all\n")

end AssertionSql

end SqlWorkflow
