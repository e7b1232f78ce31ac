import SqlWorkflow.Target

namespace SqlWorkflow

inductive Warehouse where
  | bigQuery
  | snowflake
  | postgres
deriving DecidableEq, Inhabited

namespace Warehouse

def word : Warehouse → String
  | bigQuery => "bigquery"
  | snowflake => "snowflake"
  | postgres => "postgres"

def ofWord? : String → Option Warehouse
  | "bigquery" => some bigQuery
  | "snowflake" => some snowflake
  | "postgres" => some postgres
  | _ => none

theorem of_word_word (warehouse : Warehouse) : ofWord? warehouse.word = some warehouse := by
  cases warehouse <;> rfl

def replacesTables : Warehouse → Bool
  | postgres => false
  | _ => true

def quoteDouble (text : List Char) : List Char :=
  '"' :: Text.replaceChar '"' ['"', '"'] text ++ ['"']

def quoteBack (text : List Char) : List Char :=
  '\x60' :: Text.replaceChar '\x60' ['\\', '\x60'] text ++ ['\x60']

def quoteParts (parts : List String) : String :=
  String.ofList (Text.joinWith ['.'] (parts.map fun part => quoteDouble part.toList))

-- The relation name of a target. PostgreSQL cannot address another database, so its names leave the
-- database out.
def quote (warehouse : Warehouse) (target : Target) : String :=
  match warehouse with
  | bigQuery => String.ofList (quoteBack target.display.toList)
  | snowflake => quoteParts target.parts
  | postgres => quoteParts [target.schema, target.name]

end Warehouse

end SqlWorkflow
