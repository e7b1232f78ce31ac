import SqlWorkflow.Draft

namespace SqlWorkflow

structure ActionOptions where
  name : Option String := none
  schema : Option String := none
  database : Option String := none
  tags : List String := []
  dependencies : List String := []
  disabled : Bool := false
  description : Option String := none
  -- Stands in place of what the queries say.
  hermetic : Option Bool := none
deriving DecidableEq, Inhabited

structure DeclarationOptions where
  name : Option String := none
  schema : Option String := none
  database : Option String := none
  description : Option String := none
deriving DecidableEq, Inhabited

inductive ConfigBlock where
  | table (tableType : TableType) (options : ActionOptions) (assertions : AssertionSpecs)
      (uniqueKey : List String)
  | assertion (options : ActionOptions)
  | operation (options : ActionOptions) (hasOutput : Bool)
  | declaration (options : DeclarationOptions)
deriving DecidableEq

namespace ConfigBlock

-- A definition without a config block is an operation.
instance : Inhabited ConfigBlock := ⟨operation {} false⟩

def options? : ConfigBlock → Option ActionOptions
  | table _ options _ _ => some options
  | assertion options => some options
  | operation options _ => some options
  | declaration _ => none

def declaredName : ConfigBlock → Option String
  | declaration options => options.name
  | config => config.options?.bind ActionOptions.name

def declaredSchema : ConfigBlock → Option String
  | declaration options => options.schema
  | config => config.options?.bind ActionOptions.schema

def declaredDatabase : ConfigBlock → Option String
  | declaration options => options.database
  | config => config.options?.bind ActionOptions.database

def description : ConfigBlock → Option String
  | declaration options => options.description
  | config => config.options?.bind ActionOptions.description

def tableType? : ConfigBlock → Option TableType
  | table tableType _ _ _ => some tableType
  | _ => none

def actionKind : ConfigBlock → ActionKind
  | table .. => .table
  | assertion _ => .assertion
  | operation .. => .operation
  | declaration _ => .declaration

end ConfigBlock

end SqlWorkflow
