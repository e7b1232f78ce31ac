import SqlWorkflow.Target

namespace SqlWorkflow

inductive TableType where
  | table
  | view
  | incremental
deriving DecidableEq, Inhabited

namespace TableType

def word : TableType → String
  | table => "table"
  | view => "view"
  | incremental => "incremental"

def ofWord? : String → Option TableType
  | "table" => some table
  | "view" => some view
  | "incremental" => some incremental
  | _ => none

def capitals : TableType → String
  | table => "TABLE"
  | view => "VIEW"
  | incremental => "INCREMENTAL"

def ofCapitals? : String → Option TableType
  | "TABLE" => some table
  | "VIEW" => some view
  | "INCREMENTAL" => some incremental
  | _ => none

theorem of_word_word (tableType : TableType) : ofWord? tableType.word = some tableType := by
  cases tableType <;> rfl

theorem of_capitals_capitals (tableType : TableType) :
    ofCapitals? tableType.capitals = some tableType := by
  cases tableType <;> rfl

end TableType

inductive Hermeticity where
  | hermetic
  | nonHermetic
deriving DecidableEq, Inhabited

namespace Hermeticity

def word : Hermeticity → String
  | hermetic => "HERMETIC"
  | nonHermetic => "NON_HERMETIC"

def ofWord? : String → Option Hermeticity
  | "HERMETIC" => some hermetic
  | "NON_HERMETIC" => some nonHermetic
  | _ => none

theorem of_word_word (hermeticity : Hermeticity) : ofWord? hermeticity.word = some hermeticity := by
  cases hermeticity <;> rfl

end Hermeticity

structure ActionMeta where
  fileName : String
  target : Target
  canonicalTarget : Target
  dependencyTargets : List Target := []
  disabled : Bool := false
  tags : List String := []
  hermeticity : Hermeticity := .hermetic
  description : Option String := none
deriving DecidableEq, Inhabited

structure Table where
  tableType : TableType
  enumType : TableType
  common : ActionMeta
  query : String
  incrementalQuery : Option String := none
  uniqueKey : List String := []
  preOps : List String := []
  postOps : List String := []
deriving DecidableEq, Inhabited

structure Assertion where
  common : ActionMeta
  query : String
  parentAction : Option Target := none
deriving DecidableEq, Inhabited

structure Operation where
  common : ActionMeta
  queries : List String
  hasOutput : Bool := false
deriving DecidableEq, Inhabited

structure Declaration where
  fileName : String
  target : Target
  canonicalTarget : Target
  description : Option String := none
deriving DecidableEq, Inhabited

inductive Action where
  | table (table : Table)
  | assertion (assertion : Assertion)
  | operation (operation : Operation)
  | declaration (declaration : Declaration)
deriving DecidableEq

namespace Action

def kind : Action → ActionKind
  | .table _ => .table
  | .assertion _ => .assertion
  | .operation _ => .operation
  | .declaration _ => .declaration

def common? : Action → Option ActionMeta
  | .table t => some t.common
  | .assertion a => some a.common
  | .operation o => some o.common
  | .declaration _ => none

def canonicalTarget : Action → Target
  | .table t => t.common.canonicalTarget
  | .assertion a => a.common.canonicalTarget
  | .operation o => o.common.canonicalTarget
  | .declaration d => d.canonicalTarget

def target : Action → Target
  | .table t => t.common.target
  | .assertion a => a.common.target
  | .operation o => o.common.target
  | .declaration d => d.target

def fileName : Action → String
  | .table t => t.common.fileName
  | .assertion a => a.common.fileName
  | .operation o => o.common.fileName
  | .declaration d => d.fileName

def dependencyTargets (action : Action) : List Target :=
  (action.common?.map ActionMeta.dependencyTargets).getD []

def disabled (action : Action) : Bool :=
  action.common?.any ActionMeta.disabled

def tags (action : Action) : List String :=
  (action.common?.map ActionMeta.tags).getD []

def hermeticity (action : Action) : Hermeticity :=
  (action.common?.map ActionMeta.hermeticity).getD .hermetic

def runnable (action : Action) : Bool :=
  action.kind ≠ .declaration

def enabled (action : Action) : Bool :=
  action.runnable && !action.disabled

end Action

end SqlWorkflow
