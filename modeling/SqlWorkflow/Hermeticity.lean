import SqlWorkflow.Action
import SqlWorkflow.Sql.Statement

namespace SqlWorkflow

namespace Hermeticity

def lowerParts (target : Target) : List String :=
  target.parts.map Text.lower

def addresses (parts : List String) (target : Target) : Bool :=
  !parts.isEmpty && parts.isSuffixOf (lowerParts target)

-- Whether some SQL reads a relation that is none of the given targets. SQL that cannot be read
-- shows no such relation.
def readsOthers (warehouse : Warehouse) (referenced : List Target) (sql : String) : Bool :=
  match Sql.Script.ofText warehouse sql with
  | .error _ => false
  | .ok script => script.reads.external.any fun parts => !referenced.any (addresses parts)

def infer (warehouse : Warehouse) (statements : List String) (referenced : List Target) :
    Hermeticity :=
  if statements.any (readsOthers warehouse referenced) then .nonHermetic else .hermetic

end Hermeticity

end SqlWorkflow
