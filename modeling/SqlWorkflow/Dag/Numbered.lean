import SqlWorkflow.Dag

namespace SqlWorkflow

structure Arrow where
  dependency : Nat
  dependent : Nat
deriving DecidableEq

structure NumberedDag where
  targets : List Target := []
  arrows : List Arrow := []
  numbers : SortedMap Target Nat := ∅
deriving DecidableEq

namespace NumberedDag

def addAction (dag : NumberedDag) (target : Target) : Nat × NumberedDag :=
  match dag.numbers.get? target with
  | some number => (number, dag)
  | none =>
      (dag.targets.length, { dag with
        targets := dag.targets ++ [target]
        numbers := dag.numbers.insert target dag.targets.length })

def addDependency (dag : NumberedDag) (dependent dependency : Target) : NumberedDag :=
  let first := dag.addAction dependent
  let second := first.2.addAction dependency
  let arrow : Arrow := { dependency := second.1, dependent := first.1 }
  if arrow ∈ second.2.arrows then second.2
  else { second.2 with arrows := second.2.arrows ++ [arrow] }

end NumberedDag

end SqlWorkflow
