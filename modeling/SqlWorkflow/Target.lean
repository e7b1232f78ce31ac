import SqlWorkflow.Text.Pieces
import SqlWorkflow.SortedMap

-- The canonical target of an action identifies it. Its runtime target carries the schema suffix of
-- the project and is what statements address.
namespace SqlWorkflow

-- A warehouse object. An absent database differs from every present one.
structure Target where
  database : Option String
  schema : String
  name : String
deriving DecidableEq, Inhabited

namespace Target

instance : Ord Target where
  compare := compareLex (compareOn database) (compareLex (compareOn schema) (compareOn name))

instance : Std.TransOrd Target :=
  inferInstanceAs (Std.TransCmp (compareLex (compareOn database)
    (compareLex (compareOn schema) (compareOn name))))

theorem eq_of_compare {a b : Target} (same : compare a b = .eq) : a = b := by
  obtain ⟨databases, schemas, names⟩ :
      compareOn database a b = .eq ∧ compareOn schema a b = .eq ∧ compareOn name a b = .eq := by
    simpa [compare, compareLex, Ordering.then_eq_eq] using same
  cases a; cases b
  simp only [compareOn, Std.LawfulEqCmp.compare_eq_iff_eq] at databases schemas names
  simp_all

instance : Std.LawfulEqOrd Target where
  eq_of_compare := eq_of_compare

def parts (target : Target) : List String :=
  target.database.toList ++ [target.schema, target.name]

def display (target : Target) : String :=
  Text.join "." target.parts

def withSuffix (target : Target) : Option String → Target
  | none => target
  | some suffix =>
      if suffix = "" then target else { target with schema := target.schema ++ "_" ++ suffix }

def matchesParts (target : Target) : List String → Bool
  | [name] => target.name = name
  | [schema, name] => target.schema = schema ∧ target.name = name
  | [database, schema, name] =>
      target.database = some database ∧ target.schema = schema ∧ target.name = name
  | _ => false

theorem with_suffix_database (target : Target) (suffix : Option String) :
    (target.withSuffix suffix).database = target.database := by
  unfold withSuffix
  split
  · rfl
  · split <;> rfl

theorem with_suffix_name (target : Target) (suffix : Option String) :
    (target.withSuffix suffix).name = target.name := by
  unfold withSuffix
  split
  · rfl
  · split <;> rfl

end Target

inductive ActionKind where
  | table
  | assertion
  | operation
  | declaration
deriving DecidableEq, Inhabited

namespace ActionKind

def word : ActionKind → String
  | table => "table"
  | assertion => "assertion"
  | operation => "operation"
  | declaration => "declaration"

end ActionKind

structure Identity where
  name : String
  schema : Option String := none
  database : Option String := none
deriving DecidableEq, Inhabited

end SqlWorkflow
