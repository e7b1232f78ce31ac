import SqlWorkflow.Action
import SqlWorkflow.AssertionSql
import SqlWorkflow.Settings

namespace SqlWorkflow

structure AssertionSpecs where
  uniqueKey : Option (List String) := none
  uniqueKeys : List (List String) := []
  nonNull : List String := []
  rowConditions : List String := []
deriving DecidableEq, Inhabited

namespace AssertionSpecs

def isEmpty (specs : AssertionSpecs) : Bool :=
  specs.uniqueKey.isNone && specs.uniqueKeys.isEmpty && specs.nonNull.isEmpty &&
    specs.rowConditions.isEmpty

def keySets (specs : AssertionSpecs) : List (List String) :=
  specs.uniqueKey.toList ++ specs.uniqueKeys

end AssertionSpecs

inductive DraftKind where
  | table (tableType : TableType) (query : String) (incrementalQuery : Option String)
      (uniqueKey preOps postOps : List String) (assertions : AssertionSpecs)
  | assertion (query : String) (parent : Option Target)
  | operation (queries : List String) (hasOutput : Bool)
  | declaration
deriving DecidableEq, Inhabited

structure Draft where
  fileName : String
  identity : Identity
  dependencies : List Target := []
  tags : List String := []
  disabled : Bool := false
  description : Option String := none
  hermeticity : Hermeticity := .hermetic
  kind : DraftKind
deriving DecidableEq, Inhabited

def DraftKind.actionKind : DraftKind → ActionKind
  | .table .. => .table
  | .assertion .. => .assertion
  | .operation .. => .operation
  | .declaration => .declaration

def Draft.actionKind (draft : Draft) : ActionKind :=
  draft.kind.actionKind

structure FileMessage where
  path : String
  message : String
deriving DecidableEq, Inhabited

inductive SpecKind where
  | uniqueKey
  | nonNull
  | rowConditions
deriving DecidableEq

def SpecKind.word : SpecKind → String
  | uniqueKey => "uniqueKey"
  | nonNull => "nonNull"
  | rowConditions => "rowConditions"

structure Spec where
  kind : SpecKind
  index : Nat
  items : List String
deriving DecidableEq

namespace AssertionSpecs

def single (kind : SpecKind) (items : List String) : List Spec :=
  if items.isEmpty then [] else [⟨kind, 0, items⟩]

def toList (specs : AssertionSpecs) : List Spec :=
  (specs.keySets.zipIdx.map fun entry => ⟨.uniqueKey, entry.2, entry.1⟩) ++
    single .nonNull specs.nonNull ++ single .rowConditions specs.rowConditions

end AssertionSpecs

namespace Spec

def query (spec : Spec) (table : String) : Except AssertionError String :=
  match spec.kind with
  | .uniqueKey => AssertionSql.uniqueKey table spec.items
  | .nonNull => AssertionSql.nonNull table spec.items
  | .rowConditions => AssertionSql.rowConditions table spec.items

-- The name of the assertion for a table. It tells the kind and place of the specification, so it
-- does not change with later ones.
def assertionName (spec : Spec) (parent : Target) : String :=
  parent.schema ++ "_" ++ parent.name ++ "_assertions_" ++ spec.kind.word ++ "_" ++
    toString spec.index

end Spec

structure Synthesis where
  drafts : List Draft := []
  errors : List FileMessage := []
deriving DecidableEq

namespace Synthesis

def append (a b : Synthesis) : Synthesis :=
  ⟨a.drafts ++ b.drafts, a.errors ++ b.errors⟩

def ofSpec (parent : Draft) (canonical : Target) (table : String) (spec : Spec) : Synthesis :=
  match spec.query table with
  | .error e => { errors := [⟨parent.fileName, e.message⟩] }
  | .ok query =>
      { drafts := [{
          fileName := parent.fileName
          identity := { name := spec.assertionName canonical }
          dependencies := [canonical]
          tags := parent.tags
          disabled := parent.disabled
          kind := .assertion query (some canonical) }] }

def ofDraft (settings : Settings) (parent : Draft) : Synthesis :=
  match parent.kind with
  | .table _ _ _ _ _ _ assertions =>
      let canonical := settings.canonicalTarget .table parent.identity
      let runtime := settings.runtimeTarget .table canonical
      let table := settings.effectiveWarehouse.quote runtime
      (assertions.toList.map (ofSpec parent canonical table)).foldl append {}
  | _ => {}

def ofDrafts (settings : Settings) (drafts : List Draft) : Synthesis :=
  (drafts.map (ofDraft settings)).foldl append {}

end Synthesis

end SqlWorkflow
