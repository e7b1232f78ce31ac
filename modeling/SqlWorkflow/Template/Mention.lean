import SqlWorkflow.Reference

namespace SqlWorkflow

inductive TemplateError where
  | unrenderable
  | ambiguousReference (reference : String) (candidates : List Target)
  | invalidReference (reference : String)
deriving DecidableEq

def TemplateError.message : TemplateError → String
  | unrenderable => "[T001] Template render error: the template cannot be rendered"
  | ambiguousReference reference candidates =>
      "[T002] Ambiguous reference '" ++ reference ++ "': matches " ++
        Text.join ", " (candidates.map Target.display) ++ ". Qualify it with a schema"
  | invalidReference reference =>
      "[T003] Invalid reference '" ++ reference ++
        "': expected name, schema.name, or database.schema.name"

-- The canonical and the runtime target of a reference. One without a match has targets too, so that
-- the missing action is reported with all others.
def NameTable.targets (names : NameTable) (reference : Reference) :
    Except TemplateError (Target × Target) :=
  match names.resolve reference with
  | .found canonical runtime => .ok (canonical, runtime)
  | .missing canonical runtime => .ok (canonical, runtime)
  | .ambiguous candidates => .error (.ambiguousReference reference.display candidates)

namespace Template

structure Mention where
  dependency : Option Target
  runtime : Target
deriving DecidableEq

def dependencies (mentions : List Mention) : SortedSet Target :=
  .ofList (mentions.filterMap Mention.dependency)

def referenced (mentions : List Mention) : SortedSet Target :=
  .ofList (mentions.map Mention.runtime)

def refer (names : NameTable) (registers : Bool) (parts : List String) :
    Except TemplateError Mention :=
  match Reference.ofParts? parts with
  | none => .error (.invalidReference (Text.join "." parts))
  | some reference =>
      (names.targets reference).map fun targets =>
        ⟨if registers then some targets.1 else none, targets.2⟩

def Mention.text (names : NameTable) (mention : Mention) : String :=
  names.settings.effectiveWarehouse.quote mention.runtime

end Template

end SqlWorkflow
