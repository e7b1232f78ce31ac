import SqlWorkflow.Settings

namespace SqlWorkflow

inductive Reference where
  | name (name : String)
  | schemaName (schema name : String)
  | full (database schema name : String)
deriving DecidableEq

namespace Reference

def ofParts? (parts : List String) : Option Reference :=
  if parts.contains "" then none
  else match parts with
    | [n] => some (.name n)
    | [s, n] => some (.schemaName s n)
    | [d, s, n] => some (.full d s n)
    | _ => none

def dottedParts (dotted : String) : List String :=
  (Text.split '.' dotted).map Text.trim

def parse? (dotted : String) : Option Reference :=
  ofParts? (dottedParts dotted)

def parts : Reference → List String
  | .name n => [n]
  | .schemaName s n => [s, n]
  | .full d s n => [d, s, n]

def database? : Reference → Option String
  | .full d _ _ => some d
  | _ => none

def schema? : Reference → Option String
  | .name _ => none
  | .schemaName s _ => some s
  | .full _ s _ => some s

def lastName : Reference → String
  | .name n => n
  | .schemaName _ n => n
  | .full _ _ n => n

def display (reference : Reference) : String :=
  Text.join "." reference.parts

theorem of_parts_parts (parts : List String) (reference : Reference)
    (found : ofParts? parts = some reference) : reference.parts = parts := by
  unfold ofParts? at found
  split at found
  · cases found
  · split at found <;> cases found <;> rfl

end Reference

inductive Resolution where
  | found (canonical runtime : Target)
  | missing (canonical runtime : Target)
  | ambiguous (candidates : List Target)
deriving DecidableEq

-- The declared targets with their kinds. The kind given first for a target stays.
structure NameTable where
  settings : Settings
  entries : SortedMap Target ActionKind := ∅

namespace NameTable

def insert (names : NameTable) (kind : ActionKind) (canonical : Target) : NameTable :=
  if (names.entries.get? canonical).isSome then names
  else { names with entries := names.entries.insert canonical kind }

def ofList (settings : Settings) (declared : List (ActionKind × Target)) : NameTable :=
  declared.foldl (fun names entry => names.insert entry.1 entry.2) { settings }

def size (names : NameTable) : Nat :=
  names.entries.toList.length

def matching (names : NameTable) (reference : Reference) : List (Target × ActionKind) :=
  names.entries.toList.filter fun entry => entry.1.matchesParts reference.parts

def placeholder (settings : Settings) (reference : Reference) : Target where
  database := reference.database? <|> settings.defaultDatabase
  schema := reference.schema?.getD settings.effectiveSchema
  name := reference.lastName

def resolve (names : NameTable) (reference : Reference) : Resolution :=
  match names.matching reference with
  | [(canonical, kind)] => .found canonical (names.settings.runtimeTarget kind canonical)
  | [] =>
      let canonical := placeholder names.settings reference
      .missing canonical (names.settings.runtimeTarget .table canonical)
  | several => .ambiguous (several.map Prod.fst)

end NameTable

end SqlWorkflow
