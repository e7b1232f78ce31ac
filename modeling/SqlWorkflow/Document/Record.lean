import SqlWorkflow.Document.Value
import SqlWorkflow.Error

-- Entries are read in their order and the first fault ends the reading, so that of two faults the
-- earlier one is reported.
namespace SqlWorkflow

abbrev Reading (α : Type) := Except DocumentFault α

namespace Document

variable {α : Type}

abbrev Intake (α : Type) := String → Document → α → Option (Reading α)

def takeFields (name? : Document → Option String) (intake : Intake α) :
    List String → α → List (Document × Document) → Reading α
  | _, record, [] => .ok record
  | seen, record, (key, value) :: entries =>
      match name? key with
      | none => .error .malformed
      | some name =>
          match intake name value record with
          | none => .error (.unknownField name)
          | some result =>
              if seen.contains name then .error .malformed
              else result.bind fun record => takeFields name? intake (name :: seen) record entries

-- Only strings are read as text, and only booleans as flags. Tags do not matter, except that a
-- tagged null is not absent.
def textValue? (document : Document) : Option String :=
  match document.untagged with
  | .scalar text .text => some text
  | _ => none

def textValue (document : Document) : Reading String :=
  match document.textValue? with
  | some text => .ok text
  | none => .error .malformed

def flagValue (document : Document) : Reading Bool :=
  match document.untagged with
  | .scalar _ (.bool value) => .ok value
  | _ => .error .malformed

def listValue (item : Document → Reading α) (document : Document) : Reading (List α) :=
  match document.untagged with
  | .sequence items => items.mapM item
  | .scalar _ .null => .ok []
  | _ => .error .malformed

def textsValue : Document → Reading (List String) :=
  listValue textValue

def optionalValue (content : Document → Reading α) : Document → Reading (Option α)
  | .scalar _ .null => .ok none
  | document => (content document).map some

def recordValue (intake : Intake α) (empty : α) (document : Document) : Reading α :=
  match document.untagged with
  | .mapping entries => takeFields textValue? intake [] empty entries
  | .scalar _ .null => .ok empty
  | _ => .error .malformed

end Document

end SqlWorkflow
