import SqlWorkflow.Command

-- Arguments are taken from left to right, and the first fault ends the reading.
namespace SqlWorkflow

inductive UsageError where
  | missingCommand
  | unknownCommand (name : String)
  | unknownOption (text : String)
  | repeatedOption (name : String)
  | missingValue (name : String)
  | unexpectedValue (name : String)
  | refusedValue (name value : String)
  | unexpectedOperand (text : String)
deriving DecidableEq

def UsageError.message : UsageError → String
  | missingCommand => "a command is required"
  | unknownCommand name => "unknown command '" ++ name ++ "'"
  | unknownOption text => "unknown option '" ++ text ++ "'"
  | repeatedOption name => "option '--" ++ name ++ "' cannot be given more than once"
  | missingValue name => "option '--" ++ name ++ "' needs a value"
  | unexpectedValue name => "option '--" ++ name ++ "' takes no value"
  | refusedValue name value => "'" ++ value ++ "' is no value for '" ++ name ++ "'"
  | unexpectedOperand text => "unexpected argument '" ++ text ++ "'"

variable {α β : Type}

inductive OptionEffect (α : Type) where
  | flag (set : α → α)
  | value (label : String) (set : String → α → Option α)
  | answer (request : Request)

structure CommandOption (α : Type) where
  name : String
  letter : Option Char := none
  repeats : Bool := false
  effect : OptionEffect α
  description : String

def CommandOption.within (get : β → α) (put : α → β → β) (option : CommandOption α) :
    CommandOption β where
  name := option.name
  letter := option.letter
  repeats := option.repeats
  description := option.description
  effect := match option.effect with
    | .flag set => .flag fun flags => put (set (get flags)) flags
    | .value label set =>
        .value label fun text flags => (set text (get flags)).map fun part => put part flags
    | .answer request => .answer request

structure Given (α : Type) where
  flags : α
  names : List String := []
  waiting : Option (CommandOption α) := none

inductive Progress (α : Type) where
  | going (given : Given α)
  | answered (request : Request)

namespace Given

def giveValue (option : CommandOption α) (text : String) (given : Given α) :
    Except UsageError (Given α) :=
  match option.effect with
  | .value _ set =>
      match set text given.flags with
      | some flags => .ok { given with flags, waiting := none }
      | none => .error (.refusedValue option.name text)
  | _ => .error (.unexpectedValue option.name)

def giveOption (option : CommandOption α) (attached : Option String) (given : Given α) :
    Except UsageError (Progress α) :=
  if option.name ∈ given.names && !option.repeats then .error (.repeatedOption option.name)
  else
    let given := { given with names := option.name :: given.names }
    match option.effect, attached with
    | .flag set, none => .ok (.going { given with flags := set given.flags })
    | .answer request, none => .ok (.answered request)
    | .value _ _, none => .ok (.going { given with waiting := some option })
    | _, some text => (given.giveValue option text).map .going

def giveLong (options : List (CommandOption α)) (text : List Char) (given : Given α) :
    Except UsageError (Progress α) :=
  let (name, attached) := match Text.splitFirst '=' text with
    | some (name, value) => (String.ofList name, some (String.ofList value))
    | none => (String.ofList text, none)
  match options.find? (·.name == name) with
  | some option => given.giveOption option attached
  | none => .error (.unknownOption ("--" ++ name))

def attachedValue : List Char → Option String
  | [] => none
  | '=' :: value => some (String.ofList value)
  | value => some (String.ofList value)

def giveLetters (options : List (CommandOption α)) : List Char → Given α →
    Except UsageError (Progress α)
  | [], given => .ok (.going given)
  | letter :: rest, given =>
      match options.find? (·.letter == some letter) with
      | none => .error (.unknownOption (String.ofList ['-', letter]))
      | some option =>
          match option.effect with
          | .value _ _ => given.giveOption option (attachedValue rest)
          | _ =>
              match given.giveOption option none with
              | .ok (.going given) => giveLetters options rest given
              | result => result

end Given

inductive ArgumentForm where
  | separator
  | long (text : List Char)
  | letters (text : List Char)
  | operand (text : String)

def ArgumentForm.ofText (text : String) : ArgumentForm :=
  match text.toList with
  | ['-', '-'] => .separator
  | '-' :: '-' :: rest => .long rest
  | '-' :: c :: rest => .letters (c :: rest)
  | _ => .operand text

structure CommandArguments (α : Type) where
  options : List (CommandOption α)
  operand : String → α → Except UsageError α

namespace CommandArguments

def giveOperand (arguments : CommandArguments α) (text : String) (given : Given α) :
    Except UsageError (Given α) :=
  (arguments.operand text given.flags).map fun flags => { given with flags }

def readOperands (arguments : CommandArguments α) : List String → Given α →
    Except UsageError (Given α)
  | [], given => .ok given
  | text :: rest, given => do readOperands arguments rest (← arguments.giveOperand text given)

-- Reads all arguments. An option that waits for its value takes no other option for it.
def read (arguments : CommandArguments α) : List String → Given α → Except UsageError (Progress α)
  | [], given =>
      match given.waiting with
      | some option => .error (.missingValue option.name)
      | none => .ok (.going given)
  | text :: rest, given =>
      match given.waiting, ArgumentForm.ofText text with
      | some option, .operand value => do read arguments rest (← given.giveValue option value)
      | some option, _ => .error (.missingValue option.name)
      | none, .separator => (arguments.readOperands rest given).map .going
      | none, .operand text => do read arguments rest (← arguments.giveOperand text given)
      | none, .long text =>
          match given.giveLong arguments.options text with
          | .ok (.going given) => read arguments rest given
          | result => result
      | none, .letters letters =>
          match given.giveLetters arguments.options letters with
          | .ok (.going given) => read arguments rest given
          | result => result

end CommandArguments

end SqlWorkflow
