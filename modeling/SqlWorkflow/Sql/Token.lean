import SqlWorkflow.Text.LetterCase
import SqlWorkflow.Warehouse

namespace SqlWorkflow.Sql

structure Spot where
  line : Nat
  column : Nat
deriving DecidableEq

inductive TextKind where
  | single
  | double
  | special
deriving DecidableEq

inductive Token where
  -- The key of a word is its text in upper case; a quoted word has none.
  | word (text : String) (quoted : Bool) (key : String)
  | number (text : String)
  | text (kind : TextKind) (value : String)
  | sign (text : String)
  | custom (text : String)
  | placeholder (text : String)
  | stray (c : Char)
deriving DecidableEq

structure Placed where
  token : Token
  spot : Spot
  joined : Bool

namespace Token

def ofWord (text : String) : Token :=
  .word text false (Text.upper text)

def quotedWord (text : String) : Token :=
  .word text true ""

def key? : Token → Option String
  | .word _ false key => some key
  | _ => none

def isWord : Token → Bool
  | .word _ _ _ => true
  | _ => false

end Token

end SqlWorkflow.Sql
