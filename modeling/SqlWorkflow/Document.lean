import SqlWorkflow.Decimal.Layout

-- A scalar keeps the text that it was written with. A document is broken where its text stops being
-- well formed, so that whoever walks it in order meets faults in the order of the text.
namespace SqlWorkflow

inductive Scalar where
  | null
  | bool (value : Bool)
  | int (value : Int)
  -- A value that no reader accepts except as text, such as a whole number beyond 64 bits.
  | unusable
  | float (value : Binary64)
  | text
deriving DecidableEq

inductive Document where
  | scalar (text : String) (value : Scalar)
  | sequence (items : List Document)
  | mapping (entries : List (Document × Document))
  | tagged (tag : String) (content : Document)
  | broken

namespace Document

def string (text : String) : Document :=
  .scalar text .text

def fitsWord (value : Int) : Bool :=
  -(Nat.pow 2 63) ≤ value && value < Nat.pow 2 64

end Document

end SqlWorkflow
