import SqlWorkflow.Decimal.Shortest

namespace SqlWorkflow.Template

inductive Literal where
  | none
  | bool (value : Bool)
  | int (value : Int)
  | float (value : Binary64)
  | text (value : String)
deriving DecidableEq

inductive UnaryOp where
  | not
  | negate
deriving DecidableEq

inductive BinaryOp where
  | or
  | and
  | equal
  | unequal
  | less
  | lessEqual
  | greater
  | greaterEqual
  | contained
  | add
  | subtract
  | concat
  | multiply
  | divide
  | floorDivide
  | remainder
  | power
deriving DecidableEq

mutual

inductive Expr where
  | literal (value : Literal)
  | var (name : String)
  | list (items : List Expr)
  | map (entries : List (Expr × Expr))
  | unary (op : UnaryOp) (operand : Expr)
  | binary (op : BinaryOp) (left right : Expr)
  | choice (test : Expr) (yes : Expr) (no : Option Expr)
  | attr (object : Expr) (name : String)
  | item (object : Expr) (key : Expr)
  | slice (object : Expr) (start stop step : Option Expr)
  | filter (name : String) (operand : Expr) (args : List Arg)
  | check (name : String) (operand : Expr) (args : List Arg)
  | call (function : Expr) (args : List Arg)

inductive Arg where
  | value (expr : Expr)
  | values (expr : Expr)
  | named (name : String) (expr : Expr)
  | nameds (expr : Expr)

end

instance : Inhabited Expr := ⟨.literal .none⟩

inductive Pattern where
  | name (name : String)
  | items (patterns : List Pattern)
deriving Inhabited

structure FilterCall where
  name : String
  args : List Arg

mutual

inductive Stmt where
  | text (text : String)
  | print (expr : Expr)
  | loop (target : Pattern) (items : Expr) (condition : Option Expr) (recursive : Bool)
      (body orElse : List Stmt)
  | branch (test : Expr) (body orElse : List Stmt)
  | scope (bindings : List (Pattern × Expr)) (body : List Stmt)
  | assign (target : Pattern) (value : Expr)
  | assignAttr (object : Expr) (name : String) (value : Expr)
  | assignText (target : Pattern) (filters : List FilterCall) (body : List Stmt)
  | assignAttrText (object : Expr) (name : String) (filters : List FilterCall) (body : List Stmt)
  | escaping (mode : Expr) (body : List Stmt)
  | filtered (filters : List FilterCall) (body : List Stmt)
  | block (name : String) (body : List Stmt)
  | procedure (decl : Procedure)
  | callWith (function : Expr) (args : List Arg) (caller : Procedure)
  | perform (function : Expr) (args : List Arg)
  -- Other templates can be named but there are none.
  | foreign (name : Expr) (optional : Bool)

inductive Procedure where
  | mk (name : String) (params : List Pattern) (defaults : List Expr) (body : List Stmt)

end

instance : Inhabited Stmt := ⟨.text ""⟩

end SqlWorkflow.Template
