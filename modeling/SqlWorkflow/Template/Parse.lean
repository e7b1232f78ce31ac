import SqlWorkflow.Template.Ast
import SqlWorkflow.Template.Lexeme

-- Binary operators bind by levels, the loosest first. Below them stand the negative sign, then
-- attributes, items and calls, then filters and checks.
namespace SqlWorkflow.Template

structure Source where
  lexemes : List Lexeme
  blocks : List String := []

-- Fails without a reason, since no message tells one.
abbrev Parser := StateT Source Option

namespace Parser

def peek : Parser (Option Lexeme) := do
  return (← get).lexemes.head?

def skip : Parser Unit :=
  modify fun source => { source with lexemes := source.lexemes.tail }

def take : Parser Lexeme := do
  match ← peek with
  | none => failure
  | some lexeme => skip; return lexeme

def accept (lexeme : Lexeme) : Parser Bool := do
  if (← peek) == some lexeme then skip; return true else return false

def expect (lexeme : Lexeme) : Parser Unit := do
  if !(← accept lexeme) then failure

def acceptSign (text : String) : Parser Bool := accept (.sign text)

def expectSign (text : String) : Parser Unit := expect (.sign text)

def acceptWord (text : String) : Parser Bool := accept (.name text)

def expectWord (text : String) : Parser Unit := expect (.name text)

def nextIsSign (text : String) : Parser Bool := do
  return (← peek) == some (.sign text)

def takeName : Parser String := do
  match ← take with
  | .name text => return text
  | _ => failure

def operator? (level : Nat) (lexeme : Option Lexeme) : Option BinaryOp :=
  match level, lexeme with
  | 0, some (.name "or") => some .or
  | 1, some (.name "and") => some .and
  | 3, some (.sign "==") => some .equal
  | 3, some (.sign "!=") => some .unequal
  | 3, some (.sign "<") => some .less
  | 3, some (.sign "<=") => some .lessEqual
  | 3, some (.sign ">") => some .greater
  | 3, some (.sign ">=") => some .greaterEqual
  | 3, some (.name "in") => some .contained
  | 4, some (.sign "+") => some .add
  | 4, some (.sign "-") => some .subtract
  | 5, some (.sign "~") => some .concat
  | 6, some (.sign "*") => some .multiply
  | 6, some (.sign "/") => some .divide
  | 6, some (.sign "//") => some .floorDivide
  | 6, some (.sign "%") => some .remainder
  | 7, some (.sign "**") => some .power
  | _, _ => none

def notLevel : Nat := 2

def compareLevel : Nat := 3

def operandLevel : Nat := 8

def startsOperand : Option Lexeme → Bool
  | some (.name word) => word ∉ ["and", "or", "else", "is"]
  | some (.quoted _) => true
  | some (.int _) => true
  | some (.float _) => true
  | some (.sign text) => ["+", "-", "[", "\x7b"].contains text
  | _ => false

def literal? : Lexeme → Option Literal
  | .name "true" => some (.bool true)
  | .name "True" => some (.bool true)
  | .name "false" => some (.bool false)
  | .name "False" => some (.bool false)
  | .name "none" => some .none
  | .name "None" => some .none
  | .quoted value => some (.text value)
  | .int value => some (.int value)
  | .float value => some (.float value)
  | _ => none

def maxDepth : Nat := 150

mutual

def expr : Nat → Nat → Parser Expr
  | 0, _ => failure
  | fuel + 1, depth => do
      if maxDepth ≤ depth then failure
      choices fuel (depth + 1) (← level fuel (depth + 1) 0)

def choices : Nat → Nat → Expr → Parser Expr
  | 0, _, _ => failure
  | fuel + 1, depth, yes => do
      if ← acceptWord "if" then
        let test ← level fuel depth 0
        let no ← if ← acceptWord "else" then
            some <$> (do choices fuel depth (← level fuel depth 0))
          else pure none
        choices fuel depth (.choice test yes no)
      else return yes

def level : Nat → Nat → Nat → Parser Expr
  | 0, _, _ => failure
  | fuel + 1, depth, n => do
      if n = notLevel then
        if ← acceptWord "not" then return .unary .not (← level fuel depth n)
        else level fuel depth (n + 1)
      else if n = operandLevel then operand fuel depth
      else
        let left ← level fuel depth (n + 1)
        operators fuel depth n left

def operators : Nat → Nat → Nat → Expr → Parser Expr
  | 0, _, _, _ => failure
  | fuel + 1, depth, n, left => do
      match operator? n (← peek) with
      | some op =>
          skip
          let right ← level fuel depth (n + 1)
          operators fuel depth n (.binary op left right)
      | none =>
          if ← pure (n == compareLevel) <&&> acceptWord "not" then
            expectWord "in"
            let right ← level fuel depth (n + 1)
            operators fuel depth n (.unary .not (.binary .contained left right))
          else return left

def operand : Nat → Nat → Parser Expr
  | 0, _ => failure
  | fuel + 1, depth => do
      let object ← signed fuel depth
      let object ← postfixes fuel depth object
      filters fuel depth object

def signed : Nat → Nat → Parser Expr
  | 0, _ => failure
  | fuel + 1, depth => do
      if ← acceptSign "-" then return .unary .negate (← signed fuel depth)
      else primary fuel depth

def postfixes : Nat → Nat → Expr → Parser Expr
  | 0, _, _ => failure
  | fuel + 1, depth, object => do
      if ← acceptSign "." then postfixes fuel depth (.attr object (← takeName))
      else if ← acceptSign "[" then
        postfixes fuel depth (← subscript fuel depth object)
      else if ← nextIsSign "(" then
        postfixes fuel depth (.call object (← arguments fuel depth))
      else return object

def subscript : Nat → Nat → Expr → Parser Expr
  | 0, _, _ => failure
  | fuel + 1, depth, object => do
      let start ← if ← nextIsSign ":" then pure none else some <$> expr fuel depth
      if ← acceptSign ":" then
        let ended := (← nextIsSign "]") || (← nextIsSign ":")
        let stop ← if ended then pure none else some <$> expr fuel depth
        let step ← if ← acceptSign ":" then
            if ← nextIsSign "]" then pure none else some <$> expr fuel depth
          else pure none
        expectSign "]"
        return .slice object start stop step
      else
        expectSign "]"
        match start with
        | none => failure
        | some key => return .item object key

def filters : Nat → Nat → Expr → Parser Expr
  | 0, _, _ => failure
  | fuel + 1, depth, object => do
      if ← acceptSign "|" then
        let name ← takeName
        let args ← if ← nextIsSign "(" then arguments fuel depth else pure []
        filters fuel depth (.filter name object args)
      else if ← acceptWord "is" then
        let negated ← acceptWord "not"
        let name ← takeName
        let args ← if ← nextIsSign "(" then arguments fuel depth
          else if startsOperand (← peek) then do
            let object ← signed fuel depth
            pure [Arg.value (← postfixes fuel depth object)]
          else pure []
        let check := Expr.check name object args
        filters fuel depth (if negated then .unary .not check else check)
      else return object

def arguments : Nat → Nat → Parser (List Arg)
  | 0, _ => failure
  | fuel + 1, depth => do
      expectSign "("
      if ← acceptSign ")" then return []
      moreArguments fuel depth false

-- Arguments of which there is one at least. After a named one all are named.
def moreArguments : Nat → Nat → Bool → Parser (List Arg)
  | 0, _, _ => failure
  | fuel + 1, depth, named => do
      let arg : Arg × Bool ←
        if ← acceptSign "**" then pure (.nameds (← expr fuel depth), true)
        else if ← acceptSign "*" then pure (.values (← expr fuel depth), named)
        else do
          let first ← expr fuel depth
          match first, ← nextIsSign "=" with
          | .var name, true =>
              skip
              pure (.named name (← level fuel depth 0), true)
          | _, _ => if named then failure else pure (.value first, false)
      if ← acceptSign ")" then return [arg.1]
      expectSign ","
      if ← acceptSign ")" then return [arg.1]
      return arg.1 :: (← moreArguments fuel depth arg.2)

def primary : Nat → Nat → Parser Expr
  | 0, _ => failure
  | fuel + 1, depth => do
      if maxDepth ≤ depth then failure
      let depth := depth + 1
      let lexeme ← take
      match literal? lexeme, lexeme with
      | some value, _ => return .literal value
      | none, .name name => return .var name
      | none, .sign "(" =>
          if ← acceptSign ")" then return .list []
          let first ← expr fuel depth
          if ← acceptSign ")" then return first
          expectSign ","
          if ← acceptSign ")" then return .list [first]
          return .list (first :: (← items fuel depth ")"))
      | none, .sign "[" =>
          if ← acceptSign "]" then return .list []
          return .list (← items fuel depth "]")
      | none, .sign "\x7b" =>
          if ← acceptSign "\x7d" then return .map []
          return .map (← entries fuel depth)
      | _, _ => failure

def items : Nat → Nat → String → Parser (List Expr)
  | 0, _, _ => failure
  | fuel + 1, depth, close => do
      let item ← expr fuel depth
      if ← acceptSign close then return [item]
      expectSign ","
      if ← acceptSign close then return [item]
      return item :: (← items fuel depth close)

def entries : Nat → Nat → Parser (List (Expr × Expr))
  | 0, _ => failure
  | fuel + 1, depth => do
      let key ← expr fuel depth
      expectSign ":"
      let value ← expr fuel depth
      if ← acceptSign "\x7d" then return [(key, value)]
      expectSign ","
      if ← acceptSign "\x7d" then return [(key, value)]
      return (key, value) :: (← entries fuel depth)

end

def plainExpr (fuel depth : Nat) : Parser Expr :=
  level fuel depth 0

def reservedNames : List String :=
  ["true", "True", "false", "False", "none", "None", "loop", "self"]

def bindableName : Parser String := do
  let name ← takeName
  if reservedNames.contains name then failure else return name

def endsPattern : Parser Bool := do
  match ← peek with
  | some (.sign ")") => return true
  | some .expressionClose => return true
  | some .tagClose => return true
  | some (.name "in") => return true
  | _ => return false

mutual

def pattern : Nat → Parser Pattern
  | 0 => failure
  | fuel + 1 => do
      if ← endsPattern then return .items []
      let first ← singlePattern fuel
      if ← acceptSign "," then return .items (first :: (← morePatterns fuel))
      else return first

def morePatterns : Nat → Parser (List Pattern)
  | 0 => failure
  | fuel + 1 => do
      if ← endsPattern then return []
      let first ← singlePattern fuel
      if ← acceptSign "," then return first :: (← morePatterns fuel)
      else return [first]

def singlePattern : Nat → Parser Pattern
  | 0 => failure
  | fuel + 1 => do
      if ← acceptSign "(" then
        let inner ← pattern fuel
        expectSign ")"
        return inner
      else return .name (← bindableName)

end

def filterChain : Nat → Nat → Parser (List FilterCall)
  | 0, _ => failure
  | fuel + 1, depth => do
      let name ← takeName
      let args ← if ← nextIsSign "(" then arguments fuel depth else pure []
      if (← peek) == some .tagClose then return [⟨name, args⟩]
      expectSign "|"
      return ⟨name, args⟩ :: (← filterChain fuel depth)

def parameters : Nat → Nat → Bool → Parser (List Pattern × List Expr)
  | 0, _, _ => failure
  | fuel + 1, depth, defaulted => do
      if ← acceptSign ")" then return ([], [])
      let param ← bindableName
      let value ← if ← acceptSign "=" then some <$> expr fuel depth
        else if defaulted then failure else pure none
      let more ← if ← acceptSign ")" then pure ([], [])
        else do
          expectSign ","
          parameters fuel depth value.isSome
      return (.name param :: more.1, value.toList ++ more.2)

def takeCall (fuel depth : Nat) : Parser (Expr × List Arg) := do
  match ← expr fuel depth with
  | .call function args => return (function, args)
  | _ => failure

def assignee : Nat → Expr → String → Parser (Option Expr × String)
  | 0, _, _ => failure
  | fuel + 1, object, name => do
      if ← acceptSign "." then
        let attr ← takeName
        assignee fuel (.attr object name) attr
      else return (some object, name)

def contextWords : Parser Unit := do
  if ← acceptWord "without" <||> acceptWord "with" then expectWord "context"

def importedNames : Nat → Parser Unit
  | 0 => failure
  | fuel + 1 => do
      if (← peek) == some .tagClose then return
      let _ ← bindableName
      if ← acceptWord "as" then
        let _ ← bindableName
      if ← acceptSign "," then importedNames fuel else contextWords

mutual

def body : Nat → Nat → Bool → List String → Parser (List Stmt)
  | 0, _, _, _ => failure
  | fuel + 1, depth, inside, ends => do
      match ← peek with
      | none => return []
      | some (.plain text) =>
          skip
          return .text text :: (← body fuel depth inside ends)
      | some .expressionOpen =>
          skip
          let value ← expr fuel depth
          expect .expressionClose
          return .print value :: (← body fuel depth inside ends)
      | some .tagOpen =>
          skip
          match ← peek with
          | none => failure
          | some (.name word) =>
              if ends.contains word then return []
              let statement ← stmt fuel depth inside
              expect .tagClose
              return statement :: (← body fuel depth inside ends)
          | some _ => failure
      | some _ => failure

def stmt : Nat → Nat → Bool → Parser Stmt
  | 0, _, _ => failure
  | fuel + 1, depth, inside => do
      if maxDepth ≤ depth then failure
      let depth := depth + 1
      match ← takeName with
      | "for" => loop fuel depth inside
      | "if" => branch fuel depth inside
      | "with" => do
          let bindings ← bindings fuel depth
          expect .tagClose
          let inner ← body fuel depth inside ["endwith"]
          skip
          return .scope bindings inner
      | "set" => assignment fuel depth inside
      | "autoescape" => do
          let mode ← expr fuel depth
          expect .tagClose
          let inner ← body fuel depth inside ["endautoescape"]
          skip
          return .escaping mode inner
      | "filter" => do
          let chain ← filterChain fuel depth
          expect .tagClose
          let inner ← body fuel depth inside ["endfilter"]
          skip
          return .filtered chain inner
      | "block" => do
          let name ← takeName
          let source ← get
          if inside || source.blocks.contains name then failure
          set { source with blocks := name :: source.blocks }
          expect .tagClose
          let inner ← body fuel depth inside ["endblock"]
          skip
          match ← peek with
          | some (.name again) => if again = name then skip else failure
          | _ => pure ()
          return .block name inner
      | "macro" => do
          let name ← takeName
          expectSign "("
          let (params, defaults) ← parameters fuel depth false
          expect .tagClose
          let inner ← body fuel depth true ["endmacro"]
          skip
          return .procedure (.mk name params defaults inner)
      | "call" => do
          let (params, defaults) ← if ← acceptSign "(" then parameters fuel depth false
            else pure ([], [])
          let (function, args) ← takeCall fuel depth
          expect .tagClose
          let inner ← body fuel depth true ["endcall"]
          skip
          return .callWith function args (.mk "caller" params defaults inner)
      | "do" => do
          let (function, args) ← takeCall fuel depth
          return .perform function args
      | "include" => do
          let name ← expr fuel depth
          contextWords
          let optional ← acceptWord "ignore"
          if optional then
            expectWord "missing"
            contextWords
          return .foreign name optional
      | "extends" => do return .foreign (← expr fuel depth) false
      | "import" => do
          let name ← expr fuel depth
          expectWord "as"
          let _ ← bindableName
          contextWords
          return .foreign name false
      | "from" => do
          let name ← expr fuel depth
          expectWord "import"
          importedNames fuel
          return .foreign name false
      | _ => failure

def loop : Nat → Nat → Bool → Parser Stmt
  | 0, _, _ => failure
  | fuel + 1, depth, inside => do
      let target ← pattern fuel
      expectWord "in"
      let items ← plainExpr fuel depth
      let condition ← if ← acceptWord "if" then some <$> expr fuel depth else pure none
      let recursive ← acceptWord "recursive"
      expect .tagClose
      let inner ← body fuel depth inside ["endfor", "else"]
      let orElse ← if ← acceptWord "else" then do
          expect .tagClose
          body fuel depth inside ["endfor"]
        else pure []
      skip
      return .loop target items condition recursive inner orElse

def branch : Nat → Nat → Bool → Parser Stmt
  | 0, _, _ => failure
  | fuel + 1, depth, inside => do
      let test ← plainExpr fuel depth
      expect .tagClose
      let yes ← body fuel depth inside ["endif", "else", "elif"]
      if ← acceptWord "else" then
        expect .tagClose
        let no ← body fuel depth inside ["endif"]
        skip
        return .branch test yes no
      else if ← acceptWord "elif" then return .branch test yes [← branch fuel depth inside]
      else
        skip
        return .branch test yes []

def bindings : Nat → Nat → Parser (List (Pattern × Expr))
  | 0, _ => failure
  | fuel + 1, depth => do
      if (← peek) == some .tagClose then return []
      let target ← singlePattern fuel
      expectSign "="
      let value ← expr fuel depth
      if (← peek) == some .tagClose then return [(target, value)]
      expectSign ","
      if (← peek) == some .tagClose then failure
      return (target, value) :: (← bindings fuel depth)

def assignment : Nat → Nat → Bool → Parser Stmt
  | 0, _, _ => failure
  | fuel + 1, depth, inside => do
      if ← nextIsSign "(" then
        let target ← singlePattern fuel
        expectSign "="
        return .assign target (← expr fuel depth)
      let name ← bindableName
      let (object, name) ← if ← acceptSign "." then do
          assignee fuel (.var name) (← takeName)
        else pure (none, name)
      let filtered ← nextIsSign "|"
      if filtered || (← peek) == some .tagClose then
        let chain ← if filtered then do skip; filterChain fuel depth else pure []
        expect .tagClose
        let inner ← body fuel depth inside ["endset"]
        skip
        match object with
        | none => return .assignText (.name name) chain inner
        | some object => return .assignAttrText object name chain inner
      else
        expectSign "="
        let value ← expr fuel depth
        match object with
        | none => return .assign (.name name) value
        | some object => return .assignAttr object name value

end

end Parser

def parse? (text : String) : Option (List Stmt) := do
  let lexemes ← Lexeme.ofText? text
  let fuel := 24 * (lexemes.length + 16)
  let (statements, rest) ← (Parser.body fuel 0 false []).run { lexemes }
  if rest.lexemes.isEmpty then return statements else none

end SqlWorkflow.Template
