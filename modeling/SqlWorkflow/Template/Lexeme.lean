import SqlWorkflow.Decimal.Layout
import SqlWorkflow.Json
import SqlWorkflow.Text.Blank
import SqlWorkflow.Text.Pieces

namespace SqlWorkflow.Template

inductive Lexeme where
  | plain (text : String)
  | expressionOpen
  | expressionClose
  | tagOpen
  | tagClose
  | name (text : String)
  | quoted (value : String)
  | int (value : Nat)
  | float (value : Binary64)
  | sign (text : String)
deriving DecidableEq

namespace Lexeme

inductive Opening where
  | expression
  | tag
  | comment
deriving DecidableEq

inductive Blanks where
  | keep
  | remove
deriving DecidableEq

def takeBlanks : List Char → Blanks × List Char
  | '-' :: rest => (.remove, rest)
  | '+' :: rest => (.keep, rest)
  | text => (.keep, text)

def findOpening : List Char → List Char × Option (Opening × List Char)
  | [] => ([], none)
  | '$' :: '\x7b' :: rest => ([], some (.expression, rest))
  | '\x7b' :: '%' :: rest => ([], some (.tag, rest))
  | '\x7b' :: '#' :: rest => ([], some (.comment, rest))
  | c :: rest =>
      let (lead, found) := findOpening rest
      (c :: lead, found)

def closeComment : List Char → Option (Blanks × List Char)
  | '-' :: '#' :: '\x7d' :: rest => some (.remove, rest)
  | '#' :: '\x7d' :: rest => some (.keep, rest)
  | _ :: rest => closeComment rest
  | [] => none

def skipAsciiBlanks (text : List Char) : List Char :=
  text.dropWhile Text.isAsciiBlank

def wordTag? (word : String) (text : List Char) : Option (Blanks × List Char) := do
  let rest ← Text.dropStart? word.toList (skipAsciiBlanks text)
  let (blanks, rest) := takeBlanks (skipAsciiBlanks rest)
  return (blanks, ← Text.dropStart? ['%', '\x7d'] rest)

def closeRaw : List Char → Option (List Char × Blanks × Blanks × List Char)
  | [] => none
  | c :: rest =>
      let closing : Option (Blanks × Blanks × List Char) :=
        match c, rest with
        | '\x7b', '%' :: inside =>
            let (before, inside) := takeBlanks inside
            (wordTag? "endraw" inside).map fun found => (before, found.1, found.2)
        | _, _ => none
      match closing with
      | some (before, after, rest) => some ([], before, after, rest)
      | none => (closeRaw rest).map fun found => (c :: found.1, found.2)

def trimmedStart (blanks : Blanks) (text : List Char) : List Char :=
  if blanks = .remove then Text.trimLeft text else text

def trimmedEnd (blanks : Blanks) (text : List Char) : List Char :=
  if blanks = .remove then Text.trimRight text else text

def dataOf (text : List Char) : List Lexeme :=
  if text.isEmpty then [] else [.plain (String.ofList text)]

def isNameStart (c : Char) : Bool :=
  c.isAlpha || c == '_'

def isNameChar (c : Char) : Bool :=
  c.isAlphanum || c == '_'

inductive Part where
  | whole
  | radix
  | fraction
  | exponentStart
  | exponent
deriving DecidableEq

def nextPart (base : Nat) (part : Part) (c : Char) : Option Part :=
  match part, c with
  | .whole, '.' => some .fraction
  | .exponentStart, '+' => some .exponent
  | .exponentStart, '-' => some .exponent
  | part, c =>
      if (c == 'e' || c == 'E') && (part == .whole || part == .fraction) then some .exponentStart
      else if c.isDigit then some (if part = .exponentStart then .exponent else part)
      else if part == .radix && base == 16 && (Json.hexDigit? c).isSome then some part
      else if c == '_' then some part
      else none

def takeNumber (base : Nat) : Part → List Char → List Char × Part × List Char
  | part, [] => ([], part, [])
  | part, c :: rest =>
      match nextPart base part c with
      | none => ([], part, c :: rest)
      | some part =>
          let (digits, part, rest) := takeNumber base part rest
          (c :: digits, part, rest)

def ofDigits? (base : Nat) (digits : List Char) : Option Nat :=
  if digits.isEmpty then none
  else digits.foldlM (fun value c => do
    let digit ← Json.hexDigit? c
    if digit < base then return value * base + digit else none) 0

def numberOf? (base : Nat) (part : Part) (digits : List Char) : Option Lexeme :=
  if digits.getLast? = some '_' then none
  else
    let digits := digits.filter (· != '_')
    if part == .whole || part == .radix then do
      let value ← ofDigits? base digits
      if value < Nat.pow 2 128 then return .int value else none
    else (Decimal.parse? digits).map fun decimal => .float (decimal.toBinary false)

def readNumber (text : List Char) : Option (Lexeme × List Char) :=
  let (base, body) : Nat × List Char := match text with
    | '0' :: 'b' :: rest => (2, rest)
    | '0' :: 'B' :: rest => (2, rest)
    | '0' :: 'o' :: rest => (8, rest)
    | '0' :: 'O' :: rest => (8, rest)
    | '0' :: 'x' :: rest => (16, rest)
    | '0' :: 'X' :: rest => (16, rest)
    | _ => (10, text)
  let (digits, part, rest) := takeNumber base (if base = 10 then .whole else .radix) body
  (numberOf? base part digits).map fun number => (number, rest)

def takeQuoted (quote : Char) : List Char → Option (List Char × List Char)
  | [] => none
  | '\\' :: c :: rest => (takeQuoted quote rest).map fun found => ('\\' :: c :: found.1, found.2)
  | c :: rest =>
      if c = quote then some ([], rest)
      else (takeQuoted quote rest).map fun found => (c :: found.1, found.2)

def isOctalDigit (c : Char) : Bool :=
  '0' ≤ c && c ≤ '7'

def readEscape : List Char → Option (Char × List Char)
  | '\'' :: rest => some ('\'', rest)
  | 'u' :: rest => Json.readEscapedUnit rest
  | 'x' :: a :: b :: rest => do
      return (Char.ofNat ((← Json.hexDigit? a) * 16 + (← Json.hexDigit? b)), rest)
  | c :: rest =>
      if isOctalDigit c then
        let more := (rest.take 2).takeWhile isOctalDigit
        (ofDigits? 8 (c :: more)).map fun value => (Char.ofNat value, rest.drop more.length)
      else (Json.unescape? c).map fun image => (image, rest)
  | [] => none

def unescape : Nat → List Char → Option (List Char)
  | _, [] => some []
  | 0, _ => none
  | fuel + 1, '\\' :: rest => do
      let (c, rest) ← readEscape rest
      return c :: (← unescape fuel rest)
  | fuel + 1, c :: rest => do return c :: (← unescape fuel rest)

def readText (quote : Char) (text : List Char) : Option (Lexeme × List Char) := do
  let (content, rest) ← takeQuoted quote text
  let value ← unescape content.length content
  return (.quoted (String.ofList value), rest)

def longSigns : List (Char × Char) :=
  [('/', '/'), ('*', '*'), ('=', '='), ('!', '='), ('>', '='), ('<', '=')]

def isSign (c : Char) : Bool :=
  ['+', '-', '*', '/', '%', '.', ',', ':', '~', '|', '=', '>', '<', '(', ')', '[', ']', '\x7b',
    '\x7d'].contains c

def readCode (text : List Char) : Option (Lexeme × List Char) :=
  match text with
  | [] => none
  | c :: rest =>
      let long := rest.head?.filter fun next => longSigns.contains (c, next)
      match long with
      | some next => some (.sign (String.ofList [c, next]), rest.tail)
      | none =>
          if isSign c then some (.sign (String.ofList [c]), rest)
          else if c == '\'' || c == '"' then readText c rest
          else if c.isDigit then readNumber text
          else if isNameStart c then
            some (.name (String.ofList (text.takeWhile isNameChar)), text.dropWhile isNameChar)
          else none

def balanceOf : Lexeme → Int
  | .sign "(" => 1
  | .sign "[" => 1
  | .sign "\x7b" => 1
  | .sign ")" => -1
  | .sign "]" => -1
  | .sign "\x7d" => -1
  | _ => 0

def closing? (tag : Bool) (text : List Char) : Option (Blanks × List Char) :=
  let close := if tag then ['%', '\x7d'] else ['\x7d']
  let (blanks, rest) := takeBlanks text
  (Text.dropStart? close rest).map fun rest => (blanks, rest)

mutual

def readData : Nat → List Char → Option (List Lexeme)
  | 0, _ => none
  | fuel + 1, text =>
      match findOpening text with
      | (lead, none) => some (dataOf lead)
      | (lead, some (opening, rest)) => do
          let (blanks, rest) := takeBlanks rest
          let lead := dataOf (trimmedEnd blanks lead)
          match opening with
          | .comment =>
              let (blanks, rest) ← closeComment rest
              return lead ++ (← readData fuel (trimmedStart blanks rest))
          | .expression => return lead ++ .expressionOpen :: (← readInside fuel false 0 rest)
          | .tag =>
              match wordTag? "raw" rest with
              | none => return lead ++ .tagOpen :: (← readInside fuel true 0 rest)
              | some (inner, rest) =>
                  let (raw, before, after, rest) ← closeRaw rest
                  let raw := trimmedEnd before (trimmedStart inner raw)
                  return lead ++ dataOf raw ++ (← readData fuel (trimmedStart after rest))

-- Inside an expression or a tag. Its end does not count while a bracket is open.
def readInside : Nat → Bool → Int → List Char → Option (List Lexeme)
  | 0, _, _, _ => none
  | fuel + 1, tag, balance, text =>
      match skipAsciiBlanks text with
      | [] => some []
      | text =>
          match if balance = 0 then closing? tag text else none with
          | some (blanks, rest) => do
              let close := if tag then Lexeme.tagClose else .expressionClose
              return close :: (← readData fuel (trimmedStart blanks rest))
          | none => do
              let (lexeme, rest) ← readCode text
              return lexeme :: (← readInside fuel tag (balance + balanceOf lexeme) rest)

end

def ofText? (text : String) : Option (List Lexeme) :=
  let chars := text.toList
  readData (2 * chars.length + 2) chars

end Lexeme

end SqlWorkflow.Template
