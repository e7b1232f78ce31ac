import SqlWorkflow.Document
import SqlWorkflow.SortedMap

namespace SqlWorkflow

inductive Json where
  | null
  | bool (value : Bool)
  | int (value : Int)
  | float (value : Binary64)
  | string (value : String)
  | array (items : List Json)
  | object (members : List (String × Json))
deriving Inhabited

namespace Json

variable {α : Type}

def isSpace (c : Char) : Bool :=
  c == ' ' || c == '\n' || c == '\t' || c == '\r'

def skipSpace (text : List Char) : List Char :=
  text.dropWhile isSpace

def hexDigit? (c : Char) : Option Nat :=
  if c.isDigit then some (c.toNat - '0'.toNat)
  else if 'a' ≤ c ∧ c ≤ 'f' then some (c.toNat - 'a'.toNat + 10)
  else if 'A' ≤ c ∧ c ≤ 'F' then some (c.toNat - 'A'.toNat + 10)
  else none

def readUnit : List Char → Option (Nat × List Char)
  | a :: b :: c :: d :: rest => do
      let high := (← hexDigit? a) * 16 + (← hexDigit? b)
      let low := (← hexDigit? c) * 16 + (← hexDigit? d)
      return (high * 256 + low, rest)
  | _ => none

-- The character of an escaped unit; a high surrogate needs its low half right after it.
def readEscapedUnit (text : List Char) : Option (Char × List Char) := do
  let (high, rest) ← readUnit text
  if 0xD800 ≤ high ∧ high < 0xDC00 then
    match rest with
    | '\\' :: 'u' :: more =>
        let (low, rest) ← readUnit more
        if 0xDC00 ≤ low ∧ low < 0xE000 then
          return (Char.ofNat (0x10000 + (high - 0xD800) * 0x400 + (low - 0xDC00)), rest)
        else none
    | _ => none
  else if 0xDC00 ≤ high ∧ high < 0xE000 then none
  else return (Char.ofNat high, rest)

def unescape? : Char → Option Char
  | '"' => some '"'
  | '\\' => some '\\'
  | '/' => some '/'
  | 'b' => some '\x08'
  | 'f' => some '\x0c'
  | 'n' => some '\n'
  | 'r' => some '\r'
  | 't' => some '\t'
  | _ => none

def readString : Nat → List Char → List Char → Option (String × List Char)
  | 0, _, _ => none
  | fuel + 1, done, text =>
      match text with
      | [] => none
      | '"' :: rest => some (String.ofList done.reverse, rest)
      | '\\' :: 'u' :: rest =>
          match readEscapedUnit rest with
          | none => none
          | some (c, rest) => readString fuel (c :: done) rest
      | '\\' :: c :: rest =>
          match unescape? c with
          | none => none
          | some c => readString fuel (c :: done) rest
      | c :: rest => if c.toNat < 0x20 || c == '\\' then none else readString fuel (c :: done) rest

def isNumberChar (c : Char) : Bool :=
  c.isDigit || c == '.' || c == 'e' || c == 'E' || c == '+' || c == '-'

def number? (text : List Char) : Option Scalar :=
  let (negative, body) := match text with
    | '-' :: rest => (true, rest)
    | _ => (false, text)
  let whole := body.takeWhile Char.isDigit
  let rest := body.dropWhile Char.isDigit
  let pointAlone := match rest with
    | '.' :: c :: _ => !c.isDigit
    | ['.'] => true
    | _ => false
  if whole.isEmpty || (whole.head? == some '0' && 1 < whole.length) || pointAlone then none
  else
    let value := (Decimal.ofDigits whole : Int)
    let value := if negative then -value else value
    if rest.isEmpty && Document.fitsWord value && !(negative && value == 0) then some (.int value)
    else do
      let decimal ← Decimal.parse? body
      let binary := decimal.toBinary negative
      some (if binary.isFinite then .float binary else .unusable)

abbrev Reading := Document × Option (List Char)

def word (rest : List Char) (text : String) (value : Scalar) : Reading :=
  (.scalar text value, some rest)

mutual

def readValue : Nat → Nat → List Char → Reading
  | 0, _, _ => (.broken, none)
  | fuel + 1, depth, text =>
      match skipSpace text with
      | [] => (.broken, none)
      | '"' :: rest =>
          match readString (rest.length + 1) [] rest with
          | none => (.broken, none)
          | some (value, rest) => (.string value, some rest)
      | '[' :: rest =>
          if depth = 0 then (.broken, none)
          else
            let (items, rest) := match skipSpace rest with
              | ']' :: rest => ([], some rest)
              | rest => readItems fuel (depth - 1) rest
            (.sequence items, rest)
      | '\x7b' :: rest =>
          if depth = 0 then (.broken, none)
          else
            let (entries, rest) := match skipSpace rest with
              | '\x7d' :: rest => ([], some rest)
              | rest => readMembers fuel (depth - 1) rest
            (.mapping entries, rest)
      | 't' :: 'r' :: 'u' :: 'e' :: rest => word rest "true" (.bool true)
      | 'f' :: 'a' :: 'l' :: 's' :: 'e' :: rest => word rest "false" (.bool false)
      | 'n' :: 'u' :: 'l' :: 'l' :: rest => word rest "null" .null
      | text =>
          let digits := text.takeWhile isNumberChar
          match number? digits with
          | none => (.broken, none)
          | some value => word (text.dropWhile isNumberChar) (String.ofList digits) value

def readItems : Nat → Nat → List Char → List Document × Option (List Char)
  | 0, _, _ => ([.broken], none)
  | fuel + 1, depth, text =>
      match readValue fuel depth text with
      | (item, none) => ([item], none)
      | (item, some rest) =>
          match skipSpace rest with
          | ']' :: rest => ([item], some rest)
          | ',' :: rest =>
              let (items, rest) := readItems fuel depth rest
              (item :: items, rest)
          | _ => ([item, .broken], none)

def readMembers : Nat → Nat → List Char → List (Document × Document) × Option (List Char)
  | 0, _, _ => ([(.broken, .broken)], none)
  | fuel + 1, depth, text =>
      match skipSpace text with
      | '"' :: rest =>
          match readString (rest.length + 1) [] rest with
          | none => ([(.broken, .broken)], none)
          | some (key, rest) =>
              match skipSpace rest with
              | ':' :: rest =>
                  match readValue fuel depth rest with
                  | (value, none) => ([(.string key, value)], none)
                  | (value, some rest) =>
                      match skipSpace rest with
                      | '\x7d' :: rest => ([(.string key, value)], some rest)
                      | ',' :: rest =>
                          let (entries, rest) := readMembers fuel depth rest
                          ((.string key, value) :: entries, rest)
                      | _ => ([(.string key, value), (.broken, .broken)], none)
              | _ => ([(.string key, .broken)], none)
      | _ => ([(.broken, .broken)], none)

end

def maxDepth : Nat := 127

def readDocument (text : String) : Document × Bool :=
  let chars := text.toList
  match readValue (2 * chars.length + 2) maxDepth chars with
  | (document, none) => (document, false)
  | (document, some rest) => (document, (skipSpace rest).isEmpty)

mutual

def ofDocument? : Document → Option Json
  | .scalar text value =>
      match value with
      | .null => some .null
      | .bool b => some (.bool b)
      | .int n => some (.int n)
      | .unusable => none
      | .float f => some (.float f)
      | .text => some (.string text)
  | .sequence items => (ofItems? items).map .array
  | .mapping entries => (ofEntries? entries).map .object
  | .tagged _ _ => none
  | .broken => none

def ofItems? : List Document → Option (List Json)
  | [] => some []
  | item :: items => do
      let first ← ofDocument? item
      return first :: (← ofItems? items)

def ofEntries? : List (Document × Document) → Option (List (String × Json))
  | [] => some []
  | (.scalar key .text, value) :: entries => do
      let first ← ofDocument? value
      return (key, first) :: (← ofEntries? entries)
  | _ => none

end

def parse? (text : String) : Option Json :=
  match readDocument text with
  | (document, true) => ofDocument? document
  | (_, false) => none

def get? (json : Json) (name : String) : Option Json :=
  match json with
  | .object members => members.lookup name
  | _ => none

def membersAs? (names : List String) : Json → Option (List (String × Json))
  | .object members => some members
  | .array items => if items.length ≤ names.length then some (names.zip items) else none
  | _ => none

def string? : Json → Option String
  | .string value => some value
  | _ => none

def bool? : Json → Option Bool
  | .bool value => some value
  | _ => none

def nullable (decode : Json → Option α) : Json → Option (Option α)
  | .null => some none
  | json => (decode json).map some

def list? (decode : Json → Option α) : Json → Option (List α)
  | .array items => items.mapM decode
  | _ => none

def required (members : List (String × Json)) (name : String) (decode : Json → Option α) :
    Option α :=
  (members.lookup name).bind decode

def withDefault (members : List (String × Json)) (name : String) (decode : Json → Option α)
    (absent : α) : Option α :=
  match members.lookup name with
  | none => some absent
  | some json => decode json

def map? (decode : Json → Option α) : Json → Option (SortedMap String α)
  | .object members =>
      (members.mapM fun member => (decode member.2).map fun value => (member.1, value)).map
        SortedMap.ofList
  | _ => none

def optional (name : String) (encode : α → Json) : Option α → List (String × Json)
  | none => []
  | some value => [(name, encode value)]

def optionalStrings (name : String) (values : List String) : List (String × Json) :=
  if values.isEmpty then [] else [(name, .array (values.map .string))]

def strings (values : List String) : Json :=
  .array (values.map .string)

def ofMap (encode : α → Json) (map : SortedMap String α) : Json :=
  .object (map.toList.map fun entry => (entry.1, encode entry.2))

def hexChar (n : Nat) : Char :=
  Nat.digitChar n

def escapeChar (c : Char) : List Char :=
  if c = '"' then ['\\', '"']
  else if c = '\\' then ['\\', '\\']
  else if c = '\n' then ['\\', 'n']
  else if c = '\r' then ['\\', 'r']
  else if c = '\t' then ['\\', 't']
  else if c = '\x08' then ['\\', 'b']
  else if c = '\x0c' then ['\\', 'f']
  else if c.toNat < 0x20 then ['\\', 'u', '0', '0', hexChar (c.toNat / 16), hexChar (c.toNat % 16)]
  else [c]

def quote (text : String) : String :=
  String.ofList ('"' :: text.toList.flatMap escapeChar ++ ['"'])

def writeLeaf : Json → String
  | .null => "null"
  | .bool value => if value then "true" else "false"
  | .int value => toString value
  | .float value => if value.isFinite then Layout.scientific.write value else "null"
  | .string value => quote value
  | .array _ => "[]"
  | .object _ => "\x7b\x7d"

def indent (depth : Nat) : String :=
  String.ofList (List.replicate (2 * depth) ' ')

mutual

def pretty (depth : Nat) : Json → String
  | .array [] => "[]"
  | .array items => "[\n" ++ prettyItems (depth + 1) items ++ "\n" ++ indent depth ++ "]"
  | .object [] => "\x7b\x7d"
  | .object members =>
      "\x7b\n" ++ prettyMembers (depth + 1) members ++ "\n" ++ indent depth ++ "\x7d"
  | leaf => writeLeaf leaf

def prettyItems (depth : Nat) : List Json → String
  | [] => ""
  | [item] => indent depth ++ pretty depth item
  | item :: items => indent depth ++ pretty depth item ++ ",\n" ++ prettyItems depth items

def prettyMembers (depth : Nat) : List (String × Json) → String
  | [] => ""
  | [(name, value)] => indent depth ++ quote name ++ ": " ++ pretty depth value
  | (name, value) :: members =>
      indent depth ++ quote name ++ ": " ++ pretty depth value ++ ",\n" ++
        prettyMembers depth members

end

end Json

end SqlWorkflow
