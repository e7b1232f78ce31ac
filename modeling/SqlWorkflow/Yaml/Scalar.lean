import SqlWorkflow.Document
import SqlWorkflow.Yaml.Cursor

-- Each reader starts at the first character of its scalar and answers `none` where the text is not
-- well formed.
namespace SqlWorkflow.Yaml

-- One word of a plain scalar. In a flow collection its brackets and commas end the word, and a
-- colon right before one of them is refused.
def plainWord (flow : Bool) : List Char → Option (List Char)
  | [] => some []
  | c :: rest =>
      if isSpace c then some []
      else if flow && c == ':' && rest.head?.any (",?[]\x7b\x7d".toList.contains ·) then none
      else if c == ':' && endsWord rest then some []
      else if flow && ",[]\x7b\x7d".toList.contains c then some []
      else (plainWord flow rest).map (c :: ·)

def plainRest (flow : Bool) (bound : Nat) : Nat → List Char → Cursor →
    Option (List Char × Cursor × Bool)
  | 0, text, cursor => some (text, cursor, false)
  | fuel + 1, text, cursor => do
      if !(cursor.atBlank || cursor.atBreak) then return (text, cursor, false)
      let (gap, cursor) ← readGap (cursor.rest.length + 1) (some bound) {} cursor
      if !flow && cursor.column < bound then return (text, cursor, gap.hasBreak)
      if cursor.atDocumentMarker || cursor.atChar '#' then return (text, cursor, gap.hasBreak)
      let word ← plainWord flow cursor.rest
      if word.isEmpty then return (text, cursor, gap.hasBreak)
      plainRest flow bound fuel (text ++ gap.fold ++ word) (cursor.skip word.length)

def readPlain (flow : Bool) (bound : Nat) (cursor : Cursor) :
    Option (List Char × Cursor × Bool) := do
  let word ← plainWord flow cursor.rest
  plainRest flow bound (cursor.rest.length + 1) word (cursor.skip word.length)

def hexDigit? (c : Char) : Option Nat :=
  if c.isDigit then some (c.toNat - '0'.toNat)
  else if 'a' ≤ c ∧ c ≤ 'f' then some (c.toNat - 'a'.toNat + 10)
  else if 'A' ≤ c ∧ c ≤ 'F' then some (c.toNat - 'A'.toNat + 10)
  else none

def hexValue? (digits : List Char) : Option Nat :=
  digits.foldlM (fun value c => (hexDigit? c).map (value * 16 + ·)) 0

def unescape? : Char → Option Char
  | '0' => some '\x00'
  | 'a' => some '\x07'
  | 'b' => some '\x08'
  | 't' => some '\t'
  | '\t' => some '\t'
  | 'n' => some '\n'
  | 'v' => some '\x0b'
  | 'f' => some '\x0c'
  | 'r' => some '\r'
  | 'e' => some '\x1b'
  | ' ' => some ' '
  | '"' => some '"'
  | '/' => some '/'
  | '\\' => some '\\'
  | 'N' => some '\x85'
  | '_' => some '\xa0'
  | 'L' => some '\u2028'
  | 'P' => some '\u2029'
  | _ => none

def codeDigits? : Char → Option Nat
  | 'x' => some 2
  | 'u' => some 4
  | 'U' => some 8
  | _ => none

def readEscape : List Char → Option (Char × Nat)
  | [] => none
  | c :: rest =>
      match codeDigits? c with
      | none => (unescape? c).map fun image => (image, 1)
      | some count => do
          let digits := rest.take count
          if digits.length < count then none
          let value ← hexValue? digits
          if value.isValidChar then return (Char.ofNat value, count + 1) else none

def quotedWord (quote : Char) : Nat → List Char → Cursor → Option (List Char × Cursor × Bool)
  | 0, _, _ => none
  | fuel + 1, done, cursor =>
      match cursor.rest with
      | [] => some (done, cursor, false)
      | c :: rest =>
          if isSpace c then some (done, cursor, false)
          else if c = quote then
            if quote = '\'' ∧ rest.head? = some '\'' then
              quotedWord quote fuel (done ++ ['\'']) (cursor.skip 2)
            else some (done, cursor, false)
          else if quote = '"' ∧ c = '\\' then
            match (cursor.skip 1).readBreak? with
            | some (_, next) => some (done, next, true)
            | none =>
                match readEscape rest with
                | none => none
                | some (image, length) =>
                    quotedWord quote fuel (done ++ [image]) (cursor.skip (length + 1))
          else quotedWord quote fuel (done ++ [c]) (cursor.skip 1)

def quotedRest (quote : Char) : Nat → List Char → Cursor → Option (List Char × Cursor)
  | 0, _, _ => none
  | fuel + 1, done, cursor => do
      if cursor.atDocumentMarker || cursor.rest.isEmpty then none
      let (done, cursor, escaped) ← quotedWord quote (cursor.rest.length + 1) done cursor
      if cursor.atChar quote then return (done, cursor.skip 1)
      let (gap, cursor) ← readGap (cursor.rest.length + 1) none { escaped } cursor
      quotedRest quote fuel (done ++ gap.fold) cursor

def readQuoted (quote : Char) (cursor : Cursor) : Option (List Char × Cursor) :=
  quotedRest quote (cursor.rest.length + 1) [] (cursor.skip 1)

inductive Chomping where
  | strip
  | clip
  | keep
deriving DecidableEq

def chomping? : Char → Option Chomping
  | '-' => some .strip
  | '+' => some .keep
  | _ => none

def indentDigit (cursor : Cursor) : Option (Option Nat × Cursor) :=
  match cursor.rest with
  | c :: _ =>
      if c.isDigit then
        if c = '0' then none else some (some (c.toNat - '0'.toNat), cursor.skip 1)
      else some (none, cursor)
  | [] => some (none, cursor)

def chompingSign (cursor : Cursor) : Option Chomping × Cursor :=
  match cursor.rest.head?.bind chomping? with
  | some sign => (some sign, cursor.skip 1)
  | none => (none, cursor)

def blockHeader (cursor : Cursor) : Option (Chomping × Option Nat × Cursor) := do
  match chompingSign cursor with
  | (some sign, cursor) =>
      let (digit, cursor) ← indentDigit cursor
      return (sign, digit, cursor)
  | (none, cursor) =>
      let (digit, cursor) ← indentDigit cursor
      let (sign, cursor) := if digit.isSome then chompingSign cursor else (none, cursor)
      return (sign.getD .clip, digit, cursor)

-- Empty lines, and the indentation of the next line as far as `indent` demands; zero stands for one
-- that is yet to be found. The last part is the greatest column seen.
def blockBreaks (indent : Nat) : Nat → List Char → Nat → Cursor → Option (List Char × Nat × Cursor)
  | 0, breaks, widest, cursor => some (breaks, widest, cursor)
  | fuel + 1, breaks, widest, cursor =>
      let spaces := (cursor.rest.takeWhile (· == ' ')).length
      let wanted := if indent = 0 then spaces else min spaces (indent - cursor.column)
      let cursor := cursor.skip wanted
      let widest := max widest cursor.column
      if (indent = 0 ∨ cursor.column < indent) ∧ cursor.atChar '\t' then none
      else match cursor.readBreak? with
        | none => some (breaks, widest, cursor)
        | some (text, next) => blockBreaks indent fuel (breaks ++ text) widest next

-- The lines of a block scalar. `ending` is the break before the current line and `empty` are the
-- empty lines after it; `blank` tells that the last line began with a blank.
def blockLines (literal : Bool) (indent : Nat) : Nat → List Char → List Char → List Char → Bool →
    Cursor → Option (List Char × List Char × List Char × Cursor)
  | 0, text, ending, empty, _, cursor => some (text, ending, empty, cursor)
  | fuel + 1, text, ending, empty, blank, cursor =>
      if cursor.column ≠ indent ∨ cursor.rest.isEmpty then some (text, ending, empty, cursor)
      else
        let startsBlank := cursor.atBlank
        let joint :=
          if !literal && ending == ['\n'] && !blank && !startsBlank then
            if empty.isEmpty then [' '] else empty
          else ending ++ empty
        let line := cursor.rest.takeWhile (!isBreak ·)
        let cursor := cursor.skip line.length
        let (ending, cursor) := (cursor.readBreak?).getD ([], cursor)
        match blockBreaks indent (cursor.rest.length + 1) [] 0 cursor with
        | none => none
        | some (empty, _, cursor) =>
            blockLines literal indent fuel (text ++ joint ++ line) ending empty startsBlank cursor

def readBlock (parent : Int) (cursor : Cursor) : Option (List Char × Cursor) := do
  let literal := cursor.atChar '|'
  let (chomping, digit, cursor) ← blockHeader (cursor.skip 1)
  let cursor := cursor.skipWhile isBlank
  let cursor := if cursor.atChar '#' then cursor.skipWhile (!isBreak ·) else cursor
  if !(cursor.rest.isEmpty || cursor.atBreak) then none
  let cursor := ((cursor.readBreak?).map Prod.snd).getD cursor
  let given := digit.map fun n => (if 0 ≤ parent then parent.toNat else 0) + n
  let (empty, widest, cursor) ← blockBreaks (given.getD 0) (cursor.rest.length + 1) [] 0 cursor
  let indent := given.getD (max widest (max (parent + 1).toNat 1))
  let (text, ending, empty, cursor) ←
    blockLines literal indent (cursor.rest.length + 1) [] [] empty false cursor
  let tail := match chomping with
    | .strip => []
    | .clip => ending
    | .keep => ending ++ empty
  return (text ++ tail, cursor)

def isNull (text : String) : Bool :=
  text == "null" || text == "Null" || text == "NULL" || text == "~"

def bool? (text : String) : Option Bool :=
  if text == "true" || text == "True" || text == "TRUE" then some true
  else if text == "false" || text == "False" || text == "FALSE" then some false
  else none

def dropSign : List Char → List Char
  | '-' :: rest => rest
  | '+' :: rest => rest
  | text => text

def isPaddedDigits (text : List Char) : Bool :=
  match dropSign text with
  | '0' :: c :: rest => (c :: rest).all Char.isDigit
  | _ => false

def digitValue? (base : Nat) (c : Char) : Option Nat :=
  (hexDigit? c).bind fun d => if d < base then some d else none

def natural? (base : Nat) (digits : List Char) : Option Nat :=
  if digits.isEmpty then none
  else digits.foldlM (fun value c => (digitValue? base c).map (value * base + ·)) 0

def based? : List Char → Option Nat
  | '0' :: 'x' :: digits => natural? 16 digits
  | '0' :: 'o' :: digits => natural? 8 digits
  | '0' :: 'b' :: digits => natural? 2 digits
  | _ => none

def int? (text : List Char) : Option Int :=
  let plain := fun digits => if isPaddedDigits text then none else natural? 10 digits
  match text with
  | '-' :: digits => ((based? digits <|> plain digits).map fun n => -(n : Int))
  | '+' :: digits => ((based? digits <|> plain digits).map fun n => (n : Int))
  | digits => ((based? digits <|> plain digits).map fun n => (n : Int))

def float? (text : List Char) : Option Binary64 :=
  let body := match text with
    | '+' :: rest => rest
    | _ => text
  let infinity := [".inf".toList, ".Inf".toList, ".INF".toList]
  if infinity.contains body then some (.ofFloat (1 / 0))
  else if (text.head? == some '-') && infinity.contains (text.drop 1) then some (.ofFloat (-1 / 0))
  else if [".nan".toList, ".NaN".toList, ".NAN".toList].contains text then
    some (.ofFloat (0 / 0))
  else
    let (negative, digits) := match body with
      | '-' :: rest => (true, rest)
      | _ => (false, body)
    if text.head? == some '+' && (negative || body.head? == some '+') then none
    else (Decimal.parse? digits).bind fun decimal =>
      let value := decimal.toBinary negative
      if value.isFinite then some value else none

def intScalar (value : Int) : Scalar :=
  if Document.fitsWord value then .int value else .unusable

-- Whole numbers of more than 128 bits are not numbers.
def fitsInt (value : Int) : Bool :=
  -(Nat.pow 2 127) ≤ value && value < Nat.pow 2 128

def plainValue (text : String) : Scalar :=
  if text.isEmpty || isNull text then .null
  else match bool? text with
    | some b => .bool b
    | none =>
        match (int? text.toList).filter fitsInt with
        | some n => intScalar n
        | none =>
            if isPaddedDigits text.toList then .text
            else match float? text.toList with
              | some f => .float f
              | none => .text

end SqlWorkflow.Yaml
