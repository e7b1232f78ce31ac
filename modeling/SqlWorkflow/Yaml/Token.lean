import SqlWorkflow.Yaml.Scalar

-- A token opens or closes block collections as its column asks for. A word turns out to be a key
-- when a colon follows it on its line, and its key token is then put in front of it.
namespace SqlWorkflow.Yaml

inductive Token where
  | streamEnd
  | version (major minor : Nat)
  | tagDirective (handle start : String)
  | documentStart
  | documentEnd
  | blockSequenceStart
  | blockMappingStart
  | blockEnd
  | flowSequenceStart
  | flowSequenceEnd
  | flowMappingStart
  | flowMappingEnd
  | blockEntry
  | flowEntry
  | key
  | value
  | alias (name : String)
  | anchor (name : String)
  | tag (handle name : String)
  | scalar (text : String) (plain : Bool)
deriving DecidableEq, Inhabited

-- A place where a key may have begun: its token is the one at `position`. In a block mapping a key
-- is needed at the indentation of the mapping.
structure KeyPlace where
  position : Nat
  needed : Bool
  index : Nat
  line : Nat
  column : Nat

structure Scanner where
  cursor : Cursor
  tokens : Array Token := #[]
  indent : Int := -1
  outer : List Int := []
  keyAllowed : Bool := true
  keyPlace : Option KeyPlace := none
  outerKeys : List (Option KeyPlace) := []

namespace Scanner

def inFlow (s : Scanner) : Bool :=
  !s.outerKeys.isEmpty

def push (s : Scanner) (token : Token) : Scanner :=
  { s with tokens := s.tokens.push token }

def take (s : Scanner) (n : Nat) (token : Token) : Scanner :=
  { s with cursor := s.cursor.skip n, tokens := s.tokens.push token }

def allowKey (s : Scanner) (allowed : Bool) : Scanner :=
  { s with keyAllowed := allowed }

def dropKey (s : Scanner) : Option Scanner :=
  if s.keyPlace.any KeyPlace.needed then none else some { s with keyPlace := none }

def markKey (s : Scanner) : Option Scanner :=
  if s.keyAllowed then
    s.dropKey.map fun s =>
      let c := s.cursor
      { s with keyPlace := some {
          position := s.tokens.size
          needed := !s.inFlow && s.indent == c.column
          index := c.index, line := c.line, column := c.column } }
  else some s

-- A possible key ends with its line, and after 1024 characters.
def isStale (cursor : Cursor) (place : KeyPlace) : Bool :=
  place.line < cursor.line || place.index + 1024 < cursor.index

def dropStaleKeys (s : Scanner) : Option Scanner :=
  let stale := fun (place : Option KeyPlace) => place.any (isStale s.cursor)
  if (s.keyPlace :: s.outerKeys).any fun place => stale place && place.any KeyPlace.needed then none
  else
    let keep := fun place => if stale place then none else place
    some { s with keyPlace := keep s.keyPlace, outerKeys := s.outerKeys.map keep }

def openBlock (s : Scanner) (column : Nat) (position : Nat) (token : Token) : Scanner :=
  if s.inFlow || (column : Int) ≤ s.indent then s
  else
    { s with
      indent := column
      outer := s.indent :: s.outer
      tokens := s.tokens.insertIdxIfInBounds position token }

def closeBlocks (column : Int) : List Int → Scanner → Scanner
  | [], s => s
  | indent :: outer, s =>
      if s.inFlow || s.indent ≤ column then s
      else closeBlocks column outer { s with indent, outer, tokens := s.tokens.push .blockEnd }

def unindent (s : Scanner) (column : Int) : Scanner :=
  closeBlocks column s.outer s

-- Passes blanks, comments and line breaks. A tab does not indent, so where a key may begin outside
-- of flow collections it is not passed.
def skipBlanks : Nat → Scanner → Scanner
  | 0, s => s
  | fuel + 1, s =>
      let tabs := s.inFlow || !s.keyAllowed
      let cursor := s.cursor.skipWhile fun c => c == ' ' || (tabs && c == '\t')
      let cursor := if cursor.atChar '#' then cursor.skipWhile (!isBreak ·) else cursor
      match cursor.readBreak? with
      | some (_, next) =>
          skipBlanks fuel { s with cursor := next, keyAllowed := s.keyAllowed || !s.inFlow }
      | none => { s with cursor }

def betweenDocuments (s : Scanner) : Option Scanner :=
  (s.unindent (-1)).dropKey.map (·.allowKey false)

def openFlow (s : Scanner) (token : Token) : Option Scanner :=
  s.markKey.map fun s =>
    { (s.take 1 token) with
      keyPlace := none, outerKeys := s.keyPlace :: s.outerKeys, keyAllowed := true }

def closeFlow (s : Scanner) (token : Token) : Option Scanner :=
  s.dropKey.map fun s =>
    let s := (s.take 1 token).allowKey false
    match s.outerKeys with
    | [] => s
    | place :: outer => { s with keyPlace := place, outerKeys := outer }

def flowEntry (s : Scanner) : Option Scanner :=
  s.dropKey.map fun s => (s.take 1 .flowEntry).allowKey true

def blockEntry (s : Scanner) : Option Scanner :=
  if !s.inFlow && !s.keyAllowed then none
  else
    let s := s.openBlock s.cursor.column s.tokens.size .blockSequenceStart
    s.dropKey.map fun s => (s.take 1 .blockEntry).allowKey true

def explicitKey (s : Scanner) : Option Scanner :=
  if !s.inFlow && !s.keyAllowed then none
  else
    let s := s.openBlock s.cursor.column s.tokens.size .blockMappingStart
    s.dropKey.map fun s => (s.take 1 .key).allowKey (!s.inFlow)

def colon (s : Scanner) : Option Scanner :=
  match s.keyPlace with
  | some place =>
      let tokens := s.tokens.insertIdxIfInBounds place.position .key
      let s := { s with tokens, keyPlace := none }
      let s := s.openBlock place.column place.position .blockMappingStart
      some ((s.take 1 .value).allowKey false)
  | none =>
      if !s.inFlow && !s.keyAllowed then none
      else
        let s := s.openBlock s.cursor.column s.tokens.size .blockMappingStart
        some ((s.take 1 .value).allowKey (!s.inFlow))

def readName (cursor : Cursor) : Option (String × Cursor) :=
  let cursor := cursor.skip 1
  let name := cursor.rest.takeWhile isWordChar
  let next := cursor.skip name.length
  if name.isEmpty then none
  else if endsWord next.rest || next.rest.head?.any ("?:,]\x7d%@\x60".toList.contains ·) then
    some (String.ofList name, next)
  else none

def named (s : Scanner) (token : String → Token) : Option Scanner := do
  let s ← s.markKey
  let (name, cursor) ← readName s.cursor
  return { (s.push (token name)) with cursor, keyAllowed := false }

def isTagChar (verbatim : Bool) (c : Char) : Bool :=
  isWordChar c || ";/?:@&=+$.!~*'()".toList.contains c || (verbatim && ",[]".toList.contains c)

def escapedBytes : Nat → List Char → Option (List UInt8)
  | 0, _ => some []
  | fuel + 1, text =>
      match text with
      | '%' :: a :: b :: rest => do
          let byte := (← hexDigit? a) * 16 + (← hexDigit? b)
          return byte.toUInt8 :: (← escapedBytes fuel rest)
      | '%' :: _ => none
      | _ => some []

def readTagText (verbatim : Bool) : Nat → List Char → Option (List Char × Nat)
  | 0, _ => some ([], 0)
  | fuel + 1, text =>
      match text with
      | [] => some ([], 0)
      | c :: rest =>
          if c = '%' then do
            let bytes ← escapedBytes (text.length + 1) text
            let decoded ← String.fromUTF8? ⟨bytes.toArray⟩
            let (more, count) ← readTagText verbatim fuel (text.drop (3 * bytes.length))
            return (decoded.toList ++ more, 3 * bytes.length + count)
          else if isTagChar verbatim c then
            (readTagText verbatim fuel rest).map fun result => (c :: result.1, result.2 + 1)
          else some ([], 0)

def readHandle (text : List Char) : List Char :=
  match text with
  | '!' :: rest =>
      let word := rest.takeWhile isWordChar
      match rest.drop word.length with
      | '!' :: _ => '!' :: word ++ ['!']
      | _ => '!' :: word
  | _ => []

def readTag (cursor : Cursor) : Option (Token × Cursor) :=
  match cursor.rest with
  | '!' :: '<' :: rest => do
      let (name, count) ← readTagText true (rest.length + 1) rest
      let next := cursor.skip (count + 2)
      if count = 0 ∨ !next.atChar '>' then none
      else return (.tag "" (String.ofList name), next.skip 1)
  | text => do
      let handle := readHandle text
      if 1 < handle.length ∧ handle.getLast? = some '!' then
        let next := cursor.skip handle.length
        let (name, count) ← readTagText false (next.rest.length + 1) next.rest
        if count = 0 then none
        else return (.tag (String.ofList handle) (String.ofList name), next.skip count)
      else
        let next := cursor.skip 1
        let (name, count) ← readTagText false (next.rest.length + 1) next.rest
        let token := if name.isEmpty then .tag "" "!" else .tag "!" (String.ofList name)
        return (token, next.skip count)

def tagged (s : Scanner) : Option Scanner := do
  let s ← s.markKey
  let (token, cursor) ← readTag s.cursor
  if endsWord cursor.rest || (s.inFlow && cursor.atChar ',') then
    return { (s.push token) with cursor, keyAllowed := false }
  else none

def blockScalar (s : Scanner) : Option Scanner := do
  let s ← s.dropKey
  let (text, cursor) ← readBlock s.indent s.cursor
  return { (s.push (.scalar (String.ofList text) false)) with cursor, keyAllowed := true }

def quotedScalar (s : Scanner) (quote : Char) : Option Scanner := do
  let s ← s.markKey
  let (text, cursor) ← readQuoted quote s.cursor
  return { (s.push (.scalar (String.ofList text) false)) with cursor, keyAllowed := false }

def plainScalar (s : Scanner) : Option Scanner := do
  let s ← s.markKey
  let (text, cursor, broken) ← readPlain s.inFlow (s.indent + 1).toNat s.cursor
  return { (s.push (.scalar (String.ofList text) true)) with cursor, keyAllowed := broken }

def readDirectiveNumber (cursor : Cursor) : Option (Nat × Cursor) :=
  let digits := cursor.rest.takeWhile Char.isDigit
  if digits.isEmpty || 9 < digits.length then none
  else some (Decimal.ofDigits digits, cursor.skip digits.length)

def readVersion (cursor : Cursor) : Option (Token × Cursor) := do
  let (major, cursor) ← readDirectiveNumber (cursor.skipWhile isBlank)
  if !cursor.atChar '.' then none
  let (minor, cursor) ← readDirectiveNumber (cursor.skip 1)
  return (.version major minor, cursor)

def readTagDirective (cursor : Cursor) : Option (Token × Cursor) := do
  let cursor := cursor.skipWhile isBlank
  let handle := readHandle cursor.rest
  let next := cursor.skip handle.length
  if handle.isEmpty || (handle != ['!'] && handle.getLast? != some '!') || !next.atBlank then none
  let next := next.skipWhile isBlank
  let (start, count) ← readTagText true (next.rest.length + 1) next.rest
  let next := next.skip count
  if count = 0 ∨ !endsWord next.rest then none
  else return (.tagDirective (String.ofList handle) (String.ofList start), next)

def directive (s : Scanner) : Option Scanner := do
  let s ← s.betweenDocuments
  let cursor := s.cursor.skip 1
  let name := cursor.rest.takeWhile isWordChar
  let cursor := cursor.skip name.length
  if !endsWord cursor.rest then none
  let (token, cursor) ←
    if name = "YAML".toList then readVersion cursor
    else if name = "TAG".toList then readTagDirective cursor
    else none
  let cursor := cursor.skipWhile isBlank
  let cursor := if cursor.atChar '#' then cursor.skipWhile (!isBreak ·) else cursor
  if !(cursor.rest.isEmpty || cursor.atBreak) then none
  return { (s.push token) with cursor := ((cursor.readBreak?).map Prod.snd).getD cursor }

def startsPlain (flow : Bool) : List Char → Bool
  | [] => false
  | c :: rest =>
      if c = '-' then !rest.head?.any isBlank
      else if c = '?' ∨ c = ':' then !flow && !endsWord rest
      else !(isSpace c || ",[]\x7b\x7d#&*!|>'\"%@\x60".toList.contains c)

def readToken (s : Scanner) : Option Scanner :=
  let cursor := s.cursor
  match cursor.rest with
  | [] => none
  | c :: rest =>
      if cursor.column = 0 ∧ c = '%' then s.directive
      else if cursor.atMarker '-' then s.betweenDocuments.map (·.take 3 .documentStart)
      else if cursor.atMarker '.' then s.betweenDocuments.map (·.take 3 .documentEnd)
      else if c = '[' then s.openFlow .flowSequenceStart
      else if c = '\x7b' then s.openFlow .flowMappingStart
      else if c = ']' then s.closeFlow .flowSequenceEnd
      else if c = '\x7d' then s.closeFlow .flowMappingEnd
      else if c = ',' then s.flowEntry
      else if c = '-' ∧ endsWord rest then s.blockEntry
      else if c = '?' ∧ (s.inFlow ∨ endsWord rest) then s.explicitKey
      else if c = ':' ∧ (s.inFlow ∨ endsWord rest) then s.colon
      else if c = '*' then s.named .alias
      else if c = '&' then s.named .anchor
      else if c = '!' then s.tagged
      else if (c = '|' ∨ c = '>') ∧ !s.inFlow then s.blockScalar
      else if c = '\'' ∨ c = '"' then s.quotedScalar c
      else if startsPlain s.inFlow (c :: rest) then s.plainScalar
      else none

def approach (s : Scanner) : Option Scanner :=
  let s := s.skipBlanks (s.cursor.rest.length + 1)
  s.dropStaleKeys.map fun s => s.unindent s.cursor.column

def readAll : Nat → Scanner → Array Token × Bool
  | 0, s => (s.tokens, false)
  | fuel + 1, s =>
      match s.approach with
      | none => (s.tokens, false)
      | some s =>
          if s.cursor.rest.isEmpty then
            match (s.unindent (-1)).dropKey with
            | none => (s.tokens, false)
            | some s => (s.tokens.push .streamEnd, true)
          else match s.readToken with
            | none => (s.tokens, false)
            | some s => readAll fuel s

end Scanner

def Token.ofText (text : String) : List Token × Bool :=
  let chars := text.toList
  if chars.all isAllowed then
    let cursor : Cursor := { rest := chars }
    let cursor := if cursor.atChar '\ufeff' then cursor.skip 1 else cursor
    let result := Scanner.readAll (chars.length + 1) { cursor }
    (result.1.toList, result.2)
  else ([], false)

end SqlWorkflow.Yaml
