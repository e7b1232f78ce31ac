import SqlWorkflow.Sql.Token
import SqlWorkflow.Text.Blank

namespace SqlWorkflow.Sql

abbrev Chars := List (Char × Spot)

def place : Spot → List Char → Chars × Spot
  | spot, [] => ([], spot)
  | spot, c :: rest =>
      let next := if c = '\n' then ⟨spot.line + 1, 1⟩ else ⟨spot.line, spot.column + 1⟩
      let (chars, finish) := place next rest
      ((c, spot) :: chars, finish)

namespace Lex

abbrev Result := Except Spot (Option Token × Chars)

def peek (chars : Chars) : Option Char :=
  chars.head?.map Prod.fst

def spotOf (finish : Spot) (chars : Chars) : Spot :=
  (chars.head?.map Prod.snd).getD finish

def span (p : Char → Bool) (chars : Chars) : List Char × Chars :=
  let (taken, rest) := chars.span fun entry => p entry.1
  (taken.map Prod.fst, rest)

def startsWith (text : List Char) (chars : Chars) : Bool :=
  text.isPrefixOf ((chars.take text.length).map Prod.fst)

def isAsciiLetter (c : Char) : Bool :=
  ('a' ≤ c && c ≤ 'z') || ('A' ≤ c && c ≤ 'Z')

def startsWord (warehouse : Warehouse) (c : Char) : Bool :=
  isAsciiLetter c || c == '_' || match warehouse with
    | .bigQuery => c == '@'
    | .snowflake => false
    | .postgres => 128 ≤ c.toNat

def continuesWord (warehouse : Warehouse) (c : Char) : Bool :=
  isAsciiLetter c || c == '_' || c.isDigit || match warehouse with
    | .bigQuery => false
    | .snowflake => c == '$'
    | .postgres => c == '$' || 128 ≤ c.toNat

def quotesWord (warehouse : Warehouse) (c : Char) : Bool :=
  match warehouse with
  | .bigQuery => c == '\x60'
  | .snowflake => c == '"' || c == '\x60'
  | .postgres => c == '"'

def escapesByBackslash (warehouse : Warehouse) : Bool :=
  warehouse != .postgres

def continuesOperator (warehouse : Warehouse) (c : Char) : Bool :=
  warehouse == .postgres && "+-*/<>=~!@#%^&|\x60?".toList.contains c

def closedSigns : List String :=
  ["(", ")", ",", ";", "\\", "[", "]", "\x7b", "\x7d", "+", "*", "/", "=", "==", "=>", "!", "!=", "!!",
    "!~", "!~*", "!~~", "!~~*", ":", "::", ":=", "^"]

def openSigns (warehouse : Warehouse) : List String :=
  ["-", "->", "->>", "%", "|", "||", "|/", "||/", "<", "<=", "<=>", "<>", "<<", "<@", ">", ">=", ">>",
    "&", "&&", "~", "~*", "~~", "~~*", "@", "@>", "@?", "@@"] ++
  match warehouse with
  | .bigQuery => ["|>"]
  | .snowflake => []
  | .postgres => ["#", "#>", "#>>", "#-", "##", "<->", "^@", "?", "?|", "?&", "?-", "?#"]

def unfinishedSigns (warehouse : Warehouse) : List String :=
  if warehouse == .postgres then ["<-", "|>", "|&"] else []

def unescaped : Char → Char
  | '0' => '\x00'
  | 'a' => '\x07'
  | 'b' => '\x08'
  | 'f' => '\x0c'
  | 'n' => '\n'
  | 'r' => '\r'
  | 't' => '\t'
  | 'Z' => '\x1a'
  | c => c

def textBody (quote : Char) (escapes : Bool) : Chars → Option (List Char × Chars)
  | [] => none
  | (c, _) :: rest =>
      if c = quote then
        match rest with
        | (next, _) :: more =>
            if next = quote then
              (textBody quote escapes more).map fun body => (quote :: body.1, body.2)
            else some ([], rest)
        | [] => some ([], [])
      else if c = '\\' && escapes then
        match rest with
        | (next, _) :: more =>
            (textBody quote escapes more).map fun body => (unescaped next :: body.1, body.2)
        | [] => none
      else (textBody quote escapes rest).map fun body => (c :: body.1, body.2)

def tripleRest (quote : Char) (escapes : Bool) : Nat → Chars → Option Chars
  | _, [] => none
  | seen, (c, _) :: rest =>
      if c = quote then
        if seen = 2 then some rest else tripleRest quote escapes (seen + 1) rest
      else if c = '\\' && escapes then
        match rest with
        | _ :: more => tripleRest quote escapes 0 more
        | [] => none
      else tripleRest quote escapes 0 rest

def quotedText (kind : TextKind) (quote : Char) (escapes : Bool) (finish : Spot) (chars : Chars) :
    Result :=
  match textBody quote escapes (chars.drop 1) with
  | some (body, rest) => .ok (some (.text kind (String.ofList body)), rest)
  | none => .error (spotOf finish chars)

def tripleText (kind : TextKind) (quote : Char) (escapes : Bool) (finish : Spot) (chars : Chars) :
    Result :=
  let inner := chars.drop 1
  if startsWith [quote, quote] inner then
    let inner := inner.drop 2
    match tripleRest quote escapes 0 inner with
    | some rest => .ok (some (.text .special ""), rest)
    | none => .error (spotOf finish inner)
  else
    match inner with
    | [] => .error finish
    | (c, spot) :: rest =>
        if c = quote then .ok (some (.text kind ""), rest)
        else match textBody quote escapes inner with
          | some (body, rest) => .ok (some (.text kind (String.ofList body)), rest)
          | none => .error spot

def anyText (warehouse : Warehouse) (kind : TextKind) (quote : Char) (escapes : Bool)
    (finish : Spot) (chars : Chars) : Result :=
  if warehouse = .bigQuery then tripleText kind quote escapes finish chars
  else quotedText kind quote escapes finish chars

-- What follows a comment. Only PostgreSQL has comments inside of comments.
def blockRest (nests : Bool) : Nat → Chars → Option Chars
  | _, [] => none
  | _, [_] => none
  | depth, (c, _) :: (d, t) :: rest =>
      if c = '*' && d = '/' then
        if depth = 1 then some rest else blockRest nests (depth - 1) rest
      else if nests && c = '/' && d = '*' then blockRest nests (depth + 1) rest
      else blockRest nests depth ((d, t) :: rest)

def lineRest (chars : Chars) : Chars :=
  (span (· != '\n') chars).2.drop 1

def dollarRest (mark : List Char) : Chars → Option Chars
  | [] => none
  | chars@(_ :: rest) =>
      if startsWith mark chars then some (chars.drop mark.length) else dollarRest mark rest

def dollar (finish : Spot) (chars : Chars) : Result :=
  let (tag, rest) := span (fun c => c.isAlphanum || c == '_' || 128 ≤ c.toNat) (chars.drop 1)
  match peek rest with
  | some '$' =>
      match dollarRest ('$' :: tag ++ ['$']) (rest.drop 1) with
      | some rest => .ok (some (.text .special ""), rest)
      | none => .error finish
  | _ => .ok (some (.placeholder (String.ofList ('$' :: tag))), rest)

-- Digits, between which PostgreSQL allows single underscores.
def digits (warehouse : Warehouse) (isDigit : Char → Bool) : Chars → List Char × Chars
  | [] => ([], [])
  | (c, s) :: rest =>
      let joins := warehouse == .postgres && c == '_' && (peek rest).any isDigit
      if isDigit c || joins then
        let (more, rest) := digits warehouse isDigit rest
        (c :: more, rest)
      else ([], (c, s) :: rest)

def isHexDigit (c : Char) : Bool :=
  c.isDigit || ('a' ≤ c && c ≤ 'f') || ('A' ≤ c && c ≤ 'F')

def exponent (chars : Chars) : List Char × Chars :=
  match chars with
  | (e, _) :: rest =>
      if e = 'e' || e = 'E' then
        let (sign, rest) := match rest with
          | (c, s) :: more => if c = '+' || c = '-' then ([c], more) else ([], (c, s) :: more)
          | [] => ([], [])
        let (digits, rest) := span Char.isDigit rest
        if digits.isEmpty then ([], chars) else (e :: sign ++ digits, rest)
      else ([], chars)
  | [] => ([], [])

-- A number, or a period. A period between a word and an underscore stands by itself.
def number (warehouse : Warehouse) (before : Option Token) (finish : Spot) (chars : Chars) :
    Result :=
  if startsWith ['.', '_'] chars then
    if before.any Token.isWord then .ok (some (.sign "."), chars.drop 1)
    else .error (spotOf finish chars)
  else
    let (whole, rest) := digits warehouse Char.isDigit chars
    if whole = ['0'] && peek rest == some 'x' then
      .ok (some (.text .special ""), (digits warehouse isHexDigit (rest.drop 1)).2)
    else
      let (point, rest) := if peek rest == some '.' then (['.'], rest.drop 1) else ([], rest)
      let (fraction, rest) := digits warehouse Char.isDigit rest
      if whole ++ point ++ fraction = ['.'] then .ok (some (.sign "."), rest)
      else
        let (power, rest) := exponent rest
        let rest := if peek rest == some 'L' then rest.drop 1 else rest
        .ok (some (.number (String.ofList (whole ++ point ++ fraction ++ power))), rest)

def word (warehouse : Warehouse) (start : Nat) (chars : Chars) : Result :=
  let (more, rest) := span (continuesWord warehouse) (chars.drop start)
  .ok (some (.ofWord (String.ofList ((chars.take start).map Prod.fst ++ more))), rest)

def longest (texts : List String) (chars : Chars) : Option String :=
  (texts.filter fun text => startsWith text.toList chars).foldl
    (fun best text => match best with
      | some found => if found.length < text.length then some text else best
      | none => some text) none

def operator (warehouse : Warehouse) (finish : Spot) (c : Char) (chars : Chars) : Result :=
  let opened := openSigns warehouse ++ unfinishedSigns warehouse
  match longest (closedSigns ++ opened) chars with
  | none => .ok (some (.stray c), chars.drop 1)
  | some text =>
      let rest := chars.drop text.length
      let (more, after) := span (continuesOperator warehouse) rest
      if closedSigns.contains text then .ok (some (.sign text), rest)
      else if !more.isEmpty then .ok (some (.custom (text ++ String.ofList more)), after)
      else if (unfinishedSigns warehouse).contains text then .error (spotOf finish rest)
      else .ok (some (.sign text), rest)

def atSign (warehouse : Warehouse) (finish : Spot) (chars : Chars) : Result :=
  let signs := if startsWith ['@', '@'] chars then 2 else 1
  match warehouse, peek (chars.drop signs) with
  | .bigQuery, some c =>
      if [' ', '\'', '"', '\x60', '>', '?'].contains c then operator warehouse finish '@' chars
      else word warehouse (signs + 1) chars
  | _, _ => operator warehouse finish '@' chars

def letterText? (warehouse : Warehouse) (finish : Spot) (c : Char) (chars : Chars) :
    Option Result :=
  let inner := chars.drop 1
  let lower := if 'A' ≤ c && c ≤ 'Z' then Char.ofNat (c.toNat + 32) else c
  let quote := (peek inner).filter fun q => q == '\'' || q == '"'
  match lower, quote, warehouse with
  | _, none, .postgres =>
      if lower = 'u' && startsWith ['&', '\''] inner then
        some (quotedText .special '\'' false finish (inner.drop 1))
      else none
  | _, none, _ => none
  | 'b', some _, .snowflake => none
  | 'b', some q, _ => some (anyText warehouse .special q false finish inner)
  | 'r', some q, .bigQuery => some (anyText warehouse .special q false finish inner)
  | 'n', some '\'', _ =>
      some (quotedText .special '\'' (escapesByBackslash warehouse) finish inner)
  | 'e', some '\'', .postgres =>
      some ((quotedText .special '\'' true finish inner).mapError fun _ => spotOf finish chars)
  | 'x', some '\'', _ => some (quotedText .special '\'' true finish inner)
  | _, _, _ => none

def startsComment (warehouse : Warehouse) (chars : Chars) : Bool :=
  startsWith ['-', '-'] chars || (warehouse == .snowflake && startsWith ['/', '/'] chars) ||
    (warehouse != .postgres && peek chars == some '#')

def token (warehouse : Warehouse) (before : Option Token) (finish : Spot) (c : Char)
    (chars : Chars) : Result :=
  if c = '\r' && startsWith ['\r', '\n'] chars then .ok (none, chars.drop 2)
  else if Text.isBlank c && !startsWord warehouse c then .ok (none, chars.drop 1)
  else if startsComment warehouse chars then .ok (none, lineRest chars)
  else if startsWith ['/', '*'] chars then
    match blockRest (warehouse == .postgres) 1 (chars.drop 2) with
    | some rest => .ok (none, rest)
    | none => .error finish
  else if let some result := letterText? warehouse finish c chars then result
  else if c = '\'' then anyText warehouse .single c (escapesByBackslash warehouse) finish chars
  else if quotesWord warehouse c then
    match textBody c false (chars.drop 1) with
    | some (body, rest) => .ok (some (.quotedWord (String.ofList body)), rest)
    | none => .error (spotOf finish chars)
  else if c = '"' then anyText warehouse .double c (escapesByBackslash warehouse) finish chars
  else if c.isDigit || c = '.' then number warehouse before finish chars
  else if c = '@' then atSign warehouse finish chars
  else if c = '?' && warehouse != .postgres then
    let (digits, rest) := span Char.isDigit (chars.drop 1)
    .ok (some (.placeholder (String.ofList ('?' :: digits))), rest)
  else if startsWord warehouse c then word warehouse 1 chars
  else if c = '$' then dollar finish chars
  else operator warehouse finish c chars

def tokens (warehouse : Warehouse) (finish : Spot) :
    Nat → Option Token → Bool → Chars → Except Spot (List Placed)
  | 0, _, _, _ => .ok []
  | _, _, _, [] => .ok []
  | fuel + 1, before, joined, (c, spot) :: rest => do
      let (found, rest) ← token warehouse before finish c ((c, spot) :: rest)
      let more ← tokens warehouse finish fuel found found.isSome rest
      return match found with
        | some token => ⟨token, spot, joined⟩ :: more
        | none => more

end Lex

def tokenize (warehouse : Warehouse) (text : String) : Except Spot (List Placed) :=
  let (chars, finish) := place ⟨1, 1⟩ text.toList
  Lex.tokens warehouse finish (chars.length + 1) none false chars

end SqlWorkflow.Sql
