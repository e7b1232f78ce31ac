import SqlWorkflow.Sql.Alias
import SqlWorkflow.Sql.DataType

-- A parser of a part gets the parsers of the parts inside of it, which are one level deeper. The
-- depth of SQL is bounded, so the levels are built from the deepest one up.
namespace SqlWorkflow.Sql

inductive Form where
  | name (text : String) (quoted : Bool)
  | names
  | value
  | function
  | access
  | star
  | starOf
  | other
deriving DecidableEq

structure Level where
  expr : Nat → Parser Form
  query : Parser Unit
  statement : Parser Unit

namespace Parser

structure Precedences where
  period : Nat
  cast : Nat
  zone : Nat
  times : Nat
  plus : Nat
  xor : Nat
  ampersand : Nat
  caret : Nat
  pipe : Nat
  between : Nat
  equal : Nat
  like : Nat
  test : Nat
  extension : Nat
  not : Nat
  and : Nat
  or : Nat

def precedences : Warehouse → Precedences
  | .postgres => {
      period := 200, cast := 140, zone := 110, times := 90, plus := 80, xor := 75, ampersand := 70,
      caret := 100, pipe := 70, between := 60, equal := 50, like := 60, test := 40, extension := 70,
      not := 30, and := 20, or := 10 }
  | _ => {
      period := 100, cast := 50, zone := 41, times := 40, plus := 30, xor := 24, ampersand := 23,
      caret := 22, pipe := 21, between := 20, equal := 20, like := 19, test := 17, extension := 16,
      not := 15, and := 10, or := 5 }

def patternKeys : List String :=
  ["LIKE", "ILIKE", "RLIKE", "REGEXP", "MATCH", "SIMILAR", "MEMBER"]

def signPrecedence (p : Precedences) (warehouse : Warehouse) (text : String) : Nat :=
  if text = "." then p.period
  else if ["=", "==", ":=", "<", "<=", "!=", "<>", ">", ">=", "~", "~*", "!~", "!~*", "~~", "~~*",
    "!~~", "!~~*", "<=>"].contains text then p.equal
  else if text = "|" then p.pipe
  else if ["^", "#", ">>", "<<"].contains text then p.caret
  else if text = "&" then p.ampersand
  else if ["+", "-"].contains text then p.plus
  else if ["*", "/", "%", "||"].contains text then p.times
  else if ["::", "!", "[", "&&", "^@"].contains text then p.cast
  else if ["->", "->>", "#>", "#>>", "@>", "<@", "#-", "@?", "@@", "?", "?&", "?|", "##", "<->",
    "?-", "?#"].contains text then p.extension
  else if text = ":" && warehouse == .snowflake then p.cast
  else 0

def nextPrecedence : Parser Nat := do
  let warehouse ← read
  let p := precedences warehouse
  let second := (← peekAt 1).bind Token.key?
  match ← peek with
  | some (.sign text) => return signPrecedence p warehouse text
  | some (.custom _) => return p.extension
  | some token =>
      match token.key? with
      | some "OR" => return p.or
      | some "AND" => return p.and
      | some "XOR" => return p.xor
      | some "AT" => return if ← nextAreKeys ["AT", "TIME", "ZONE"] then p.zone else 0
      | some "NOT" =>
          return match second with
            | some "IN" => p.between
            | some "BETWEEN" => p.between
            | some "NULL" => p.test
            | some key => if patternKeys.contains key then p.like else 0
            | none => 0
      | some "NOTNULL" => return if warehouse == .postgres then p.test else 0
      | some "IS" => return p.test
      | some "IN" => return p.between
      | some "BETWEEN" => return p.between
      | some "OVERLAPS" => return p.between
      | some "OPERATOR" => return p.between
      | some "DIV" => return p.times
      | some key => return if patternKeys.contains key then p.like else 0
      | none => return 0
  | none => return 0

def value : Parser Unit := do
  match ← peek with
  | some (.word _ quoted key) =>
      if ["TRUE", "FALSE", "NULL"].contains key then skip
      else if quoted && (← read) != .bigQuery then skip
      else unexpected
  | some (.number _) => skip
  | some (.text _ _) => skip
  | some (.placeholder _) => skip
  | some (.sign ":") => placeholder
  | some (.sign "@") => placeholder
  | _ => unexpected
where
  placeholder : Parser Unit := do
    skip
    match ← peek with
    | some (.word _ _ _) => skip
    | some (.number _) => skip
    | _ => unexpected

def whole (level : Level) : Parser Unit := do
  let _ ← level.expr 0

def wholes (level : Level) : Parser Unit := commas (whole level)

def nextIsQuery : Parser Bool := do
  return (← nextIsKey "SELECT") || (← nextIsKey "WITH")

def orderOptions : Parser Unit := do
  optionalOneOf ["ASC", "DESC"]
  if !(← takeKeys ["NULLS", "FIRST"]) then optionalKeys ["NULLS", "LAST"]

def orders (level : Level) : Parser Unit :=
  commas do
    whole level
    orderOptions

def optionalOrder (level : Level) : Parser Unit := do
  if ← takeKeys ["ORDER", "BY"] then orders level

def timeUnits : List String :=
  ["YEAR", "YEARS", "MONTH", "MONTHS", "WEEK", "WEEKS", "DAY", "DAYOFWEEK", "DAYOFYEAR", "DAYS", "DATE",
    "DATETIME", "HOUR", "HOURS", "MINUTE", "MINUTES", "SECOND", "SECONDS", "CENTURY", "DECADE", "DOW",
    "DOY", "EPOCH", "ISODOW", "ISOYEAR", "ISOWEEK", "JULIAN", "MICROSECOND", "MICROSECONDS",
    "MILLENIUM", "MILLENNIUM", "MILLISECOND", "MILLISECONDS", "NANOSECOND", "NANOSECONDS", "QUARTER",
    "TIME", "TIMEZONE", "TIMEZONE_ABBR", "TIMEZONE_HOUR", "TIMEZONE_MINUTE", "TIMEZONE_REGION"]

def timeUnit : Parser Unit := do
  let warehouse ← read
  match ← peek with
  | some (.word _ _ key) =>
      if timeUnits.contains key then
        skip
        if key = "WEEK" && warehouse = .bigQuery then optionalBrackets name
      else if warehouse = .bigQuery then unexpected
      else skip
  | some (.text .single _) => if warehouse = .bigQuery then unexpected else skip
  | _ => unexpected

def interval (level : Level) : Parser Unit := do
  let warehouse ← read
  let required := warehouse == .bigQuery
  let _ ← level.expr (if required then 0 else (precedences warehouse).period)
  if (← peekKey).any timeUnits.contains then
    timeUnit
    optionalScale
    if ← takeKey "TO" then
      timeUnit
      optionalPrecision
  else if required then unexpected

def windowBound (level : Level) : Parser Unit := do
  if !(← takeKeys ["CURRENT", "ROW"]) then
    if !(← takeKey "UNBOUNDED") then
      match ← peek with
      | some (.text .single _) => interval level
      | _ => whole level
    let _ ← expectOneOf ["PRECEDING", "FOLLOWING"]

def window (level : Level) : Parser Unit := do
  let words := ["PARTITION", "ORDER", "ROWS", "RANGE", "GROUPS"]
  if (← peek).any fun token => token.isWord && !(token.key?.any words.contains) then skip
  if ← takeKeys ["PARTITION", "BY"] then wholes level
  optionalOrder level
  if !(← takeSign ")") then
    let _ ← expectOneOf ["ROWS", "RANGE", "GROUPS"]
    if ← takeKey "BETWEEN" then
      windowBound level
      expectKey "AND"
      windowBound level
    else windowBound level
    expectSign ")"

def optionalNulls : Parser Bool := do
  if (← takeOneOf ["RESPECT", "IGNORE"]).isSome then
    expectKey "NULLS"
    return true
  else return false

def takeArgumentSign : Parser Bool := do
  if ← takeKey "VALUE" then return true
  else if ← takeSign "=>" then return true
  else if (← read) == .postgres then takeSign ":="
  else return false

def starExclusions : Parser Unit := do
  if ← nextIsSign "(" then names else name

def starOrExpr (level : Level) : Parser Form := do
  if ← takeSign "*" then return .star
  match ← attempt starPath with
  | some true => return .starOf
  | _ => level.expr 0
where
  starPath : Parser Bool := do
    match ← peek with
    | some (.word _ _ _) => skip
    | some (.text .single _) => skip
    | _ => unexpected
    repeated do
      expectSign "."
      match ← peek with
      | some (.word _ _ _) => skip; return true
      | some (.text .single _) => skip; return true
      | some (.placeholder _) => skip; return true
      | some (.sign "*") => return false
      | _ => unexpected
    takeSign "*"

def argument (level : Level) : Parser Unit := do
  let named ← attempt do
    name
    if !(← takeArgumentSign) then unexpected
    let _ ← starOrExpr level
  if named.isNone then
    let form ← starOrExpr level
    if ← pure (form == .star) <&&> isFor .snowflake <&&> takeKey "EXCLUDE" then starExclusions
    else if ← pure (form != .star) <&&> isFor .postgres <&&> takeArgumentSign then
      let _ ← starOrExpr level

-- The arguments after the opening bracket, up to the closing one. True if they end with a word on
-- nulls.
def arguments (level : Level) : Parser Bool := do
  let warehouse ← read
  jsonNulls
  if ← takeSign ")" then return false
  optionalOneOf ["ALL", "DISTINCT"]
  commas (argument level)
  let nulls ← if warehouse = .postgres then pure false else optionalNulls
  optionalOrder level
  if ← takeKey "LIMIT" then whole level
  if ← isFor .bigQuery <&&> takeKey "HAVING" then
    let _ ← expectOneOf ["MIN", "MAX"]
    whole level
  if ← takeKeys ["ON", "OVERFLOW"] then
    if !(← takeKey "ERROR") then
      expectKey "TRUNCATE"
      match ← peek with
      | some (.text _ _) => skip
      | _ => pure ()
      let _ ← expectOneOf ["WITH", "WITHOUT"]
      expectKey "COUNT"
  jsonNulls
  expectSign ")"
  return nulls
where
  jsonNulls : Parser Unit := do
    if !(← takeKeys ["NULL", "ON", "NULL"]) then optionalKeys ["ABSENT", "ON", "NULL"]

def call (level : Level) : Parser Unit := do
  let warehouse ← read
  expectSign "("
  if warehouse = .snowflake && (← nextIsQuery) then
    level.query
    expectSign ")"
  else
    let nulls ← arguments level
    if ← takeKeys ["WITHIN", "GROUP"] then
      inBrackets do
        expectKeys ["ORDER", "BY"]
        orders level
    if ← isFor .postgres <&&> takeKey "FILTER" then
      if ← takeSign "(" then
        if ← takeKey "WHERE" then
          whole level
          expectSign ")"
    if !nulls then
      let _ ← optionalNulls
    if ← takeKey "OVER" then
      if ← takeSign "(" then window level else name

def caseOf (level : Level) : Parser Unit := do
  if !(← takeKey "WHEN") then
    whole level
    expectKey "WHEN"
  repeated do
    whole level
    expectKey "THEN"
    whole level
    takeKey "WHEN"
  if ← takeKey "ELSE" then whole level
  expectKey "END"

def castOf (level : Level) : Parser Unit :=
  inBrackets do
    whole level
    expectKey "AS"
    let _ ← dataType
    if ← takeKey "FORMAT" then
      value
      if ← takeKeys ["AT", "TIME", "ZONE"] then value

def extractOf (level : Level) : Parser Unit :=
  inBrackets do
    timeUnit
    if !(← takeKey "FROM") then
      if (← read) == .snowflake then expectSign "," else unexpected
    whole level

def roundOf (level : Level) : Parser Unit :=
  inBrackets do
    whole level
    if ← takeKey "TO" then timeUnit
    else if ← takeSign "," then value

def substringOf (level : Level) : Parser Unit :=
  inBrackets do
    whole level
    if ← takeSign "," <||> takeKey "FROM" then whole level
    if ← takeSign "," <||> takeKey "FOR" then whole level

def trimOf (level : Level) : Parser Unit :=
  inBrackets do
    optionalOneOf ["BOTH", "LEADING", "TRAILING"]
    whole level
    if ← takeKey "FROM" then whole level
    else if ← isNotFor .postgres <&&> takeSign "," then wholes level

def overlayOf (level : Level) : Parser Unit :=
  inBrackets do
    whole level
    expectKey "PLACING"
    whole level
    expectKey "FROM"
    whole level
    if ← takeKey "FOR" then whole level

def positionOf (level : Level) : Parser Unit := do
  let between := (precedences (← read)).between
  let found ← attempt <| inBrackets do
    let _ ← level.expr between
    expectKey "IN"
    whole level
  if found.isNone then call level

def convertOf (level : Level) : Parser Unit :=
  inBrackets do
    whole level
    if ← takeKey "USING" then object
    else
      expectSign ","
      let _ ← dataType

def arrayItems (level : Level) : Parser Unit := do
  if !(← takeSign "]") then
    wholes level
    expectSign "]"

def entries (level : Level) : Parser Unit := do
  if !(← takeSign "\x7d") then
    commas do
      name
      expectSign ":"
      whole level
    expectSign "\x7d"

def structOf (level : Level) : Parser Unit := do
  let typed ← nextIsSign "<"
  let ended ← typeWithin.fields (2 * (← get).tokens.length + 2)
  if ended then unexpected
  inBrackets <| commas do
    whole level
    if ← pure !typed <&&> takeKey "AS" then name

def keyed (level : Level) (key : String) : Parser (Option Form) := do
  let warehouse ← read
  let done := fun (parser : Parser Unit) => do parser; return some Form.other
  match key with
  | "TRUE" => return some .value
  | "FALSE" => return some .value
  | "NULL" => return some .value
  | "CASE" => done (caseOf level)
  | "CONVERT" => done (convertOf level)
  | "CAST" => done (castOf level)
  | "TRY_CAST" => done (castOf level)
  | "SAFE_CAST" => done (castOf level)
  | "EXISTS" => done (inBrackets level.query)
  | "EXTRACT" => done (extractOf level)
  | "CEIL" => done (roundOf level)
  | "FLOOR" => done (roundOf level)
  | "SUBSTR" => done (substringOf level)
  | "SUBSTRING" => done (substringOf level)
  | "OVERLAY" => done (overlayOf level)
  | "TRIM" => done (trimOf level)
  | "INTERVAL" => done (interval level)
  | "NOT" =>
      if ← takeKey "EXISTS" then done (inBrackets level.query)
      else done (do let _ ← level.expr (precedences warehouse).not)
  | "POSITION" => if ← nextIsSign "(" then done (positionOf level) else return none
  | "ARRAY" =>
      if ← takeSign "[" then done (arrayItems level)
      else if ← nextIsSign "(" then
        inBrackets level.query
        return some .function
      else return none
  | "STRUCT" => if warehouse = .bigQuery then done (structOf level) else return none
  | key =>
      if ["CURRENT_TIMESTAMP", "CURRENT_TIME", "CURRENT_DATE", "LOCALTIME",
          "LOCALTIMESTAMP"].contains key then
        if ← takeSign "(" then
          let _ ← arguments level
        return some .function
      else if warehouse = .postgres &&
          ["CURRENT_CATALOG", "CURRENT_USER", "SESSION_USER", "USER"].contains key then
        return some .function
      else return none

def nextIsOuterSign : Parser Bool := do
  let tokens := (← get).tokens.take 3
  return (← read) == .snowflake &&
    tokens.map Placed.token == [.sign "(", .sign "+", .sign ")"]

def plainWord (level : Level) (text : String) (quoted : Bool) : Parser Form := do
  if (← nextIsSign "(") && !(← nextIsOuterSign) then
    call level
    return .function
  else
    match ← peek with
    | some (.text _ _) =>
        if text.startsWith "_" then do skip; return .other else return .name text quoted
    | _ => return .name text quoted

def reservedKeys (warehouse : Warehouse) : List String :=
  ["EXISTS", "STRUCT", "TRIM"] ++ if warehouse == .bigQuery then ["INTERVAL"] else []

def typedLiteral (level : Level) : Parser Unit := do
  match ← dataType with
  | .interval => interval level
  | .custom => unexpected
  | .known => value

def signs (p : Precedences) (warehouse : Warehouse) (text : String) : Option Nat :=
  if ["-", "+"].contains text then some p.times
  else if text = "~" then some p.plus
  else if warehouse == .postgres && ["!!", "|/", "||/", "@"].contains text then some p.plus
  else none

def start (level : Level) : Parser Form := do
  let warehouse ← read
  if (← peekKey).any namesType then
    if (← attempt (typedLiteral level)).isSome then return .other
  match ← peek with
  | some (.word text quoted key) =>
      skip
      if quoted then plainWord level text quoted
      else match ← caught (keyed level key) with
        | .ok (some form) => return form
        | .ok none => plainWord level text quoted
        | .error fault =>
            if (reservedKeys warehouse).contains key then throw fault
            else match ← caught (plainWord level text quoted) with
              | .ok form => return form
              | .error _ => throw fault
  | some (.sign "[") =>
      skip
      arrayItems level
      return .other
  | some (.sign "(") =>
      skip
      if ← nextIsQuery then level.query else wholes level
      expectSign ")"
      return .other
  | some (.sign "\x7b") =>
      if warehouse != .snowflake then unexpected
      skip
      entries level
      return .other
  | some (.sign text) =>
      match signs (precedences warehouse) warehouse text with
      | some precedence =>
          skip
          let _ ← level.expr precedence
          return .other
      | none =>
          if text = ":" || text = "@" then
            value
            return .value
          else unexpected
  | some (.stray _) => unexpected
  | some (.custom _) => unexpected
  | _ =>
      value
      return .value

def Form.with (form part : Form) : Form :=
  match form, part with
  | .name _ _, .name _ _ => .names
  | .name _ _, .names => .names
  | .names, .name _ _ => .names
  | .names, .names => .names
  | .name _ _, .function => .function
  | .names, .function => .function
  | _, _ => .access

def subscript (level : Level) : Parser Unit := do
  if !(← takeSign ":") then
    whole level
    if ← takeSign "]" then return
    expectSign ":"
  if ← takeSign "]" then return
  whole level
  if ← takeSign "]" then return
  expectSign ":"
  if ← takeSign "]" then return
  whole level
  expectSign "]"

def field (level : Level) : Parser Form := do
  let p := precedences (← read)
  match ← peek with
  | some (.text .single text) => skip; return .name text true
  | some (.placeholder text) => skip; return .name text false
  | _ =>
      let part ← attempt do
        let form ← level.expr p.period
        match form with
        | .star => unexpected
        | .starOf => unexpected
        | .other => unexpected
        | form => return form
      match part with
      | some form => return form
      | none => return .name (← identifier) false

def fields (level : Level) : Nat → Form → Parser Form
  | 0, form => return form
  | bound + 1, form => do
      let warehouse ← read
      let star := (← peekAt 1) == some (.sign "*")
      if ← nextIsSign "." then
        if star then
          if warehouse = .postgres then
            skip; skip
            match form with
            | .name _ _ => return .starOf
            | .names => return .starOf
            | _ => unexpected
          else return form
        else
          skip
          fields level bound (Form.with form (← field level))
      else if ← isNotFor .snowflake <&&> takeSign "[" then
        subscript level
        fields level bound .access
      else if ← nextIsOuterSign then
        match form with
        | .name _ _ => skip; skip; skip; return .other
        | .names => skip; skip; skip; return .other
        | _ => unexpected
      else return form

def binarySigns (warehouse : Warehouse) : List String :=
  ["=", "==", ":=", "!=", "<>", ">", ">=", "<", "<=", "<=>", "+", "-", "*", "/", "%", "||", "|", "^",
    "&", "->", "->>", "#>", "#>>", "@>", "<@", "#-", "@?", "@@", "?", "?&", "?|", "~", "~*", "!~",
    "!~*", "~~", "~~*", "!~~", "!~~*", "##", "<->", "?-", "?#", "^@"] ++
  if warehouse == .postgres then ["#", "&&", "<<", ">>"] else []

def rightSide (level : Level) (precedence : Nat) : Parser Unit := do
  if (← takeOneOf ["ANY", "ALL", "SOME"]).isSome then
    expectSign "("
    if ← nextIsQuery then level.query
    else
      let _ ← level.expr precedence
    expectSign ")"
  else
    let _ ← level.expr precedence

def afterIs (level : Level) : Parser Unit := do
  optionalKeys ["NOT"]
  if (← takeOneOf ["NULL", "TRUE", "FALSE", "UNKNOWN"]).isSome then return
  if ← takeKeys ["DISTINCT", "FROM"] then whole level
  else
    optionalOneOf ["NFC", "NFD", "NFKC", "NFKD"]
    expectKey "NORMALIZED"

def afterIn (level : Level) : Parser Unit := do
  if ← takeKey "UNNEST" then inBrackets (whole level)
  else
    inBrackets do
      if (← attempt level.query).isNone then wholes level

def pattern (level : Level) (precedence : Nat) : Parser Unit := do
  let _ ← level.expr precedence
  if ← takeKey "ESCAPE" then value

def jsonPath (level : Level) : Parser Unit := do
  if ← takeSign ":" then
    if ← takeSign "[" then
      let _ ← starOrExpr level
      expectSign "]"
    else key
  repeated do
    if ← takeSign "." then
      key
      return true
    else if ← takeSign "[" then
      let _ ← starOrExpr level
      expectSign "]"
      return true
    else return false
where
  key : Parser Unit := do
    match ← peek with
    | some (.word _ _ _) => skip
    | some (.text .double _) => skip
    | _ => unexpected

def wordOperator (level : Level) (precedence : Nat) (key : String) : Parser Unit := do
  let p := precedences (← read)
  match key with
  | "IS" => skip; afterIs level
  | "AT" =>
      skip
      expectKeys ["TIME", "ZONE"]
      let _ ← level.expr precedence
  | "NOTNULL" => skip
  | "OPERATOR" =>
      skip
      if (← read) != .postgres then unexpected
      inBrackets <| repeated do
        skip
        takeSign "."
      rightSide level precedence
  | key =>
      if ["AND", "OR", "XOR", "OVERLAPS", "DIV"].contains key then
        skip
        rightSide level precedence
      else
        let negated ← takeKey "NOT"
        match ← peekKey with
        | some "REGEXP" => skip; (do let _ ← level.expr p.like)
        | some "RLIKE" => skip; (do let _ ← level.expr p.like)
        | some "NULL" => if negated then skip else unexpected
        | some "IN" => skip; afterIn level
        | some "BETWEEN" =>
            skip
            let _ ← level.expr p.between
            expectKey "AND"
            let _ ← level.expr p.between
        | some "LIKE" =>
            skip
            optionalKeys ["ANY"]
            pattern level p.like
        | some "ILIKE" =>
            skip
            optionalKeys ["ANY"]
            pattern level p.like
        | some "SIMILAR" =>
            skip
            expectKey "TO"
            pattern level p.like
        | some "MEMBER" =>
            skip
            expectKey "OF"
            inBrackets (whole level)
        | _ => unexpected

def operation (level : Level) (precedence : Nat) : Parser Unit := do
  let warehouse ← read
  match ← peek with
  | some (.custom _) => skip; rightSide level precedence
  | some (.sign "::") =>
      skip
      let _ ← dataType
  | some (.sign text) =>
      if (binarySigns warehouse).contains text then
        skip
        rightSide level precedence
      else if warehouse = .snowflake && (text = ":" || text = "[") then jsonPath level
      else if warehouse = .postgres && text = "!" then skip
      else unexpected
  | some token => wordOperator level precedence (token.key?.getD "")
  | none => unexpected

def operations (level : Level) (precedence : Nat) : Nat → Form → Parser Form
  | 0, form => return form
  | bound + 1, form => do
      let next ← nextPrecedence
      if next ≤ precedence || (← nextIsSign ".") then return form
      else
        operation level next
        operations level precedence bound .other

def expression (level : Level) (precedence : Nat) : Parser Form := do
  let form ← start level
  let bound := (← get).tokens.length + 1
  let form ← fields level bound form
  let form ← if ← takeKey "COLLATE" then do object; pure Form.other else pure form
  operations level precedence bound form

end Parser

end SqlWorkflow.Sql
