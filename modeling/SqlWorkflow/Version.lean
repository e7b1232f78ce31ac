import SqlWorkflow.Text.Blank

-- A pre-release satisfies a requirement only if a comparator names one of the same three numbers.
namespace SqlWorkflow

inductive PreId where
  | number (value : Nat)
  | word (letters : List Char)
deriving DecidableEq

structure Version where
  major : Nat
  minor : Nat
  patch : Nat
  pre : List PreId := []
deriving DecidableEq

namespace Version

def comparePreId : PreId → PreId → Ordering
  | .number a, .number b => compare a b
  | .number _, .word _ => .lt
  | .word _, .number _ => .gt
  | .word a, .word b => compare a b

def comparePreIds : List PreId → List PreId → Ordering
  | [], [] => .eq
  | [], _ :: _ => .lt
  | _ :: _, [] => .gt
  | a :: as, b :: bs => (comparePreId a b).then (comparePreIds as bs)

def comparePre : List PreId → List PreId → Ordering
  | [], [] => .eq
  | [], _ :: _ => .gt
  | _ :: _, [] => .lt
  | as, bs => comparePreIds as bs

def readNumber (text : List Char) : Option (Nat × List Char) :=
  let digits := text.takeWhile Char.isDigit
  let value := digits.foldl (fun n c => n * 10 + (c.toNat - '0'.toNat)) 0
  if digits.isEmpty then none
  else if digits.head? = some '0' ∧ 1 < digits.length then none
  else if Nat.pow 2 64 ≤ value then none
  else some (value, text.dropWhile Char.isDigit)

def isNameChar (c : Char) : Bool :=
  c.isAlphanum || c == '-'

def expect (c : Char) : List Char → Option (List Char)
  | [] => none
  | x :: rest => if x = c then some rest else none

def readWords : Nat → List Char → Option (List (List Char) × List Char)
  | 0, _ => none
  | fuel + 1, text =>
      let word := text.takeWhile isNameChar
      let rest := text.dropWhile isNameChar
      if word.isEmpty then none
      else match rest with
        | '.' :: more => (readWords fuel more).map fun result => (word :: result.1, result.2)
        | _ => some ([word], rest)

def preId? (word : List Char) : Option PreId :=
  if word.all Char.isDigit then
    if word.head? = some '0' ∧ 1 < word.length then none
    else some (.number (word.foldl (fun n c => n * 10 + (c.toNat - '0'.toNat)) 0))
  else some (.word word)

def readPre (text : List Char) : Option (List PreId × List Char) :=
  match text with
  | '-' :: rest => do
      let (words, rest) ← readWords (rest.length + 1) rest
      return (← words.mapM preId?, rest)
  | _ => some ([], text)

def skipBuild (text : List Char) : Option (List Char) :=
  match text with
  | '+' :: rest => (readWords (rest.length + 1) rest).map Prod.snd
  | _ => some text

def parse? (text : List Char) : Option Version := do
  let (major, text) ← readNumber text
  let (minor, text) ← readNumber (← expect '.' text)
  let (patch, text) ← readNumber (← expect '.' text)
  let (pre, text) ← readPre text
  let [] ← skipBuild text | none
  return { major, minor, patch, pre }

end Version

inductive VersionOp where
  | exact
  | greater
  | greaterEq
  | less
  | lessEq
  | tilde
  | caret
deriving DecidableEq

structure Comparator where
  op : VersionOp
  major : Nat
  minor : Option Nat
  patch : Option Nat
  pre : List PreId
deriving DecidableEq

namespace Comparator

def isExact (c : Comparator) (v : Version) : Bool :=
  v.major = c.major ∧ c.minor.all (v.minor = ·) ∧ c.patch.all (v.patch = ·) ∧ v.pre = c.pre

def compareNumbers (c : Comparator) (v : Version) : Ordering :=
  (compare v.major c.major).then <|
    (c.minor.elim .eq (compare v.minor)).then (c.patch.elim .eq (compare v.patch))

-- Beyond the comparator on the given side, with all three numbers needed for a tie.
def isBeyond (side : Ordering) (c : Comparator) (v : Version) : Bool :=
  match c.compareNumbers v with
  | .eq => c.patch.isSome ∧ Version.comparePre v.pre c.pre = side
  | order => order = side

def isTilde (c : Comparator) (v : Version) : Bool :=
  v.major == c.major && c.minor.all (v.minor == ·) &&
    match c.patch.elim .eq (compare v.patch) with
    | .eq => Version.comparePre v.pre c.pre != .lt
    | order => order == .gt

def isCaret (c : Comparator) (v : Version) : Bool :=
  v.major == c.major &&
    match c.minor, c.patch with
    | none, _ => true
    | some minor, none => if 0 < c.major then minor ≤ v.minor else v.minor == minor
    | some minor, some patch =>
        let order := (compare v.minor minor).then (compare v.patch patch)
        let fixed : Bool := if 0 < c.major then true
          else if 0 < minor then v.minor == minor
          else v.minor == minor && v.patch == patch
        fixed && (order == .gt || order == .eq && Version.comparePre v.pre c.pre != .lt)

def accepts (c : Comparator) (v : Version) : Bool :=
  match c.op with
  | .exact => c.isExact v
  | .greater => c.isBeyond .gt v
  | .greaterEq => c.isExact v || c.isBeyond .gt v
  | .less => c.isBeyond .lt v
  | .lessEq => c.isExact v || c.isBeyond .lt v
  | .tilde => c.isTilde v
  | .caret => c.isCaret v

def allowsPre (c : Comparator) (v : Version) : Bool :=
  c.major = v.major ∧ c.minor = some v.minor ∧ c.patch = some v.patch ∧ c.pre ≠ []

end Comparator

namespace Version

def skipSpaces (text : List Char) : List Char :=
  text.dropWhile (· == ' ')

def isWildcard (c : Char) : Bool :=
  c == '*' || c == 'x' || c == 'X'

def readOp : List Char → Option VersionOp × List Char
  | '=' :: rest => (some .exact, rest)
  | '>' :: '=' :: rest => (some .greaterEq, rest)
  | '>' :: rest => (some .greater, rest)
  | '<' :: '=' :: rest => (some .lessEq, rest)
  | '<' :: rest => (some .less, rest)
  | '~' :: rest => (some .tilde, rest)
  | '^' :: rest => (some .caret, rest)
  | text => (none, text)

inductive Place where
  | absent
  | wildcard
  | number (value : Nat)

def Place.number? : Place → Option Nat
  | .number value => some value
  | _ => none

def readPlace (text : List Char) : Option (Place × List Char) :=
  match text with
  | '.' :: c :: rest =>
      if isWildcard c then some (.wildcard, rest)
      else (readNumber (c :: rest)).map fun result => (.number result.1, result.2)
  | '.' :: [] => none
  | _ => some (.absent, text)

-- A comparator without an operator is a caret, or exact where it has a wildcard.
def readComparator (text : List Char) : Option (Comparator × List Char) := do
  let (op, text) := readOp text
  let (major, text) ← readNumber (skipSpaces text)
  let (minor, text) ← readPlace text
  let (patch, text) ← readPlace text
  let wild := match minor, patch with
    | .wildcard, _ => true
    | _, .wildcard => true
    | _, _ => false
  match minor, patch with
  | .wildcard, .number _ => none
  | _, .number patch =>
      let (pre, text) ← readPre text
      let text ← skipBuild text
      return ({ op := op.getD .caret, major, minor := minor.number?, patch := some patch, pre },
        skipSpaces text)
  | _, _ =>
      let op := op.getD (if wild then .exact else .caret)
      return ({ op, major, minor := minor.number?, patch := none, pre := [] }, skipSpaces text)

def readComparators : Nat → List Char → Option (List Comparator)
  | 0, _ => none
  | count + 1, text => do
      let (first, rest) ← readComparator text
      match rest with
      | [] => return [first]
      | ',' :: more => return first :: (← readComparators count (skipSpaces more))
      | _ => none

def parseRequirement? (text : List Char) : Option (List Comparator) :=
  match skipSpaces text with
  | [] => none
  | c :: rest =>
      if isWildcard c then if (skipSpaces rest).isEmpty then some [] else none
      else readComparators 32 (c :: rest)

def meets (version : Version) (requirement : List Comparator) : Bool :=
  requirement.all (·.accepts version) &&
    (version.pre.isEmpty || requirement.any (·.allowsPre version))

-- A requirement that starts with a digit asks for exactly that version, and an empty one for any. A
-- requirement or version that cannot be read satisfies nothing; an installed version may carry
-- leading letters `v`.
def satisfies (requirement installed : String) : Bool :=
  let requirement := match Text.trimChars requirement.toList with
    | [] => ['*']
    | c :: rest => if c.isDigit then '=' :: c :: rest else c :: rest
  let installed := (Text.trimChars installed.toList).dropWhile (· == 'v')
  match parseRequirement? requirement, parse? installed with
  | some comparators, some version => version.meets comparators
  | _, _ => false

end Version

end SqlWorkflow
