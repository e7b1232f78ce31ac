namespace SqlWorkflow.Yaml

def isBreak (c : Char) : Bool :=
  c == '\n' || c == '\r' || c == '\x85' || c == '\u2028' || c == '\u2029'

def isBlank (c : Char) : Bool :=
  c == ' ' || c == '\t'

def isSpace (c : Char) : Bool :=
  isBlank c || isBreak c

def isAllowed (c : Char) : Bool :=
  let n := c.toNat
  n == 0x09 || n == 0x0A || n == 0x0D || (0x20 ≤ n && n ≤ 0x7E) || n == 0x85 ||
    (0xA0 ≤ n && n ≤ 0xFFFD) || 0x10000 ≤ n

def isWordChar (c : Char) : Bool :=
  c.isAlphanum || c == '-' || c == '_'

def endsWord : List Char → Bool
  | [] => true
  | c :: _ => isSpace c

structure Cursor where
  rest : List Char
  index : Nat := 0
  line : Nat := 0
  column : Nat := 0
deriving Inhabited

namespace Cursor

def skip (cursor : Cursor) (n : Nat) : Cursor :=
  { cursor with rest := cursor.rest.drop n, index := cursor.index + n, column := cursor.column + n }

def skipWhile (cursor : Cursor) (p : Char → Bool) : Cursor :=
  cursor.skip (cursor.rest.takeWhile p).length

def nextLine (cursor : Cursor) (rest : List Char) (n : Nat) : Cursor :=
  { rest, index := cursor.index + n, line := cursor.line + 1, column := 0 }

-- Reads one line break. The separators U+2028 and U+2029 stand for themselves, all other breaks for
-- a line feed.
def readBreak? (cursor : Cursor) : Option (List Char × Cursor) :=
  match cursor.rest with
  | '\r' :: '\n' :: rest => some (['\n'], cursor.nextLine rest 2)
  | c :: rest =>
      if c = '\u2028' ∨ c = '\u2029' then some ([c], cursor.nextLine rest 1)
      else if isBreak c then some (['\n'], cursor.nextLine rest 1)
      else none
  | [] => none

def atBreak (cursor : Cursor) : Bool :=
  cursor.rest.head?.any isBreak

def atBlank (cursor : Cursor) : Bool :=
  cursor.rest.head?.any isBlank

def atChar (cursor : Cursor) (c : Char) : Bool :=
  cursor.rest.head? == some c

def atMarker (cursor : Cursor) (c : Char) : Bool :=
  cursor.column == 0 && cursor.rest.take 3 == [c, c, c] && endsWord (cursor.rest.drop 3)

def atDocumentMarker (cursor : Cursor) : Bool :=
  cursor.atMarker '-' || cursor.atMarker '.'

end Cursor

structure Gap where
  blanks : List Char := []
  breaks : List (List Char) := []
  escaped : Bool := false

namespace Gap

def hasBreak (gap : Gap) : Bool :=
  gap.escaped || !gap.breaks.isEmpty

-- What a gap stands for. A single line feed folds to a space, and of several the first is left out;
-- blanks only count on a line.
def fold (gap : Gap) : List Char :=
  if gap.escaped then gap.breaks.flatten
  else match gap.breaks with
    | [] => gap.blanks
    | [['\n']] => [' ']
    | ['\n'] :: more => more.flatten
    | breaks => breaks.flatten

end Gap

def readGap : Nat → Option Nat → Gap → Cursor → Option (Gap × Cursor)
  | 0, _, gap, cursor => some (gap, cursor)
  | fuel + 1, bound, gap, cursor =>
      match cursor.readBreak? with
      | some (text, next) => readGap fuel bound { gap with breaks := gap.breaks ++ [text] } next
      | none =>
          match cursor.rest with
          | c :: _ =>
              if !isBlank c then some (gap, cursor)
              else if gap.hasBreak then
                if c = '\t' ∧ bound.any (cursor.column < ·) then none
                else readGap fuel bound gap (cursor.skip 1)
              else readGap fuel bound { gap with blanks := gap.blanks ++ [c] } (cursor.skip 1)
          | [] => some (gap, cursor)

end SqlWorkflow.Yaml
