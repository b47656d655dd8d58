/-!
# Characters of a YAML stream

A stream is read as a list of characters, each with its place. Line breaks of all kinds are one
character, and the list ends with a mark, so that looking ahead never falls off its end.
-/

namespace Courier.Yaml

structure Located where
  char : Char
  line : Nat
  column : Nat
  /-- The number of bytes before it. A line break counts as one. -/
  offset : Nat
  deriving DecidableEq, Repr

abbrev Input := List Located

def endMark : Char := '\x00'

def isAllowed (c : Char) : Bool :=
  let n := c.toNat
  n = 0x09 || n = 0x0a || n = 0x0d || (0x20 ≤ n && n ≤ 0x7e) || n = 0x85
    || (0xa0 ≤ n && n ≤ 0xd7ff) || (0xe000 ≤ n && n ≤ 0xfffd) || 0x10000 ≤ n

def isBlank (c : Char) : Bool :=
  c = ' ' || c = '\t'

def byteOrderMark : Char := '\ufeff'

/-- A line break. The two separators of Unicode stay what they are when lines are joined. -/
def isBreak (c : Char) : Bool :=
  c = '\n' || c = '\u2028' || c = '\u2029'

def isLineEnd (c : Char) : Bool :=
  isBreak c || c = endMark

def isGap (c : Char) : Bool :=
  isBlank c || isLineEnd c

def isNameChar (c : Char) : Bool :=
  c.isAlphanum || c = '_' || c = '-'

/-- Line breaks of different kinds, all as newlines. -/
def unifyBreaks : List Char → List Char
  | '\r' :: '\n' :: rest => '\n' :: unifyBreaks rest
  | '\r' :: rest => '\n' :: unifyBreaks rest
  | '\u0085' :: rest => '\n' :: unifyBreaks rest
  | c :: rest => c :: unifyBreaks rest
  | [] => []

def locate (line column offset : Nat) : List Char → Input
  | [] => [{ char := endMark, line, column, offset }]
  | c :: rest =>
    { char := c, line, column, offset } ::
      if isBreak c then locate (line + 1) 0 (offset + 1) rest
      else locate line (column + 1) (offset + c.utf8Size) rest

def Input.ofText? (s : String) : Option Input :=
  if s.toList.all isAllowed then some (locate 0 0 0 (unifyBreaks s.toList)) else none

namespace Input

def peek (input : Input) (n : Nat) : Char :=
  (input[n]?.map Located.char).getD endMark

def column (input : Input) : Nat :=
  (input.head?.map Located.column).getD 0

def skip (input : Input) (n : Nat) : Input :=
  input.drop n

def skipWhile (input : Input) (p : Char → Bool) : Input :=
  input.dropWhile fun c => p c.char

def textWhile (input : Input) (p : Char → Bool) : List Char :=
  (input.takeWhile fun c => p c.char).map Located.char

/-- Does a line begin here that separates documents by three equal marks? -/
def isMarker (input : Input) (mark : Char) : Bool :=
  input.column = 0 && input.peek 0 = mark && input.peek 1 = mark && input.peek 2 = mark
    && isGap (input.peek 3)

def isAnyMarker (input : Input) : Bool :=
  input.isMarker '-' || input.isMarker '.'

end Input

end Courier.Yaml
