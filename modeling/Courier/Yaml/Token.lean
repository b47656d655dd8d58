import Courier.Text.Number
import Courier.Yaml.Scalar

/-!
# Tokens

A stream is cut into tokens. Indentation opens and closes block collections, and a key is known as
a key only when its colon is found, so the token that announces it is put in afterwards. A place
where a key may begin is therefore kept until something rules it out.
-/

namespace Courier.Yaml

abbrev Tag := List UInt8

def Tag.ofChars (chars : List Char) : Tag :=
  chars.map fun c => UInt8.ofNat c.toNat

def Tag.ofBytes (bytes : List UInt8) : Tag :=
  bytes.takeWhile (· ≠ 0)

inductive Token where
  | version
  | tagPrefix (handle : List Char) (uri : Tag)
  | documentStart
  | documentEnd
  | blockSequence
  | blockMapping
  | blockEnd
  | flowSequence
  | flowSequenceEnd
  | flowMapping
  | flowMappingEnd
  | entry
  | flowEntry
  | key
  | value
  | alias (name : List Char)
  | anchor (name : List Char)
  | tag (handle : List Char) (suffix : Tag)
  | scalar (style : Style) (text : List Char)
  | streamEnd
  deriving DecidableEq, Repr

structure KeyPlace where
  place : Located
  /-- How many tokens stand before it. -/
  before : Nat
  required : Bool

structure Scanner where
  input : Input
  tokens : Array Token := #[]
  /-- The column of the innermost block collection, or -1. -/
  indent : Int := -1
  indents : List Int := []
  flow : Nat := 0
  keyAllowed : Bool := true
  /-- The place where a key may have begun, for each open bracket and for the outside. -/
  keys : List (Option KeyPlace) := [none]

namespace Scanner

def emit (s : Scanner) (t : Token) : Scanner :=
  { s with tokens := s.tokens.push t }

def skip (s : Scanner) (n : Nat) : Scanner :=
  { s with input := s.input.skip n }

def allowKey (s : Scanner) (allowed : Bool) : Scanner :=
  { s with keyAllowed := allowed }

def setKey (s : Scanner) (place? : Option KeyPlace) : Scanner :=
  { s with keys := place? :: s.keys.drop 1 }

def key? (s : Scanner) : Option KeyPlace :=
  s.keys.head?.join

def forgetKey (s : Scanner) : Option Scanner :=
  match s.key? with
  | some k => if k.required then none else some (s.setKey none)
  | none => some s

def markKey (s : Scanner) : Option Scanner :=
  if s.keyAllowed then do
    let required := s.flow = 0 && s.indent = s.input.column
    let place ← s.input.head?
    let before := s.tokens.size
    return (← s.forgetKey).setKey (some { place, before, required })
  else some s

def closeBlocks (column : Int) (s : Scanner) : Scanner :=
  if s.flow = 0 then go s.indent s.indents s.tokens else s
where
  go (indent : Int) : List Int → Array Token → Scanner
    | outer :: rest, tokens =>
      if column < indent then go outer rest (tokens.push .blockEnd)
      else { s with indent, indents := outer :: rest, tokens }
    | [], tokens => { s with indent, indents := [], tokens }

/-- Opens a block collection at `column` if that is indented further, its token standing behind
the first `before` tokens. -/
def openBlock (s : Scanner) (column : Int) (before : Nat) (t : Token) : Scanner :=
  if s.flow = 0 && s.indent < column then
    { s with
      indent := column
      indents := s.indent :: s.indents
      tokens := s.tokens.insertIdxIfInBounds before t }
  else s

/-- Passes over blanks, comments, line breaks and byte-order marks at the start of a line. A tab
does not indent a line on which a key may begin. -/
def toNextToken (flow : Bool) : (comment keyAllowed : Bool) → Input → Bool × Input
  | _, keyAllowed, [] => (keyAllowed, [])
  | comment, keyAllowed, c :: rest =>
    if isBreak c.char then toNextToken flow false (keyAllowed || !flow) rest
    else if comment then
      if c.char = endMark then (keyAllowed, c :: rest) else toNextToken flow true keyAllowed rest
    else if c.char = ' ' || (c.char = '\t' && (flow || !keyAllowed))
        || (c.char = byteOrderMark && c.column = 0) then
      toNextToken flow false keyAllowed rest
    else if c.char = '#' then toNextToken flow true keyAllowed rest
    else (keyAllowed, c :: rest)

def endLine? (input : Input) : Option Input :=
  let rest := input.skipWhile isBlank
  let rest := if rest.peek 0 = '#' then rest.skipWhile fun c => !isLineEnd c else rest
  if isLineEnd (rest.peek 0) then some (if isBreak (rest.peek 0) then rest.skip 1 else rest)
  else none

/-- A character of a tag. Marks of brackets may stand in a tag that is enclosed itself. -/
def isTagChar (enclosed : Bool) (c : Char) : Bool :=
  isNameChar c || ";/?:@&=+$.!~*'()".toList.contains c || (enclosed && ",[]".toList.contains c)

def continuation? (n : Nat) : Option Nat :=
  if n < 0x80 then some 0
  else if n < 0xc0 then none
  else if n < 0xe0 then some 1
  else if n < 0xf0 then some 2
  else if n < 0xf8 then some 3
  else none

/-- The bytes of a tag and the rest of the input. A byte may be written in hexadecimal behind a
percent sign. If it begins a character, the bytes that continue the character follow in the same
form; `due` of them are still to come. -/
def tagBytes (enclosed : Bool) : Nat → (due : Nat) → Input → Option (List UInt8 × Input)
  | 0, _, _ => none
  | fuel + 1, due, input =>
    if input.peek 0 = '%' then do
      let n ← Text.hexNumber? [input.peek 1, input.peek 2]
      let due ← if due = 0 then continuation? n
        else if 0x80 ≤ n && n < 0xc0 then some (due - 1)
        else none
      let (bytes, rest) ← tagBytes enclosed fuel due (input.skip 3)
      return (UInt8.ofNat n :: bytes, rest)
    else if due ≠ 0 then none
    else if isTagChar enclosed (input.peek 0) then do
      let (bytes, rest) ← tagBytes enclosed fuel 0 (input.skip 1)
      return (UInt8.ofNat (input.peek 0).toNat :: bytes, rest)
    else some ([], input)

def tag? (input : Input) : Option (List Char × Tag × Input) :=
  let fuel := input.length + 1
  if input.peek 1 = '<' then do
    let (bytes, rest) ← tagBytes true fuel 0 (input.skip 2)
    if bytes.isEmpty || rest.peek 0 ≠ '>' then none
    return ([], Tag.ofBytes bytes, rest.skip 1)
  else do
    let name := (input.skip 1).textWhile isNameChar
    let behind := input.skip (name.length + 1)
    if behind.peek 0 = '!' then
      let (bytes, rest) ← tagBytes false fuel 0 (behind.skip 1)
      if bytes.isEmpty then none
      return ('!' :: name ++ ['!'], Tag.ofBytes bytes, rest)
    else
      let (bytes, rest) ← tagBytes false fuel 0 behind
      match Tag.ofChars name ++ Tag.ofBytes bytes with
      | [] => return ([], Tag.ofChars ['!'], rest)
      | suffix => return (['!'], suffix, rest)

/-- The number of at most nine digits that is written here, and the rest. -/
def versionNumber? (input : Input) : Option (Nat × Input) :=
  let digits := input.textWhile Char.isDigit
  if 9 < digits.length then none
  else (Text.decimal? digits).map fun n => (n, input.skip digits.length)

def directive? (input : Input) : Option (Token × Input) := do
  let name := (input.skip 1).textWhile isNameChar
  let rest := input.skip (name.length + 1)
  if name.isEmpty || !isGap (rest.peek 0) then none
  let rest := rest.skipWhile isBlank
  if name = "YAML".toList then
    let (major, rest) ← versionNumber? rest
    if rest.peek 0 ≠ '.' then none
    let (minor, rest) ← versionNumber? (rest.skip 1)
    if major ≠ 1 || (minor ≠ 1 && minor ≠ 2) then none
    return (.version, ← endLine? rest)
  else if name = "TAG".toList then
    let inner := (rest.skip 1).textWhile isNameChar
    if rest.peek 0 ≠ '!' then none
    let behind := rest.skip (inner.length + 1)
    let closed := behind.peek 0 = '!'
    if !closed && !inner.isEmpty then none
    let handle := '!' :: inner ++ if closed then ['!'] else []
    let behind := if closed then behind.skip 1 else behind
    if !isBlank (behind.peek 0) then none
    let behind := behind.skipWhile isBlank
    let (uri, rest) ← tagBytes true (behind.length + 1) 0 behind
    if uri.isEmpty || !isGap (rest.peek 0) then none
    return (.tagPrefix handle (Tag.ofBytes uri), ← endLine? rest)
  else none

def startsPlain (flow : Bool) (input : Input) : Bool :=
  let c := input.peek 0
  let next := input.peek 1
  !(isGap c || "-?:,[]\x7b\x7d#&*!|>'\"%@\x60".toList.contains c) || (c = '-' && !isBlank next)
    || (!flow && (c = '?' || c = ':') && !isGap next)

def openFlow (s : Scanner) (t : Token) : Option Scanner := do
  let s ← s.markKey
  return ({ s with keys := none :: s.keys, flow := s.flow + 1 }.allowKey true |>.emit t).skip 1

def closeFlow (s : Scanner) (t : Token) : Option Scanner := do
  let s ← s.forgetKey
  let s := if s.flow = 0 then s else { s with keys := s.keys.drop 1, flow := s.flow - 1 }
  return ((s.allowKey false).emit t).skip 1

def flowEntry (s : Scanner) : Option Scanner := do
  return (((← s.forgetKey).allowKey true).emit .flowEntry).skip 1

def blockEntry (s : Scanner) : Option Scanner := do
  if s.flow = 0 && !s.keyAllowed then none
  let s := s.openBlock s.input.column s.tokens.size .blockSequence
  return (((← s.forgetKey).allowKey true).emit .entry).skip 1

def explicitKey (s : Scanner) : Option Scanner := do
  if s.flow = 0 && !s.keyAllowed then none
  let s := s.openBlock s.input.column s.tokens.size .blockMapping
  return (((← s.forgetKey).allowKey (s.flow = 0)).emit .key).skip 1

/-- Does a key that began at `k` reach to here? It stands on one line and has at most 1024 bytes. -/
def reaches (s : Scanner) (k : KeyPlace) : Bool :=
  match s.input with
  | c :: _ => k.place.line = c.line && c.offset ≤ k.place.offset + 1024
  | [] => false

/-- The colon of a value. If a key may have begun before, it is a key now. -/
def value (s : Scanner) : Option Scanner :=
  match s.key? with
  | some k =>
    if s.reaches k then
      let s := { s with tokens := s.tokens.insertIdxIfInBounds k.before .key }
      let s := s.openBlock k.place.column k.before .blockMapping
      some ((((s.setKey none).allowKey false).emit .value).skip 1)
    else if k.required then none
    else complex (s.setKey none)
  | none => complex s
where
  complex (s : Scanner) : Option Scanner :=
    if s.flow = 0 && !s.keyAllowed then none
    else
      let s := s.openBlock s.input.column s.tokens.size .blockMapping
      some (((s.allowKey (s.flow = 0)).emit .value).skip 1)

def named (s : Scanner) (t : List Char → Token) : Option Scanner := do
  let s ← s.markKey
  let name := (s.input.skip 1).textWhile isNameChar
  let next := s.input.peek (name.length + 1)
  if name.isEmpty || !(isGap next || "?:,]\x7d%@\x60".toList.contains next) then none
  return ((s.allowKey false).emit (t name)).skip (name.length + 1)

def tagged (s : Scanner) : Option Scanner := do
  let s ← s.markKey
  let (handle, suffix, rest) ← tag? s.input
  if !(isGap (rest.peek 0) || (s.flow ≠ 0 && rest.peek 0 = ',')) then none
  return { (s.allowKey false).emit (.tag handle suffix) with input := rest }

def blockScalar (s : Scanner) (folded : Bool) : Option Scanner := do
  let s ← s.forgetKey
  let (text, rest) ← block folded s.indent (s.input.skip 1)
  let style := if folded then Style.folded else .literal
  return { (s.allowKey true).emit (.scalar style text) with input := rest }

def quotedScalar (s : Scanner) (single : Bool) : Option Scanner := do
  let s ← s.markKey
  let (text, rest) ← quoted single (s.input.length + 1) (s.input.skip 1)
  return { (s.allowKey false).emit (.scalar .quoted text) with input := rest }

def plainScalar (s : Scanner) : Option Scanner := do
  let s ← s.markKey
  let (text, broken, rest) ← plain (s.flow ≠ 0) (s.indent + 1) (s.input.length + 1) s.input
  return { (s.allowKey broken).emit (.scalar .plain text) with input := rest }

def next (s : Scanner) : Option Scanner :=
  let c := s.input.peek 0
  let spaced := isGap (s.input.peek 1)
  let flow := s.flow ≠ 0
  if s.input.column = 0 && c = '%' then do
    let s ← (s.closeBlocks (-1)).forgetKey
    let (t, rest) ← directive? s.input
    return { (s.allowKey false).emit t with input := rest }
  else if s.input.isMarker '-' then do
    return (((← (s.closeBlocks (-1)).forgetKey).allowKey false).emit .documentStart).skip 3
  else if s.input.isMarker '.' then do
    return (((← (s.closeBlocks (-1)).forgetKey).allowKey false).emit .documentEnd).skip 3
  else if c = '[' then s.openFlow .flowSequence
  else if c = '{' then s.openFlow .flowMapping
  else if c = ']' then s.closeFlow .flowSequenceEnd
  else if c = '}' then s.closeFlow .flowMappingEnd
  else if c = ',' then s.flowEntry
  else if c = '-' && spaced then s.blockEntry
  else if c = '?' && (flow || spaced) then s.explicitKey
  else if c = ':' && (flow || spaced) then s.value
  else if c = '*' then s.named .alias
  else if c = '&' then s.named .anchor
  else if c = '!' then s.tagged
  else if c = '|' && !flow then s.blockScalar false
  else if c = '>' && !flow then s.blockScalar true
  else if c = '\'' then s.quotedScalar true
  else if c = '"' then s.quotedScalar false
  else if startsPlain flow s.input then s.plainScalar
  else none

def run : Nat → Scanner → Option (Array Token)
  | 0, _ => none
  | fuel + 1, s =>
    let (keyAllowed, input) := toNextToken (s.flow ≠ 0) false s.keyAllowed s.input
    let s := { s with keyAllowed, input }
    let s := s.closeBlocks input.column
    if input.peek 0 = endMark then
      (s.closeBlocks (-1)).forgetKey.map fun s => (s.emit .streamEnd).tokens
    else s.next.bind (run fuel)

end Scanner

def Token.ofText? (text : String) : Option (List Token) := do
  let input ← Input.ofText? text
  return (← Scanner.run (input.length + 1) { input }).toList

end Courier.Yaml
