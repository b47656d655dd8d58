import Courier.Text.Hex
import Courier.Yaml.Input

/-!
# Scalars

The three ways to write a text: plain, between quotes, and as a block of lines. In the first two,
white space between words is kept on a line, and a line break becomes a space, or is dropped if
more breaks follow.
-/

namespace Courier.Yaml

inductive Style where
  | plain
  | quoted
  | literal
  | folded
  deriving DecidableEq, Repr

structure Gap where
  blanks : List Char := []
  leading : List Char := []
  trailing : List Char := []
  broken : Bool := false
  /-- Does a tab stand before column `indent` of a later line? -/
  tabbed : Bool := false

namespace Gap

def fold (g : Gap) : List Char :=
  if !g.broken then g.blanks
  else if g.leading = ['\n'] then if g.trailing.isEmpty then [' '] else g.trailing
  else g.leading ++ g.trailing

def read (indent : Int) (g : Gap) : Input → Gap × Input
  | [] => (g, [])
  | c :: rest =>
    if isBlank c.char then
      if g.broken then
        read indent { g with tabbed := g.tabbed || (c.char = '\t' && c.column < indent) } rest
      else
        read indent { g with blanks := g.blanks ++ [c.char] } rest
    else if isBreak c.char then
      if g.broken then
        read indent { g with trailing := g.trailing ++ [c.char] } rest
      else
        read indent { g with blanks := [], leading := [c.char], broken := true } rest
    else
      (g, c :: rest)

end Gap

def isFlowMark (c : Char) : Bool :=
  c = ',' || c = '[' || c = ']' || c = '{' || c = '}'

/-- A word of a plain scalar, and the rest. In brackets, a colon may not touch a mark. -/
def plainWord (flow : Bool) : Input → Option (List Char × Input)
  | [] => some ([], [])
  | c :: rest =>
    if isGap c.char then some ([], c :: rest)
    else if flow && c.char = ':' && (isFlowMark (Input.peek rest 0) || Input.peek rest 0 = '?') then
      none
    else if (c.char = ':' && isGap (Input.peek rest 0)) || (flow && isFlowMark c.char) then
      some ([], c :: rest)
    else (plainWord flow rest).map fun (word, rest) => (c.char :: word, rest)

/-- A plain scalar, whether it ends behind a line break, and the rest. Its later lines stand at
column `indent` or further right. -/
def plain (flow : Bool) (indent : Int) : Nat → Input → Option (List Char × Bool × Input)
  | 0, _ => none
  | fuel + 1, input =>
    if input.isAnyMarker || input.peek 0 = '#' then
      some ([], false, input)
    else do
      let (word, rest) ← plainWord flow input
      let (gap, rest) := Gap.read indent {} rest
      if gap.tabbed then none
      else if gap.blanks.isEmpty && !gap.broken then some (word, false, rest)
      else if !flow && rest.column < indent then some (word, gap.broken, rest)
      else
        let (more, broken, last) ← plain flow indent fuel rest
        if more.isEmpty then some (word, gap.broken, rest)
        else some (word ++ gap.fold ++ more, broken, last)

def simpleEscape? : Char → Option Char
  | '0' => some '\x00'
  | 'a' => some '\x07'
  | 'b' => some '\x08'
  | 't' | '\t' => some '\t'
  | 'n' => some '\n'
  | 'v' => some '\x0b'
  | 'f' => some '\x0c'
  | 'r' => some '\r'
  | 'e' => some '\x1b'
  | ' ' => some ' '
  | '"' => some '"'
  | '/' => some '/'
  | '\\' => some '\\'
  | 'N' => some '\u0085'
  | '_' => some '\u00a0'
  | 'L' => some '\u2028'
  | 'P' => some '\u2029'
  | _ => none

def codeLength : Char → Nat
  | 'x' => 2
  | 'u' => 4
  | 'U' => 8
  | _ => 0

def escape? (input : Input) : Option (Char × Nat) := do
  let letter := input.peek 0
  let length := codeLength letter
  if length = 0 then
    return (← simpleEscape? letter, 1)
  let n ← Text.hexNumber? (((input.skip 1).take length).map Located.char)
  if n.isValidChar then some (Char.ofNat n, length + 1) else none

inductive WordEnd where
  | quote
  | gap
  | escapedBreak

def quotedWord (single : Bool) : Nat → Input → Option (List Char × WordEnd × Input)
  | 0, _ => none
  | _, [] => none
  | fuel + 1, c :: rest =>
    if isGap c.char then some ([], .gap, c :: rest)
    else if single && c.char = '\'' then
      if Input.peek rest 0 = '\'' then
        (quotedWord single fuel (Input.skip rest 1)).map fun (word, e) => ('\'' :: word, e)
      else some ([], .quote, rest)
    else if !single && c.char = '"' then some ([], .quote, rest)
    else if !single && c.char = '\\' then
      if isBreak (Input.peek rest 0) then some ([], .escapedBreak, Input.skip rest 1)
      else do
        let (c, length) ← escape? rest
        let (word, e) ← quotedWord single fuel (Input.skip rest length)
        return (c :: word, e)
    else (quotedWord single fuel rest).map fun (word, e) => (c.char :: word, e)

def quoted (single : Bool) : Nat → Input → Option (List Char × Input)
  | 0, _ => none
  | fuel + 1, input =>
    if input.isAnyMarker || input.peek 0 = endMark then none
    else do
      match ← quotedWord single (input.length + 1) input with
      | (word, .quote, rest) => return (word, rest)
      | (word, e, rest) =>
        let (gap, rest) := Gap.read 0 { broken := e matches .escapedBreak } rest
        let (more, rest) ← quoted single fuel rest
        return (word ++ gap.fold ++ more, rest)

inductive Chomping where
  | strip
  | clip
  | keep
  deriving DecidableEq, Repr

/-- The marks behind the sign that opens a block: how its end is treated, and by how much it is
indented, if that is said. -/
def blockHeader? (input : Input) : Option (Chomping × Option Nat × Input) :=
  let chomping? : Char → Option Chomping
    | '+' => some .keep
    | '-' => some .strip
    | _ => none
  let increment? (c : Char) : Option (Option Nat) :=
    if c = '0' then none else if c.isDigit then some (some (c.toNat - 48)) else some none
  match chomping? (input.peek 0) with
  | some chomping => do
    let increment ← increment? (input.peek 1)
    return (chomping, increment, input.skip (if increment.isSome then 2 else 1))
  | none => do
    match ← increment? (input.peek 0) with
    | none => return (.clip, none, input)
    | some n =>
      match chomping? (input.peek 1) with
      | some chomping => return (chomping, some n, input.skip 2)
      | none => return (.clip, some n, input.skip 1)

/-- The breaks of empty lines, the largest column that their spaces reach, and the rest. Spaces are
passed over up to column `indent`, or all of them if it is zero. -/
def blockBreaks (indent : Nat) (reached : Nat) : Input → Option (List Char × Nat × Input)
  | [] => some ([], reached, [])
  | c :: rest =>
    let inside := indent = 0 || c.column < indent
    if inside && c.char = ' ' then blockBreaks indent reached rest
    else
      let reached := max reached c.column
      if inside && c.char = '\t' then none
      else if isBreak c.char then
        (blockBreaks indent reached rest).map fun (breaks, r) => (c.char :: breaks, r)
      else some ([], reached, c :: rest)

/-- The lines of a block, which stand at column `indent`, and what joins them to the line before.
The arguments say what is known of that: the break behind it, the empty lines after that, and
whether it began with a blank. -/
def blockLines (folded : Bool) (chomping : Chomping) (indent : Nat) :
    Nat → (leading trailing : List Char) → (afterBlank : Bool) → Input →
      Option (List Char × Input)
  | 0, _, _, _, _ => none
  | fuel + 1, leading, trailing, afterBlank, input =>
    if input.column = indent && input.peek 0 ≠ endMark then do
      let blank := isBlank (input.peek 0)
      let joint :=
        if folded && leading = ['\n'] && !afterBlank && !blank then
          if trailing.isEmpty then [' '] else []
        else leading
      let line := input.textWhile fun c => !isLineEnd c
      let rest := input.skipWhile fun c => !isLineEnd c
      let leading := if isBreak (rest.peek 0) then [rest.peek 0] else []
      let (breaks, _, rest) ← blockBreaks indent 0 (rest.skip leading.length)
      let (more, rest) ← blockLines folded chomping indent fuel leading breaks blank rest
      return (joint ++ trailing ++ line ++ more, rest)
    else
      let tail := match chomping with
        | .strip => []
        | .clip => leading
        | .keep => leading ++ trailing
      some (tail, input)

def block (folded : Bool) (parent : Int) (input : Input) : Option (List Char × Input) := do
  let (chomping, increment?, rest) ← blockHeader? input
  let rest := rest.skipWhile isBlank
  let rest := if rest.peek 0 = '#' then rest.skipWhile fun c => !isLineEnd c else rest
  if !isLineEnd (rest.peek 0) then none
  let rest := if isBreak (rest.peek 0) then rest.skip 1 else rest
  let given := match increment? with
    | none => 0
    | some n => if 0 ≤ parent then parent.toNat + n else n
  let (breaks, reached, rest) ← blockBreaks given 0 rest
  let indent := if given = 0 then max (max reached (parent + 1).toNat) 1 else given
  blockLines folded chomping indent (rest.length + 1) [] breaks false rest

end Courier.Yaml
