import Courier.Json.Value
import Courier.Text.Hex

/-!
# Reading JSON

A recursive-descent reader over characters. Each function returns what it read and the rest; the
nesting is bounded by the number of characters, which `parse?` supplies.
-/

namespace Courier.Json

def isSpace (c : Char) : Bool :=
  c = ' ' || c = '\n' || c = '\t' || c = '\r'

def skipSpace (s : List Char) : List Char :=
  s.dropWhile isSpace

/-- One item of a string: a character, or a 16-bit unit written as an escape. -/
inductive Item where
  | char (c : Char)
  | unit (n : Nat)

def unit? (a b c d : Char) : Option Nat :=
  Text.hexNumber? [a, b, c, d]

def escaped? : Char → Option Char
  | '"' => some '"'
  | '\\' => some '\\'
  | '/' => some '/'
  | 'b' => some '\x08'
  | 'f' => some '\x0c'
  | 'n' => some '\n'
  | 'r' => some '\r'
  | 't' => some '\t'
  | _ => none

def items? : List Char → Option (List Item × List Char)
  | [] => none
  | '"' :: rest => some ([], rest)
  | '\\' :: 'u' :: a :: b :: c :: d :: rest => do
    let n ← unit? a b c d
    let (items, rest) ← items? rest
    return (.unit n :: items, rest)
  | '\\' :: c :: rest => do
    let c ← escaped? c
    let (items, rest) ← items? rest
    return (.char c :: items, rest)
  | c :: rest => do
    if c.toNat < 0x20 then none
    let (items, rest) ← items? rest
    return (.char c :: items, rest)

/-- The characters that items stand for. A unit from the surrogate range stands for a character
only as the first of a pair with the unit behind it. -/
def join? : List Item → Option (List Char)
  | [] => some []
  | .char c :: rest => (join? rest).map (c :: ·)
  | .unit n :: rest =>
    if n < 0xd800 ∨ 0xdfff < n then
      (join? rest).map (Char.ofNat n :: ·)
    else
      match rest with
      | .unit m :: rest =>
        if n < 0xdc00 ∧ 0xdc00 ≤ m ∧ m ≤ 0xdfff then
          (join? rest).map (Char.ofNat (0x10000 + (n - 0xd800) * 0x400 + (m - 0xdc00)) :: ·)
        else none
      | _ => none

def string? (s : List Char) : Option (Option String × List Char) :=
  (items? s).map fun (items, rest) => ((join? items).map String.ofList, rest)

def digits? (s : List Char) : Option (List Char) :=
  match s with
  | c :: rest => if c.isDigit then some (rest.dropWhile Char.isDigit) else none
  | [] => none

def exponent? : List Char → Option (List Char)
  | 'e' :: '+' :: rest | 'e' :: '-' :: rest | 'E' :: '+' :: rest | 'E' :: '-' :: rest
  | 'e' :: rest | 'E' :: rest => digits? rest
  | s => some s

def fraction? : List Char → Option (List Char)
  | '.' :: rest => (digits? rest).bind exponent?
  | s => exponent? s

/-- The characters behind a number without its sign. A zero is not followed by another digit. -/
def number? : List Char → Option (List Char)
  | '0' :: c :: rest => if c.isDigit then none else fraction? (c :: rest)
  | s => (digits? s).bind fraction?

mutual

def value? : Nat → List Char → Option (Value × List Char)
  | 0, _ => none
  | fuel + 1, s =>
    match skipSpace s with
    | '"' :: rest => (string? rest).map fun (text?, rest) => (.string text?, rest)
    | '{' :: rest =>
      match skipSpace rest with
      | '}' :: rest => some (.object [], rest)
      | rest => (members? fuel rest).map fun (members, rest) => (.object members, rest)
    | '[' :: rest =>
      match skipSpace rest with
      | ']' :: rest => some (.array [], rest)
      | rest => (elements? fuel rest).map fun (elements, rest) => (.array elements, rest)
    | 't' :: 'r' :: 'u' :: 'e' :: rest => some (.bool true, rest)
    | 'f' :: 'a' :: 'l' :: 's' :: 'e' :: rest => some (.bool false, rest)
    | 'n' :: 'u' :: 'l' :: 'l' :: rest => some (.null, rest)
    | '-' :: rest => (number? rest).map (.number, ·)
    | rest => (number? rest).map (.number, ·)

def elements? : Nat → List Char → Option (List Value × List Char)
  | 0, _ => none
  | fuel + 1, s => do
    let (v, rest) ← value? fuel s
    match skipSpace rest with
    | ',' :: rest =>
      let (elements, rest) ← elements? fuel rest
      return (v :: elements, rest)
    | ']' :: rest => return ([v], rest)
    | _ => none

def members? : Nat → List Char → Option (List (Option String × Value) × List Char)
  | 0, _ => none
  | fuel + 1, s => do
    let '"' :: rest := skipSpace s | none
    let (name?, rest) ← string? rest
    let ':' :: rest := skipSpace rest | none
    let (v, rest) ← value? fuel rest
    match skipSpace rest with
    | ',' :: rest =>
      let (members, rest) ← members? fuel rest
      return ((name?, v) :: members, rest)
    | '}' :: rest => return ([(name?, v)], rest)
    | _ => none

end

def parse? (text : String) : Option Value := do
  let s := text.toList
  let (v, rest) ← value? (2 * s.length + 1) s
  if (skipSpace rest).isEmpty then some v else none

end Courier.Json
