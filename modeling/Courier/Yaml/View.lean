import Courier.Text.Number
import Courier.Yaml.Node

/-!
# What a document says

A document can be asked for a text, a number or the fields of a record. A plain scalar may be any
of a text, a number or nothing; a quoted one is always a text. An alias says what the node says
that it stands for.
-/

namespace Courier.Yaml

def isNull (text : String) : Bool :=
  ["~", "null", "Null", "NULL"].contains text

def nullTag : Tag := Tag.ofChars "tag:yaml.org,2002:null".toList

def numberTag : Tag := Tag.ofChars "tag:yaml.org,2002:int".toList

/-- The number that a plain scalar writes: decimal digits without leading zeros, or digits to the
base 16, 8 or 2 behind a mark. -/
def numberOf? (text : String) : Option Nat :=
  let digits := Text.unsigned text.toList
  let other := match digits with
    | '0' :: 'x' :: digits => Text.wordInBase? 16 digits
    | '0' :: 'o' :: digits => Text.wordInBase? 8 digits
    | '0' :: 'b' :: digits => Text.wordInBase? 2 digits
    | _ => none
  match other, digits with
  | some n, _ => some n
  | none, '0' :: _ :: _ => none
  | none, digits => (Text.decimal? digits).bind Text.below64?

namespace Document

/-- The node, or the one that it is an alias of. A node that bears a name is no alias. -/
def content (d : Document) : Node :=
  match d.node with
  | .alias number => (d.named.lookup number).getD .empty
  | n => n

def focus (d : Document) (n : Node) : Document :=
  { d with node := n }

/-- A document that may stand for nothing: `some none` if it does, and `none` if it is tagged as
nothing and is something. -/
def optional? (d : Document) : Option (Option Document) :=
  match d.content with
  | .scalar .plain (some tag) text =>
    if tag ≠ nullTag then some (some d) else if isNull text then some none else none
  | .scalar .plain none text => if text = "" || isNull text then some none else some (some d)
  | _ => some (some d)

def text? (d : Document) : Option String :=
  match d.content with
  | .scalar _ _ text => some text
  | _ => none

def number? (d : Document) : Option Nat :=
  match d.content with
  | .scalar .plain _ text => numberOf? text
  | .scalar .literal (some tag) text => if tag = numberTag then numberOf? text else none
  | _ => none

/-- The fields of a record in the given order. A record is a mapping, in which each field comes at
most once, beside entries of other names, or a sequence of exactly the fields. An empty plain scalar
is a record that has none of them. -/
def fields? (names : List String) (d : Document) : Option (List (Option Document)) :=
  match d.content with
  | .scalar .plain _ "" => some (names.map fun _ => none)
  | .scalar .. => none
  | .sequence items =>
    if items.length = names.length then some (items.map fun n => some (d.focus n)) else none
  | .mapping entries => do
    let entries ← entries.mapM fun (key, value) => (d.focus key).text?.map fun name => (name, value)
    names.mapM fun name =>
      match entries.filter fun e => e.1 == name with
      | [] => some none
      | [e] => some (some (d.focus e.2))
      | _ => none
  | .alias _ => none

def field? {α : Type} (read : Document → Option α) : Option Document → Option (Option α)
  | none => some none
  | some d => do
    match ← d.optional? with
    | none => return none
    | some d => return some (← read d)

end Document

end Courier.Yaml
