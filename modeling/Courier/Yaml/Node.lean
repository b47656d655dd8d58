import Courier.Yaml.Token

/-!
# Nodes

The tokens of a stream make up documents, and a document is a node: a scalar, a sequence or a
mapping. A node may bear a name, and an alias stands for a node that bears its name. Names are
numbered as they turn up, and what a number refers to is only known at the end of the document, so
an alias may stand for a node that is around it.
-/

namespace Courier.Yaml

inductive Node where
  | scalar (style : Style) (tag? : Option Tag) (text : String)
  | sequence (items : List Node)
  | mapping (entries : List (Node × Node))
  | alias (number : Nat)

def Node.empty : Node :=
  .scalar .plain none ""

structure Document where
  node : Node
  /-- The nodes that bear names, each with its number. Of two with one number, the first counts. -/
  named : List (Nat × Node)

structure Reader where
  tokens : List Token
  numbers : List (List Char × Nat) := []
  /-- The nodes that bear names, in the order in which they begin, each with its number. One that
  has not been read to its end has no contents yet. -/
  named : Array (Nat × Node) := #[]
  handles : List (List Char × Tag) := []

abbrev Reading := StateT Reader Option

namespace Reading

def standardHandles : List (List Char × Tag) :=
  [("!".toList, Tag.ofChars "!".toList), ("!!".toList, Tag.ofChars "tag:yaml.org,2002:".toList)]

def peek : Reading Token := do
  return (← get).tokens.headD .streamEnd

def skip : Reading Unit :=
  modify fun r => { r with tokens := r.tokens.drop 1 }

def skipIf (t : Token) : Reading Bool := do
  if (← peek) = t then
    skip
    return true
  else
    return false

/-- Gives a name to the node that begins here. Its number is the number of names known before, so
that a name that is given again may share its new number with the next. -/
def beginNamed (name : List Char) : Reading Unit :=
  modify fun r =>
    let number := r.numbers.length
    { r with
      numbers := (name, number) :: r.numbers.filter fun n => n.1 ≠ name
      named := r.named.push (number, .empty) }

def endNamed (index : Nat) (node : Node) : Reading Unit :=
  modify fun r => { r with named := r.named.modify index fun n => (n.1, node) }

def aliasOf (name : List Char) : Reading Node := do
  match (← get).numbers.lookup name with
  | some number => return .alias number
  | none => failure

def anchor : Reading (Option (List Char)) := do
  match ← peek with
  | .anchor name =>
    skip
    return some name
  | _ => return none

def tag : Reading (Option Tag) := do
  match ← peek with
  | .tag handle suffix =>
    skip
    if handle.isEmpty then
      return some suffix
    else
      match (← get).handles.lookup handle with
      | some beginning => return some (beginning ++ suffix)
      | none => failure
  | _ => return none

def properties : Reading (Option (List Char) × Option Tag) := do
  match ← anchor with
  | some name => return (some name, ← tag)
  | none =>
    let tag? ← tag
    return (← anchor, tag?)

def endsEntry : Token → Bool
  | .entry | .key | .value | .blockEnd => true
  | _ => false

mutual

/-- A node. In a block, collections may be indented; an indented sequence may stand at the column
of the mapping around it if `indentless` is set. -/
def node : Nat → (inBlock indentless : Bool) → Reading Node
  | 0, _, _ => failure
  | fuel + 1, inBlock, indentless => do
    if let .alias name ← peek then
      skip
      aliasOf name
    else
      let (name?, tag?) ← properties
      let index := (← get).named.size
      name?.forM beginNamed
      let node ← match ← peek with
        | .entry =>
          if indentless then Node.sequence <$> indentlessItems fuel
          else if name?.isSome || tag?.isSome then pure (.scalar .plain tag? "")
          else failure
        | .scalar style text => do
          skip
          pure (.scalar style (tag?.filter (· ≠ Tag.ofChars ['!'])) (String.ofList text))
        | .flowSequence => do
          skip
          Node.sequence <$> flowItems fuel true
        | .flowMapping => do
          skip
          Node.mapping <$> flowEntries fuel true
        | t =>
          if inBlock && t = .blockSequence then do
            skip
            Node.sequence <$> blockItems fuel
          else if inBlock && t = .blockMapping then do
            skip
            Node.mapping <$> blockEntries fuel
          else if name?.isSome || tag?.isSome then pure (.scalar .plain tag? "")
          else failure
      if name?.isSome then endNamed index node
      return node

def nodeUnless : Nat → (isEmpty : Token → Bool) → (inBlock indentless : Bool) → Reading Node
  | 0, _, _, _ => failure
  | fuel + 1, isEmpty, inBlock, indentless => do
    if isEmpty (← peek) then return .empty else node fuel inBlock indentless

def blockItems : Nat → Reading (List Node)
  | 0 => failure
  | fuel + 1 => do
    match ← peek with
    | .entry =>
      skip
      let item ← nodeUnless fuel (fun t => t = .entry || t = .blockEnd) true false
      return item :: (← blockItems fuel)
    | .blockEnd =>
      skip
      return []
    | _ => failure

def indentlessItems : Nat → Reading (List Node)
  | 0 => failure
  | fuel + 1 => do
    if ← skipIf .entry then
      let item ← nodeUnless fuel endsEntry true false
      return item :: (← indentlessItems fuel)
    else
      return []

def blockEntries : Nat → Reading (List (Node × Node))
  | 0 => failure
  | fuel + 1 => do
    let empty (t : Token) := t = .key || t = .value || t = .blockEnd
    match ← peek with
    | .key =>
      skip
      let key ← nodeUnless fuel empty true true
      let value ← if ← skipIf .value then nodeUnless fuel empty true true else pure .empty
      return (key, value) :: (← blockEntries fuel)
    | .blockEnd =>
      skip
      return []
    | _ => failure

/-- The items of a sequence in brackets. An item with a key is a mapping of one entry; an empty key
takes the token behind it with it. -/
def flowItems : Nat → (first : Bool) → Reading (List Node)
  | 0, _ => failure
  | fuel + 1, first => do
    if ← skipIf .flowSequenceEnd then
      return []
    unless first do
      unless ← skipIf .flowEntry do failure
    if ← skipIf .flowSequenceEnd then
      return []
    let empty (t : Token) := t = .flowEntry || t = .flowSequenceEnd
    if ← skipIf .key then
      let keyless := (← peek) = .value || empty (← peek)
      let key ← if keyless then skip *> pure .empty else node fuel false false
      let value ← if ← skipIf .value then nodeUnless fuel empty false false else pure .empty
      return .mapping [(key, value)] :: (← flowItems fuel false)
    else
      let item ← node fuel false false
      return item :: (← flowItems fuel false)

def flowEntries : Nat → (first : Bool) → Reading (List (Node × Node))
  | 0, _ => failure
  | fuel + 1, first => do
    if ← skipIf .flowMappingEnd then
      return []
    unless first do
      unless ← skipIf .flowEntry do failure
    if ← skipIf .flowMappingEnd then
      return []
    let empty (t : Token) := t = .flowEntry || t = .flowMappingEnd
    if ← skipIf .key then
      let key ← nodeUnless fuel (fun t => t = .value || empty t) false false
      let value ← if ← skipIf .value then nodeUnless fuel empty false false else pure .empty
      return (key, value) :: (← flowEntries fuel false)
    else
      let key ← node fuel false false
      return (key, .empty) :: (← flowEntries fuel false)

end

/-- The directives before a document. The version is given at most once, and so is each short
form. -/
def directives : Nat → (versioned : Bool) → Reading Unit
  | 0, _ => failure
  | fuel + 1, versioned => do
    match ← peek with
    | .version =>
      if versioned then failure
      skip
      directives fuel true
    | .tagPrefix handle uri =>
      let handles := (← get).handles
      if (handles.lookup handle).isSome then failure
      skip
      modify fun r => { r with handles := (handle, uri) :: handles }
      directives fuel versioned
    | _ => return ()

def contents (fuel : Nat) : Reading Node :=
  let empty : Token → Bool
    | .version | .tagPrefix .. | .documentStart | .documentEnd | .streamEnd => true
    | _ => false
  nodeUnless fuel empty true false

def documentEnds : Nat → Reading Unit
  | 0 => return ()
  | fuel + 1 => do
    if ← skipIf .documentEnd then documentEnds fuel

/-- The documents of a stream. Only the first may begin without a mark. -/
def documents : Nat → (first : Bool) → Reading (List Document)
  | 0, _ => failure
  | fuel + 1, first => do
    unless first do
      documentEnds fuel
    modify fun r => { tokens := r.tokens }
    match ← peek with
    | .streamEnd => return []
    | t =>
      directives fuel false
      modify fun r => { r with handles := r.handles ++ standardHandles }
      let directed := t matches .version | .tagPrefix ..
      let node ← if ← skipIf .documentStart then contents fuel
        else if first && !directed then node fuel true false
        else failure
      let _ ← skipIf .documentEnd
      let named := (← get).named.toList.reverse
      return { node, named } :: (← documents fuel false)

end Reading

def Document.ofText? (text : String) : Option (List Document) := do
  let tokens ← Token.ofText? text
  let (documents, _) ← (Reading.documents (3 * tokens.length + 3) true).run { tokens }
  return documents

end Courier.Yaml
