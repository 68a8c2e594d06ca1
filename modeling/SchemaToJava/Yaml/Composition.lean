import SchemaToJava.Yaml.Node
import SchemaToJava.Yaml.PlainKind
import SchemaToJava.Yaml.Scanner

/-!
From tokens to the nodes of a document. A stream holds one document at most. An alias stands for the
node of the anchor of its name, which is known from its start on, before what it holds is.
-/

namespace SchemaToJava.Yaml

open Text (Wide)

/-- Where the reading of tokens stands, and whether its first token is settled; what tag handles
stand for; the nodes of the anchors met; all nodes so far. -/
structure Composition where
  scan : Scan
  isSettled : Bool
  handles : List (String × String)
  anchors : List (String × NodeId)
  graph : Graph
  deriving Repr

def Composition.start (s : Source) : Composition := ⟨.start s, false, [], [], .empty⟩

abbrev Composing := StateT Composition (Except LoadError)

namespace Composing

def malformed {α : Type} : Composing α := throw .malformed

def reading {α : Type} (x : Reading α) : Composing α := do
  let c ← get
  let (a, scan) ← x c.scan
  set { c with scan }
  return a

def peek : Composing Token := do
  unless (← get).isSettled do
    reading (Reading.settle ((← get).scan.rest.length + 2))
    modify fun c => { c with isSettled := true }
  return (← get).scan.tokens.head?.getD .streamEnd

def advance : Composing Unit :=
  modify fun c => { c with scan := c.scan.take, isSettled := false }

def skip? (t : Token) : Composing Bool := do
  if (← peek) == t then
    advance
    return true
  else return false

def atOneOf (ts : List Token) : Composing Bool := return ts.contains (← peek)

/-- More tokens than a text can have: every character brings at most a token of its own, those for
the key and the start of a mapping, and the end of one collection. -/
def tokenBound (s : Source) : Nat := 4 * s.chars.length + 8

structure Properties where
  mark : Option Mark
  anchor : Option String
  tag : Option String
  deriving DecidableEq, Repr

def Properties.none : Properties := ⟨.none, .none, .none⟩

def addNode (p : Properties) (tag : Tag) (c : Content) : Composing NodeId := do
  let s ← get
  let id := s.graph.size
  let anchors := (p.anchor.map (·, id)).toList ++ s.anchors
  set { s with graph := s.graph.add ⟨p.mark, tag, c⟩, anchors }
  return id

def addFilled (p : Properties) (tag : Tag) (empty : Content) (content : Composing Content) :
    Composing NodeId := do
  let id ← addNode p tag empty
  let filled ← content
  modify fun c => { c with graph := c.graph.setContent id filled }
  return id

def addSequence (p : Properties) (tag : Tag) (items : Composing (List NodeId)) : Composing NodeId :=
  addFilled p tag (.sequence []) (.sequence <$> items)

def addMapping (p : Properties) (tag : Tag) (entries : Composing (List NodeEntry)) :
    Composing NodeId :=
  addFilled p tag (.mapping []) (.mapping <$> entries)

def emptyNode : Composing NodeId := addNode .none .null (.scalar [])

/-- Where a node stands. After a key of a block mapping, a sequence needs no indentation. -/
inductive Context where
  | block
  | afterKey
  | flow
  deriving DecidableEq

def nodeUnless (ts : List Token) (node : Composing NodeId) : Composing NodeId := do
  if ← atOneOf ts then emptyNode else node

def blockItems (node : Context → Composing NodeId) : (fuel : Nat) → Composing (List NodeId)
  | 0 => malformed
  | fuel + 1 => do
    if ← skip? .blockEntry then
      let item ← nodeUnless [.blockEntry, .blockEnd] (node .block)
      return item :: (← blockItems node fuel)
    else if ← skip? .blockEnd then return []
    else malformed

def unindentedItems (node : Context → Composing NodeId) : (fuel : Nat) → Composing (List NodeId)
  | 0 => malformed
  | fuel + 1 => do
    if ← skip? .blockEntry then
      let item ← nodeUnless [.blockEntry, .key, .value, .blockEnd] (node .block)
      return item :: (← unindentedItems node fuel)
    else return []

def valueUnless (ts : List Token) (node : Composing NodeId) : Composing NodeId := do
  if ← skip? .value then nodeUnless ts node else emptyNode

def blockEntries (node : Context → Composing NodeId) : (fuel : Nat) → Composing (List NodeEntry)
  | 0 => malformed
  | fuel + 1 => do
    if ← skip? .key then
      let ends := [.key, .value, .blockEnd]
      let k ← nodeUnless ends (node .afterKey)
      let v ← valueUnless ends (node .afterKey)
      return (k, v) :: (← blockEntries node fuel)
    else if ← skip? .blockEnd then return []
    else malformed

def separator (first : Bool) : Composing Unit := do
  unless first do
    unless ← skip? .flowEntry do malformed

def flowPair (node : Context → Composing NodeId) (close : Token) : Composing NodeEntry := do
  let k ← nodeUnless [.value, .flowEntry, close] (node .flow)
  let v ← valueUnless [.flowEntry, close] (node .flow)
  return (k, v)

def flowItems (node : Context → Composing NodeId) (first : Bool) :
    (fuel : Nat) → Composing (List NodeId)
  | 0 => malformed
  | fuel + 1 => do
    if ← skip? .flowSequenceEnd then return []
    separator first
    if ← skip? .flowSequenceEnd then return []
    let item ← if ← skip? .key then
        addMapping .none .mapping do return [← flowPair node .flowSequenceEnd]
      else node .flow
    return item :: (← flowItems node false fuel)

def flowEntries (node : Context → Composing NodeId) (first : Bool) :
    (fuel : Nat) → Composing (List NodeEntry)
  | 0 => malformed
  | fuel + 1 => do
    if ← skip? .flowMappingEnd then return []
    separator first
    if ← skip? .flowMappingEnd then return []
    let entry ← if ← skip? .key then flowPair node .flowMappingEnd
      else do
        let k ← node .flow
        let _ ← peek
        pure (k, ← emptyNode)
    return entry :: (← flowEntries node false fuel)

def anchor? : Composing (Option (Mark × String)) := do
  match ← peek with
  | .anchor start n => advance; return some (start, n)
  | _ => return none

def writtenTag? : Composing (Option (Mark × Option String × String)) := do
  match ← peek with
  | .tag start handle suffix => advance; return some (start, handle, suffix)
  | _ => return none

def fullName : Option String × String → Composing String
  | (none, suffix) => return suffix
  | (some handle, suffix) => do
    match (← get).handles.lookup handle with
    | some start => return start ++ suffix
    | none => malformed

def properties : Composing Properties := do
  match ← anchor? with
  | some (start, anchor) =>
    match ← writtenTag? with
    | some (_, t) => return ⟨start, anchor, ← fullName t⟩
    | none => return ⟨start, anchor, none⟩
  | none =>
    match ← writtenTag? with
    | some (start, t) =>
      let anchor ← anchor?
      return ⟨start, anchor.map (·.2), ← fullName t⟩
    | none => return .none

/-- The tag of a node with a written tag, or what it is taken for otherwise. A lone mark means that
there is none. -/
def chosenTag (written : Option String) (otherwise : Tag) : Tag :=
  match written with
  | none => otherwise
  | some "!" => otherwise
  | some name => .ofName name

def scalarTag (written : Option String) (text : Wide) (plain : Bool) : Tag :=
  if written.isNone && !plain then .text else chosenTag written (.ofPlain text)

def content (node : Context → Composing NodeId) (fuel : Nat) (context : Context) (p : Properties) :
    Composing NodeId := do
  let list := addSequence p (chosenTag p.tag .list)
  let mapping := addMapping p (chosenTag p.tag .mapping)
  let scalar (text : Wide) (plain : Bool) : Composing NodeId :=
    addNode p (scalarTag p.tag text plain) (.scalar text)
  let t ← peek
  let known := (← get).anchors
  if p.anchor.any fun n => (known.lookup n).isSome then malformed
  match t with
  | .blockEntry =>
    if context = .afterKey then list (unindentedItems node fuel)
    else if p.mark.isSome then scalar [] true
    else malformed
  | .scalar text plain => advance; scalar text plain
  | .flowSequenceStart => advance; list (flowItems node true fuel)
  | .flowMappingStart => advance; mapping (flowEntries node true fuel)
  | _ =>
    if context != .flow && t = .blockSequenceStart then
      advance
      list (blockItems node fuel)
    else if context != .flow && t = .blockMappingStart then
      advance
      mapping (blockEntries node fuel)
    else if p.mark.isSome then scalar [] true
    else malformed

/-- A node. `bound` is more than the tokens there are, and so is the depth of nesting. -/
def node (bound : Nat) : (fuel : Nat) → Context → Composing NodeId
  | 0, _ => malformed
  | fuel + 1, context => do
    match ← peek with
    | .alias name =>
      advance
      match (← get).anchors.lookup name with
      | some id => return id
      | none => malformed
    | _ =>
      content (node bound fuel) bound context (← properties)

def defaultHandles : List (String × String) := [("!", "!"), ("!!", Tag.family)]

def directives (seen : Bool) : (fuel : Nat) → Composing Unit
  | 0 => malformed
  | fuel + 1 => do
    match ← peek with
    | .directive .other => advance; directives seen fuel
    | .directive (.version major) =>
      if seen || major != 1 then malformed
      advance
      directives true fuel
    | .directive (.tag handle start) =>
      if ((← get).handles.lookup handle).isSome then malformed
      modify fun c => { c with handles := (handle, start) :: c.handles }
      advance
      directives seen fuel
    | _ => return

def documentStart (fuel : Nat) : Composing Unit := do
  modify fun c => { c with handles := [] }
  directives false fuel
  unless ← skip? .documentStart do malformed
  modify fun c => { c with handles := c.handles ++ defaultHandles }

def skipDocumentEnds : (fuel : Nat) → Composing Unit
  | 0 => malformed
  | fuel + 1 => do
    if ← skip? .documentEnd then skipDocumentEnds fuel

def isDirective : Token → Bool
  | .directive _ => true
  | _ => false

def document (bound : Nat) : Composing (Option NodeId) := do
  let t ← peek
  if t = .streamEnd then return none
  let root ← if isDirective t || t = .documentStart then do
      documentStart bound
      let t ← peek
      if isDirective t || t = .documentStart || t = .documentEnd || t = .streamEnd then emptyNode
      else node bound bound .block
    else do
      modify fun c => { c with handles := defaultHandles }
      node bound bound .block
  skipDocumentEnds bound
  unless ← atOneOf [.streamEnd] do
    documentStart bound
    malformed
  return some root

end Composing

def Graph.ofSource? (s : Source) : Except LoadError (Option (NodeId × Graph)) := do
  let (root, c) ← Composing.document (Composing.tokenBound s) (.start s)
  return root.map (·, c.graph)

end SchemaToJava.Yaml
