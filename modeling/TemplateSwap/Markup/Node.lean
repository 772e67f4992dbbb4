import TemplateSwap.Markup.Tag
import TemplateSwap.Markup.Lexer

namespace TemplateSwap.Markup

inductive Node
  | scalar (tag : Tag) (line : Nat) (text : String)
  | sequence (tag : Tag) (line : Nat) (items : List Node)
  | mapping (tag : Tag) (line : Nat) (pairs : List (Node × Node))

namespace Node

def tag : Node → Tag
  | scalar tag _ _ => tag
  | sequence tag _ _ => tag
  | mapping tag _ _ => tag

def line : Node → Nat
  | scalar _ line _ => line
  | sequence _ line _ => line
  | mapping _ line _ => line

/-- A node that is left out. -/
def omitted (line : Nat) : Node := scalar .null line ""

end Node

/-- Where reading has got to. Behind the last token there can be a fault. -/
structure Reader where
  tokens : List Placed
  fault : Option Fault
  handles : List (String × String) := []
  /-- The nodes named so far. -/
  anchors : List (String × Node) := []
  /-- Names of nodes that are being read, with what is known of the nodes. -/
  unfinished : List (String × Node) := []
  /-- The nodes named in an earlier reading of the same document. -/
  earlier : List (String × Node) := []

/-- Reading steps. -/
abbrev Read (α : Type) := StateT Reader (Except Fault) α

namespace Read

def fail {α : Type} : Read α := throw .malformed

def peek : Read Placed := do
  let s ← get
  match s.tokens with
  | placed :: _ => return placed
  | [] => throw (s.fault.getD .malformed)

def nextIs (tokens : List Token) : Read Bool := return tokens.contains (← peek).token

def advance : Read Unit := modify fun s => { s with tokens := s.tokens.tail }

/-- Consume a token, and give its line. -/
def expect (token : Token) : Read Nat := do
  let placed ← peek
  if placed.token = token then
    advance
    return placed.line
  else fail

/-- What stands in front of a node: its anchor and tag, and the line of the first of them. -/
structure Properties where
  anchor : Option String := none
  tag : Option TagName := none
  line : Option Nat := none

def anchorProperty (p : Properties) : Read Properties := do
  let placed ← peek
  match placed.token, p.anchor with
  | .anchor name, none =>
    advance
    return { p with anchor := some name, line := some (p.line.getD placed.line) }
  | _, _ => return p

def tagProperty (p : Properties) : Read Properties := do
  let placed ← peek
  match placed.token, p.tag with
  | .tag name, none =>
    advance
    return { p with tag := some name, line := some (p.line.getD placed.line) }
  | _, _ => return p

/-- An anchor and a tag in either order. -/
def properties : Read Properties := do
  let p ← anchorProperty (← tagProperty {})
  if p.tag.isSome then return p else tagProperty p

/-- A tag in full. The tag that is only an exclamation mark says nothing. -/
def fullTag (name : Option TagName) : Read (Option String) := do
  match name with
  | none => return none
  | some name =>
    let full ←
      match name.handle with
      | none => pure name.suffix
      | some handle =>
        match (← get).handles.lookup handle with
        | some lead => pure (lead ++ name.suffix)
        | none => fail
    return some full

/-- The tag of a collection. -/
def collectionTag (default : Tag) (tag : Option String) : Tag :=
  match tag with
  | none => default
  | some name => if name = "!" then default else Tag.ofName name

def scalarTag (text : String) (plain : Bool) (tag : Option String) : Tag :=
  match tag with
  | none => if plain then Form.tagOf text else .str
  | some name => if name = "!" then Form.tagOf text else Tag.ofName name

/-- A name can be given once. -/
def checkAnchor (anchor : Option String) : Read Unit := do
  let s ← get
  match anchor with
  | some name => if ((s.anchors ++ s.unfinished).lookup name).isSome then fail
  | none => return

def name (anchor : Option String) (node : Node) : Read Node := do
  match anchor with
  | none => return node
  | some name =>
    modify fun s => { s with anchors := (name, node) :: s.anchors
                             unfinished := s.unfinished.filter fun (n, _) => n ≠ name }
    return node

/-- Until a node is read in all its parts, its name stands for the node as far as an earlier reading
got, or for a node without parts. -/
def begin (anchor : Option String) (bare : Node) : Read Unit := do
  match anchor with
  | none => return
  | some name =>
    modify fun s => { s with unfinished := (name, (s.earlier.lookup name).getD bare) :: s.unfinished }

def nameSequence (anchor : Option String) (tag : Tag) (line : Nat) (items : Read (List Node)) :
    Read Node := do
  begin anchor (.sequence tag line [])
  name anchor (.sequence tag line (← items))

def nameMapping (anchor : Option String) (tag : Tag) (line : Nat)
    (pairs : Read (List (Node × Node))) : Read Node := do
  begin anchor (.mapping tag line [])
  name anchor (.mapping tag line (← pairs))

def aliased (name : String) : Read Node := do
  let s ← get
  match (s.anchors ++ s.unfinished).lookup name with
  | some node => return node
  | none => fail

/-- The tokens before which the value of a block key is left out. -/
def blockStops : List Token := [.key, .value, .blockEnd]

def flowStops (close : Token) : List Token := [.flowEntry, close]

/-- What kinds of collection a node may be. -/
structure Place where
  block : Bool
  /-- Whether the entries of a sequence may be on the column of the mapping around it. -/
  unindented : Bool := false

mutual

/-- A node, or what is left out before one of the given tokens. -/
def optional (place : Place) (stops : List Token) (line : Nat) : Nat → Read Node
  | 0 => fail
  | fuel + 1 => do
    if ← nextIs stops then return .omitted line
    else node place fuel

def node (place : Place) : Nat → Read Node
  | 0 => fail
  | fuel + 1 => do
    let first ← peek
    if let .alias name := first.token then
      advance
      return ← aliased name
    let p ← properties
    let tag ← fullTag p.tag
    let placed ← peek
    let line := p.line.getD placed.line
    checkAnchor p.anchor
    match placed.token with
    | .scalar text plain =>
      advance
      name p.anchor (.scalar (scalarTag text plain tag) line text)
    | .flowSequenceStart =>
      advance
      nameSequence p.anchor (collectionTag .seq tag) line (flowItems true fuel)
    | .flowMappingStart =>
      advance
      nameMapping p.anchor (collectionTag .map tag) line (flowPairs true fuel)
    | token =>
      if place.unindented && token = .blockEntry then
        nameSequence p.anchor (collectionTag .seq tag) line (unindentedItems fuel)
      else if place.block && token = .blockSequenceStart then
        advance
        nameSequence p.anchor (collectionTag .seq tag) line (blockItems fuel)
      else if place.block && token = .blockMappingStart then
        advance
        nameMapping p.anchor (collectionTag .map tag) line (blockPairs fuel)
      else if p.line.isSome then name p.anchor (.scalar (scalarTag "" true tag) line "")
      else fail

def blockItems : Nat → Read (List Node)
  | 0 => fail
  | fuel + 1 => do
    if ← nextIs [.blockEntry] then
      let line ← expect .blockEntry
      let item ← optional ⟨true, false⟩ [.blockEntry, .blockEnd] line fuel
      return item :: (← blockItems fuel)
    else
      let _ ← expect .blockEnd
      return []

def unindentedItems : Nat → Read (List Node)
  | 0 => fail
  | fuel + 1 => do
    if ← nextIs [.blockEntry] then
      let line ← expect .blockEntry
      let item ← optional ⟨true, false⟩ (.blockEntry :: blockStops) line fuel
      return item :: (← unindentedItems fuel)
    else return []

/-- The value after a key, or what is left out if there is none. -/
def valueNode (place : Place) (stops : List Token) : Nat → Read Node
  | 0 => fail
  | fuel + 1 => do
    if ← nextIs [.value] then
      let line ← expect .value
      optional place stops line fuel
    else return .omitted (← peek).line

def blockPairs : Nat → Read (List (Node × Node))
  | 0 => fail
  | fuel + 1 => do
    if ← nextIs [.key] then
      let line ← expect .key
      let key ← optional ⟨true, true⟩ blockStops line fuel
      let value ← valueNode ⟨true, true⟩ blockStops fuel
      return (key, value) :: (← blockPairs fuel)
    else
      let _ ← expect .blockEnd
      return []

/-- The entries up to the end of a flow sequence. A pair that stands alone is a mapping. -/
def flowItems (first : Bool) : Nat → Read (List Node)
  | 0 => fail
  | fuel + 1 => do
    if ← nextIs [.flowSequenceEnd] then
      advance
      return []
    if !first then
      let _ ← expect .flowEntry
    if ← nextIs [.key] then
      let line ← expect .key
      let stops := flowStops .flowSequenceEnd
      let key ← optional ⟨false, false⟩ (.value :: stops) line fuel
      let value ← valueNode ⟨false, false⟩ stops fuel
      return .mapping .map line [(key, value)] :: (← flowItems false fuel)
    else if ← nextIs [.flowSequenceEnd] then
      advance
      return []
    else
      let item ← node ⟨false, false⟩ fuel
      return item :: (← flowItems false fuel)

def flowPairs (first : Bool) : Nat → Read (List (Node × Node))
  | 0 => fail
  | fuel + 1 => do
    if ← nextIs [.flowMappingEnd] then
      advance
      return []
    if !first then
      let _ ← expect .flowEntry
    let stops := flowStops .flowMappingEnd
    if ← nextIs [.key] then
      let line ← expect .key
      let key ← optional ⟨false, false⟩ (.value :: stops) line fuel
      let value ← valueNode ⟨false, false⟩ stops fuel
      return (key, value) :: (← flowPairs false fuel)
    else if ← nextIs [.flowMappingEnd] then
      advance
      return []
    else
      let key ← node ⟨false, false⟩ fuel
      let line := (← peek).line
      return (key, .omitted line) :: (← flowPairs false fuel)

end

/-- The handles that every document knows. -/
def defaultHandles : List (String × String) := [("!", "!"), ("!!", Tag.lead)]

/-- Directives in front of a document. Only the first major version of the format is known. -/
def directives (versionSeen : Bool) : Nat → Read Unit
  | 0 => fail
  | fuel + 1 => do
    match (← peek).token with
    | .directive (.version major) =>
      advance
      if versionSeen || major ≠ 1 then fail
      directives true fuel
    | .directive (.tag handle lead) =>
      advance
      if ((← get).handles.lookup handle).isSome then fail
      modify fun s => { s with handles := (handle, lead) :: s.handles }
      directives versionSeen fuel
    | .directive .other =>
      advance
      directives versionSeen fuel
    | _ => modify fun s => { s with handles := s.handles ++ defaultHandles }

def skipDocumentEnds : Nat → Read Unit
  | 0 => fail
  | fuel + 1 => do
    if ← nextIs [.documentEnd] then
      advance
      skipDocumentEnds fuel

def isDirective : Token → Bool
  | .directive _ => true
  | _ => false

/-- The only document, if there is one. -/
def document (fuel : Nat) : Read (Option Node) := do
  let first := (← peek).token
  if first = .streamEnd then return none
  let content ←
    if isDirective first || first = .documentStart then do
      directives false fuel
      let _ ← expect .documentStart
      let next ← peek
      if isDirective next.token || [.documentStart, .documentEnd, .streamEnd].contains next.token then
        pure (.omitted next.line)
      else node ⟨true, false⟩ fuel
    else do
      modify ({ · with handles := defaultHandles })
      node ⟨true, false⟩ fuel
  skipDocumentEnds fuel
  let _ ← expect .streamEnd
  return some content

end Read

namespace Node

/-- Read a document once, with what an earlier reading found out about named nodes. -/
def readOnce (tokens : List Placed) (fault : Option Fault) (earlier : List (String × Node)) :
    Except Fault (Option Node × List (String × Node)) := do
  let (node, s) ← (Read.document (3 * tokens.length + 8)).run { tokens, fault, earlier }
  return (node, s.anchors)

/-- The node of a document, if it has any. A second reading fills in what names stand for inside the
nodes they name. -/
def ofText (text : List Char) : Except Fault (Option Node) := do
  let (tokens, fault) := Token.scan text
  let (_, anchors) ← readOnce tokens fault []
  let (node, _) ← readOnce tokens fault anchors
  return node

end Node

end TemplateSwap.Markup
