import TemplateSwap.Kinds
import TemplateSwap.Markup.Meaning
import TemplateSwap.Text.StrictUtf8

namespace TemplateSwap

/-- A validated descriptor and the place where it stands. -/
structure Declared where
  entry : Entry
  location : Location

namespace Configuration

open TemplateSwap.Text (Code)

/-- Line breaks of every kind are read as line feeds. -/
def unifyBreaks : List Code → List Code
  | 13 :: 10 :: rest => 10 :: unifyBreaks rest
  | 13 :: rest => 10 :: unifyBreaks rest
  | c :: rest => c :: unifyBreaks rest
  | [] => []

/-- The characters that a document can hold. -/
def isReadable (c : Code) : Bool :=
  [9, 10, 13, 0x85].contains c || (decide (0x20 ≤ c) && decide (c ≤ 0x7E))
    || (decide (0xA0 ≤ c) && decide (c ≤ 0xD7FF)) || (decide (0xE000 ≤ c) && decide (c ≤ 0xFFFD))
    || decide (0x10000 ≤ c)

def invalidMarkup (path : String) : Failure := .config ⟨.invalidMarkup, some { source := path }⟩

def ofFault (path : String) : Markup.Fault → Failure
  | .malformed => invalidMarkup path
  | .scalar fault => .badScalar fault

def textOf (data : List UInt8) : Except Failure (List Char) := do
  let codes := unifyBreaks (← (Text.StrictUtf8.read data).mapError .undecodable)
  if codes.all isReadable then return codes.map Char.ofNat else throw .unreadableText

def isEntryKey : Markup.Node → Bool
  | .scalar _ _ text => text == "transformations"
  | _ => false

def itemLines? : Markup.Node × Markup.Node → Option (List Int)
  | (key, .sequence _ _ items) =>
    if isEntryKey key then some (items.map fun item => (item.line : Int) + 1) else none
  | _ => none

/-- The lines of the descriptors, the first line being one. -/
def lines (node : Markup.Node) : List Int :=
  (((node.pairs?.bind Markup.Node.mergedPairs).getD []).findSome? itemLines?).getD []

/-- The raw descriptors of a document. A file without any has an empty list of them. -/
def items (path : String) (raw : Value) : Except Failure (List Value) :=
  let place : Location := { source := path }
  match raw with
  | .map fields => do
    Descriptor.checkKeys .top fields place
    match Descriptor.getD fields "transformations" with
    | .list items => return items
    | other =>
      if other.isVoid then return [] else throw (.config ⟨.transformationsNotList, place⟩)
  | other => .error (.config ⟨.configNotMapping other.typeName, place⟩)

/-- Validate descriptors one after the other. Lines that are not known are left out. -/
def declare (path : String) : List Value → List Int → Except Failure (List Declared)
  | [], _ => .ok []
  | item :: items, lines => do
    let location : Location := { source := path, line := lines.head? }
    let entry ← Descriptor.read item location
    return ⟨entry, location⟩ :: (← declare path items lines.tail)

/-- Read the contents of a configuration file. -/
def read (path : String) (data : List UInt8) : Except Failure (List Declared) := do
  let node ← (Markup.Node.ofText (← textOf data)).mapError (ofFault path)
  let raw ←
    match node with
    | none => pure Value.null
    | some node => node.value.mapError (ofFault path)
  declare path (← items path raw) ((node.map lines).getD [])

/-- Load a configuration file of a tree. -/
def load (tree : Tree) (path : String) : Except Failure (List Declared) := do
  let path := Path.normal path
  let (_, data) ← (tree.readFile path).mapError .system
  read path data

/-- Load a configuration file and build every transformation in it. -/
def build (kinds : Kinds) (tree : Tree) (path : String) :
    Except Failure (List (Except ConfigError Transformation)) := do
  (← load tree path).mapM fun declared => kinds.build declared.entry (some declared.location)

end Configuration

end TemplateSwap
