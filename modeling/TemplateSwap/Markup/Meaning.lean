import TemplateSwap.Markup.Node
import TemplateSwap.Markup.Scalar

namespace TemplateSwap.Markup

/-- What a node says, or a fault and how far below it is. -/
abbrev Meaning (α : Type) := Except (Nat × Fault) α

namespace Meaning

def fault {α : Type} (f : Fault) : Meaning α := .error (0, f)

/-- One level further up. -/
def below {α : Type} : Meaning α → Meaning α
  | .error (depth, f) => .error (depth + 1, f)
  | .ok a => .ok a

/-- Both of two meanings, or the fault of them that counts. -/
def both {α β : Type} : Meaning α → Meaning β → Meaning (α × β)
  | .ok a, .ok b => .ok (a, b)
  | .ok _, .error f => .error f
  | .error f, .ok _ => .error f
  | .error (d, f), .error (e, g) => if e < d then .error (e, g) else .error (d, f)

def all {α : Type} (meanings : List (Meaning α)) : Meaning (List α) :=
  meanings.foldr (fun m ms => (both m ms).map fun (a, as) => a :: as) (.ok [])

end Meaning

namespace Node

abbrev Pairs := List (Node × Node)

def pairs? : Node → Option Pairs
  | mapping _ _ pairs => some pairs
  | _ => none

mutual

/-- The pairs that a mapping merges, and its own. Only mappings can be merged. -/
def merged : Pairs → Option (Pairs × Pairs)
  | [] => some ([], [])
  | (key, value) :: rest => do
    let (inherited, own) ← merged rest
    if key.tag = .merge then some ((← mergedFrom value) ++ inherited, own)
    else some (inherited, (key, value) :: own)

/-- The pairs of a node that is merged. -/
def mergedFrom : Node → Option Pairs
  | mapping _ _ pairs => do
    let (inherited, own) ← merged pairs
    some (inherited ++ own)
  | sequence _ _ items => mergedItems items
  | scalar .. => none

/-- The pairs of several mappings, those of the last one first. -/
def mergedItems : List Node → Option Pairs
  | [] => some []
  | mapping _ _ pairs :: rest => do
    let (inherited, own) ← merged pairs
    some ((← mergedItems rest) ++ (inherited ++ own))
  | _ :: _ => none

end

/-- The pairs of a mapping, those that it merges in front of its own. -/
def mergedPairs (pairs : Pairs) : Option Pairs := do
  let (inherited, own) ← merged pairs
  some (inherited ++ own)

mutual

/-- How deep a node goes. -/
def depth : Node → Nat
  | scalar .. => 1
  | sequence _ _ items => depthOfAll items + 1
  | mapping _ _ pairs => depthOfPairs pairs + 1

def depthOfAll : List Node → Nat
  | [] => 0
  | item :: items => max item.depth (depthOfAll items)

def depthOfPairs : List (Node × Node) → Nat
  | [] => 0
  | (key, value) :: rest => max (max key.depth value.depth) (depthOfPairs rest)

end

/-- The text of a scalar. A mapping stands for the value under its key of type value. -/
def text? : Nat → Node → Option String
  | _, scalar _ _ text => some text
  | fuel + 1, mapping _ _ pairs =>
    match pairs.find? fun (key, _) => key.tag = .value with
    | some (_, value) => text? fuel value
    | none => none
  | _, _ => none

def isScalar : Node → Bool
  | scalar .. => true
  | _ => false

/-- What a node of a scalar type says. -/
def scalarMeaning (tag : Tag) (node : Node) : Except Fault Value :=
  match node.text? node.depth with
  | none => .error .malformed
  | some text =>
    match tag with
    | .null => .ok .null
    | .bool => ((Scalar.bool text).map Value.bool).mapError .scalar
    | .int => ((Scalar.int text).map Value.int).mapError .scalar
    | .float => ((Scalar.float text).map Value.float).mapError .scalar
    | .binary => (Scalar.bytes text).map Value.bytes
    | .timestamp =>
      if node.isScalar then (Scalar.timestamp text).mapError .scalar else .error (.scalar .notText)
    | .str => .ok (.text text)
    | _ => .error .malformed

/-- The elements of a set are the keys of its mapping. -/
def elements (pairs : List (Value × Value)) : List Value := (Value.Pairs.ofList pairs).map (·.1)

/-- Whether nodes of a type say collections, which cannot be keys. Their parts are looked at later
than scalars beside them. -/
def isCollection (tag : Tag) : Bool := [Tag.seq, .map, .set, .omap, .pairs].contains tag

def keyMeaning (meaning : Node → Meaning Value) (key : Node) : Meaning Value :=
  if key.tag = .value then (key.scalarMeaning .str).mapError fun f => (0, f)
  else if isCollection key.tag then Meaning.fault .malformed
  else meaning key

def itemsMeaning (meaning : Node → Meaning Value) : Node → Meaning (List Value)
  | sequence _ _ items => Meaning.all (items.map meaning)
  | _ => Meaning.fault .malformed

def pairsMeaning (meaning : Node → Meaning Value) (node : Node) : Meaning (List (Value × Value)) :=
  match node.pairs?.bind mergedPairs with
  | some pairs => Meaning.all (pairs.map fun (key, value) =>
      Meaning.both (keyMeaning meaning key) (meaning value))
  | none => Meaning.fault .malformed

/-- An item of an ordered mapping: a mapping with one pair. -/
def entryMeaning (meaning : Node → Meaning Value) : Node → Meaning Value
  | mapping _ _ [(key, value)] =>
    (Meaning.both (meaning key) (meaning value)).map fun (k, v) => .tuple [k, v]
  | _ => Meaning.fault .malformed

/-- What a node says, looking so many levels deep. -/
def meaningTo : Nat → Node → Meaning Value
  | 0, _ => Meaning.fault .malformed
  | fuel + 1, node =>
    let inner := meaningTo fuel
    match node.tag with
    | .seq => Meaning.below ((itemsMeaning inner node).map Value.list)
    | .map => Meaning.below ((pairsMeaning inner node).map fun pairs => .map (Value.Pairs.ofList pairs))
    | .set => Meaning.below ((pairsMeaning inner node).map fun pairs => .set (elements pairs))
    | .omap | .pairs => Meaning.below ((itemsMeaning (entryMeaning inner) node).map Value.list)
    | tag => (node.scalarMeaning tag).mapError fun f => (0, f)

/-- The value that a node says. -/
def value (node : Node) : Except Fault Value := (meaningTo node.depth node).mapError (·.2)

end Node

end TemplateSwap.Markup
