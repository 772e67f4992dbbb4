import TemplateSwap.Descriptor

namespace TemplateSwap

inductive Factory
  /-- Replace what one template matches by what another one says. -/
  | replace
  /-- The same transformation for every descriptor. -/
  | always (t : Transformation)
  deriving DecidableEq, Repr

/-- Kinds in the order they were registered. -/
structure Kinds where
  factories : List (String × Factory) := [("replace", .replace)]
  deriving DecidableEq, Repr

namespace Factory

def fieldOrFail (e : Entry) (key : String) : Except Failure Value :=
  match e.get? key with
  | some v => .ok v
  | none => .error (.missingField key)

def groupsOf (e : Entry) : Except Failure (List (Value × Value)) :=
  match e.get? "regex_groups" with
  | none => .ok []
  | some (.map pairs) => .ok pairs
  | some v => if v.isVoid then .ok [] else .error .wrongShape

def flagOf (e : Entry) (key : String) : Bool :=
  match e.get? key with
  | none => false
  | some v => !v.isVoid

def pathsOf (e : Entry) : Except Failure PathFilter :=
  match e.get? "paths" with
  | none => .ok {}
  | some (.filter f) => .ok f
  | some v => if v.isVoid then .ok {} else .error .wrongShape

/-- The specification of a descriptor whose templates are texts. -/
def specOf (s : SpecSource) (before after : Value) : Except Failure Spec :=
  match before, after with
  | .text before, .text after => Spec.create { s with before, after }
  | .text before, _ => do
    let fragments ← Fragments.compile s.groups s.location
    let _ ← (Template.readKnown before fragments.names s.repeatedGroups s.location).mapError .config
    .error .wrongType
  | _, _ => do
    let _ ← Fragments.compile s.groups s.location
    .error .wrongType

/-- Build a replacement. Its replacer is compiled at once, so that it cannot fail later. -/
def buildReplace (e : Entry) (location : Option Location) : Except Failure Transformation := do
  let before ← fieldOrFail e "before"
  let after ← fieldOrFail e "after"
  let spec ← specOf
    { before := "", after := "", groups := ← groupsOf e
      firstOnly := flagOf e "first_only", multiline := flagOf e "multiline"
      repeatedGroups := flagOf e "repeated_groups", location }
    before after
  let _ ← spec.replacer
  return { spec, paths := ← pathsOf e }

def build (f : Factory) (e : Entry) (location : Option Location) : Except Failure Transformation :=
  match f with
  | replace => buildReplace e location
  | always t => .ok t

end Factory

namespace Kinds

def names (k : Kinds) : List String := k.factories.map (·.1)

/-- Register a factory. A kind that is there keeps its place. -/
def register (k : Kinds) (kind : String) (f : Factory) : Kinds :=
  if k.names.contains kind then
    ⟨k.factories.map fun (name, old) => (name, if name = kind then f else old)⟩
  else ⟨k.factories ++ [(kind, f)]⟩

/-- The factory of a kind, which can be any value that is usable as a key. -/
def get (k : Kinds) (kind : Value) : Except Failure Factory :=
  if !kind.isKey then .error .wrongType
  else
    match k.factories.find? fun (name, _) => Value.same kind (.text name) with
    | some (_, f) => .ok f
    | none => .error (.unknownKind kind k.names)

/-- Build the transformation that a descriptor describes. -/
def build (k : Kinds) (e : Entry) (location : Option Location) :
    Except Failure (Except ConfigError Transformation) :=
  match k.get ((e.get? "type").getD (.text "replace")) with
  | .error (.unknownKind kind available) => .ok (.error ⟨.unknownKind kind available, location⟩)
  | .error failure => .error failure
  | .ok f =>
    match f.build e location with
    | .ok t => .ok (.ok t)
    | .error (.config e) => .ok (.error e)
    | .error failure => .error failure

end Kinds

end TemplateSwap
