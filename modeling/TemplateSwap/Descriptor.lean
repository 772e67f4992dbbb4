import TemplateSwap.Transformation
import TemplateSwap.Value.Order

namespace TemplateSwap

/-- A validated descriptor, with its keys in the order they were written. -/
structure Entry where
  fields : List (Value × Value)

namespace Entry

open Value (Pairs.get? Pairs.put)

def get? (e : Entry) (key : String) : Option Value := Pairs.get? e.fields (.text key)

end Entry

namespace Descriptor

open Value (Pairs.get? Pairs.put)

def get? (fields : List (Value × Value)) (key : String) : Option Value :=
  Pairs.get? fields (.text key)

def getD (fields : List (Value × Value)) (key : String) : Value := (get? fields key).getD .null

/-- All keys of a part must be among those it allows. -/
def checkKeys (part : Section) (fields : List (Value × Value)) (location : Location) :
    Except Failure Unit :=
  let unknown := (fields.map (·.1)).filter fun key => !part.allowed.any fun k => Value.same key (.text k)
  if unknown = [] then .ok ()
  else
    match Value.sorted? unknown with
    | some keys => .error (.config ⟨.unknownKeys part keys, location⟩)
    | none => .error .wrongType

def requiredKeys : List String := ["before", "after"]

def truthKeys : List String := ["first_only", "multiline", "repeated_groups"]

def checkText (fields : List (Value × Value)) (location : Location) (key : String) : Except Failure Unit :=
  match get? fields key with
  | some (.text _) => .ok ()
  | _ => .error (.config ⟨.notText key, location⟩)

def checkTruth (fields : List (Value × Value)) (location : Location) (key : String) : Except Failure Unit :=
  match get? fields key with
  | none | some (.bool _) => .ok ()
  | _ => .error (.config ⟨.notTruthValue key, location⟩)

/-- A value as the list of its items, where it has any. -/
def items? : Value → Option (List Value)
  | .list items | .tuple items | .set items => some items
  | .map pairs => some (pairs.map (·.1))
  | .text s => some (s.toList.map fun c => .text c.toString)
  | .bytes data => some (data.map fun b => .int b.toNat)
  | _ => none

/-- Globs from a collection; one that is missing or empty is the default. -/
def globs (value : Option Value) (default : List String) : Except Failure (List String) :=
  match value with
  | none => .ok default
  | some value =>
    if value.isVoid then .ok default
    else
      match items? value with
      | some items => .ok (items.map Value.display)
      | none => .error .wrongType

/-- Paths are a glob, a list of globs to include, or a mapping of globs to include and exclude. -/
def readPaths (value : Value) (location : Location) : Except Failure PathFilter :=
  match value with
  | .null => .ok {}
  | .text glob => .ok { included := [glob] }
  | .list items => .ok { included := items.map Value.display }
  | .map fields => do
    checkKeys .paths fields location
    return { included := ← globs (get? fields "include") ["**"]
             excluded := ← globs (get? fields "exclude") [] }
  | other => .error (.config ⟨.pathsNotList other.typeName, location⟩)

/-- Groups are a mapping; whatever is empty counts as an empty one. Keys become text. -/
def readGroups (value : Value) (location : Location) : Except Failure (List (Value × Value)) :=
  match value with
  | .map pairs => .ok (Value.Pairs.ofList (pairs.map fun (key, v) => (.text key.display, v)))
  | other =>
    if other.isVoid then .ok []
    else .error (.config ⟨.groupsNotMapping other.typeName, location⟩)

/-- Validate a descriptor. -/
def read (raw : Value) (location : Location) : Except Failure Entry :=
  match raw with
  | .map fields => do
    checkKeys .entry fields location
    requiredKeys.forM (checkText fields location)
    truthKeys.forM (checkTruth fields location)
    let groups ← readGroups (getD fields "regex_groups") location
    let paths ← readPaths (getD fields "paths") location
    return ⟨Pairs.put (Pairs.put fields (.text "regex_groups") (.map groups)) (.text "paths") (.filter paths)⟩
  | other => .error (.config ⟨.entryNotMapping other.typeName, location⟩)

/-- A transformation as a mapping. What has its default value is left out. -/
def write (t : Transformation) : Value :=
  let texts (items : List String) : Value := .list (items.map .text)
  let s := t.spec
  let groups :=
    if s.fragments.entries = [] then []
    else [(.text "regex_groups",
      .map (s.fragments.sources.map fun (name, source) => (.text name, .text source)))]
  let paths :=
    if t.paths = {} then []
    else [(.text "paths",
      .map [(.text "include", texts t.paths.included), (.text "exclude", texts t.paths.excluded)])]
  let flag (key : String) (on : Bool) : List (Value × Value) :=
    if on then [(.text key, .bool true)] else []
  .map ([(.text "before", .text s.before.source), (.text "after", .text s.after.source)]
    ++ groups ++ paths
    ++ flag "first_only" s.firstOnly ++ flag "multiline" s.multiline
    ++ flag "repeated_groups" s.repeatedGroups)

end Descriptor

end TemplateSwap
