import TemplateSwap.Failure
import TemplateSwap.Pattern.Compile
import TemplateSwap.Template.Basic
import TemplateSwap.Value.Order

namespace TemplateSwap

open TemplateSwap.Text (quoted)

structure Fragments where
  entries : List (String × Pattern) := []
  deriving DecidableEq, Repr

namespace Fragments

def names (f : Fragments) : List String := f.entries.map (·.1)

def sources (f : Fragments) : List (String × String) := f.entries.map fun (name, p) => (name, p.source)

def get? (f : Fragments) (name : String) : Option Pattern := f.entries.lookup name

/-- Equality of contents. -/
def same (a b : Fragments) : Bool :=
  a.entries.length == b.entries.length
    && a.sources.all fun (name, source) => b.sources.lookup name == some source

/-- Sources in order of name: equal for fragments that are the same. -/
def hashKey (f : Fragments) : List (String × String) :=
  f.sources.mergeSort fun a b => decide (a.1 < b.1) || (a.1 == b.1 && decide (a.2 ≤ b.2))

/-- Sources as a mapping. -/
def sourcesShown (f : Fragments) : String :=
  "\x7b" ++ ", ".intercalate (f.sources.map fun (name, source) => quoted name ++ ": " ++ quoted source)
    ++ "\x7d"

/-- Compile one fragment. Its name has to be an identifier and its source a text that is a
pattern. -/
def compileEntry (location : Option Location) (name source : Value) :
    Except Failure (String × Pattern) :=
  let refuse (fault : FragmentFault) : ConfigError :=
    ⟨.invalidPattern name.display source.display (some fault), location⟩
  match name with
  | .text n =>
    if Token.isName n.toList then
      match source with
      | .text s =>
        match Pattern.compile s {} with
        | .ok p => .ok (n, p)
        | .error refusal => .error (.ofRefusal (fun e => refuse (.faulty e)) refusal)
      | other => .error (.config (refuse (.notText other.typeName)))
    else .error (.config (refuse .notIdentifier))
  | _ => .error (.config (refuse .notIdentifier))

/-- Compile the fragments of a mapping; the first that fails is reported. -/
def compile (groups : List (Value × Value)) (location : Option Location) :
    Except Failure Fragments := do
  return ⟨← groups.mapM fun (name, source) => compileEntry location name source⟩

end Fragments

end TemplateSwap
