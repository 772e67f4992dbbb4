import TemplateSwap.Replacer.Composite
import TemplateSwap.Pattern.Match
import TemplateSwap.Text.Lines

namespace TemplateSwap

open TemplateSwap.Text
open TemplateSwap.Pattern (Found Subject)

structure Replacer where
  pattern : Pattern
  groups : List (String × List String)
  recipe : List Token
  firstOnly : Bool := false
  multiline : Bool := false
  deriving DecidableEq, Repr

namespace Replacer

/-- What a placeholder captured. Of several occurrences of a name the first one counts. -/
def captured (r : Replacer) (text : Subject) (m : Found) (name : String) : List Code :=
  let index? := do
    let groups ← r.groups.lookup name
    let group ← groups.head?
    r.pattern.groupNamed? group
  ((index?.bind (m.group? text)).getD [])

/-- The after template, filled in. -/
def expand (r : Replacer) (text : Subject) (m : Found) : List Code :=
  r.recipe.flatMap fun
    | .literal s => codes s
    | .placeholder name _ => r.captured text m name

/-- The text from a position on, with its matches replaced. -/
def splice (r : Replacer) (text : Subject) : Nat → List Found → List Code
  | position, [] => Found.slice text position text.size
  | position, m :: rest =>
    Found.slice text position m.start ++ r.expand text m ++ splice r text m.stop rest

/-- A text taken as one, rewritten, and the number of replacements. -/
def replaceWhole (r : Replacer) (text : List Code) : List Code × Nat :=
  let subject := text.toArray
  let found := r.pattern.find subject r.firstOnly
  (r.splice subject 0 found, found.length)

/-- One line, rewritten. -/
def replaceLine (r : Replacer) (line : List Code) : List Code × Nat :=
  let (body, ending) := Lines.holdAside line
  let (body, count) := r.replaceWhole body
  (body ++ ending, count)

/-- Line by line; a replacer that replaces once stops after the first line with a match. -/
def replaceLines (r : Replacer) : List (List Code) → List (List Code) × Nat
  | [] => ([], 0)
  | line :: lines =>
    let (line, count) := r.replaceLine line
    if r.firstOnly && decide (0 < count) then (line :: lines, count)
    else
      let (lines, more) := replaceLines r lines
      (line :: lines, count + more)

/-- Rewrite a text, and count the replacements. -/
def replaceCount (r : Replacer) (text : List Code) : List Code × Nat :=
  if r.multiline then r.replaceWhole text
  else
    let (lines, count) := r.replaceLines (Lines.split text)
    (Lines.join lines, count)

def replace (r : Replacer) (text : List Code) : List Code := (r.replaceCount text).1

/-- The switches of a composite pattern. -/
def flags (multiline : Bool) : Pattern.Flags := { multiline, dotAll := multiline }

/-- Build the replacer. The after template can only use names that the before template captures. -/
def compile (before after : Template) (f : Fragments) (firstOnly multiline : Bool) :
    Except Failure Replacer := do
  (before.validateKnown f.names).mapError .config
  let source ← Composite.source before f
  let groups := Composite.table before
  match after.names.filter fun name => !(groups.any (·.1 = name)) with
  | name :: names =>
    .error (.config ⟨.unknownNames (name :: names) after.source, after.location⟩)
  | [] =>
    match Pattern.compile source (flags multiline) with
    | .ok pattern => return { pattern, groups, recipe := after.tokens, firstOnly, multiline }
    | .error refusal =>
      .error (.ofRefusal (fun e => ⟨.uncompilable before.source e, before.location⟩) refusal)

end Replacer

end TemplateSwap
