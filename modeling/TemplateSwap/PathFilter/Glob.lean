import TemplateSwap.PathFilter.Basic
import TemplateSwap.Pattern.Match
import TemplateSwap.Text.Codes

namespace TemplateSwap.Glob

open TemplateSwap.Text (codes ofCodes)

inductive Part
  /-- Any number of whole directories, none included. -/
  | directories
  /-- Any text, slashes included. -/
  | anything
  /-- Any text within a name. -/
  | stretch
  /-- One character of a name. -/
  | one
  | char (c : Char)
  deriving DecidableEq, Repr

def parts : List Char → List Part
  | [] => []
  | '*' :: '*' :: '/' :: rest => .directories :: parts rest
  | '*' :: '*' :: rest => .anything :: parts rest
  | '*' :: rest => .stretch :: parts rest
  | '?' :: rest => .one :: parts rest
  | c :: rest => .char c :: parts rest

namespace Part

/-- The pattern for a part. -/
def source : Part → String
  | directories => "(?:.*/)?"
  | anything => ".*"
  | stretch => "[^/]*"
  | one => "[^/]"
  | char c => ofCodes (Pattern.literal [c.toNat])

end Part

/-- The pattern for a glob. -/
def source (glob : String) : String := String.join ((parts glob.toList).map Part.source)

/-- The pattern for the paths that match one of several globs. -/
def anySource (globs : List String) : String :=
  if globs = [] then "(?!)"
  else "|".intercalate (globs.map fun glob => "(?:" ++ source glob ++ ")")

/-- Whether a pattern matches all of a text. -/
def sourceMatches (source text : String) : Bool :=
  match Pattern.compile source {} with
  | .ok p => p.fullMatch (codes text).toArray
  | .error _ => false

end TemplateSwap.Glob

namespace TemplateSwap.PathFilter

/-- A path is accepted if some glob to include matches it and no glob to exclude does. -/
def accepts (f : PathFilter) (path : String) : Bool :=
  Glob.sourceMatches (Glob.anySource f.included) path
    && (f.excluded.isEmpty || !Glob.sourceMatches (Glob.anySource f.excluded) path)

end TemplateSwap.PathFilter
