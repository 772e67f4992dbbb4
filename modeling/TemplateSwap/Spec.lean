import TemplateSwap.Replacer.Basic
import TemplateSwap.Template.Reader

namespace TemplateSwap

open TemplateSwap.Text (quoted)

structure Spec where
  before : Template
  after : Template
  fragments : Fragments
  firstOnly : Bool := false
  multiline : Bool := false
  repeatedGroups : Bool := false
  deriving DecidableEq, Repr

/-- What a specification is made from. -/
structure SpecSource where
  before : String
  after : String
  groups : List (Value × Value) := []
  firstOnly : Bool := false
  multiline : Bool := false
  repeatedGroups : Bool := false
  location : Option Location := none

namespace Spec

/-- Validate and build. The names of the before template are exactly those of the fragments; the
after template is only checked for its form. -/
def create (s : SpecSource) : Except Failure Spec := do
  let fragments ← Fragments.compile s.groups s.location
  let before ← (Template.readKnown s.before fragments.names s.repeatedGroups s.location).mapError .config
  let after ← (Template.read s.after s.repeatedGroups s.location).mapError .config
  (before.validateUnused fragments.names).mapError .config
  return { before, after, fragments, firstOnly := s.firstOnly, multiline := s.multiline,
           repeatedGroups := s.repeatedGroups }

def location (s : Spec) : Option Location := s.before.location

def replacer (s : Spec) : Except Failure Replacer :=
  Replacer.compile s.before s.after s.fragments s.firstOnly s.multiline

/-- Turn around, if the after template uses exactly the names of the fragments. -/
def reverse (s : Spec) : Except ConfigError Spec := do
  s.after.validateKnown s.fragments.names
  s.after.validateUnused s.fragments.names
  return { s with before := s.after, after := s.before }

/-- Two specifications are the same if they differ at most in the order of their fragments. -/
def same (a b : Spec) : Bool :=
  a.before == b.before && a.after == b.after && a.fragments.same b.fragments
    && a.firstOnly == b.firstOnly && a.multiline == b.multiline && a.repeatedGroups == b.repeatedGroups

/-- The before template says which transformation this is. -/
def describe (s : Spec) : String := "Replace " ++ s.before.source

def truthText (b : Bool) : String := if b then "True" else "False"

def text (s : Spec) : String :=
  "Replace(before=" ++ quoted s.before.source ++ ", after=" ++ quoted s.after.source
    ++ ", regex_groups=" ++ s.fragments.sourcesShown ++ ", first_only=" ++ truthText s.firstOnly
    ++ ", multiline=" ++ truthText s.multiline ++ ")"

end Spec

end TemplateSwap
