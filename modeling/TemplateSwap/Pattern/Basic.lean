import TemplateSwap.Text.LetterCase
import TemplateSwap.Text.Alphanumeric
import TemplateSwap.Text.Decimal
import TemplateSwap.Text.Blank

namespace TemplateSwap.Pattern

open TemplateSwap.Text (Code)

/-- Switches that can be set for a whole pattern or inside one group. -/
structure Flags where
  ignoreCase : Bool := false
  multiline : Bool := false
  dotAll : Bool := false
  verbose : Bool := false
  ascii : Bool := false
  unicode : Bool := false
  template : Bool := false
  deriving DecidableEq, Repr

namespace Flags

def none : Flags := {}

def union (a b : Flags) : Flags where
  ignoreCase := a.ignoreCase || b.ignoreCase
  multiline := a.multiline || b.multiline
  dotAll := a.dotAll || b.dotAll
  verbose := a.verbose || b.verbose
  ascii := a.ascii || b.ascii
  unicode := a.unicode || b.unicode
  template := a.template || b.template

def remove (a b : Flags) : Flags where
  ignoreCase := a.ignoreCase && !b.ignoreCase
  multiline := a.multiline && !b.multiline
  dotAll := a.dotAll && !b.dotAll
  verbose := a.verbose && !b.verbose
  ascii := a.ascii && !b.ascii
  unicode := a.unicode && !b.unicode
  template := a.template && !b.template

/-- The switches inside a group of the outer ones. Naming a character mode replaces the mode of the surroundings. -/
def within (outer on off : Flags) : Flags :=
  let base := if on.ascii || on.unicode then { outer with ascii := false, unicode := false } else outer
  (base.union on).remove off

end Flags

/-- The named kinds of character. -/
inductive CharKind
  | digit
  | blank
  | word
  deriving DecidableEq, Repr

inductive SetItem
  | one (c : Code)
  | range (first last : Code)
  | kind (negated : Bool) (kind : CharKind)
  deriving DecidableEq, Repr

/-- A test that consumes exactly one character. -/
inductive Single
  | any
  | one (c : Code)
  | notOne (c : Code)
  | oneOf (negated : Bool) (items : List SetItem)
  deriving DecidableEq, Repr

inductive Anchor
  | textStart
  | textEnd
  | lineStart
  | lineEnd
  | boundary
  | notBoundary
  deriving DecidableEq, Repr

/-- Which of the possible numbers of rounds a loop tries first; a possessive one tries no other. -/
inductive Greed
  | greedy
  | lazy
  | possessive
  deriving DecidableEq, Repr

/-- Least and greatest number of characters. -/
structure Width where
  least : Nat
  most : Nat
  deriving DecidableEq, Repr

inductive Regex
  | empty
  | single (test : Single)
  | anchor (place : Anchor)
  | cat (first second : Regex)
  | choice (first second : Regex)
  | loop (greed : Greed) (least : Nat) (most : Option Nat) (body : Regex)
  | group (index : Nat) (body : Regex)
  | scope (on off : Flags) (body : Regex)
  | atomic (body : Regex)
  | ahead (negated : Bool) (body : Regex)
  | behind (negated : Bool) (body : Regex)
  | backref (index : Nat) (width : Width)
  | whether (index : Nat) (yes no : Regex)
  deriving DecidableEq, Repr

namespace Regex

/-- Anchors cannot be repeated. -/
def isAnchor : Regex → Bool
  | anchor _ => true
  | _ => false

/-- A loop cannot be repeated without parentheses. -/
def isLoop : Regex → Bool
  | loop .. => true
  | _ => false

/-- The concatenation of a list. -/
def ofItems : List Regex → Regex
  | [] => empty
  | item :: items => cat item (ofItems items)

/-- The ordered choice of a branch and the branches after it. -/
def ofBranches (first : Regex) : List Regex → Regex
  | [] => first
  | second :: rest => choice first (ofBranches second rest)

/-- Widths stop growing here. -/
def widthLimit : Nat := Nat.pow 2 64

/-- How many characters the expression can consume. -/
def width : Regex → Width
  | empty => ⟨0, 0⟩
  | single _ => ⟨1, 1⟩
  | anchor _ => ⟨0, 0⟩
  | cat a b => ⟨min (a.width.least + b.width.least) widthLimit, min (a.width.most + b.width.most) widthLimit⟩
  | choice a b => ⟨min a.width.least b.width.least, max a.width.most b.width.most⟩
  | loop _ least most body =>
    ⟨min (body.width.least * least) widthLimit,
      match most with
      | some n => min (body.width.most * n) widthLimit
      | none => if body.width.most = 0 then 0 else widthLimit⟩
  | group _ body => body.width
  | scope _ _ body => body.width
  | atomic body => body.width
  | ahead _ _ => ⟨0, 0⟩
  | behind _ _ => ⟨0, 0⟩
  | backref _ width => width
  | whether _ yes no => ⟨min yes.width.least no.width.least, max yes.width.most no.width.most⟩

end Regex

end TemplateSwap.Pattern
