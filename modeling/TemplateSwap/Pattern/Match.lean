import TemplateSwap.Pattern.Accepts
import TemplateSwap.Pattern.Compile

namespace TemplateSwap.Pattern

open TemplateSwap.Text (Code)

/-- One end of a numbered group. -/
inductive Mark
  | start (index : Nat)
  | stop (index : Nat)
  deriving DecidableEq, Repr

/-- How far matching has come: a position, and the positions of the marks passed, newest first. -/
structure State where
  position : Nat
  marks : List (Mark × Nat) := []
  deriving DecidableEq, Repr

namespace State

def mark (s : State) (m : Mark) : State := { s with marks := (m, s.position) :: s.marks }

/-- The span of a group, once both of its ends are marked in order. -/
def span? (s : State) (index : Nat) : Option (Nat × Nat) :=
  match s.marks.lookup (.start index), s.marks.lookup (.stop index) with
  | some first, some last => if first ≤ last then some (first, last) else none
  | _, _ => none

end State

/-- The text that is searched. -/
abbrev Subject := Array Code

abbrev Continue := State → Option State

/-- A step tries its possibilities until the continuation accepts one. -/
abbrev Step := State → Continue → Option State

namespace Anchor

def wordAt (unicode : Bool) (text : Subject) (position : Nat) : Bool :=
  (text[position]?).any (isWord unicode)

/-- Whether words begin or end here. Nothing is a word in the empty text. -/
def changesWord (unicode : Bool) (text : Subject) (position : Nat) : Bool :=
  (decide (0 < position) && wordAt unicode text (position - 1)) != wordAt unicode text position

def holds (flags : Flags) (text : Subject) (position : Nat) : Anchor → Bool
  | textStart => position == 0
  | textEnd => position == text.size
  | lineStart =>
    position == 0 || (flags.multiline && text[position - 1]? == some 10)
  | lineEnd =>
    position == text.size
      || (text[position]? == some 10 && (flags.multiline || position + 1 == text.size))
  | boundary => decide (0 < text.size) && changesWord flags.unicode text position
  | notBoundary => decide (0 < text.size) && !changesWord flags.unicode text position

end Anchor

namespace Loop

/-- Exactly so many rounds. -/
def exactly (body : Step) : Nat → Step
  | 0 => fun s k => k s
  | n + 1 => fun s k => body s fun s' => exactly body n s' k

/-- At most so many more rounds, as many as possible. A round that consumed nothing is the last. -/
def greedy (body : Step) : Nat → Option Nat → Step
  | 0, _ => fun s k => k s
  | room + 1, last => fun s k =>
    if last = some s.position then k s
    else
      (body s fun s' => greedy body room (some s.position) s' k) <|> k s

/-- At most so many more rounds, as few as possible. -/
def lazy (body : Step) : Nat → Option Nat → Step
  | 0, _ => fun s k => k s
  | room + 1, last => fun s k =>
    k s <|>
      if last = some s.position then none
      else body s fun s' => lazy body room (some s.position) s' k

/-- The state after as many rounds as possible, each taken as it comes first. -/
def possessive (body : Step) : Nat → Option Nat → State → State
  | 0, _, s => s
  | room + 1, last, s =>
    if last = some s.position then s
    else
      match body s some with
      | some s' => possessive body room (some s.position) s'
      | none => s

/-- The rounds beyond the least number. Without a limit there can be no more of them than
characters left, and one that consumes nothing. -/
def room (text : Subject) (least : Nat) (most : Option Nat) (s : State) : Nat :=
  match most with
  | some most => most - least
  | none => text.size - s.position + 1

def step (greed : Greed) (text : Subject) (least : Nat) (most : Option Nat) (body : Step) : Step :=
  fun s k =>
    match greed with
    | .greedy => exactly body least s fun s' => greedy body (room text least most s') none s' k
    | .lazy => exactly body least s fun s' => lazy body (room text least most s') none s' k
    | .possessive =>
      match exactly (fun s k => (body s some).bind k) least s some with
      | some s' => k (possessive body (room text least most s') none s')
      | none => none

end Loop

/-- Whether the text of a span comes again at a position. -/
def repeats (flags : Flags) (text : Subject) (first position : Nat) : Nat → Bool
  | 0 => true
  | n + 1 =>
    match text[first]?, text[position]? with
    | some c, some d =>
      (if flags.ignoreCase then foldCase flags.unicode c == foldCase flags.unicode d else c == d)
        && repeats flags text (first + 1) (position + 1) n
    | _, _ => false

namespace Regex

def run (text : Subject) : Flags → Regex → Step
  | _, empty => fun s k => k s
  | flags, single test => fun s k =>
    match text[s.position]? with
    | some c => if test.accepts flags c then k { s with position := s.position + 1 } else none
    | none => none
  | flags, anchor place => fun s k => if place.holds flags text s.position then k s else none
  | flags, cat a b => fun s k => run text flags a s fun s' => run text flags b s' k
  | flags, choice a b => fun s k => run text flags a s k <|> run text flags b s k
  | flags, loop greed least most body => Loop.step greed text least most (run text flags body)
  | flags, group index body => fun s k =>
    run text flags body (s.mark (.start index)) fun s' => k (s'.mark (.stop index))
  | flags, scope on off body => run text (flags.within on off) body
  | flags, atomic body => fun s k => (run text flags body s some).bind k
  | flags, ahead negated body => fun s k =>
    match run text flags body s some with
    | some s' => if negated then none else k { s' with position := s.position }
    | none => if negated then k s else none
  | flags, behind negated body => fun s k =>
    let back := body.width.least
    if s.position < back then (if negated then k s else none)
    else
      match run text flags body { s with position := s.position - back } some with
      | some s' => if negated then none else k { s' with position := s.position }
      | none => if negated then k s else none
  | flags, backref index _ => fun s k =>
    match s.span? index with
    | some (first, last) =>
      if repeats flags text first s.position (last - first) then
        k { s with position := s.position + (last - first) }
      else none
    | none => none
  | flags, whether index yes no => fun s k =>
    if (s.span? index).isSome then run text flags yes s k else run text flags no s k

end Regex

/-- A match: where it starts, and the state at its end. -/
structure Found where
  start : Nat
  final : State
  deriving DecidableEq, Repr

namespace Found

def stop (m : Found) : Nat := m.final.position

/-- The text of a span. -/
def slice (text : Subject) (first last : Nat) : List Code := (text.extract first last).toList

/-- The text that a group captured. -/
def group? (m : Found) (text : Subject) (index : Nat) : Option (List Code) :=
  (m.final.span? index).map fun (first, last) => slice text first last

end Found

/-- Match at a position. Where nonempty is set, a match has to consume something. -/
def matchAt (p : Pattern) (text : Subject) (start : Nat) (nonempty : Bool) : Option Found :=
  (p.regex.run text p.flags { position := start } fun s =>
    if nonempty && s.position == start then none else some s).map (⟨start, ·⟩)

/-- The leftmost match among the next positions; only the first of them can ask for a match that
consumes something. -/
def searchFrom (p : Pattern) (text : Subject) : Nat → Nat → Bool → Option Found
  | 0, _, _ => none
  | positions + 1, start, nonempty =>
    matchAt p text start nonempty <|> searchFrom p text positions (start + 1) false

def search (p : Pattern) (text : Subject) (start : Nat) (nonempty : Bool) : Option Found :=
  searchFrom p text (text.size + 1 - start) start nonempty

/-- Whether the pattern matches all of the text. -/
def fullMatch (p : Pattern) (text : Subject) : Bool :=
  (p.regex.run text p.flags { position := 0 } fun s =>
    if s.position == text.size then some s else none).isSome

/-- Successive matches, from left to right without overlap. After an empty match the next one has
to consume something or start further on, so there is at most one match for every position and
one more of each length. -/
def findFrom (p : Pattern) (text : Subject) : Nat → Nat → Bool → List Found
  | 0, _, _ => []
  | limit + 1, start, nonempty =>
    match search p text start nonempty with
    | none => []
    | some m => m :: findFrom p text limit m.stop (m.stop == m.start)

/-- All successive matches, or only the first. -/
def find (p : Pattern) (text : Subject) (firstOnly : Bool) : List Found :=
  findFrom p text (if firstOnly then 1 else 2 * (text.size + 1)) 0 false

end TemplateSwap.Pattern
