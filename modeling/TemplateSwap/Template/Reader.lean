import TemplateSwap.Template.Basic

namespace TemplateSwap.Template

/-- A character of literal text, or a placeholder. -/
inductive Piece
  | char (c : Char)
  | hole (name : List Char)
  deriving DecidableEq, Repr

/-- Why no piece can be read. -/
inductive Flaw
  | loneDollar
  | unterminated
  | badName (name : List Char)
  deriving DecidableEq, Repr

/-- Where the reader stands: in text, after a dollar, or in a name (its characters in reverse). -/
inductive Mode
  | text
  | dollar
  | name (sofar : List Char)
  deriving DecidableEq, Repr

/-- The pieces up to the first flaw, and that flaw. -/
def split : Mode → List Char → List Piece × Option Flaw
  | .text, [] => ([], none)
  | .text, c :: rest =>
    if c = '$' then split .dollar rest
    else
      let (pieces, flaw) := split .text rest
      (.char c :: pieces, flaw)
  | .dollar, [] => ([], some .loneDollar)
  | .dollar, c :: rest =>
    if c = '$' then
      let (pieces, flaw) := split .text rest
      (.char '$' :: pieces, flaw)
    else if c = '\x7b' then split (.name []) rest
    else ([], some .loneDollar)
  | .name _, [] => ([], some .unterminated)
  | .name sofar, c :: rest =>
    if c = '\x7d' then
      if Token.isName sofar.reverse then
        let (pieces, flaw) := split .text rest
        (.hole sofar.reverse :: pieces, flaw)
      else ([], some (.badName sofar.reverse))
    else split (.name (c :: sofar)) rest

/-- The first name that was there before. -/
def repeated? (seen : List (List Char)) : List Piece → Option (List Char)
  | [] => none
  | .char _ :: rest => repeated? seen rest
  | .hole name :: rest =>
    if seen.contains name then some name else repeated? (name :: seen) rest

/-- A stretch of text, unless it is empty. -/
def literalToken (text : List Char) : List Token :=
  if text = [] then [] else [.literal (String.ofList text)]

/-- Join characters to stretches of text (the current one in reverse) and number the placeholders. -/
def assemble : Nat → List Char → List Piece → List Token
  | _, text, [] => literalToken text.reverse
  | index, text, .char c :: rest => assemble index (c :: text) rest
  | index, text, .hole name :: rest =>
    literalToken text.reverse
      ++ .placeholder (String.ofList name) index :: assemble (index + 1) [] rest

def Flaw.defect (template : String) : Flaw → Defect
  | loneDollar => .loneDollar template
  | unterminated => .unterminatedName template
  | badName name => .invalidName (String.ofList name) template

/-- Read a template. Names may repeat only where that is allowed. -/
def read (source : String) (repeatsAllowed : Bool) (location : Option Location) :
    Except ConfigError Template :=
  let (pieces, flaw) := split .text source.toList
  match if repeatsAllowed then none else repeated? [] pieces with
  | some name => .error ⟨.repeatedName (String.ofList name) source, location⟩
  | none =>
    match flaw with
    | some flaw => .error ⟨flaw.defect source, location⟩
    | none => .ok { source, tokens := assemble 0 [] pieces, location }

/-- Read a template whose names all have to be known. -/
def readKnown (source : String) (known : List String) (repeatsAllowed : Bool)
    (location : Option Location) : Except ConfigError Template := do
  let t ← read source repeatsAllowed location
  t.validateKnown known
  return t

end TemplateSwap.Template
