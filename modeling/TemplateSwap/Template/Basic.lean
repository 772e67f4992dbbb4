import TemplateSwap.ConfigError

namespace TemplateSwap

/-- A stretch of text, or a placeholder with its position among the placeholders. Text is made of characters, so there
is no lone surrogate in it. -/
inductive Token
  | literal (text : String)
  | placeholder (name : String) (index : Nat)
  deriving DecidableEq, Repr

/-- Tokens with the text they were read from and the place where that was declared. -/
structure Template where
  source : String
  tokens : List Token
  location : Option Location := none
  deriving DecidableEq, Repr

namespace Token

def name? : Token → Option String
  | literal _ => none
  | placeholder name _ => some name

def isNameStart (c : Char) : Bool := c.isAlpha || c = '_'

def isNameRest (c : Char) : Bool := c.isAlphanum || c = '_'

/-- Names are identifiers of ASCII letters, digits and underscores. -/
def isName : List Char → Bool
  | [] => false
  | c :: rest => isNameStart c && rest.all isNameRest

/-- Literal text with its dollars doubled. -/
def escapeDollars (cs : List Char) : List Char :=
  cs.flatMap fun c => if c = '$' then ['$', '$'] else [c]

/-- A token as it is written in a template. -/
def render : Token → List Char
  | literal text => escapeDollars text.toList
  | placeholder name _ => '$' :: '\x7b' :: name.toList ++ ['\x7d']

end Token

namespace Template

/-- The text that stands for a list of tokens. -/
def render (tokens : List Token) : String := String.ofList (tokens.flatMap Token.render)

/-- Placeholders in order, with their positions. -/
def placeholders (t : Template) : List (String × Nat) :=
  t.tokens.filterMap fun
    | .literal _ => none
    | .placeholder name index => some (name, index)

/-- Placeholder names in order of first appearance, each once. -/
def names (t : Template) : List String := (t.tokens.filterMap Token.name?).eraseDups

/-- All names of the template must be known. -/
def validateKnown (t : Template) (known : List String) : Except ConfigError Unit :=
  match t.names.filter (!known.contains ·) with
  | [] => .ok ()
  | unknown => .error ⟨.unknownNames unknown t.source, t.location⟩

/-- All defined names must be used by the template. -/
def validateUnused (t : Template) (defined : List String) : Except ConfigError Unit :=
  match defined.filter (!t.names.contains ·) with
  | [] => .ok ()
  | unused => .error ⟨.unusedNames unused t.source, t.location⟩

end Template

end TemplateSwap
