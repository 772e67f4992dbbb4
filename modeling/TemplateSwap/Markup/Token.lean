namespace TemplateSwap.Markup

/-- A tag as written: a handle, if it has one, and the rest of the name. -/
structure TagName where
  handle : Option String
  suffix : String
  deriving DecidableEq, Repr

inductive Directive
  | version (major : Nat)
  | tag (handle lead : String)
  | other
  deriving DecidableEq, Repr

inductive Token
  | directive (d : Directive)
  | documentStart
  | documentEnd
  | streamEnd
  | blockSequenceStart
  | blockMappingStart
  | blockEnd
  | flowSequenceStart
  | flowSequenceEnd
  | flowMappingStart
  | flowMappingEnd
  | key
  | value
  | blockEntry
  | flowEntry
  | alias (name : String)
  | anchor (name : String)
  | tag (name : TagName)
  | scalar (text : String) (plain : Bool)
  deriving DecidableEq, Repr

/-- A token and the line it begins on, counted from zero. -/
structure Placed where
  token : Token
  line : Nat
  deriving DecidableEq, Repr

end TemplateSwap.Markup
