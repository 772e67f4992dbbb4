namespace TemplateSwap

structure Location where
  source : String
  line : Option Int := none
  deriving DecidableEq, Repr

namespace Location

def text (l : Location) : String :=
  match l.line with
  | none => l.source
  | some line => l.source ++ ":" ++ toString line

/-- A message with the place it is about in front of it. -/
def mark (location : Option Location) (message : String) : String :=
  match location with
  | none => message
  | some l => l.text ++ ": " ++ message

end Location

end TemplateSwap
