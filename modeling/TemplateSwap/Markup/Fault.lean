namespace TemplateSwap.Markup

/-- A scalar that does not say a value: its text is none of the type that it is tagged with, or an
escape in it names no character. -/
inductive ScalarFault
  | noSuchCharacter
  | characterTooLarge
  | notNumber
  | emptyNumber
  | numberTooLarge
  | notTruthValue (text : String)
  | notTime
  | outOfRange
  | notText
  deriving DecidableEq, Repr

inductive Fault
  | malformed
  | scalar (fault : ScalarFault)
  deriving DecidableEq, Repr

end TemplateSwap.Markup
