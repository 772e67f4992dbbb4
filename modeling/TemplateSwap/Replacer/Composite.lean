import TemplateSwap.Fragments

namespace TemplateSwap.Composite

open TemplateSwap.Text (codes ofCodes)

/-- The name of the group that captures a placeholder. -/
def groupName (index : Nat) : String := "_ph" ++ toString index

/-- A fragment inside its group. -/
def wrapped (index : Nat) (source : String) : String :=
  "(?P<" ++ groupName index ++ ">(?:" ++ source ++ "))"

def part (f : Fragments) : Token → Except Failure String
  | .literal text => .ok (ofCodes (Pattern.literal (codes text)))
  | .placeholder name index =>
    match f.get? name with
    | some p => .ok (wrapped index p.source)
    | none => .error (.missingField name)

/-- The source of the composite pattern. -/
def source (before : Template) (f : Fragments) : Except Failure String := do
  return "".intercalate (← before.tokens.mapM (part f))

/-- The groups of each name, names and groups in order of appearance. -/
def table (before : Template) : List (String × List String) :=
  before.names.map fun name =>
    (name, before.placeholders.filterMap fun (n, index) =>
      if n = name then some (groupName index) else none)

end TemplateSwap.Composite
