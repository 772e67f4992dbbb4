import TemplateSwap.Text.Quoted

namespace TemplateSwap

open TemplateSwap.Text (quotedList)

structure PathFilter where
  included : List String := ["**"]
  excluded : List String := []
  deriving DecidableEq, Repr, Inhabited

namespace PathFilter

/-- Excluded globs are shown only if there are any. -/
def text (f : PathFilter) : String :=
  if f.excluded = [] then "glob(" ++ quotedList f.included ++ ")"
  else "glob(include=" ++ quotedList f.included ++ ", exclude=" ++ quotedList f.excluded ++ ")"

end PathFilter

end TemplateSwap
