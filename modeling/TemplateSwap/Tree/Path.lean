namespace TemplateSwap.Path

/-- The parts between slashes that say something. -/
def parts (path : String) : List String :=
  ((path.toList.splitOn '/').map String.ofList).filter fun part => part ≠ "" ∧ part ≠ "."

def isAbsolute (path : String) : Bool := path.startsWith "/"

/-- The normal spelling of a path. The empty path is the current directory. -/
def normal (path : String) : String :=
  let body := "/".intercalate (parts path)
  if isAbsolute path then "/" ++ body
  else if body = "" then "." else body

/-- A name below a directory. -/
def join (directory name : String) : String :=
  if directory.endsWith "/" then directory ++ name else directory ++ "/" ++ name

/-- The normal spelling of a path below a normal one. -/
def below (root : String) (names : List String) : String :=
  if root = "." then "/".intercalate names else names.foldl join root

/-- A path below a root, as seen from there. Both are normal. -/
def relative (root path : String) : String :=
  let lead := if root = "." then "" else if root.endsWith "/" then root else root ++ "/"
  if path.startsWith lead then String.ofList (path.toList.drop lead.length) else path

def text (names : List String) : String := "/".intercalate names

end TemplateSwap.Path
