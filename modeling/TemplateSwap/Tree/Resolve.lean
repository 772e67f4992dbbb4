import TemplateSwap.Failure
import TemplateSwap.Tree.Basic
import TemplateSwap.Tree.Path

namespace TemplateSwap.Tree

/-- Where a path leads as long as it meets no link: to a node, to a link with the rest of the path
still to go, or nowhere. -/
inductive Stage
  | arrived (path : List String) (node : Tree)
  | atLink (place : List String) (target : String) (rest : List String)
  | lost (error : String → SystemError)

/-- Follow names from a directory of the tree. There is nothing above its top. -/
def stage (t : Tree) (here : List String) : List String → Stage
  | [] =>
    match t.at? here with
    | some node => .arrived here node
    | none => .lost .missing
  | ".." :: rest => if here = [] then .lost .missing else stage t here.dropLast rest
  | name :: rest =>
    match t.at? (here ++ [name]) with
    | none => .lost .missing
    | some (link target) => .atLink here target rest
    | some (file _) => if rest = [] then stage t (here ++ [name]) [] else .lost .notDirectory
    | some (directory _) => stage t (here ++ [name]) rest

/-- How many links may be followed. -/
def linkLimit : Nat := 40

/-- Follow links as well. The result is a place without links and what is there. A target leads nowhere if it is
absolute, and a slash at its end says nothing. -/
def follow (t : Tree) : Nat → List String → List String → Except (String → SystemError) (List String × Tree)
  | links, here, names =>
    match stage t here names with
    | .arrived path node => .ok (path, node)
    | .lost error => .error error
    | .atLink place target rest =>
      match links with
      | 0 => .error .tooManyLinks
      | links + 1 =>
        if Path.isAbsolute target then .error .missing
        else follow t links place (Path.parts target ++ rest)

/-- Where a path leads, as seen from a directory of the tree. An absolute one leads out of it, to where nothing is. -/
def resolveFrom (t : Tree) (here : List String) (path : String) : Except SystemError (List String × Tree) :=
  if Path.isAbsolute path then .error (.missing path)
  else
    match t.follow linkLimit here (Path.parts path) with
    | .ok found => .ok found
    | .error error => .error (error path)

def resolve (t : Tree) (path : String) : Except SystemError (List String × Tree) := t.resolveFrom [] path

def isDirectory (t : Tree) (path : String) : Bool :=
  match t.resolve path with
  | .ok (_, directory _) => true
  | _ => false

/-- The place and the contents of the file that a path leads to. -/
def readFile (t : Tree) (path : String) : Except SystemError (List String × List UInt8) :=
  match t.resolve path with
  | .ok (place, file data) => .ok (place, data)
  | .ok _ => .error (.isDirectory path)
  | .error error => .error error

end TemplateSwap.Tree
