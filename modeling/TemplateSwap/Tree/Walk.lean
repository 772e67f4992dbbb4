import TemplateSwap.Environment
import TemplateSwap.Tree.Resolve

namespace TemplateSwap

/-- The files found, as lists of names below the root, up to the directory that could not be
listed, if there was one. -/
structure Walk where
  files : List (List String)
  failure : Option SystemError := none

namespace Walk

def append (a b : Walk) : Walk :=
  match a.failure with
  | some _ => a
  | none => ⟨a.files ++ b.files, b.failure⟩

/-- One walk after another, until one fails. -/
def concat (walks : List Walk) : Walk := walks.foldr append ⟨[], none⟩

/-- The files that a predicate accepts, asked about one after the other. -/
def ask {m : Type → Type} [Monad m] (accepts : String → m Bool) : List (List String) → m (List (List String))
  | [] => pure []
  | names :: rest => do
    let accepted ← accepts (Path.text names)
    let others ← ask accepts rest
    return if accepted then names :: others else others

/-- A predicate that notes what it is asked about. -/
def noting (accepts : String → Bool) (path : String) : StateM (List String) Bool := do
  modify (· ++ [path])
  return accepts path

end Walk

namespace Tree

/-- What a walk does with an entry of a directory. -/
inductive Visit
  | take
  | enter (walk : Walk)
  | pass

/-- Whether a path leads to a file. -/
def leadsToFile (t : Tree) (path : String) : Bool :=
  match t.resolve path with
  | .ok (_, file _) => true
  | _ => false

/-- The files of a directory in order of name, then what its subdirectories hold. -/
def gather (names : List String) (visits : List (String × Visit)) : Walk :=
  let sorted := visits.mergeSort fun a b => decide (a.1 ≤ b.1)
  let own := sorted.filterMap fun (name, visit) =>
    match visit with
    | .take => some (names ++ [name])
    | _ => none
  let inner := sorted.filterMap fun (_, visit) =>
    match visit with
    | .enter walk => some walk
    | _ => none
  Walk.append ⟨own, none⟩ (Walk.concat inner)

mutual

/-- Walk a node of the tree. Names lead to it from the root of the walk, and its path is as given. -/
def walkNode (t : Tree) (denied : String → Bool) (names : List String) (called : String) : Tree → Visit
  | file _ => .take
  | link _ => if t.leadsToFile called then .take else .pass
  | directory entries =>
    .enter
      (if denied called then ⟨[], some (.listingDenied called)⟩
      else gather names (walkEntries t denied names called entries))

def walkEntries (t : Tree) (denied : String → Bool) (names : List String) (called : String) :
    List (String × Tree) → List (String × Visit)
  | [] => []
  | (name, node) :: rest =>
    (name, walkNode t denied (names ++ [name]) (Path.join called name) node)
      :: walkEntries t denied names called rest

end

/-- All files below a root, which has to be a directory or a link to one. -/
def walk (t : Tree) (env : Environment) (root : String) : Walk :=
  match t.resolve root with
  | .ok (_, directory entries) =>
    match walkNode t env.listing.contains [] root (directory entries) with
    | .enter walk => walk
    | _ => ⟨[], none⟩
  | _ => ⟨[], some (.notDirectory root)⟩

end Tree

end TemplateSwap
