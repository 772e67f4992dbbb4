namespace TemplateSwap

inductive Tree
  | file (data : List UInt8)
  | link (target : String)
  | directory (entries : List (String × Tree))
  deriving Inhabited

namespace Tree

def empty : Tree := directory []

def child? : Tree → String → Option Tree
  | directory entries, name => entries.lookup name
  | _, _ => none

/-- The node at a path, without following links. -/
def at? (t : Tree) : List String → Option Tree
  | [] => some t
  | name :: path => (t.child? name).bind (·.at? path)

/-- Entries with one of them set. An entry that is there keeps its place. -/
def setEntry (name : String) (node : Tree) : List (String × Tree) → List (String × Tree)
  | [] => [(name, node)]
  | (n, old) :: rest => if n = name then (name, node) :: rest else (n, old) :: setEntry name node rest

theorem lookup_setEntry (name : String) (node : Tree) (entries : List (String × Tree)) :
    (setEntry name node entries).lookup name = some node := by
  induction entries with
  | nil => simp [setEntry]
  | cons entry rest ih =>
    obtain ⟨n, old⟩ := entry
    by_cases h : n = name
    · simp [setEntry, h]
    · have h' : (name == n) = false := by simpa using fun e => h e.symm
      simp [setEntry, h, List.lookup_cons, h', ih]

/-- Put a node at a path, making the directories on the way. -/
def put (t : Tree) : List String → Tree → Tree
  | [], node => node
  | name :: path, node =>
    let entries := match t with
      | directory entries => entries
      | _ => []
    directory (setEntry name (((entries.lookup name).getD empty).put path node) entries)

/-- Make a directory, unless there is one. -/
def makeDirectory (t : Tree) (path : List String) : Tree :=
  match t.at? path with
  | some (directory _) => t
  | _ => t.put path empty

mutual

/-- All files below a path, with their contents. -/
def files (path : List String) : Tree → List (List String × List UInt8)
  | file data => [(path, data)]
  | link _ => []
  | directory entries => filesOf path entries

def filesOf (path : List String) : List (String × Tree) → List (List String × List UInt8)
  | [] => []
  | (name, node) :: rest => files (path ++ [name]) node ++ filesOf path rest

end

end Tree

end TemplateSwap
