import TemplateSwap.Tree.Basic
import TemplateSwap.Proofs.Results
import TemplateSwap.Proofs.Tree.Paths

namespace TemplateSwap.Tree

/-- What a file holds. -/
def fileAt? (t : Tree) (path : List String) : Option (List UInt8) :=
  match t.at? path with
  | some (file data) => some data
  | _ => none

/-- A tree without links, as a file system has it: in each directory the names are names of entries, each
of them once. -/
inductive Plain : Tree → Prop
  | file (data : List UInt8) : Plain (file data)
  | directory {entries : List (String × Tree)} (distinct : (entries.map (·.1)).Nodup)
      (names : ∀ entry ∈ entries, Path.IsName entry.1) (nodes : ∀ entry ∈ entries, Plain entry.2) :
      Plain (directory entries)

/-- A tree as a file system has it, links included. Nothing is said about where these lead. -/
inductive Proper : Tree → Prop
  | file (data : List UInt8) : Proper (file data)
  | link (target : String) : Proper (link target)
  | directory {entries : List (String × Tree)} (distinct : (entries.map (·.1)).Nodup)
      (names : ∀ entry ∈ entries, Path.IsName entry.1) (nodes : ∀ entry ∈ entries, Proper entry.2) :
      Proper (directory entries)

mutual

/-- New contents for each file, by its path and its own contents. -/
def mapFiles (f : List String → List UInt8 → List UInt8) : Tree → Tree
  | file data => file (f [] data)
  | link target => link target
  | directory entries => directory (mapEntries f entries)

def mapEntries (f : List String → List UInt8 → List UInt8) : List (String × Tree) → List (String × Tree)
  | [] => []
  | (name, node) :: rest => (name, mapFiles (fun path => f (name :: path)) node) :: mapEntries f rest

end

variable {t node : Tree} {entries : List (String × Tree)} {name : String} {path : List String}
variable {f g : List String → List UInt8 → List UInt8} {data new : List UInt8}

theorem at?_append (t : Tree) (path more : List String) :
    t.at? (path ++ more) = (t.at? path).bind (·.at? more) := by
  induction path generalizing t with
  | nil => rfl
  | cons name path ih =>
    rw [List.cons_append, at?, at?, Option.bind_assoc]
    exact Option.bind_congr fun child _ => ih child

theorem fileAt?_some : t.fileAt? path = some data ↔ t.at? path = some (file data) := by
  unfold fileAt?
  split
  · next h => rw [h]; simp
  · next hno =>
    constructor
    · intro h
      cases h
    · intro h
      exact absurd h (hno data)

/-- What lies below a directory lies below one of its entries. -/
theorem at?_cons {first : String} {node : Tree} :
    t.at? (first :: path) = some node ↔
      ∃ entries child, t = directory entries ∧ entries.lookup first = some child ∧ child.at? path = some node := by
  rw [at?, Option.bind_eq_some_iff]
  cases t <;> simp [child?]

theorem fileAt?_cons (entries : List (String × Tree)) (name : String) (path : List String) :
    (directory entries).fileAt? (name :: path) = (entries.lookup name).bind (·.fileAt? path) := by
  simp only [fileAt?, at?, child?]
  cases entries.lookup name <;> rfl

namespace Proper

theorem distinct (h : Proper (Tree.directory entries)) : (entries.map (·.1)).Nodup := by
  cases h with
  | directory distinct names nodes => exact distinct

theorem mem (h : Proper (Tree.directory entries)) {entry : String × Tree} (hentry : entry ∈ entries) :
    Path.IsName entry.1 ∧ Proper entry.2 := by
  cases h with
  | directory distinct names nodes => exact ⟨names entry hentry, nodes entry hentry⟩

theorem entry (h : Proper (Tree.directory entries)) (hlookup : entries.lookup name = some node) :
    Path.IsName name ∧ Proper node :=
  h.mem (Results.mem_of_lookup hlookup)

theorem at? (h : Proper t) (hnode : t.at? path = some node) :
    (∀ name ∈ path, Path.IsName name) ∧ Proper node := by
  induction path generalizing t with
  | nil =>
    obtain rfl := Option.some.inj hnode
    exact ⟨by simp, h⟩
  | cons name path ih =>
    obtain ⟨entries, child, rfl, hlookup, hchild⟩ := at?_cons.mp hnode
    obtain ⟨hname, hproper⟩ := h.entry hlookup
    obtain ⟨hnames, hnode⟩ := ih hproper hchild
    exact ⟨List.forall_mem_cons.mpr ⟨hname, hnames⟩, hnode⟩

end Proper

namespace Plain

theorem proper (h : Plain t) : Proper t := by
  induction h with
  | file data => exact .file data
  | directory distinct names nodes ih => exact .directory distinct names ih

theorem distinct (h : Plain (Tree.directory entries)) : (entries.map (·.1)).Nodup := h.proper.distinct

theorem mem (h : Plain (Tree.directory entries)) {entry : String × Tree} (hentry : entry ∈ entries) :
    Path.IsName entry.1 ∧ Plain entry.2 := by
  cases h with
  | directory distinct names nodes => exact ⟨names entry hentry, nodes entry hentry⟩

theorem at? (h : Plain t) (hnode : t.at? path = some node) :
    (∀ name ∈ path, Path.IsName name) ∧ Plain node := by
  refine ⟨(h.proper.at? hnode).1, ?_⟩
  induction path generalizing t with
  | nil =>
    obtain rfl := Option.some.inj hnode
    exact h
  | cons name path ih =>
    obtain ⟨entries, child, rfl, hlookup, hchild⟩ := at?_cons.mp hnode
    exact ih (h.mem (Results.mem_of_lookup hlookup)).2 hchild

theorem at?_ne_link (h : Plain t) (path : List String) (target : String) : t.at? path ≠ some (link target) := by
  intro hlink
  cases (h.at? hlink).2

end Plain

theorem mapEntries_eq_map (f : List String → List UInt8 → List UInt8) (entries : List (String × Tree)) :
    mapEntries f entries =
      entries.map fun entry => (entry.1, entry.2.mapFiles fun path => f (entry.1 :: path)) := by
  induction entries with
  | nil => rfl
  | cons entry rest ih => rw [mapEntries, ih, List.map_cons]

theorem lookup_mapEntries (f : List String → List UInt8 → List UInt8) (entries : List (String × Tree))
    (name : String) :
    (mapEntries f entries).lookup name =
      (entries.lookup name).map (mapFiles fun path => f (name :: path)) := by
  induction entries with
  | nil => rfl
  | cons entry rest ih =>
    obtain ⟨n, node⟩ := entry
    rw [mapEntries, List.lookup_cons, List.lookup_cons, ih]
    cases hname : name == n with
    | false => rfl
    | true =>
      obtain rfl := eq_of_beq hname
      rfl

theorem at?_mapFiles (f : List String → List UInt8 → List UInt8) (t : Tree) (path : List String) :
    (t.mapFiles f).at? path = (t.at? path).map (mapFiles fun rest => f (path ++ rest)) := by
  induction path generalizing t f with
  | nil => rfl
  | cons name path ih =>
    cases t with
    | file data => rfl
    | link target => rfl
    | directory entries =>
      rw [mapFiles, at?, at?, child?, child?, lookup_mapEntries]
      cases entries.lookup name with
      | none => rfl
      | some child => exact ih _ child

theorem fileAt?_mapFiles (f : List String → List UInt8 → List UInt8) (t : Tree) (path : List String) :
    (t.mapFiles f).fileAt? path = (t.fileAt? path).map (f path) := by
  rw [fileAt?, fileAt?, at?_mapFiles]
  cases t.at? path with
  | none => rfl
  | some node =>
    cases node with
    | file data => simp [mapFiles]
    | link target => rfl
    | directory entries => rfl

theorem Proper.mapFiles_same (h : Proper t) : (t.mapFiles fun _ data => data) = t := by
  induction h with
  | file data => rfl
  | link target => rfl
  | directory distinct names nodes ih =>
    rw [mapFiles, mapEntries_eq_map]
    have hsame : ∀ entry ∈ _, (entry.1, mapFiles (fun _ data => data) entry.2) = id entry :=
      fun entry hentry => by rw [ih entry hentry, id]
    rw [List.map_congr_left hsame, List.map_id]

theorem mapFiles_same (h : Plain t) : (t.mapFiles fun _ data => data) = t := h.proper.mapFiles_same

theorem mapEntries_congr (h : ∀ entry ∈ entries, ∀ path, f (entry.1 :: path) = g (entry.1 :: path)) :
    mapEntries f entries = mapEntries g entries := by
  rw [mapEntries_eq_map, mapEntries_eq_map]
  refine List.map_congr_left fun entry hentry => ?_
  rw [funext (h entry hentry)]

theorem setEntry_mapEntries (hdistinct : (entries.map (·.1)).Nodup) (hlookup : entries.lookup name = some node)
    (hsame : ∀ other path, other ≠ name → g (other :: path) = f (other :: path)) :
    setEntry name (node.mapFiles fun path => g (name :: path)) (mapEntries f entries) = mapEntries g entries := by
  induction entries with
  | nil => cases hlookup
  | cons entry rest ih =>
    obtain ⟨n, first⟩ := entry
    rw [List.map_cons, List.nodup_cons] at hdistinct
    rw [List.lookup_cons] at hlookup
    rw [mapEntries, mapEntries, setEntry]
    by_cases hn : n = name
    · obtain rfl := hn
      rw [beq_self_eq_true] at hlookup
      obtain rfl := Option.some.inj hlookup
      rw [if_pos rfl]
      congr 1
      -- No other entry has the name, so it does not matter that only the first one is set.
      refine mapEntries_congr fun entry hentry path => (hsame _ path ?_).symm
      intro heq
      have hmem := List.mem_map_of_mem (f := Prod.fst) hentry
      rw [heq] at hmem
      exact hdistinct.1 hmem
    · have hne : (name == n) = false := beq_eq_false_iff_ne.mpr (Ne.symm hn)
      rw [hne] at hlookup
      rw [if_neg hn, ih hdistinct.2 hlookup, funext fun path => hsame n path hn]

/-- A file is given new contents, and the others keep theirs. -/
theorem put_mapFiles (h : Proper t) (hfile : t.at? path = some (file data))
    (hsame : ∀ other, other ≠ path → g other = f other) (hnew : g path data = new) :
    (t.mapFiles f).put path (file new) = t.mapFiles g := by
  induction path generalizing t f g with
  | nil =>
    obtain rfl := Option.some.inj hfile
    rw [mapFiles, mapFiles, put, hnew]
  | cons name path ih =>
    obtain ⟨entries, child, rfl, hlookup, hchild⟩ := at?_cons.mp hfile
    have hput : (child.mapFiles fun rest => f (name :: rest)).put path (file new) =
        child.mapFiles fun rest => g (name :: rest) :=
      ih (h.entry hlookup).2 hchild (fun other hother => hsame _ (by simpa using hother)) hnew
    cases h with
    | directory distinct names nodes =>
      rw [mapFiles, mapFiles, put, lookup_mapEntries, hlookup]
      congr 1
      rw [Option.map_some, Option.getD_some, hput]
      exact setEntry_mapEntries distinct hlookup fun other rest hother => hsame _ (by simp [hother])

theorem Proper.mapFiles (h : Proper t) (f : List String → List UInt8 → List UInt8) : Proper (t.mapFiles f) := by
  induction h generalizing f with
  | file data => exact .file _
  | link target => exact .link target
  | directory distinct names nodes ih =>
    rw [Tree.mapFiles, mapEntries_eq_map]
    refine .directory ?_ ?_ ?_
    · rwa [List.map_map]
    · rw [List.forall_mem_map]
      exact names
    · rw [List.forall_mem_map]
      exact fun entry hentry => ih entry hentry _

/-- A file system remains one when a file is given new contents. -/
theorem Proper.put (h : Proper t) (hfile : t.at? path = some (Tree.file data)) (new : List UInt8) :
    Proper (t.put path (Tree.file new)) := by
  have hput := put_mapFiles (g := Function.update (fun _ data => data) path fun _ => new) h hfile
    (fun other hother => Function.update_of_ne hother _ _) (congrFun (Function.update_self _ _ _) data)
  rw [h.mapFiles_same] at hput
  rw [hput]
  exact h.mapFiles _

theorem lookup_setEntry_of_ne {other : String} (hother : other ≠ name) :
    (setEntry name node entries).lookup other = entries.lookup other := by
  have hname : (other == name) = false := beq_eq_false_iff_ne.mpr hother
  induction entries with
  | nil => simp [setEntry, List.lookup_cons, hname]
  | cons entry rest ih =>
    obtain ⟨n, old⟩ := entry
    by_cases hn : n = name
    · simp [setEntry, hn, List.lookup_cons, hname]
    · simp [setEntry, hn, List.lookup_cons, ih]

/-- A file is given new contents in any tree, and nothing else is found changed. -/
theorem fileAt?_put (hfile : t.at? path = some (file data)) (new : List UInt8) (other : List String) :
    (t.put path (file new)).fileAt? other = if other = path then some new else t.fileAt? other := by
  induction path generalizing t other with
  | nil =>
    obtain rfl := Option.some.inj hfile
    cases other <;> rfl
  | cons name path ih =>
    obtain ⟨entries, child, rfl, hlookup, hchild⟩ := at?_cons.mp hfile
    rw [put, hlookup, Option.getD_some]
    cases other with
    | nil => rfl
    | cons first rest =>
      rw [fileAt?_cons, fileAt?_cons]
      by_cases hfirst : first = name
      · obtain rfl := hfirst
        rw [lookup_setEntry, hlookup, Option.bind_some, Option.bind_some, ih hchild]
        simp
      · rw [lookup_setEntry_of_ne hfirst, if_neg (by simp [hfirst])]

end TemplateSwap.Tree
