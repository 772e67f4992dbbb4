import TemplateSwap.Tree.Walk
import TemplateSwap.Proofs.Tree.Contents

namespace TemplateSwap.Tree

variable {t node : Tree} {entries : List (String × Tree)} {root : String} {here place names : List String}
variable {data : List UInt8}

/-- The same stage with new contents. -/
def Stage.mapFiles (f : List String → List UInt8 → List UInt8) : Stage → Stage
  | .arrived path node => .arrived path (node.mapFiles fun rest => f (path ++ rest))
  | .atLink place target rest => .atLink place target rest
  | .lost error => .lost error

/-- Where names lead does not depend on the contents of files. -/
theorem stage_mapFiles (f : List String → List UInt8 → List UInt8) (t : Tree) (here names : List String) :
    (t.mapFiles f).stage here names = (t.stage here names).mapFiles f := by
  fun_induction stage t here names with
  | case1 here node hnode => simp [stage, at?_mapFiles, hnode, Stage.mapFiles]
  | case2 here hnode => simp [stage, at?_mapFiles, hnode, Stage.mapFiles]
  | case3 rest => simp [stage, Stage.mapFiles]
  | case4 here rest hhere ih => simp [stage, hhere, ih]
  | case5 here name rest hname hnode => simp [stage, at?_mapFiles, hnode, Stage.mapFiles]
  | case6 here name rest hname target hnode => simp [stage, at?_mapFiles, hnode, Stage.mapFiles, mapFiles]
  | case7 here name hname data hnode ih =>
    simp only [stage, at?_mapFiles, hnode, Option.map_some, mapFiles, ih, if_true]
  | case8 here name rest hname data hnode hrest => simp [stage, at?_mapFiles, hnode, Stage.mapFiles, mapFiles, hrest]
  | case9 here name rest hname entries hnode ih => simp [stage, at?_mapFiles, hnode, mapFiles, ih]

theorem follow_mapFiles (f : List String → List UInt8 → List UInt8) (t : Tree) (links : Nat)
    (here names : List String) :
    (t.mapFiles f).follow links here names =
      (t.follow links here names).map fun found => (found.1, found.2.mapFiles fun rest => f (found.1 ++ rest)) := by
  induction links generalizing here names with
  | zero =>
    rw [follow, follow, stage_mapFiles]
    cases t.stage here names <;> rfl
  | succ links ih =>
    rw [follow, follow, stage_mapFiles]
    cases t.stage here names with
    | arrived path node => rfl
    | lost error => rfl
    | atLink place target rest =>
      simp only [Stage.mapFiles]
      split_ifs
      · rfl
      · exact ih place _

/-- A path leads to the same file, with its new contents. -/
theorem readFile_mapFiles (f : List String → List UInt8 → List UInt8) (t : Tree) (path : String) :
    (t.mapFiles f).readFile path = (t.readFile path).map fun found => (found.1, f found.1 found.2) := by
  unfold readFile resolve resolveFrom
  split_ifs
  · rfl
  · rw [follow_mapFiles]
    cases t.follow linkLimit [] (Path.parts path) with
    | error error => rfl
    | ok found =>
      obtain ⟨place, node⟩ := found
      cases node with
      | file data => simp [Except.map, mapFiles]
      | link target => rfl
      | directory entries => rfl

theorem at?_of_stage (h : t.stage here names = .arrived place node) : t.at? place = some node := by
  fun_induction stage t here names with
  | case1 here found hfound =>
    cases h
    exact hfound
  | case2 | case3 | case5 | case6 | case8 => cases h
  | case4 here names hhere ih => exact ih h
  | case7 here name hname data hnode ih => exact ih h
  | case9 here name names hname entries hnode ih => exact ih h

theorem at?_of_follow {links : Nat} (h : t.follow links here names = .ok (place, node)) :
    t.at? place = some node := by
  induction links generalizing here names with
  | zero =>
    unfold follow at h
    split at h
    · next hstage =>
      cases h
      exact at?_of_stage hstage
    · cases h
    · cases h
  | succ links ih =>
    unfold follow at h
    split at h
    · next hstage =>
      cases h
      exact at?_of_stage hstage
    · cases h
    · split_ifs at h
      exact ih h

/-- A file that is read is at the place found. -/
theorem at?_of_readFile {path : String} (h : t.readFile path = .ok (place, data)) :
    t.at? place = some (file data) := by
  unfold readFile resolve resolveFrom at h
  split_ifs at h
  cases hfollow : t.follow linkLimit [] (Path.parts path) with
  | error error => simp [hfollow] at h
  | ok found =>
    obtain ⟨reached, node⟩ := found
    rw [hfollow] at h
    cases node with
    | file data =>
      cases h
      exact at?_of_follow hfollow
    | link target => cases h
    | directory entries => cases h

variable {name target : String} {rest : List String}

theorem stage_nil (h : t.at? here = some node) : t.stage here [] = .arrived here node := by
  rw [stage, h]

theorem stage_directory (hname : name ≠ "..") (h : t.at? (here ++ [name]) = some (directory entries)) :
    t.stage here (name :: rest) = t.stage (here ++ [name]) rest := by
  simp [stage, h]

theorem stage_link (hname : name ≠ "..") (h : t.at? (here ++ [name]) = some (link target)) :
    t.stage here (name :: rest) = .atLink here target rest := by
  simp [stage, h]

theorem follow_of_stage (h : t.stage here names = .arrived place node) (links : Nat) :
    t.follow links here names = .ok (place, node) := by
  unfold follow
  rw [h]

theorem follow_of_link (h : t.stage here names = .atLink place target rest) (hrelative : Path.isAbsolute target = false)
    (links : Nat) : t.follow (links + 1) here names = t.follow links place (Path.parts target ++ rest) := by
  rw [follow, h]
  simp [hrelative]

/-- From a directory that names lead to, further names lead on. -/
theorem stage_append (h : t.stage here names = .arrived place (directory entries)) (more : List String) :
    t.stage here (names ++ more) = t.stage place more := by
  fun_induction stage t here names with
  | case1 here node hnode =>
    cases h
    rfl
  | case2 here hnode => cases h
  | case3 rest => cases h
  | case4 here rest hhere ih => simp [stage, hhere, ih h]
  | case5 here name rest hname hnode => cases h
  | case6 here name rest hname target hnode => cases h
  | case7 here name hname data hnode ih =>
    simp only [stage, hnode] at h
    cases h
  | case8 here name rest hname data hnode hrest => cases h
  | case9 here name rest hname entries hnode ih => simp [stage, hnode, ih h]

/-- A link that names lead to is met with further names left to go. -/
theorem stage_append_link (h : t.stage here names = .atLink place target rest)
    (more : List String) : t.stage here (names ++ more) = .atLink place target (rest ++ more) := by
  fun_induction stage t here names with
  | case1 | case2 | case3 | case5 | case8 => cases h
  | case4 here rest hhere ih => simp [stage, hhere, ih h]
  | case6 here name rest hname target hnode =>
    cases h
    simp [stage, hnode]
  | case7 here name hname data hnode ih =>
    simp only [stage, hnode] at h
    cases h
  | case9 here name rest hname entries hnode ih => simp [stage, hnode, ih h]

/-- From a directory that names lead to, further names lead on, with the links that are left. -/
theorem follow_append {links : Nat} (h : t.follow links here names = .ok (place, directory entries)) :
    ∃ left, ∀ more, t.follow links here (names ++ more) = t.follow left place more := by
  induction links generalizing here names with
  | zero =>
    unfold follow at h
    split at h
    · next hstage =>
      cases h
      refine ⟨0, fun more => ?_⟩
      rw [follow, stage_append hstage, follow]
    · cases h
    · cases h
  | succ links ih =>
    unfold follow at h
    split at h
    · next hstage =>
      cases h
      refine ⟨links + 1, fun more => ?_⟩
      rw [follow, stage_append hstage, follow]
    · cases h
    · next hstage =>
      split_ifs at h with habsolute
      obtain ⟨left, hleft⟩ := ih h
      refine ⟨left, fun more => ?_⟩
      rw [follow_of_link (stage_append_link hstage more) (by simpa using habsolute), ← hleft more, List.append_assoc]

/-- A link in a directory is met by its path. -/
theorem stage_link_below {root target : String} (hroot : Path.IsName root) (hname : Path.IsName name)
    (hdirectory : t.at? [root] = some (directory entries)) (hlink : t.at? [root, name] = some (link target)) :
    t.stage [] (Path.parts (Path.below root [name])) = .atLink [root] target [] := by
  have hnode : t.at? ([] ++ [root]) = some (directory entries) := hdirectory
  rw [Path.parts_below (List.forall_mem_singleton.mpr hname), Path.parts_name hroot, List.singleton_append,
    stage_directory hroot.notParent hnode]
  exact stage_link hname.notParent hlink

/-- Names of entries lead down to the file that is there. -/
theorem stage_below (hnames : ∀ name ∈ names, Path.IsName name)
    (hfile : t.at? (place ++ names) = some (file data)) :
    t.stage place names = .arrived (place ++ names) (file data) := by
  induction names generalizing place with
  | nil =>
    rw [List.append_nil] at hfile ⊢
    exact stage_nil hfile
  | cons name rest ih =>
    rw [List.forall_mem_cons] at hnames
    have hshape : place ++ name :: rest = place ++ [name] ++ rest := by simp
    rw [hshape] at hfile ⊢
    have hrest := ih hnames.2 hfile
    rw [at?_append] at hfile
    obtain ⟨node, hnode, hbelow⟩ := Option.bind_eq_some_iff.mp hfile
    cases rest with
    | nil =>
      obtain rfl := Option.some.inj hbelow
      simp [stage, hnode, hnames.1.notParent]
    | cons next rest =>
      obtain ⟨entries, child, rfl, -⟩ := at?_cons.mp hbelow
      rw [← hrest]
      simp [stage, hnode, hnames.1.notParent]

theorem stage_ne_atLink (h : Plain t) (here names rest : List String) (target : String) :
    t.stage here names ≠ .atLink place target rest := by
  fun_induction stage t here names with
  | case1 | case2 | case3 | case5 | case8 => exact Stage.noConfusion
  | case4 here names hhere ih => exact ih
  | case6 here name names hname other hnode => exact absurd hnode (h.at?_ne_link _ other)
  | case7 here name hname data hnode ih => exact ih
  | case9 here name names hname entries hnode ih => exact ih

/-- Without links all names are followed at once. -/
theorem follow_plain (h : Plain t) (links : Nat) :
    t.follow links here names = .ok (place, node) ↔ t.stage here names = .arrived place node := by
  unfold follow
  cases hstage : t.stage here names with
  | arrived path found => simp
  | lost error => simp
  | atLink place target rest => exact absurd hstage (stage_ne_atLink h here names rest target)

theorem resolve_ok {path : String} :
    t.resolve path = .ok (place, node) ↔
      Path.isAbsolute path = false ∧ t.follow linkLimit [] (Path.parts path) = .ok (place, node) := by
  rw [resolve, resolveFrom]
  cases Path.isAbsolute path with
  | true => simp
  | false =>
    cases t.follow linkLimit [] (Path.parts path) with
    | error error => simp
    | ok found => simp

theorem resolve_plain (h : Plain t) {path : String} :
    t.resolve path = .ok (place, node) ↔
      Path.isAbsolute path = false ∧ t.stage [] (Path.parts path) = .arrived place node := by
  rw [← follow_plain h linkLimit, resolve_ok]

/-- A name leads to the entry that has it, unless this is a link. -/
theorem resolve_name (h : Path.IsName name) (hnode : t.at? [name] = some node) (hno : ∀ target, node ≠ link target) :
    t.resolve name = .ok ([name], node) := by
  rw [resolve_ok, Path.parts_name h]
  refine ⟨Path.isAbsolute_name h, follow_of_stage ?_ _⟩
  cases node with
  | file data => exact stage_below (List.forall_mem_singleton.mpr h) hnode
  | link target => exact absurd rfl (hno target)
  | directory entries => exact (stage_directory h.notParent hnode).trans (stage_nil hnode)

theorem readFile_name (h : Path.IsName name) (hfile : t.at? [name] = some (file data)) :
    t.readFile name = .ok ([name], data) := by
  rw [readFile, resolve_name h hfile fun _ => Tree.noConfusion]

/-- A file is found by the path that a walk gives it, whatever links lead to the root. -/
theorem readFile_entry (hnames : ∀ name ∈ names, Path.IsName name)
    (hroot : t.resolve root = .ok (place, directory entries)) (hempty : root ≠ "")
    (hfile : t.at? (place ++ names) = some (file data)) :
    t.readFile (Path.below root names) = .ok (place ++ names, data) := by
  obtain ⟨hrelative, hfollow⟩ := resolve_ok.mp hroot
  obtain ⟨left, hleft⟩ := follow_append hfollow
  have hbelow : t.resolve (Path.below root names) = .ok (place ++ names, file data) := by
    rw [resolve_ok, Path.parts_below hnames, hleft]
    exact ⟨Path.isAbsolute_below hnames hempty hrelative, follow_of_stage (stage_below hnames hfile) left⟩
  rw [readFile, hbelow]

/-- The file below a root, found by the path that the walk gives it. -/
theorem readFile_below (h : Plain t) (hroot : t.resolve root = .ok (place, directory entries))
    (hempty : root ≠ "") (hfile : t.at? (place ++ names) = some (file data)) :
    t.readFile (Path.below root names) = .ok (place ++ names, data) :=
  readFile_entry (fun name hname => (h.at? hfile).1 name (List.mem_append_right _ hname)) hroot hempty hfile

/-- Where a path leads, if there is a file. -/
def destination? (t : Tree) (path : String) : Option (List String) := (t.readFile path).toOption.map (·.1)

theorem destination?_some {path : String} :
    t.destination? path = some place ↔ ∃ data, t.readFile path = .ok (place, data) := by
  rw [destination?]
  cases t.readFile path with
  | error error => simp [Except.toOption]
  | ok found => simp [Except.toOption, Prod.ext_iff, eq_comm]

theorem destination?_of_follow {path : String} (hrelative : Path.isAbsolute path = false)
    (h : t.follow linkLimit [] (Path.parts path) = .ok (place, file data)) : t.destination? path = some place := by
  rw [destination?_some]
  exact ⟨data, by rw [readFile, resolve_ok.mpr ⟨hrelative, h⟩]⟩

/-- It does not matter how the path is spelled. -/
theorem leadsToFile_eq {path other : String} (hparts : Path.parts path = Path.parts other)
    (habsolute : Path.isAbsolute path = Path.isAbsolute other) :
    t.leadsToFile path = (t.destination? other).isSome := by
  rw [leadsToFile, destination?, readFile, resolve, resolve, resolveFrom, resolveFrom, hparts, habsolute]
  cases Path.isAbsolute other with
  | true => rfl
  | false =>
    cases t.follow linkLimit [] (Path.parts other) with
    | error error => rfl
    | ok found =>
      obtain ⟨place, node⟩ := found
      cases node <;> rfl

end TemplateSwap.Tree
