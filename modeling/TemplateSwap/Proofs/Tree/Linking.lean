import TemplateSwap.Proofs.Tree.Walking

namespace TemplateSwap.Tree

mutual

/-- A node as a walk sees it, by the path that the walk comes by. -/
def seen? (leads : String → Bool) (called : String) : Tree → Option Tree
  | file data => some (file data)
  | link _ => if leads called then some (file []) else none
  | directory entries => some (directory (seenEntries leads called entries))

def seenEntries (leads : String → Bool) (called : String) : List (String × Tree) → List (String × Tree)
  | [] => []
  | (name, node) :: rest =>
    match seen? leads (Path.join called name) node with
    | some shown => (name, shown) :: seenEntries leads called rest
    | none => seenEntries leads called rest

end

/-- Names that lead from a root to a file, to itself or to a link, by way of directories that are no links. -/
structure Way (t : Tree) (root : String) (place path names : List String) : Prop where
  entry : (∃ data, t.at? (place ++ names) = some (file data)) ∨
    ∃ target, t.at? (place ++ names) = some (link target)
  leads : t.destination? (Path.below root names) = some path

variable {t node shown : Tree} {entries : List (String × Tree)} {names place path : List String}
variable {name called root : String} {leads denied : String → Bool}

/-- Names that lead to a file are not those of a directory. -/
theorem Way.exists_node (h : t.Way root place path names) :
    ∃ node, t.at? (place ++ names) = some node ∧ ∀ entries, node ≠ directory entries := by
  rcases h.entry with ⟨data, hfile⟩ | ⟨target, hlink⟩
  · exact ⟨_, hfile, nofun⟩
  · exact ⟨_, hlink, nofun⟩

theorem seenEntries_eq_filterMap (leads : String → Bool) (called : String) (entries : List (String × Tree)) :
    seenEntries leads called entries = entries.filterMap fun entry =>
      (seen? leads (Path.join called entry.1) entry.2).map (entry.1, ·) := by
  induction entries with
  | nil => rfl
  | cons entry rest ih =>
    obtain ⟨name, node⟩ := entry
    rw [seenEntries, List.filterMap_cons, ih]
    cases seen? leads (Path.join called name) node <;> rfl

theorem mem_seenEntries {entry : String × Tree} :
    entry ∈ seenEntries leads called entries ↔
      ∃ node, (entry.1, node) ∈ entries ∧ seen? leads (Path.join called entry.1) node = some entry.2 := by
  rw [seenEntries_eq_filterMap, List.mem_filterMap]
  constructor
  · intro h
    obtain ⟨⟨name, node⟩, hmem, hsome⟩ := h
    obtain ⟨shown, hshown, rfl⟩ := Option.map_eq_some_iff.mp hsome
    exact ⟨node, hmem, hshown⟩
  · intro h
    obtain ⟨node, hmem, hshown⟩ := h
    exact ⟨(entry.1, node), hmem, by rw [hshown, Option.map_some]⟩

theorem names_seenEntries (leads : String → Bool) (called : String) (entries : List (String × Tree)) :
    ((seenEntries leads called entries).map (·.1)).Sublist (entries.map (·.1)) := by
  induction entries with
  | nil => exact .slnil
  | cons entry rest ih =>
    obtain ⟨name, node⟩ := entry
    rw [seenEntries]
    cases seen? leads (Path.join called name) node with
    | none => exact ih.cons _
    | some shown => exact ih.cons_cons _

theorem lookup_seenEntries (hdistinct : (entries.map (·.1)).Nodup) :
    (seenEntries leads called entries).lookup name =
      (entries.lookup name).bind (seen? leads (Path.join called name)) := by
  induction entries with
  | nil => rfl
  | cons entry rest ih =>
    obtain ⟨n, node⟩ := entry
    rw [List.map_cons, List.nodup_cons] at hdistinct
    have hrest := ih hdistinct.2
    rw [seenEntries, List.lookup_cons]
    cases hn : name == n with
    | false =>
      cases seen? leads (Path.join called n) node with
      | none => exact hrest
      | some shown =>
        rw [List.lookup_cons, hn]
        exact hrest
    | true =>
      obtain rfl := eq_of_beq hn
      cases hshown : seen? leads (Path.join called name) node with
      | none =>
        -- The name does not come again behind an entry that is not seen.
        have hnone : rest.lookup name = none := by
          cases hlookup : rest.lookup name with
          | none => rfl
          | some other =>
            exact absurd (List.mem_map_of_mem (f := Prod.fst) (Results.mem_of_lookup hlookup)) hdistinct.1
        rw [hnone] at hrest
        simpa [hshown] using hrest
      | some shown => simp [hshown]

theorem Proper.seen (h : Proper node) (hshown : seen? leads called node = some shown) : Plain shown := by
  induction h generalizing called shown with
  | file data =>
    obtain rfl := Option.some.inj hshown
    exact .file data
  | link target =>
    rw [seen?] at hshown
    split_ifs at hshown
    obtain rfl := Option.some.inj hshown
    exact .file []
  | directory distinct names nodes ih =>
    obtain rfl := Option.some.inj hshown
    refine .directory ((names_seenEntries _ _ _).nodup distinct) ?_ ?_
    · intro entry hentry
      obtain ⟨node, hnode, -⟩ := mem_seenEntries.mp hentry
      exact names (entry.1, node) hnode
    · intro entry hentry
      obtain ⟨node, hnode, hshown⟩ := mem_seenEntries.mp hentry
      exact ih (entry.1, node) hnode hshown

/-- What is seen below a node is what is seen of the nodes below it. -/
theorem at?_seen (h : Proper node) :
    (seen? leads called node).bind (·.at? names) =
      (node.at? names).bind (seen? leads (names.foldl Path.join called)) := by
  induction names generalizing node called with
  | nil =>
    cases hshown : seen? leads called node <;> simp [at?, hshown]
  | cons name names ih =>
    cases node with
    | file data => rfl
    | link target =>
      rw [seen?]
      split_ifs <;> rfl
    | directory entries =>
      rw [seen?, Option.bind_some, at?, child?, lookup_seenEntries h.distinct, at?, child?, List.foldl_cons,
        Option.bind_assoc, Option.bind_assoc]
      cases hlookup : entries.lookup name with
      | none => rfl
      | some child => exact ih (h.entry hlookup).2

def isShown (visit : String × Visit) : Bool :=
  match visit.2 with
  | .pass => false
  | _ => true

theorem sorted_filter {α : Type} {items : List (String × α)} (h : (items.map (·.1)).Nodup)
    (p : String × α → Bool) : sorted (items.filter p) = (sorted items).filter p := by
  have hfilter : ((items.filter p).map (·.1)).Nodup := (List.filter_sublist.map _).nodup h
  refine List.Perm.eq_of_pairwise ?_ (pairwise_sorted hfilter) ((pairwise_sorted h).filter p) ?_
  · intro a b _ _ hab hba
    exact absurd hba (String.lt_asymm hab)
  · exact (List.mergeSort_perm _ _).trans ((List.mergeSort_perm items _).symm.filter p)

/-- What is passed over makes no difference. -/
theorem gather_shown {visits : List (String × Visit)} (h : (visits.map (·.1)).Nodup) (names : List String) :
    gather names (visits.filter isShown) = gather names visits := by
  have howned : ∀ visit : String × Visit, (if isShown visit = true then owned names visit else none) =
      owned names visit := by
    intro visit
    obtain ⟨name, visit⟩ := visit
    cases visit <;> rfl
  have hentered : ∀ visit : String × Visit, (if isShown visit = true then entered visit else none) =
      entered visit := by
    intro visit
    obtain ⟨name, visit⟩ := visit
    cases visit <;> rfl
  rw [gather_eq, gather_eq, sorted_filter h, List.filterMap_filter, List.filterMap_filter]
  simp only [howned, hentered]

theorem isShown_plain (h : Plain node) (t : Tree) (denied : String → Bool) (names : List String)
    (called name : String) : isShown (name, walkNode t denied names called node) = true := by
  cases h <;> rfl

/-- A node is visited as it is seen. -/
theorem walkNode_seen (h : Proper node) (t : Tree) (denied : String → Bool) (names : List String)
    (called : String) :
    walkNode t denied names called node =
      ((seen? t.leadsToFile called node).map (walkNode t denied names called)).getD .pass := by
  induction h generalizing names called with
  | file data => rfl
  | link target =>
    rw [walkNode, seen?]
    split_ifs <;> rfl
  | @directory entries distinct hnames nodes ih =>
    have hvisits : ∀ some : List (String × Tree), (∀ entry ∈ some, entry ∈ entries) →
        walkEntries t denied names called (seenEntries t.leadsToFile called some) =
          (walkEntries t denied names called some).filter isShown := by
      intro some hsome
      induction some with
      | nil => rfl
      | cons entry rest ihrest =>
        obtain ⟨name, node⟩ := entry
        rw [List.forall_mem_cons] at hsome
        have hnode := ih (name, node) hsome.1 (names ++ [name]) (Path.join called name)
        rw [seenEntries, walkEntries, List.filter_cons, hnode, ← ihrest hsome.2]
        cases hshown : seen? t.leadsToFile (Path.join called name) node with
        | none => rfl
        | some shown =>
          have hplain := (nodes _ hsome.1).seen hshown
          rw [Option.map_some, Option.getD_some, isShown_plain hplain, if_pos rfl, walkEntries]
    have hdistinct : ((walkEntries t denied names called entries).map (·.1)).Nodup := by
      simpa [walkEntries_eq_map, Function.comp_def] using distinct
    rw [seen?, Option.map_some, Option.getD_some, walkNode, walkNode, hvisits entries fun _ => id,
      gather_shown hdistinct]

/-- A walk below a root goes through what is seen from there. -/
theorem walk_seen (h : Proper t) (hroot : t.resolve root = .ok (place, directory entries)) :
    ∃ steps, (directory (seenEntries t.leadsToFile root entries)).Covers [] steps ∧
      ∀ env, t.walk env root = cut env.listing.contains [] root steps := by
  have hplace : t.at? place = some (directory entries) := at?_of_follow (resolve_ok.mp hroot).2
  have hproper := (h.at? hplace).2
  have hshown : seen? t.leadsToFile root (directory entries) =
      some (directory (seenEntries t.leadsToFile root entries)) := rfl
  obtain ⟨steps, hcovers, hshows⟩ := exists_steps (hproper.seen hshown)
  refine ⟨steps, hcovers, fun env => ?_⟩
  have hwalk := hshows t env.listing.contains [] root
  unfold walk
  rw [hroot]
  dsimp only
  rw [walkNode_seen hproper, hshown, Option.map_some, Option.getD_some]
  generalize walkNode t _ [] root _ = visit at hwalk ⊢
  cases hwalk with
  | enter => rfl

/-- What is seen from a root is what is seen of the nodes below its place. -/
theorem at?_seenEntries (h : Proper t) (hroot : t.resolve root = .ok (place, directory entries)) :
    (directory (seenEntries t.leadsToFile root entries)).at? names =
      (t.at? (place ++ names)).bind (seen? t.leadsToFile (names.foldl Path.join root)) := by
  have hplace : t.at? place = some (directory entries) := at?_of_follow (resolve_ok.mp hroot).2
  rw [at?_append, hplace, Option.bind_some, ← at?_seen (h.at? hplace).2, seen?, Option.bind_some]

/-- A walk that is complete had a root that is a directory. -/
theorem exists_root {env : Environment} (h : (t.walk env root).failure = none) :
    ∃ place entries, t.resolve root = .ok (place, directory entries) := by
  unfold walk at h
  split at h
  · next place entries hroot => exact ⟨place, entries, hroot⟩
  · cases h

theorem mem_cut {steps : List Step} (h : names ∈ (cut denied [] called steps).files) : .take names ∈ steps := by
  induction steps with
  | nil => cases h
  | cons step steps ih =>
    cases step with
    | enter below =>
      rw [cut] at h
      split_ifs at h
      · cases h
      · exact List.mem_cons_of_mem _ (ih h)
    | take below =>
      rcases List.mem_cons.mp h with rfl | h
      · exact List.mem_cons_self
      · exact List.mem_cons_of_mem _ (ih h)

section Root

variable (h : Proper t) (hroot : t.resolve root = .ok (place, directory entries)) (hempty : root ≠ "")

include h hroot hempty

/-- A file below the root is where its names say. -/
theorem destination?_file {data : List UInt8} (hfile : t.at? (place ++ names) = some (file data)) :
    t.destination? (Path.below root names) = some (place ++ names) := by
  rw [destination?_some]
  refine ⟨data, readFile_entry ?_ hroot hempty hfile⟩
  exact fun name hname => (h.at? hfile).1 name (List.mem_append_right _ hname)

/-- What names lead to is the file that they name, or what a link leads to. -/
theorem Way.file_or_link (hway : t.Way root place path names) :
    path = place ++ names ∨ ∃ target, t.at? (place ++ names) = some (link target) := by
  rcases hway.entry with ⟨data, hfile⟩ | hlink
  · left
    have hfound := destination?_file h hroot hempty hfile
    exact Option.some.inj (hway.leads.symm.trans hfound)
  · exact .inr hlink

/-- A walk takes what leads to a file. -/
theorem seen_file :
    (∃ data, (directory (seenEntries t.leadsToFile root entries)).at? names = some (file data)) ↔
      ∃ path, t.Way root place path names := by
  have hrelative := (resolve_ok.mp hroot).1
  rw [at?_seenEntries h hroot]
  cases hnode : t.at? (place ++ names) with
  | none =>
    refine iff_of_false nofun fun hway => ?_
    obtain ⟨path, hway⟩ := hway
    obtain ⟨node, hsome, -⟩ := hway.exists_node
    cases hnode.symm.trans hsome
  | some node =>
    have hnames : ∀ name ∈ names, Path.IsName name :=
      fun name hname => (h.at? hnode).1 name (List.mem_append_right _ hname)
    cases node with
    | file data => exact iff_of_true ⟨data, rfl⟩ ⟨_, .inl ⟨data, hnode⟩, destination?_file h hroot hempty hnode⟩
    | directory entries =>
      refine iff_of_false nofun fun hway => ?_
      obtain ⟨path, hway⟩ := hway
      obtain ⟨node, hsome, hno⟩ := hway.exists_node
      exact hno entries (Option.some.inj (hsome.symm.trans hnode))
    | link target =>
      have hleads : t.leadsToFile (names.foldl Path.join root) = (t.destination? (Path.below root names)).isSome := by
        refine leadsToFile_eq ?_ ?_
        · rw [Path.parts_joined hnames, Path.parts_below hnames]
        · rw [Path.isAbsolute_joined hempty, Path.isAbsolute_below hnames hempty hrelative, hrelative]
      rw [Option.bind_some, seen?, hleads]
      cases hfound : t.destination? (Path.below root names) with
      | none =>
        refine iff_of_false nofun fun hway => ?_
        obtain ⟨path, hway⟩ := hway
        cases hfound.symm.trans hway.leads
      | some path => exact iff_of_true ⟨[], rfl⟩ ⟨path, .inr ⟨target, hnode⟩, hfound⟩

/-- Whichever directories cannot be listed, a walk finds only what leads to a file. -/
theorem way_of_mem_walk {env : Environment} (hmem : names ∈ (t.walk env root).files) :
    ∃ path, t.Way root place path names := by
  obtain ⟨steps, hcovers, hwalk⟩ := walk_seen h hroot
  rw [hwalk] at hmem
  exact (seen_file h hroot hempty).mp ((hcovers.mem _).mp (mem_cut hmem))

/-- What a walk finds has at least one name below the root. -/
theorem names_of_mem_walk {env : Environment} (hmem : names ∈ (t.walk env root).files) :
    names ≠ [] ∧ ∀ name ∈ names, Path.IsName name := by
  obtain ⟨path, hway⟩ := way_of_mem_walk h hroot hempty hmem
  obtain ⟨node, hnode, hno⟩ := hway.exists_node
  constructor
  · rintro rfl
    rw [List.append_nil, at?_of_follow (resolve_ok.mp hroot).2] at hnode
    exact hno entries (Option.some.inj hnode).symm
  · exact fun name hname => (h.at? hnode).1 name (List.mem_append_right _ hname)

/-- The steps of a walk take what leads to a file. -/
theorem mem_taken_seen {steps : List Step}
    (hcovers : (directory (seenEntries t.leadsToFile root entries)).Covers [] steps) :
    names ∈ steps.filterMap Step.taken? ↔ ∃ path, t.Way root place path names := by
  rw [← taken_all, mem_taken, hcovers.mem, ← seen_file h hroot hempty]
  simp [Step.Meets]

/-- If all directories can be listed, a walk finds all that leads to a file, once. -/
theorem walk_ways :
    (t.walk {} root).failure = none ∧ (t.walk {} root).files.Nodup ∧
      ∀ names, names ∈ (t.walk {} root).files ↔ ∃ path, t.Way root place path names := by
  obtain ⟨steps, hcovers, hwalk⟩ := walk_seen h hroot
  have hselects := hcovers.selects fun _ => true
  rw [taken_all] at hselects
  have hfiles : (t.walk {} root).files = steps.filterMap Step.taken? := by
    rw [hwalk, cut_complete fun _ _ => rfl]
    simp
  refine ⟨?_, ?_, fun names => ?_⟩
  · rw [hwalk, cut_complete fun _ _ => rfl]
  · rw [hfiles]
    exact hselects.nodup
  · rw [hfiles]
    exact mem_taken_seen h hroot hempty hcovers

end Root

end TemplateSwap.Tree
