import TemplateSwap.Proofs.Running.Aborting
import TemplateSwap.Proofs.Tree.Linking
import Mathlib.Data.Set.Card

namespace TemplateSwap

open TemplateSwap.Text (Encoding)

namespace Tree

/-- Accepted names below a root that lead to a file. -/
def ways (t : Tree) (root : String) (place : List String) (accepts : String → Bool) (path : List String) :
    Set (List String) :=
  {names | t.Way root place path names ∧ accepts (Path.text names) = true}

/-- New contents for files at some places, once for each time that a place is listed. -/
def repeated (write : List UInt8 → List UInt8) (places : List (List String)) (path : List String)
    (data : List UInt8) : List UInt8 :=
  write^[places.count path] data

variable {t : Tree} {root : String} {place path other : List String} {entries : List (String × Tree)}

/-- A walk comes to a file once by each of its ways. -/
theorem ways_walk (h : t.Proper) (hroot : t.resolve root = .ok (place, directory entries)) (hempty : root ≠ "")
    (accepts : String → Bool) (path : List String) :
    (t.ways root place accepts path).Finite ∧
      ((t.walk {} root).files.filter fun names => accepts (Path.text names)).countP
          (fun names => t.destination? (Path.below root names) == some path) =
        (t.ways root place accepts path).ncard := by
  obtain ⟨-, hnodup, hmem⟩ := walk_ways h hroot hempty
  rw [List.countP_eq_length_filter]
  generalize hfiles : ((t.walk {} root).files.filter fun names => accepts (Path.text names)).filter
    (fun names => t.destination? (Path.below root names) == some path) = files
  have hways : t.ways root place accepts path = ↑files.toFinset := by
    ext names
    rw [← hfiles, List.coe_toFinset]
    simp only [ways, Set.mem_ofPred_eq, List.mem_filter, hmem, beq_iff_eq]
    constructor
    · intro hnames
      exact ⟨⟨⟨path, hnames.1⟩, hnames.2⟩, hnames.1.leads⟩
    · intro hnames
      obtain ⟨⟨⟨other, hway⟩, haccepted⟩, hleads⟩ := hnames
      exact ⟨⟨hway.entry, hleads⟩, haccepted⟩
  have hdistinct : files.Nodup := by
    rw [← hfiles]
    exact (hnodup.filter _).filter _
  rw [hways, Set.ncard_coe_finset, List.toFinset_card_of_nodup hdistinct]
  exact ⟨Finset.finite_toSet _, rfl⟩

/-- The places that paths lead to, if each of them leads to one. -/
theorem leads_destinations {files : List (List String)}
    (h : ∀ names ∈ files, ∃ path, t.destination? (Path.below root names) = some path) :
    List.Forall₂ (fun path place => t.destination? path = some place) (files.map (Path.below root))
      (files.filterMap fun names => t.destination? (Path.below root names)) := by
  induction files with
  | nil => exact .nil
  | cons names files ih =>
    rw [List.forall_mem_cons] at h
    obtain ⟨⟨path, hpath⟩, hrest⟩ := h
    rw [List.map_cons, List.filterMap_cons, hpath]
    exact .cons hpath (ih hrest)

theorem repeated_nil (write : List UInt8 → List UInt8) : repeated write [] = fun _ data => data := by
  funext path data
  simp [repeated]

/-- A place that is listed once more. -/
theorem repeated_self (write : List UInt8 → List UInt8) (places : List (List String)) (place : List String)
    (data : List UInt8) :
    repeated write (places ++ [place]) place data = write (repeated write places place data) := by
  rw [repeated, List.count_append, List.count_singleton_self, Function.iterate_succ_apply', repeated]

theorem repeated_of_ne (write : List UInt8 → List UInt8) (places : List (List String)) (h : other ≠ place) :
    repeated write (places ++ [place]) other = repeated write places other := by
  funext data
  rw [repeated, List.count_append, List.count_singleton, beq_eq_false_iff_ne.mpr h.symm]
  rfl

end Tree

namespace Application

variable {r : Replacer} {s : Spec} {t : Tree} {encoding root : String} {accepts : String → Bool}
variable {place : List String} {entries : List (String × Tree)} {write : List UInt8 → List UInt8}

/-- Files are rewritten once more for each path that leads to them. -/
theorem rewriteFiles_repeated (ht : t.Proper) (he : Encoding.ofName? encoding = some .utf8) (hw : Writes r write)
    {paths : List String} {places : List (List String)}
    (hleads : List.Forall₂ (fun path place => t.destination? path = some place) paths places)
    (done : List (List String)) (v : Visit) :
    (rewriteFiles r encoding {} v (t.mapFiles (Tree.repeated write done)) paths).tree =
        t.mapFiles (Tree.repeated write (done ++ places)) ∧
      ∃ visit, (rewriteFiles r encoding {} v (t.mapFiles (Tree.repeated write done)) paths).result =
        .ok visit := by
  induction hleads generalizing done v with
  | nil => exact ⟨by rw [rewriteFiles, List.append_nil], v, rfl⟩
  | @cons path place paths places hfirst _ ih =>
    obtain ⟨data, hread⟩ := Tree.destination?_some.mp hfirst
    obtain ⟨htree, count, hresult, -⟩ := rewriteFile_mapFiles ht he hw hread
      (fun _ => Tree.repeated_of_ne write done) (Tree.repeated_self write done place data)
    have hrest := ih (done ++ [place]) (v.record path count.isSome)
    rw [List.append_assoc] at hrest
    simp only [rewriteFiles, hresult, htree]
    exact hrest

/-- An application that nothing is in the way of rewrites a file once for each way to it. -/
theorem run_ways (hr : s.replacer = .ok r) (ht : t.Proper) (he : Encoding.ofName? encoding = some .utf8)
    (hw : Writes r write) (hroot : t.resolve (Path.normal root) = .ok (place, .directory entries))
    (accepts : String → Bool) :
    (∃ visit, (run s root accepts encoding {} t).result = .ok visit) ∧
      ∀ path, (run s root accepts encoding {} t).tree.fileAt? path =
        (t.fileAt? path).map write^[(t.ways (Path.normal root) place accepts path).ncard] := by
  have hempty := Path.normal_ne_empty root
  obtain ⟨hcomplete, -, hmem⟩ := Tree.walk_ways ht hroot hempty
  have hcount := fun path => (Tree.ways_walk ht hroot hempty accepts path).2
  generalize hfiles : (t.walk {} (Path.normal root)).files.filter (fun names => accepts (Path.text names)) =
    files at hcount
  have hfound : ∀ names ∈ files, ∃ path, t.destination? (Path.below (Path.normal root) names) = some path := by
    intro names hnames
    rw [← hfiles] at hnames
    obtain ⟨path, hway⟩ := (hmem names).mp (List.mem_of_mem_filter hnames)
    exact ⟨path, hway.leads⟩
  obtain ⟨htree, visit, hvisit⟩ := rewriteFiles_repeated ht he hw (Tree.leads_destinations hfound) [] {}
  rw [Tree.repeated_nil, ht.mapFiles_same, List.nil_append] at htree
  rw [Tree.repeated_nil, ht.mapFiles_same] at hvisit
  obtain ⟨hrun, hresult⟩ := run_complete hr hfiles hcomplete hvisit
  refine ⟨⟨_, hresult⟩, fun path => ?_⟩
  rw [hrun, htree, Tree.fileAt?_mapFiles, ← hcount, ← List.count_filterMap]
  rfl

/-- A file is rewritten once for each accepted path below the root that leads to it, links included. So each file
is rewritten at most once if no two accepted paths lead to the same one. -/
theorem run_repeats (root : String) (accepts : String → Bool) (hr : s.replacer = .ok r) (ht : t.Proper)
    (he : Encoding.ofName? encoding = some .utf8) :
    ∃ write, Writes r write ∧
      (t.isDirectory (Path.normal root) = false → (run s root accepts encoding {} t).tree = t) ∧
      ∀ place entries, t.resolve (Path.normal root) = .ok (place, .directory entries) →
        (∃ visit, (run s root accepts encoding {} t).result = .ok visit) ∧
        ∀ path, (t.ways (Path.normal root) place accepts path).Finite ∧
          (run s root accepts encoding {} t).tree.fileAt? path =
            (t.fileAt? path).map write^[(t.ways (Path.normal root) place accepts path).ncard] ∧
          ((t.ways (Path.normal root) place accepts path).Subsingleton →
            (run s root accepts encoding {} t).tree.fileAt? path = t.fileAt? path ∨
            (run s root accepts encoding {} t).tree.fileAt? path = (t.fileAt? path).map write) := by
  obtain ⟨write, hw⟩ := exists_writes r
  refine ⟨write, hw, fun hno => by rw [run_nowhere accepts encoding {} hr hno], ?_⟩
  intro place entries hroot
  obtain ⟨hresult, hlaw⟩ := run_ways hr ht he hw hroot accepts
  refine ⟨hresult, fun path => ?_⟩
  have hfinite := (Tree.ways_walk ht hroot (Path.normal_ne_empty root) accepts path).1
  refine ⟨hfinite, hlaw path, fun hsingle => ?_⟩
  rw [hlaw]
  rcases hsingle.eq_empty_or_singleton with hnone | ⟨names, hone⟩
  · left
    rw [hnone, Set.ncard_empty, Function.iterate_zero, Option.map_id, id]
  · right
    rw [hone, Set.ncard_singleton, Function.iterate_one]

def linkedEntries : List (String × Tree) := [("a", .file [0x78]), ("b", .link "a"), ("c", .link "../out")]

def linked : Tree := .directory [("out", .file [0x78]), ("w", .directory linkedEntries)]

theorem linked_proper : linked.Proper := by
  have hw : (Tree.directory linkedEntries).Proper :=
    .directory (by decide) (by decide) (by simpa [linkedEntries] using ⟨.file _, .link _, .link _⟩)
  exact .directory (by decide) (by decide) (by simpa using ⟨.file _, hw⟩)

theorem linked_resolve : linked.resolve (Path.normal "w") = .ok (["w"], .directory linkedEntries) := by
  rw [Path.normal_name (by decide)]
  exact Tree.resolve_name (by decide) rfl fun _ => Tree.noConfusion

theorem linked_file : linked.destination? (Path.below (Path.normal "w") ["a"]) = some ["w", "a"] := by
  have hfile : linked.at? (["w"] ++ ["a"]) = some (.file [0x78]) := rfl
  exact Tree.destination?_file linked_proper linked_resolve (Path.normal_ne_empty "w") hfile

theorem linked_link {name target : String} (h : Path.IsName name)
    (hlink : linked.at? ["w", name] = some (.link target)) :
    linked.stage [] (Path.parts (Path.below (Path.normal "w") [name])) = .atLink ["w"] target [] := by
  rw [Path.normal_name (by decide)]
  exact Tree.stage_link_below (by decide) h rfl hlink

theorem linked_relative {name : String} (h : Path.IsName name) :
    Path.isAbsolute (Path.below (Path.normal "w") [name]) = false := by
  rw [Path.normal_name (by decide)]
  exact Path.isAbsolute_below (List.forall_mem_singleton.mpr h) (by decide) (Path.isAbsolute_name (by decide))

theorem linked_inside : linked.destination? (Path.below (Path.normal "w") ["b"]) = some ["w", "a"] := by
  have htarget : Path.parts "a" = ["a"] := Path.parts_name (by decide)
  have hfile : linked.stage ["w"] ["a"] = .arrived ["w", "a"] (.file [0x78]) := Tree.stage_below (by decide) rfl
  have hlink : linked.stage [] (Path.parts (Path.below (Path.normal "w") ["b"])) = .atLink ["w"] "a" [] :=
    linked_link (by decide) rfl
  have hfollow := Tree.follow_of_link hlink (Path.isAbsolute_name (by decide)) 39
  rw [htarget, List.append_nil, Tree.follow_of_stage hfile] at hfollow
  exact Tree.destination?_of_follow (linked_relative (by decide)) hfollow

theorem linked_outside : linked.destination? (Path.below (Path.normal "w") ["c"]) = some ["out"] := by
  have htarget : Path.parts "../out" = ["..", "out"] := by decide
  have hrelative : Path.isAbsolute "../out" = false := by
    rw [← Bool.not_eq_true, Path.isAbsolute_iff]
    decide
  have hout : linked.at? ([] ++ ["out"]) = some (.file [0x78]) := rfl
  have hfile : linked.stage ["w"] ["..", "out"] = .arrived ["out"] (.file [0x78]) := by
    rw [Tree.stage, if_neg (by decide)]
    exact Tree.stage_below (by decide) hout
  have hlink : linked.stage [] (Path.parts (Path.below (Path.normal "w") ["c"])) = .atLink ["w"] "../out" [] :=
    linked_link (by decide) rfl
  have hfollow := Tree.follow_of_link hlink hrelative 39
  rw [htarget, List.append_nil, Tree.follow_of_stage hfile] at hfollow
  exact Tree.destination?_of_follow (linked_relative (by decide)) hfollow

/-- The ways to the files of this tree. -/
theorem linked_way {path names : List String} (h : linked.Way (Path.normal "w") ["w"] path names) :
    names = ["a"] ∧ path = ["w", "a"] ∨ names = ["b"] ∧ path = ["w", "a"] ∨ names = ["c"] ∧ path = ["out"] := by
  obtain ⟨node, hnode, hno⟩ := h.exists_node
  cases names with
  | nil => exact absurd (Option.some.inj hnode).symm (hno _)
  | cons name rest =>
    have hbelow : (Tree.directory linkedEntries).at? (name :: rest) = some node := hnode
    obtain ⟨all, child, hall, hlookup, hchild⟩ := Tree.at?_cons.mp hbelow
    cases hall
    have hentry : (name, child) = ("a", .file [0x78]) ∨ (name, child) = ("b", .link "a") ∨
        (name, child) = ("c", .link "../out") := by simpa [linkedEntries] using Results.mem_of_lookup hlookup
    have hrest : rest = [] := by
      cases rest with
      | nil => rfl
      | cons next more => rcases hentry with heq | heq | heq <;> cases heq <;> cases hchild
    obtain rfl := hrest
    rcases hentry with heq | heq | heq <;> cases heq
    · exact .inl ⟨rfl, Option.some.inj (h.leads.symm.trans linked_file)⟩
    · exact .inr (.inl ⟨rfl, Option.some.inj (h.leads.symm.trans linked_inside)⟩)
    · exact .inr (.inr ⟨rfl, Option.some.inj (h.leads.symm.trans linked_outside)⟩)

theorem linked_ways_inside :
    linked.ways (Path.normal "w") ["w"] (fun _ => true) ["w", "a"] = {["a"], ["b"]} := by
  ext names
  constructor
  · intro hnames
    rcases linked_way hnames.1 with ⟨rfl, -⟩ | ⟨rfl, -⟩ | ⟨-, hout⟩
    · exact .inl rfl
    · exact .inr rfl
    · exact absurd hout (by decide)
  · intro hnames
    rcases hnames with rfl | rfl
    · exact ⟨⟨.inl ⟨_, rfl⟩, linked_file⟩, rfl⟩
    · exact ⟨⟨.inr ⟨_, rfl⟩, linked_inside⟩, rfl⟩

theorem linked_ways_outside :
    linked.ways (Path.normal "w") ["w"] (fun _ => true) ["out"] = {["c"]} := by
  ext names
  constructor
  · intro hnames
    rcases linked_way hnames.1 with ⟨-, hin⟩ | ⟨-, hin⟩ | ⟨rfl, -⟩
    · exact absurd hin (by decide)
    · exact absurd hin (by decide)
    · rfl
  · intro hnames
    obtain rfl := hnames
    exact ⟨⟨.inr ⟨_, rfl⟩, linked_outside⟩, rfl⟩

/-- Each letter of a file becomes two. -/
theorem exists_doubling :
    ∃ s r, Spec.create { before := "x", after := "xx" } = .ok s ∧ s.replacer = .ok r ∧
      ∀ write, Writes r write →
        write [0x78] = [0x78, 0x78] ∧ write [0x78, 0x78] = [0x78, 0x78, 0x78, 0x78] := by
  have hcreated : ∃ s, Spec.create { before := "x", after := "xx" } = .ok s ∧
      s.replacer.toOption.any (fun r =>
        decide (Encoding.utf8.encode (r.replace (Encoding.utf8.decode [0x78])) = .ok [0x78, 0x78]) &&
          decide (Encoding.utf8.encode (r.replace (Encoding.utf8.decode [0x78, 0x78])) =
            .ok [0x78, 0x78, 0x78, 0x78])) = true :=
    Results.exists_ok (by decide +kernel)
  obtain ⟨s, hs, hreplacer⟩ := hcreated
  obtain ⟨r, hr, hchecked⟩ := Results.exists_ok hreplacer
  obtain ⟨hone, htwo⟩ := Bool.and_eq_true_iff.mp hchecked
  refine ⟨s, r, hs, hr, fun write hwrite => ⟨?_, ?_⟩⟩
  · exact Except.ok.inj ((hwrite _).symm.trans (of_decide_eq_true hone))
  · exact Except.ok.inj ((hwrite _).symm.trans (of_decide_eq_true htwo))

/-- The file with two ways to it is rewritten twice, and the one with one way once. -/
theorem run_repeats_linked :
    ∃ s r, Spec.create { before := "x", after := "xx" } = .ok s ∧ s.replacer = .ok r ∧
      (run s "w" (fun _ => true) "utf-8" {} linked).tree.fileAt? ["w", "a"] = some [0x78, 0x78, 0x78, 0x78] ∧
      (linked.ways (Path.normal "w") ["w"] (fun _ => true) ["out"]).Subsingleton ∧
      (run s "w" (fun _ => true) "utf-8" {} linked).tree.fileAt? ["out"] = some [0x78, 0x78] := by
  obtain ⟨s, r, hs, hr, hdoubles⟩ := exists_doubling
  obtain ⟨write, hwrite, -, hlaw⟩ := run_repeats "w" (fun _ => true) hr linked_proper Encoding.ofName?_utf8
  obtain ⟨-, hfiles⟩ := hlaw _ _ linked_resolve
  obtain ⟨hone, htwo⟩ := hdoubles write hwrite
  have hinside := (hfiles ["w", "a"]).2.1
  have houtside := (hfiles ["out"]).2.1
  rw [linked_ways_inside, Set.ncard_pair (by decide)] at hinside
  rw [linked_ways_outside, Set.ncard_singleton] at houtside
  refine ⟨s, r, hs, hr, ?_, ?_, ?_⟩
  · rw [hinside]
    exact congrArg some ((congrArg write hone).trans htwo)
  · rw [linked_ways_outside]
    exact Set.subsingleton_singleton
  · rw [houtside]
    exact congrArg some hone

/-- Not every file is rewritten at most once. -/
theorem run_not_once :
    ¬∀ s r root accepts t write, s.replacer = .ok r → Tree.Proper t → Writes r write → ∀ path,
      (run s root accepts "utf-8" {} t).tree.fileAt? path = t.fileAt? path ∨
      (run s root accepts "utf-8" {} t).tree.fileAt? path = (t.fileAt? path).map write := by
  intro honce
  obtain ⟨s, r, -, hr, hdoubles⟩ := exists_doubling
  obtain ⟨write, hwrite⟩ := exists_writes r
  obtain ⟨hone, htwo⟩ := hdoubles write hwrite
  have hfile : linked.fileAt? ["w", "a"] = some [0x78] := rfl
  have hlaw := (run_ways hr linked_proper Encoding.ofName?_utf8 hwrite linked_resolve fun _ => true).2 ["w", "a"]
  have hrun := honce s r "w" (fun _ => true) linked write hr linked_proper hwrite ["w", "a"]
  rw [linked_ways_inside, Set.ncard_pair (by decide), hfile, Option.map_some, Function.iterate_succ_apply,
    Function.iterate_one, hone, htwo] at hlaw
  rw [hlaw, hfile, Option.map_some, hone] at hrun
  revert hrun
  decide

end Application

end TemplateSwap
