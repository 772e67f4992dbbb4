import TemplateSwap.Proofs.Tree.Linking
import Mathlib.Data.List.Nodup
import Mathlib.Tactic.SplitIfs

namespace TemplateSwap

namespace Walk

variable {accepts : String → Bool}

/-- An application asks without taking notes. -/
theorem ask_pure (files : List (List String)) :
    ask (m := Id) accepts files = files.filter fun names => accepts (Path.text names) := by
  induction files with
  | nil => rfl
  | cons names files ih =>
    rw [ask, ih, List.filter_cons]
    rfl

/-- The predicate is asked about each file, in order and once. -/
theorem ask_noting (files : List (List String)) (log : List String) :
    (ask (noting accepts) files).run log =
      (files.filter fun names => accepts (Path.text names), log ++ files.map Path.text) := by
  induction files generalizing log with
  | nil => exact congrArg (Prod.mk []) (List.append_nil log).symm
  | cons names files ih =>
    have hfirst : (ask (noting accepts) (names :: files)).run log =
        ((ask (noting accepts) files).run (log ++ [Path.text names])).map
          (fun others => if accepts (Path.text names) then names :: others else others) id := rfl
    rw [hfirst, ih, List.filter_cons, List.map_cons, List.append_assoc]
    rfl

end Walk

namespace Tree

/-- How a walk goes through what leads to files: to the end, or up to the first directory that cannot be listed. -/
inductive Through (t : Tree) (denied : String → Bool) (root : String) (place : List String)
    (ways : List (List String)) : Walk → Prop
  | all (listed : ∀ below, (Step.enter below).Meets t place → denied (below.foldl Path.join root) = false) :
      Through t denied root place ways ⟨ways, none⟩
  | upTo {files later : List (List String)} {below : List String} (parts : ways = files ++ later)
      (directory : (Step.enter below).Meets t place) (refused : denied (below.foldl Path.join root) = true)
      (first : ∀ other, (Step.enter other).Meets t place → denied (other.foldl Path.join root) = true →
        other = below ∨ (Step.enter below).Before (.enter other))
      (before : ∀ names ∈ files, (Step.take names).Before (.enter below))
      (behind : ∀ names ∈ later, (Step.enter below).Before (.take names)) :
      Through t denied root place ways ⟨files, some (.listingDenied (below.foldl Path.join root))⟩

variable {t : Tree} {entries : List (String × Tree)} {names place : List String} {root : String}
variable {denied : String → Bool} {steps : List Step}

def Step.refused (denied : String → Bool) (root : String) : Step → Bool
  | enter below => denied (below.foldl Path.join root)
  | take _ => false

/-- All steps are done, or those in front of the first directory that cannot be listed. -/
theorem cut_cases (denied : String → Bool) (root : String) (steps : List Step) :
    ((∀ below, .enter below ∈ steps → denied (below.foldl Path.join root) = false) ∧
      cut denied [] root steps = ⟨steps.filterMap Step.taken?, none⟩) ∨
    ∃ done below later, steps = done ++ .enter below :: later ∧
      (∀ other, .enter other ∈ done → denied (other.foldl Path.join root) = false) ∧
      denied (below.foldl Path.join root) = true ∧
      cut denied [] root steps =
        ⟨done.filterMap Step.taken?, some (.listingDenied (below.foldl Path.join root))⟩ := by
  have hcomplete {steps : List Step}
      (h : ∀ below, .enter below ∈ steps → denied (below.foldl Path.join root) = false) :
      cut denied [] root steps = ⟨steps.filterMap Step.taken?, none⟩ := by
    rw [cut_complete h]
    simp
  cases hfind : steps.find? (Step.refused denied root) with
  | none =>
    left
    rw [List.find?_eq_none] at hfind
    have hlisted : ∀ below, .enter below ∈ steps → denied (below.foldl Path.join root) = false :=
      fun below hbelow => Bool.eq_false_iff.mpr (hfind _ hbelow)
    exact ⟨hlisted, hcomplete hlisted⟩
  | some step =>
    right
    obtain ⟨hrefused, done, later, rfl, hdone⟩ := List.find?_eq_some_iff_append.mp hfind
    cases step with
    | take names => cases hrefused
    | enter below =>
      have hrefused : denied (below.foldl Path.join root) = true := hrefused
      have hlisted : ∀ other, .enter other ∈ done → denied (other.foldl Path.join root) = false :=
        fun other hother => by simpa [Step.refused] using hdone _ hother
      refine ⟨done, below, later, rfl, hlisted, hrefused, ?_⟩
      rw [cut_append, hcomplete hlisted, cut, if_pos hrefused, Walk.append, List.append_nil]

/-- A walk that goes by all steps there are, in their order. -/
theorem through_cut (henter : ∀ below, .enter below ∈ steps ↔ (Step.enter below).Meets t place)
    (horder : steps.Pairwise Step.Before) :
    t.Through denied root place (steps.filterMap Step.taken?) (cut denied [] root steps) := by
  have htaken {some : List Step} {names : List String} (h : names ∈ some.filterMap Step.taken?) :
      .take names ∈ some := by
    obtain ⟨step, hstep, hnames⟩ := List.mem_filterMap.mp h
    cases step with
    | enter below => cases hnames
    | take other =>
      obtain rfl := Option.some.inj hnames
      exact hstep
  rcases cut_cases denied root steps with ⟨hlisted, hcut⟩ | ⟨done, below, later, rfl, hlisted, hrefused, hcut⟩
  · rw [hcut]
    exact .all fun below hbelow => hlisted below ((henter below).mpr hbelow)
  · rw [hcut]
    obtain ⟨-, hrest, hbefore⟩ := List.pairwise_append.mp horder
    obtain ⟨hbehind, -⟩ := List.pairwise_cons.mp hrest
    have hparts : (done ++ .enter below :: later).filterMap Step.taken? =
        done.filterMap Step.taken? ++ later.filterMap Step.taken? := by
      rw [List.filterMap_append, List.filterMap_cons]
      rfl
    refine .upTo hparts ?_ hrefused ?_ ?_ ?_
    · exact (henter below).mp (List.mem_append_right done List.mem_cons_self)
    · intro other hother hrefused'
      rcases List.mem_append.mp ((henter other).mpr hother) with hmem | hmem
      · exact absurd hrefused' (by rw [hlisted other hmem]; decide)
      · rcases List.mem_cons.mp hmem with heq | hmem
        · exact .inl (Step.enter.inj heq)
        · exact .inr (hbehind _ hmem)
    · exact fun names hnames => hbefore _ (htaken hnames) _ List.mem_cons_self
    · exact fun names hnames => hbehind _ (htaken hnames)

section Root

variable (h : Proper t) (hroot : t.resolve root = .ok (place, directory entries))

include h hroot

/-- A walk enters the directories below its root that it comes to without following a link. -/
theorem seen_directory :
    (Step.enter names).Meets (directory (seenEntries t.leadsToFile root entries)) [] ↔
      (Step.enter names).Meets t place := by
  rw [Step.Meets, Step.Meets, List.nil_append, at?_seenEntries h hroot]
  cases hnode : t.at? (place ++ names) with
  | none => simp
  | some node =>
    cases node with
    | file data => simp [seen?]
    | link target =>
      simp only [Option.bind_some, seen?]
      split_ifs <;> simp
    | directory entries => simp [seen?]

/-- A walk goes through all that leads to a file, whatever cannot be listed. -/
theorem walk_through (hempty : root ≠ "") :
    ∃ ways : List (List String), (∀ names, names ∈ ways ↔ ∃ path, t.Way root place path names) ∧
      ways.Pairwise Precedes ∧
      ∀ env, t.Through env.listing.contains root place ways (t.walk env root) := by
  obtain ⟨steps, hcovers, hwalk⟩ := walk_seen h hroot
  have hselects := hcovers.selects fun _ => true
  rw [taken_all] at hselects
  refine ⟨steps.filterMap Step.taken?, fun names => ?_, hselects.order, fun env => ?_⟩
  · exact mem_taken_seen h hroot hempty hcovers
  · rw [hwalk]
    exact through_cut (fun below => (hcovers.mem _).trans (seen_directory h hroot)) hcovers.order

end Root

/-- Below a root that is a directory a walk finds what leads to a file without a link to a directory on the way: each
of it once, the files of a directory by name before anything deeper, and its subdirectories one after the other by
name. If a directory cannot be listed, it ends there with the error, and has found what comes before that directory. A
predicate is asked about each path that is found, as seen from the root, in the same order and once, and what it accepts
is what remains. -/
theorem walk_ordered {path : String} (h : Proper t)
    (hroot : t.resolve (Path.normal path) = .ok (place, directory entries)) :
    ∃ ways : List (List String),
      (∀ names, names ∈ ways ↔ ∃ file, t.Way (Path.normal path) place file names) ∧
      ways.Pairwise Precedes ∧
      (∀ names ∈ ways, Path.relative (Path.normal path) (Path.below (Path.normal path) names) = Path.text names) ∧
      (ways.map (Path.below (Path.normal path))).Nodup ∧ (ways.map Path.text).Nodup ∧
      t.walk {} (Path.normal path) = ⟨ways, none⟩ ∧
      ∀ env : Environment,
        t.Through env.listing.contains (Path.normal path) place ways (t.walk env (Path.normal path)) ∧
        ∀ (accepts : String → Bool) (log : List String),
          Walk.ask (m := Id) accepts (t.walk env (Path.normal path)).files =
            (t.walk env (Path.normal path)).files.filter (fun names => accepts (Path.text names)) ∧
          (Walk.ask (Walk.noting accepts) (t.walk env (Path.normal path)).files).run log =
            ((t.walk env (Path.normal path)).files.filter fun names => accepts (Path.text names),
              log ++ (t.walk env (Path.normal path)).files.map Path.text) := by
  have hempty := Path.normal_ne_empty path
  obtain ⟨ways, hmem, horder, hthrough⟩ := walk_through h hroot hempty
  have hall : t.walk {} (Path.normal path) = ⟨ways, none⟩ := by
    have hwalk := hthrough {}
    generalize t.walk {} (Path.normal path) = walk at hwalk ⊢
    cases hwalk with
    | all => rfl
    | upTo _ _ refused => cases refused
  have hnames : ∀ names ∈ ways, names ≠ [] ∧ ∀ name ∈ names, Path.IsName name := by
    intro names hnames
    have hwalk : names ∈ (t.walk {} (Path.normal path)).files := by rwa [hall]
    exact names_of_mem_walk h hroot hempty hwalk
  have hnodup : ways.Nodup := horder.nodup
  refine ⟨ways, hmem, horder, ?_, ?_, ?_, hall, fun env => ⟨hthrough env, fun accepts log => ?_⟩⟩
  · exact fun names hn => Path.relative_below (hnames names hn).2 (hnames names hn).1
  · refine (List.nodup_map_iff_inj_on hnodup).mpr fun names hn others ho heq => ?_
    exact Path.below_injective (hnames names hn).2 (hnames others ho).2 heq
  · refine (List.nodup_map_iff_inj_on hnodup).mpr fun names hn others ho heq => ?_
    rw [← Path.parts_text (hnames names hn).2, heq, Path.parts_text (hnames others ho).2]
  · exact ⟨Walk.ask_pure _, Walk.ask_noting _ log⟩

def tangledEntries : List (String × Tree) :=
  [("l", link "d"), ("d", directory [("e", empty), ("c", file [])]), ("b", link "a"), ("a", file []), ("x", link "y")]

def tangled : Tree := directory [("w", directory tangledEntries)]

theorem tangled_resolve : tangled.resolve (Path.normal "w") = .ok (["w"], directory tangledEntries) := by
  rw [Path.normal_name (by decide)]
  exact resolve_name (by decide) rfl fun _ => Tree.noConfusion

/-- A link of the directory leads to a file if its target is one there. -/
theorem tangled_leadsToFile (name target : String) (hname : Path.IsName name) (htarget : Path.IsName target)
    (hlink : tangled.at? ["w", name] = some (link target))
    (hno : ∀ other, tangled.at? ["w", target] ≠ some (link other)) :
    tangled.leadsToFile (Path.join "w" name) = (tangled.at? ["w", target]).any isFile := by
  have hbelow : Path.join "w" name = Path.below "w" [name] := rfl
  have hrelative : Path.isAbsolute (Path.below "w" [name]) = false :=
    Path.isAbsolute_below (List.forall_mem_singleton.mpr hname) (by decide) (Path.isAbsolute_name (by decide))
  have hstage : tangled.stage [] (Path.parts (Path.below "w" [name])) = .atLink ["w"] target [] :=
    stage_link_below (by decide) hname rfl hlink
  have hfollow := follow_of_link hstage (Path.isAbsolute_name htarget) 39
  rw [leadsToFile, resolve, resolveFrom, hbelow, hrelative, linkLimit, hfollow, Path.parts_name htarget, follow]
  have hparent : target ≠ ".." := htarget.notParent
  cases hnode : tangled.at? ["w", target] with
  | none => simp [stage, hnode]
  | some node =>
    cases node with
    | file data => simp [stage, hnode, isFile]
    | link other => exact absurd hnode (hno other)
    | directory entries => simp [stage, hnode, isFile]

theorem tangled_proper : tangled.Proper := by
  have hempty : empty.Proper := .directory (by decide) (by decide) nofun
  have hd : (directory [("e", empty), ("c", file [])]).Proper :=
    .directory (by decide) (by decide) (by simpa using ⟨hempty, .file _⟩)
  have hw : (directory tangledEntries).Proper :=
    .directory (by decide) (by decide) (by simpa [tangledEntries] using ⟨.link _, hd, .link _, .file _, .link _⟩)
  exact .directory (by decide) (by decide) (by simpa using hw)

/-- The links are taken like the files that they lead to. -/
theorem tangled_walk : tangled.walk {} (Path.normal "w") = ⟨[["a"], ["b"], ["d", "c"]], none⟩ ∧
    tangled.walk { listing := ["w/d"] } (Path.normal "w") = ⟨[["a"], ["b"]], some (.listingDenied "w/d")⟩ := by
  have hl : tangled.leadsToFile (Path.join "w" "l") = false :=
    tangled_leadsToFile "l" "d" (by decide) (by decide) rfl nofun
  have hb : tangled.leadsToFile (Path.join "w" "b") = true :=
    tangled_leadsToFile "b" "a" (by decide) (by decide) rfl nofun
  have hx : tangled.leadsToFile (Path.join "w" "x") = false :=
    tangled_leadsToFile "x" "y" (by decide) (by decide) rfl nofun
  have hbelow : Path.below "w" ["d"] = "w/d" := Path.below_name (by decide)
  have hd : Path.join "w" "d" = "w/d" := hbelow
  have hinner : sorted [("e", Visit.enter ⟨[], none⟩), ("c", .take)] = [("c", .take), ("e", .enter ⟨[], none⟩)] :=
    sorted_eq (by decide) (by decide) fun item => by simp [or_comm]
  have hdistinct : ["l", "d", "b", "a", "x"].Nodup := by decide
  have horder : ["a", "b", "d", "l", "x"].Pairwise (· < ·) := by decide
  have houter (walk : Walk) : sorted [("l", Visit.pass), ("d", .enter walk), ("b", .take), ("a", .take), ("x", .pass)] =
      [("a", .take), ("b", .take), ("d", .enter walk), ("l", .pass), ("x", .pass)] :=
    sorted_eq hdistinct horder fun item => by
      simp only [List.mem_cons, List.not_mem_nil, or_false]
      tauto
  rw [sorted] at hinner
  simp only [sorted] at houter
  rw [walk, walk, tangled_resolve, Path.normal_name (by decide)]
  simp [tangledEntries, walkNode, walkEntries, gather, hl, hb, hx, hd, hinner, houter, empty, Walk.append, Walk.concat]

/-- The walk that comes to the other directory when this cannot be listed. -/
theorem walk_ordered_tangled :
    tangled.resolve (Path.normal "w") = .ok (["w"], directory tangledEntries) ∧
      (∃ file, tangled.Way (Path.normal "w") ["w"] file ["b"]) ∧
      (¬∃ file, tangled.Way (Path.normal "w") ["w"] file ["l"]) ∧
      (¬∃ file, tangled.Way (Path.normal "w") ["w"] file ["x"]) ∧
      tangled.Through ["w/d"].contains (Path.normal "w") ["w"] [["a"], ["b"], ["d", "c"]]
        ⟨[["a"], ["b"]], some (.listingDenied "w/d")⟩ ∧
      (Walk.ask (Walk.noting fun path => path != "b") (tangled.walk {} (Path.normal "w")).files).run [] =
        ([["a"], ["d", "c"]], ["a", "b", "d/c"]) := by
  obtain ⟨hall, hcut⟩ := tangled_walk
  obtain ⟨ways, hmem, -, -, -, -, hwalk, henv⟩ := walk_ordered tangled_proper tangled_resolve
  obtain rfl : [["a"], ["b"], ["d", "c"]] = ways := (Walk.mk.inj (hall.symm.trans hwalk)).1
  refine ⟨tangled_resolve, (hmem _).mp (by decide), fun h => ?_, fun h => ?_, ?_, ?_⟩
  · exact absurd ((hmem _).mpr h) (by decide)
  · exact absurd ((hmem _).mpr h) (by decide)
  · rw [← hcut]
    exact (henv { listing := ["w/d"] }).1
  · rw [((henv {}).2 _ []).2, hall]
    exact Prod.ext (by decide) (by decide)

end Tree

end TemplateSwap
