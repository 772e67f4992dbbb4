import TemplateSwap.Tree.Walk
import TemplateSwap.Proofs.Tree.Finding
import Mathlib.Data.List.Sort

namespace TemplateSwap.Tree

/-- The order of a walk. A file of a directory comes before what lies deeper. -/
inductive Precedes : List String → List String → Prop
  | files {a b : String} (h : a < b) : Precedes [a] [b]
  | deeper (a b : String) {rest : List String} (h : rest ≠ []) : Precedes [a] (b :: rest)
  | directories {a b : String} {x y : List String} (h : a < b) (hx : x ≠ []) (hy : y ≠ []) :
      Precedes (a :: x) (b :: y)
  | within (a : String) {x y : List String} (h : Precedes x y) : Precedes (a :: x) (a :: y)

/-- A step of a walk: a directory is entered or a file is taken. Names lead there from the root. -/
inductive Step
  | enter (names : List String)
  | take (names : List String)

namespace Step

/-- Where a step stands in the order of a walk. A directory is entered before its files are taken, as if there
were a file with the empty name to take first. -/
def key : Step → List String
  | enter names => names ++ [""]
  | take names => names

def Before (a b : Step) : Prop := Precedes a.key b.key

/-- The same step as seen from the directory above. -/
def under (name : String) : Step → Step
  | enter names => enter (name :: names)
  | take names => take (name :: names)

def taken? : Step → Option (List String)
  | enter _ => none
  | take names => some names

/-- There is a directory to enter, or a file to take. -/
def Meets (t : Tree) (place : List String) : Step → Prop
  | enter names => ∃ entries, t.at? (place ++ names) = some (directory entries)
  | take names => ∃ data, t.at? (place ++ names) = some (file data)

end Step

/-- All steps of a walk below a place, in order. -/
structure Covers (t : Tree) (place : List String) (steps : List Step) : Prop where
  mem : ∀ step, step ∈ steps ↔ step.Meets t place
  order : steps.Pairwise Step.Before

/-- What a walk finds by its steps, up to the first directory that cannot be listed. The names lead from the
root of the walk to where the steps begin. -/
def cut (denied : String → Bool) (names : List String) (called : String) : List Step → Walk
  | [] => ⟨[], none⟩
  | .enter below :: steps =>
    if denied (below.foldl Path.join called) then ⟨[], some (.listingDenied (below.foldl Path.join called))⟩
    else cut denied names called steps
  | .take below :: steps =>
    ⟨(names ++ below) :: (cut denied names called steps).files, (cut denied names called steps).failure⟩

/-- The accepted files that are taken by some steps. -/
def taken (accepts : String → Bool) (steps : List Step) : List (List String) :=
  (steps.filterMap Step.taken?).filter fun names => accepts (Path.text names)

/-- What a visit to a node shows, by the steps of a walk from there. -/
inductive Shows (denied : String → Bool) (names : List String) (called : String) :
    List Step → Tree → Visit → Prop
  | take (data : List UInt8) : Shows denied names called [.take []] (file data) .take
  | enter (steps : List Step) (entries : List (String × Tree)) :
      Shows denied names called steps (directory entries) (.enter (cut denied names called steps))

/-- The accepted files below a place, by their names from there and in the order of a walk. -/
structure Selects (t : Tree) (place : List String) (accepts : String → Bool) (files : List (List String)) :
    Prop where
  mem : ∀ names, names ∈ files ↔
    (t.fileAt? (place ++ names)).isSome = true ∧ accepts (Path.text names) = true
  order : files.Pairwise Precedes

variable {t node : Tree} {entries : List (String × Tree)} {names place : List String} {name called : String}
variable {denied : String → Bool} {steps : List Step}

namespace Precedes

theorem asymm {x y : List String} (h : Precedes x y) : ¬Precedes y x := by
  induction h with
  | files h =>
    intro hback
    cases hback with
    | files hback => exact String.lt_asymm h hback
    | deeper _ _ hrest => exact hrest rfl
    | directories _ hx _ => exact hx rfl
    | within _ hback => cases hback
  | deeper a b hrest =>
    intro hback
    cases hback with
    | files => exact hrest rfl
    | deeper _ _ hnil => exact hnil rfl
    | directories _ _ hy => exact hy rfl
    | within _ hback => cases hback
  | directories h hx hy =>
    intro hback
    cases hback with
    | files => exact hx rfl
    | deeper => exact hy rfl
    | directories hback _ _ => exact String.lt_asymm h hback
    | within => exact String.lt_irrefl _ h
  | within a h ih =>
    intro hback
    cases hback with
    | files hback => exact String.lt_irrefl _ hback
    | deeper => cases h
    | directories hback _ _ => exact String.lt_irrefl _ hback
    | within _ hback => exact ih hback

theorem append (names : List String) {x y : List String} (h : Precedes x y) :
    Precedes (names ++ x) (names ++ y) := by
  induction names with
  | nil => exact h
  | cons name names ih => exact .within name ih

instance : Std.Asymm Precedes := ⟨fun _ _ h => h.asymm⟩

/-- Two paths are compared by their first names, and by the rest where these are the same. -/
theorem cons_iff {a b : String} {x y : List String} :
    Precedes (a :: x) (b :: y) ↔ a < b ∧ (x = [] ↔ y = []) ∨ x = [] ∧ y ≠ [] ∨ a = b ∧ Precedes x y := by
  constructor
  · intro h
    cases h with
    | files h => exact .inl ⟨h, Iff.rfl⟩
    | deeper _ _ hrest => exact .inr (.inl ⟨rfl, hrest⟩)
    | directories h hx hy => exact .inl ⟨h, iff_of_false hx hy⟩
    | within _ h => exact .inr (.inr ⟨rfl, h⟩)
  · intro h
    rcases h with ⟨hlt, hnil⟩ | ⟨rfl, hy⟩ | ⟨rfl, h⟩
    · by_cases hx : x = []
      · obtain rfl := hx
        obtain rfl := hnil.mp rfl
        exact .files hlt
      · exact .directories hlt hx fun hy => hx (hnil.mpr hy)
    · exact .deeper a b hy
    · exact .within a h

instance decidable : (x y : List String) → Decidable (Precedes x y)
  | [], _ => isFalse nofun
  | _ :: _, [] => isFalse nofun
  | _ :: x, _ :: y =>
    have := decidable x y
    decidable_of_iff _ cons_iff.symm

end Precedes

namespace Step

theorem key_under (name : String) (step : Step) : (step.under name).key = name :: step.key := by
  cases step <;> rfl

theorem under_before (name : String) {a b : Step} (h : a.Before b) : (a.under name).Before (b.under name) := by
  rw [Before, key_under, key_under]
  exact .within name h

theorem meets_under {step : Step} (hlookup : entries.lookup name = some node) :
    (step.under name).Meets (directory entries) [] ↔ step.Meets node [] := by
  have hbelow : ∀ path, (directory entries).at? (name :: path) = node.at? path := by
    intro path
    rw [at?, child?, hlookup, Option.bind_some]
  cases step with
  | enter names => simp [Meets, under, hbelow]
  | take names => simp [Meets, under, hbelow]

instance : Std.Asymm Before := ⟨fun _ _ h => h.asymm⟩

/-- A step in a directory is to enter it, or it belongs to an entry. -/
theorem meets_directory {step : Step} (h : step.Meets (directory entries) []) :
    step = .enter [] ∨
      ∃ name node, ∃ below : Step, entries.lookup name = some node ∧ step = below.under name := by
  cases step with
  | enter names =>
    obtain ⟨found, hfound⟩ := h
    cases names with
    | nil => exact .inl rfl
    | cons name names =>
      obtain ⟨all, node, hall, hlookup, -⟩ := at?_cons.mp hfound
      cases hall
      exact .inr ⟨name, node, .enter names, hlookup, rfl⟩
  | take names =>
    obtain ⟨data, hfound⟩ := h
    cases names with
    | nil => cases hfound
    | cons name names =>
      obtain ⟨all, node, hall, hlookup, -⟩ := at?_cons.mp hfound
      cases hall
      exact .inr ⟨name, node, .take names, hlookup, rfl⟩

theorem meets_shift (hnode : t.at? place = some node) {step : Step} :
    step.Meets t place ↔ step.Meets node [] := by
  cases step <;> simp [Meets, at?_append, hnode]

end Step

/-- The steps of a walk and their order are determined. -/
theorem Covers.unique {steps' : List Step} (h : t.Covers place steps) (h' : t.Covers place steps') :
    steps = steps' :=
  h.order.eq_of_mem_iff h'.order fun step => (h.mem step).trans (h'.mem step).symm

theorem Covers.shift (hnode : t.at? place = some node) (h : node.Covers [] steps) : t.Covers place steps where
  mem step := (h.mem step).trans (Step.meets_shift hnode).symm
  order := h.order

def sorted {α : Type} (items : List (String × α)) : List (String × α) :=
  items.mergeSort fun a b => decide (a.1 ≤ b.1)

theorem mem_sorted {α : Type} {items : List (String × α)} {item : String × α} :
    item ∈ sorted items ↔ item ∈ items :=
  List.mem_mergeSort

theorem pairwise_sorted {α : Type} {items : List (String × α)} (h : (items.map (·.1)).Nodup) :
    (sorted items).Pairwise fun a b => a.1 < b.1 := by
  have hle : (sorted items).Pairwise fun a b => decide (a.1 ≤ b.1) = true := by
    refine List.pairwise_mergeSort (fun a b c hab hbc => ?_) (fun a b => ?_) items
    · exact decide_eq_true (String.le_trans (of_decide_eq_true hab) (of_decide_eq_true hbc))
    · simpa using String.le_total a.1 b.1
  have hdistinct : ((sorted items).map (·.1)).Nodup :=
    (((List.mergeSort_perm items _).map _).nodup_iff).mpr h
  refine List.Pairwise.imp₂ ?_ hle (List.pairwise_map.mp hdistinct)
  intro a b hab hne
  exact Std.lt_of_le_of_ne (of_decide_eq_true hab) hne

/-- Items in order of name are what others sort to if these are the same items. -/
theorem sorted_eq {α : Type} {items others : List (String × α)} (hdistinct : (items.map (·.1)).Nodup)
    (horder : (others.map (·.1)).Pairwise (· < ·)) (hmem : ∀ item, item ∈ items ↔ item ∈ others) :
    sorted items = others :=
  (pairwise_sorted hdistinct).eq_of_mem_iff (List.pairwise_map.mp horder) fun item => mem_sorted.trans (hmem item)

theorem sorted_map {α β : Type} (f : String × α → β) (items : List (String × α)) :
    sorted (items.map fun item => (item.1, f item)) = (sorted items).map fun item => (item.1, f item) :=
  (List.map_mergeSort (f := fun item : String × α => (item.1, f item)) fun _ _ _ _ => rfl).symm

def isFile : Tree → Bool
  | file _ => true
  | _ => false

/-- The files of a directory, then its subdirectories. -/
def arranged (entries : List (String × Tree)) : List (String × Tree) :=
  (sorted entries).filter (·.2.isFile) ++ (sorted entries).filter (!·.2.isFile)

/-- The steps of a walk of a directory, by those of its entries. -/
def arrange (entries : List (String × Tree)) (steps : String × Tree → List Step) : List Step :=
  .enter [] :: (arranged entries).flatMap fun entry => (steps entry).map (.under entry.1)

theorem mem_arranged {entry : String × Tree} : entry ∈ arranged entries ↔ entry ∈ entries := by
  rw [arranged, (List.filter_append_perm _ (sorted entries)).mem_iff, mem_sorted]

theorem mem_arrange {steps : String × Tree → List Step} {step : Step} :
    step ∈ arrange entries steps ↔
      step = .enter [] ∨ ∃ entry ∈ entries, ∃ below ∈ steps entry, step = below.under entry.1 := by
  simp only [arrange, List.mem_cons, List.mem_flatMap, List.mem_map, mem_arranged]
  grind

/-- A file is its only step, and below a directory there is no step without a name in its key. -/
theorem key_eq_nil (h : Plain node) (hcovers : node.Covers [] steps) {step : Step} (hstep : step ∈ steps) :
    step.key = [] ↔ node.isFile = true := by
  have hmeets := (hcovers.mem step).mp hstep
  cases h with
  | file data =>
    cases step with
    | enter names => cases names <;> simp [Step.Meets, at?, child?] at hmeets
    | take names =>
      cases names with
      | nil => simp [Step.key, isFile]
      | cons name names => simp [Step.Meets, at?, child?] at hmeets
  | directory =>
    rcases Step.meets_directory hmeets with rfl | ⟨name, node, below, -, rfl⟩
    · simp [Step.key, isFile]
    · simp [Step.key_under, isFile]

section Directory

variable {walks : String × Tree → List Step} (h : Plain (directory entries))
  (hwalks : ∀ entry ∈ entries, entry.2.Covers [] (walks entry))

include h hwalks

theorem mem_cover (step : Step) : step ∈ arrange entries walks ↔ step.Meets (directory entries) [] := by
  have hdistinct := h.distinct
  rw [mem_arrange]
  constructor
  · intro hstep
    rcases hstep with rfl | ⟨entry, hentry, below, hbelow, rfl⟩
    · exact ⟨entries, rfl⟩
    · have hlookup := Results.lookup_of_mem hdistinct hentry
      exact (Step.meets_under hlookup).mpr (((hwalks entry hentry).mem below).mp hbelow)
  · intro hmeets
    rcases Step.meets_directory hmeets with rfl | ⟨name, node, below, hlookup, rfl⟩
    · exact .inl rfl
    · have hentry := Results.mem_of_lookup hlookup
      refine .inr ⟨(name, node), hentry, below, ?_, rfl⟩
      exact ((hwalks _ hentry).mem below).mpr ((Step.meets_under hlookup).mp hmeets)

/-- The steps of one entry come before those of a later one. -/
theorem pairwise_arranged :
    (arranged entries).Pairwise fun a b =>
      ∀ x ∈ walks a, ∀ y ∈ walks b, (x.under a.1).Before (y.under b.1) := by
  have hkey : ∀ entry ∈ sorted entries, ∀ x ∈ walks entry, x.key = [] ↔ entry.2.isFile = true := by
    intro entry hentry x hx
    rw [mem_sorted] at hentry
    exact key_eq_nil (h.mem hentry).2 (hwalks entry hentry) hx
  have hsorted := pairwise_sorted h.distinct
  simp only [Step.Before, Step.key_under]
  rw [arranged, List.pairwise_append, List.pairwise_filter, List.pairwise_filter]
  refine ⟨?_, ?_, ?_⟩
  · refine hsorted.imp_of_mem ?_
    intro a b ha hb hab hfile hfile' x hx y hy
    rw [(hkey a ha x hx).mpr hfile, (hkey b hb y hy).mpr hfile']
    exact .files hab
  · refine hsorted.imp_of_mem ?_
    intro a b ha hb hab hdirectory hdirectory' x hx y hy
    refine .directories hab ?_ ?_
    · rw [ne_eq, hkey a ha x hx]
      simpa using hdirectory
    · rw [ne_eq, hkey b hb y hy]
      simpa using hdirectory'
  · intro a ha b hb x hx y hy
    rw [List.mem_filter] at ha hb
    rw [(hkey a ha.1 x hx).mpr ha.2]
    refine .deeper a.1 b.1 ?_
    rw [ne_eq, hkey b hb.1 y hy]
    simpa using hb.2

theorem covers_arrange : (directory entries).Covers [] (arrange entries walks) where
  mem := mem_cover h hwalks
  order := by
    rw [arrange, List.pairwise_cons, List.pairwise_flatMap]
    refine ⟨?_, ?_, ?_⟩
    · intro step hstep
      obtain ⟨entry, hentry, hstep⟩ := List.mem_flatMap.mp hstep
      obtain ⟨below, -, rfl⟩ := List.mem_map.mp hstep
      rw [Step.Before, Step.key_under]
      have hfirst : "" < entry.1 := (h.mem (mem_arranged.mp hentry)).1.empty_lt
      cases hkey : below.key with
      | nil => exact .files hfirst
      | cons name names => exact .deeper _ _ (List.cons_ne_nil _ _)
    · intro entry hentry
      refine List.pairwise_map.mpr ((hwalks entry (mem_arranged.mp hentry)).order.imp ?_)
      exact Step.under_before entry.1
    · refine (pairwise_arranged h hwalks).imp ?_
      intro a b hab step hstep other hother
      obtain ⟨x, hx, rfl⟩ := List.mem_map.mp hstep
      obtain ⟨y, hy, rfl⟩ := List.mem_map.mp hother
      exact hab x hx y hy

end Directory

theorem cut_append (a b : List Step) :
    cut denied names called (a ++ b) = (cut denied names called a).append (cut denied names called b) := by
  induction a with
  | nil => rfl
  | cons step a ih =>
    cases step with
    | enter below =>
      rw [List.cons_append, cut, cut]
      split_ifs
      · rfl
      · exact ih
    | take below =>
      rw [List.cons_append, cut, cut, ih]
      obtain ⟨files, failure⟩ := cut denied names called a
      cases failure <;> rfl

theorem cut_under (name : String) (steps : List Step) :
    cut denied names called (steps.map (.under name)) =
      cut denied (names ++ [name]) (Path.join called name) steps := by
  induction steps with
  | nil => rfl
  | cons step steps ih => cases step <;> simp [cut, Step.under, ih]

/-- If all directories can be listed, all files are found. -/
theorem cut_complete (h : ∀ below, .enter below ∈ steps → denied (below.foldl Path.join called) = false) :
    cut denied names called steps = ⟨(steps.filterMap Step.taken?).map (names ++ ·), none⟩ := by
  induction steps with
  | nil => rfl
  | cons step steps ih =>
    have hrest := ih fun below hbelow => h below (List.mem_cons_of_mem _ hbelow)
    cases step with
    | enter below => simp [cut, h below List.mem_cons_self, hrest, List.filterMap_cons, Step.taken?]
    | take below => simp [cut, hrest, Step.taken?]

def owned (names : List String) (visit : String × Visit) : Option (List String) :=
  match visit.2 with
  | .take => some (names ++ [visit.1])
  | _ => none

def entered (visit : String × Visit) : Option Walk :=
  match visit.2 with
  | .enter walk => some walk
  | _ => none

theorem gather_eq (names : List String) (visits : List (String × Visit)) :
    gather names visits =
      Walk.append ⟨(sorted visits).filterMap (owned names), none⟩
        (Walk.concat ((sorted visits).filterMap entered)) := rfl

section Visits

variable {visit : String × Tree → Visit} {walks : String × Tree → List Step}
  (h : ∀ entry ∈ entries, Shows denied (names ++ [entry.1]) (Path.join called entry.1) (walks entry) entry.2
    (visit entry))

include h

/-- The files of a directory are taken. -/
theorem owned_visits :
    (⟨(entries.map fun entry => (entry.1, visit entry)).filterMap (owned names), none⟩ : Walk) =
      cut denied names called ((entries.filter (·.2.isFile)).flatMap fun entry =>
        (walks entry).map (.under entry.1)) := by
  induction entries with
  | nil => rfl
  | cons entry rest ih =>
    rw [List.forall_mem_cons] at h
    obtain ⟨hfirst, hrest⟩ := h
    have hfiles := ih hrest
    rw [List.map_cons, List.filterMap_cons, List.filter_cons, owned]
    obtain ⟨name, node⟩ := entry
    dsimp only at hfirst ⊢
    generalize visit (name, node) = first at hfirst ⊢
    generalize hsteps : walks (name, node) = steps at hfirst
    cases hfirst with
    | take data =>
      rw [isFile, if_pos rfl, List.flatMap_cons, cut_append, ← hfiles, hsteps]
      rfl
    | enter steps entries => exact hfiles

/-- The subdirectories are walked one after the other. -/
theorem entered_visits :
    Walk.concat ((entries.map fun entry => (entry.1, visit entry)).filterMap entered) =
      cut denied names called ((entries.filter (!·.2.isFile)).flatMap fun entry =>
        (walks entry).map (.under entry.1)) := by
  induction entries with
  | nil => rfl
  | cons entry rest ih =>
    rw [List.forall_mem_cons] at h
    obtain ⟨hfirst, hrest⟩ := h
    have hwalks := ih hrest
    rw [List.map_cons, List.filterMap_cons, List.filter_cons, entered]
    obtain ⟨name, node⟩ := entry
    dsimp only at hfirst ⊢
    generalize visit (name, node) = first at hfirst ⊢
    generalize hsteps : walks (name, node) = steps at hfirst
    cases hfirst with
    | take data => exact hwalks
    | enter steps entries =>
      have hconcat : ∀ (walk : Walk) walks, Walk.concat (walk :: walks) = walk.append (Walk.concat walks) :=
        fun _ _ => rfl
      have hdirectory : (!(directory entries).isFile) = true := rfl
      rw [if_pos hdirectory, List.flatMap_cons, cut_append, ← hwalks, hsteps, cut_under]
      exact hconcat _ _

theorem shows_arrange :
    Shows denied names called (arrange entries walks) (directory entries)
      (.enter (if denied called then ⟨[], some (.listingDenied called)⟩
        else gather names (entries.map fun entry => (entry.1, visit entry)))) := by
  have hsorted : ∀ entry ∈ sorted entries, Shows denied (names ++ [entry.1]) (Path.join called entry.1)
      (walks entry) entry.2 (visit entry) := fun entry hentry => h entry (mem_sorted.mp hentry)
  have hcut : cut denied names called (arrange entries walks) =
      if denied called then ⟨[], some (.listingDenied called)⟩
      else gather names (entries.map fun entry => (entry.1, visit entry)) := by
    rw [arrange, cut, List.foldl_nil, arranged, List.flatMap_append, cut_append, ← owned_visits hsorted,
      ← entered_visits hsorted, gather_eq, sorted_map]
  rw [← hcut]
  exact .enter _ _

end Visits

theorem walkEntries_eq_map (t : Tree) (denied : String → Bool) (names : List String) (called : String)
    (entries : List (String × Tree)) :
    walkEntries t denied names called entries =
      entries.map fun entry =>
        (entry.1, walkNode t denied (names ++ [entry.1]) (Path.join called entry.1) entry.2) := by
  induction entries with
  | nil => rfl
  | cons entry rest ih => rw [walkEntries, ih, List.map_cons]

/-- A tree without links is walked by its steps, wherever it is and whichever directories cannot be listed. -/
theorem exists_steps (h : Plain node) :
    ∃ steps, node.Covers [] steps ∧ ∀ t denied names called,
      Shows denied names called steps node (walkNode t denied names called node) := by
  induction h with
  | file data =>
    have hmem : ∀ step, step ∈ [Step.take []] ↔ step.Meets (file data) [] := by
      intro step
      cases step with
      | enter names => cases names <;> simp [Step.Meets, at?, child?]
      | take names => cases names <;> simp [Step.Meets, at?, child?]
    exact ⟨[.take []], ⟨hmem, List.pairwise_singleton _ _⟩, fun t denied names called => .take data⟩
  | directory hdistinct hnames hnodes ih =>
    choose! walks hcovers hshows using ih
    refine ⟨arrange _ walks, covers_arrange (.directory hdistinct hnames hnodes) hcovers, ?_⟩
    intro t denied names called
    rw [walkNode, walkEntries_eq_map]
    exact shows_arrange fun entry hentry => hshows entry hentry _ _ _ _

/-- A walk below a root goes through all directories and files, in order. -/
theorem walk_steps (h : Plain t) {root : String} (hroot : t.resolve root = .ok (place, directory entries)) :
    ∃ steps, t.Covers place steps ∧
      ∀ env, t.walk env root = cut env.listing.contains [] root steps := by
  have hplace : t.at? place = some (directory entries) := at?_of_stage ((resolve_plain h).mp hroot).2
  obtain ⟨steps, hcovers, hshows⟩ := exists_steps (h.at? hplace).2
  refine ⟨steps, hcovers.shift hplace, fun env => ?_⟩
  have hwalk := hshows t env.listing.contains [] root
  unfold walk
  rw [hroot]
  dsimp only
  generalize walkNode t _ [] root (directory entries) = visit at hwalk ⊢
  cases hwalk with
  | enter => rfl

theorem mem_taken {accepts : String → Bool} :
    names ∈ taken accepts steps ↔ .take names ∈ steps ∧ accepts (Path.text names) = true := by
  have htaken : ∀ step : Step, step.taken? = some names ↔ step = .take names := by
    intro step
    cases step <;> simp [Step.taken?]
  simp [taken, htaken]

theorem taken_all (steps : List Step) : taken (fun _ => true) steps = steps.filterMap Step.taken? := by
  simp [taken]

theorem taken_append (accepts : String → Bool) (a b : List Step) :
    taken accepts (a ++ b) = taken accepts a ++ taken accepts b := by
  simp [taken]

theorem Covers.selects (h : t.Covers place steps) (accepts : String → Bool) :
    t.Selects place accepts (taken accepts steps) where
  mem names := by
    rw [mem_taken, h.mem, Step.Meets, Option.isSome_iff_exists]
    simp only [fileAt?_some]
  order := by
    refine List.Pairwise.filter _ (h.order.filterMap _ ?_)
    intro a b hbefore x hx y hy
    cases a <;> cases b <;> cases hx <;> cases hy
    exact hbefore

namespace Selects

variable {t : Tree} {place : List String} {accepts : String → Bool} {files : List (List String)}

theorem nodup (h : t.Selects place accepts files) : files.Nodup := h.order.nodup

/-- The selected files and their order are determined. -/
theorem unique {files' : List (List String)} (h : t.Selects place accepts files)
    (h' : t.Selects place accepts files') : files = files' :=
  h.order.eq_of_mem_iff h'.order fun names => (h.mem names).trans (h'.mem names).symm

theorem found (h : t.Selects place accepts files) (hnames : names ∈ files) :
    ∃ data, t.at? (place ++ names) = some (file data) := by
  obtain ⟨data, hdata⟩ := Option.isSome_iff_exists.mp ((h.mem names).mp hnames).1
  exact ⟨data, fileAt?_some.mp hdata⟩

end Selects

/-- The accepted files of a walk are selected. -/
theorem walk_selects {root : String} (h : Plain t) (hroot : t.resolve root = .ok (place, directory entries))
    (accepts : String → Bool) :
    (t.walk {} root).failure = none ∧
      t.Selects place accepts ((t.walk {} root).files.filter fun names => accepts (Path.text names)) := by
  obtain ⟨steps, hcovers, hwalk⟩ := walk_steps h hroot
  rw [hwalk, cut_complete fun _ _ => rfl]
  simpa [taken] using hcovers.selects accepts

end TemplateSwap.Tree
