import TemplateSwap.Proofs.Running.Repeating
import TemplateSwap.Proofs.Running.Stopping

namespace TemplateSwap.Application

open TemplateSwap.Text (Encoding codes)
open TemplateSwap.Pattern (Found)

variable {r : Replacer} {s : Spec} {t : Tree} {encoding root path : String} {accepts : String → Bool}
variable {env : Environment} {place : List String} {entries : List (String × Tree)}

/-- A rewrite touches no file but the one that its path leads to. -/
theorem rewriteFile_touches (ht : t.Proper) (r : Replacer) (encoding : String) (env : Environment) (path : String)
    (f : List String → List UInt8 → List UInt8) :
    ∃ g, (rewriteFile r encoding env (t.mapFiles f) path).tree = t.mapFiles g ∧
      ∀ place, t.destination? path ≠ some place → g place = f place := by
  have hput : ∀ place data bytes, (t.mapFiles f).readFile path = .ok (place, data) →
      ∃ g, (t.mapFiles f).put place (.file bytes) = t.mapFiles g ∧
        ∀ other, t.destination? path ≠ some other → g other = f other := by
    intro place data bytes hread
    rw [Tree.readFile_mapFiles] at hread
    cases hold : t.readFile path with
    | error error =>
      rw [hold] at hread
      cases hread
    | ok found =>
      rw [hold] at hread
      obtain rfl : found.1 = place := congrArg Prod.fst (Except.ok.inj hread)
      have hothers : ∀ other, other ≠ found.1 → Function.update f found.1 (fun _ => bytes) other = f other :=
        fun other hother => Function.update_of_ne hother _ _
      refine ⟨Function.update f found.1 fun _ => bytes, ?_, fun other hother => hothers other ?_⟩
      · exact Tree.put_mapFiles ht (Tree.at?_of_readFile hold) hothers (by rw [Function.update_self])
      · rintro rfl
        exact hother (Tree.destination?_some.mpr ⟨found.2, hold⟩)
  have hends := rewriteFile_ends r encoding env (t.mapFiles f) path
  generalize rewriteFile r encoding env (t.mapFiles f) path = outcome at hends ⊢
  cases hends with
  | closed | unread | unknown | undecoded | same | sealed => exact ⟨f, rfl, fun _ _ => rfl⟩
  | refused hopens | written hopens =>
    obtain ⟨data, hread, -⟩ := hopens.decoded
    exact hput _ data _ hread

theorem rewriteFiles_touches (ht : t.Proper) (r : Replacer) (encoding : String) (env : Environment)
    (paths : List String) (v : Visit) (f : List String → List UInt8 → List UInt8) :
    ∃ g, (rewriteFiles r encoding env v (t.mapFiles f) paths).tree = t.mapFiles g ∧
      ∀ place, (∀ path ∈ paths, t.destination? path ≠ some place) → g place = f place := by
  induction paths generalizing v f with
  | nil => exact ⟨f, rfl, fun _ _ => rfl⟩
  | cons path paths ih =>
    obtain ⟨g, hone, hkept⟩ := rewriteFile_touches ht r encoding env path f
    simp only [rewriteFiles]
    cases hresult : (rewriteFile r encoding env (t.mapFiles f) path).result with
    | error failure => exact ⟨g, hone, fun place hplace => hkept place (hplace path List.mem_cons_self)⟩
    | ok count =>
      obtain ⟨g', hrest, hkept'⟩ := ih (v.record path count.isSome) g
      rw [← hone] at hrest
      refine ⟨g', hrest, fun place hplace => ?_⟩
      rw [List.forall_mem_cons] at hplace
      exact (hkept' place hplace.2).trans (hkept place hplace.1)

/-- An application that has a replacer rewrites the accepted files of its walk, and does nothing else. -/
theorem run_tree (hr : s.replacer = .ok r) (root : String) (accepts : String → Bool) (encoding : String)
    (env : Environment) (t : Tree) :
    (run s root accepts encoding env t).tree = (rewriteFiles r encoding env {} t
      (((t.walk env (Path.normal root)).files.filter fun names => accepts (Path.text names)).map
        (Path.below (Path.normal root)))).tree := by
  simp only [run, hr]
  split
  · rfl
  · split <;> rfl

/-- What an application changes, accepted names below its root lead to. -/
theorem run_touches (ht : t.Proper) (hroot : t.resolve (Path.normal root) = .ok (place, .directory entries))
    {path : List String} (hchanged : (run s root accepts encoding env t).tree.fileAt? path ≠ t.fileAt? path) :
    (t.ways (Path.normal root) place accepts path).Nonempty := by
  by_contra hnone
  rw [Set.not_nonempty_iff_eq_empty] at hnone
  refine hchanged ?_
  cases hr : s.replacer with
  | error failure => rw [run_unready hr]
  | ok r =>
    rw [run_tree hr]
    generalize hpaths : ((t.walk env (Path.normal root)).files.filter fun names => accepts (Path.text names)).map
      (Path.below (Path.normal root)) = paths
    obtain ⟨g, htree, hkept⟩ := rewriteFiles_touches ht r encoding env paths {} fun _ data => data
    rw [ht.mapFiles_same] at htree
    rw [htree, Tree.fileAt?_mapFiles, hkept path, Option.map_id']
    intro called hcalled hleads
    rw [← hpaths] at hcalled
    obtain ⟨names, hnames, rfl⟩ := List.mem_map.mp hcalled
    obtain ⟨hfound, haccepted⟩ := List.mem_filter.mp hnames
    obtain ⟨other, hway⟩ := Tree.way_of_mem_walk ht hroot (Path.normal_ne_empty root) hfound
    have hmem : names ∈ t.ways (Path.normal root) place accepts path := ⟨⟨hway.entry, hleads⟩, haccepted⟩
    rw [hnone] at hmem
    exact hmem

/-- The empty template matches at once. -/
theorem find_empty {p : Pattern} (h : p.regex = .empty) (text : Pattern.Subject) :
    p.find text true = [⟨0, { position := 0 }⟩] := by
  have hmatch : p.matchAt text 0 false = some ⟨0, { position := 0 }⟩ := by
    simp [Pattern.matchAt, h, Pattern.Regex.run]
  have hsearch : p.search text 0 false = some ⟨0, { position := 0 }⟩ := by
    simp [Pattern.search, Pattern.searchFrom, hmatch]
  simp [Pattern.find, Pattern.findFrom, hsearch]

/-- Each file can be made longer, whatever it holds. -/
theorem exists_lengthening :
    ∃ s r, Spec.replacer s = .ok r ∧ ∀ write, Writes r write → ∀ data, write data = 0x78 :: data := by
  have hcreated : ∃ s, Spec.create { before := "", after := "x", firstOnly := true, multiline := true } = .ok s ∧
      s.replacer.toOption.any (fun r => decide (r.pattern.regex = .empty) && decide (r.recipe = [.literal "x"]) &&
        r.firstOnly && r.multiline) = true :=
    Results.exists_ok (by decide +kernel)
  obtain ⟨s, -, hreplacer⟩ := hcreated
  obtain ⟨r, hr, hchecked⟩ := Results.exists_ok hreplacer
  simp only [Bool.and_eq_true, decide_eq_true_eq] at hchecked
  obtain ⟨⟨⟨hempty, hrecipe⟩, hfirst⟩, hmultiline⟩ := hchecked
  refine ⟨s, r, hr, fun write hwrite data => ?_⟩
  have hletter : codes "x" = [0x78] := by decide
  have hreplaced : r.replace (Encoding.utf8.decode data) = 0x78 :: Encoding.utf8.decode data := by
    rw [Replacer.replace, Replacer.replaceCount, if_pos hmultiline, Replacer.replaceWhole]
    simp [hfirst, find_empty hempty, Replacer.splice, Replacer.expand, hrecipe, hletter, Found.stop, Found.slice]
  have hencoded : Encoding.utf8.encode (0x78 :: Encoding.utf8.decode data) = .ok (0x78 :: data) := by
    have hone : Encoding.utf8.encodeOne 0x78 = some [0x78] := rfl
    have hbytes : Encoding.encodeFrom .utf8 0 (0x78 :: Encoding.utf8.decode data) = .ok ([0x78] ++ data) :=
      Encoding.encodeFrom_cons hone (Encoding.encodeFrom_decodeUtf8From 1 0 data)
    rw [Encoding.encode, hbytes]
    rfl
  have hwritten := hwrite data
  rw [hreplaced, hencoded] at hwritten
  exact (Except.ok.inj hwritten).symm

theorem length_iterate_lengthening {write : List UInt8 → List UInt8} (hwrite : ∀ data, write data = 0x78 :: data)
    (n : Nat) (data : List UInt8) : (write^[n] data).length = data.length + n := by
  induction n generalizing data with
  | zero => rfl
  | succ n ih => rw [Function.iterate_succ_apply, ih, hwrite, List.length_cons, Nat.add_right_comm, Nat.add_assoc]

/-- For each file that a walk leads to there is an application that changes it. -/
theorem exists_change (ht : t.Proper) (hroot : t.resolve (Path.normal root) = .ok (place, .directory entries))
    {path : List String} (hway : (t.ways (Path.normal root) place accepts path).Nonempty) :
    ∃ s, (run s root accepts "utf-8" {} t).tree.fileAt? path ≠ t.fileAt? path := by
  obtain ⟨s, r, hr, hlengthens⟩ := exists_lengthening
  obtain ⟨write, hwrite⟩ := exists_writes r
  have hlaw := (run_ways hr ht Encoding.ofName?_utf8 hwrite hroot accepts).2 path
  have hfinite := (Tree.ways_walk ht hroot (Path.normal_ne_empty root) accepts path).1
  have hcount : 0 < (t.ways (Path.normal root) place accepts path).ncard := (Set.ncard_pos hfinite).mpr hway
  obtain ⟨names, hnames⟩ := hway
  obtain ⟨data, hread⟩ := Tree.destination?_some.mp hnames.1.leads
  have hfile : t.fileAt? path = some data := Tree.fileAt?_some.mpr (Tree.at?_of_readFile hread)
  refine ⟨s, fun hsame => ?_⟩
  rw [hlaw, hfile] at hsame
  have hlength := length_iterate_lengthening (hlengthens write hwrite)
    (t.ways (Path.normal root) place accepts path).ncard data
  rw [Option.some.inj hsame] at hlength
  omega

/-- An application changes only files that accepted paths below its root lead to: these are below the root or are
what a link below the root leads to. So it stays below the root, whatever is replaced and whatever is in its way,
exactly if no accepted link leads out of it. -/
theorem run_contained (root : String) (accepts : String → Bool) (ht : t.Proper) :
    (t.isDirectory (Path.normal root) = false →
      ∀ s encoding env, (run s root accepts encoding env t).tree = t) ∧
    ∀ place entries, t.resolve (Path.normal root) = .ok (place, .directory entries) →
      (∀ s encoding env path, (run s root accepts encoding env t).tree.fileAt? path ≠ t.fileAt? path →
        ∃ names ∈ t.ways (Path.normal root) place accepts path,
          path = place ++ names ∨ ∃ target, t.at? (place ++ names) = some (.link target)) ∧
      ((∀ s encoding env path, (run s root accepts encoding env t).tree.fileAt? path ≠ t.fileAt? path →
          place <+: path) ↔
        ∀ path, ∀ names ∈ t.ways (Path.normal root) place accepts path,
          ∀ target, t.at? (place ++ names) = some (.link target) → place <+: path) := by
  constructor
  · intro hno s encoding env
    cases hr : s.replacer with
    | error failure => rw [run_unready hr]
    | ok r => rw [run_nowhere accepts encoding env hr hno]
  intro place entries hroot
  have hchanged : ∀ s encoding env path,
      (run s root accepts encoding env t).tree.fileAt? path ≠ t.fileAt? path →
        ∃ names ∈ t.ways (Path.normal root) place accepts path,
          path = place ++ names ∨ ∃ target, t.at? (place ++ names) = some (.link target) := by
    intro s encoding env path hchange
    obtain ⟨names, hnames⟩ := run_touches ht hroot hchange
    exact ⟨names, hnames, hnames.1.file_or_link ht hroot (Path.normal_ne_empty root)⟩
  refine ⟨hchanged, fun hcontained path names hnames target hlink => ?_, fun hlinks => ?_⟩
  · obtain ⟨s, hchange⟩ := exists_change ht hroot ⟨names, hnames⟩
    exact hcontained s _ _ path hchange
  · intro s encoding env path hchange
    obtain ⟨names, hnames, rfl | ⟨target, hlink⟩⟩ := hchanged s encoding env path hchange
    · exact List.prefix_append place names
    · exact hlinks path names hnames target hlink

/-- The link that leads out of the directory is followed, unless it is not accepted. -/
theorem run_contained_linked :
    (∃ s encoding env path, (run s "w" (fun _ => true) encoding env linked).tree.fileAt? path ≠
        linked.fileAt? path ∧ ¬["w"] <+: path) ∧
      ∀ s encoding env path,
        (run s "w" (fun name => decide (name ≠ "c")) encoding env linked).tree.fileAt? path ≠
          linked.fileAt? path → ["w"] <+: path := by
  have hout : ["c"] ∈ linked.ways (Path.normal "w") ["w"] (fun _ => true) ["out"] :=
    ⟨⟨.inr ⟨_, rfl⟩, linked_outside⟩, rfl⟩
  constructor
  · by_contra hnone
    have hcontained : ∀ s encoding env path, (run s "w" (fun _ => true) encoding env linked).tree.fileAt? path ≠
        linked.fileAt? path → ["w"] <+: path := by
      intro s encoding env path hchange
      by_contra hleft
      exact hnone ⟨s, encoding, env, path, hchange, hleft⟩
    have hall := ((run_contained "w" (fun _ => true) linked_proper).2 _ _ linked_resolve).2.mp hcontained
    exact absurd (hall _ _ hout _ rfl) (by decide)
  · refine ((run_contained "w" _ linked_proper).2 _ _ linked_resolve).2.mpr ?_
    intro path names hnames target hlink
    rcases linked_way hnames.1 with ⟨-, rfl⟩ | ⟨-, rfl⟩ | ⟨rfl, -⟩
    · exact ⟨["a"], rfl⟩
    · exact ⟨["a"], rfl⟩
    · exact absurd hnames.2 (by decide)

/-- Not every application stays below its root. -/
theorem run_escapes :
    ¬∀ s root accepts encoding env t place entries, Tree.Proper t →
      t.resolve (Path.normal root) = .ok (place, .directory entries) → ∀ path,
        (run s root accepts encoding env t).tree.fileAt? path ≠ t.fileAt? path → place <+: path := by
  intro hcontained
  have hout : (linked.ways (Path.normal "w") ["w"] (fun _ => true) ["out"]).Nonempty := by
    rw [linked_ways_outside]
    exact Set.singleton_nonempty _
  obtain ⟨s, hchange⟩ := exists_change linked_proper linked_resolve hout
  have hbelow := hcontained s "w" _ _ _ linked _ _ linked_proper linked_resolve ["out"] hchange
  exact absurd hbelow (by decide)

end TemplateSwap.Application
