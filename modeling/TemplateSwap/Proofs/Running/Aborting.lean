import TemplateSwap.Proofs.Running.Applying
import TemplateSwap.Proofs.Running.Stopping

namespace TemplateSwap.Application

open TemplateSwap.Text (Encoding)
open TemplateSwap.Tree (Step taken cut)

variable {r : Replacer} {s : Spec} {t : Tree} {encoding path root : String} {accepts : String → Bool}
variable {env : Environment} {place names : List String} {data : List UInt8} {write : List UInt8 → List UInt8}
variable {step : Step} {e : ApplyError} {steps done later : List Step} {entries : List (String × Tree)}

/-- A fault is in the way of a step of a walk, and is reported as an error. A file has to be accepted to be
opened for reading, and to get another text to be opened for writing. -/
inductive Obstructs (r : Replacer) (root : String) (accepts : String → Bool) (env : Environment) (t : Tree)
    (place : List String) : Step → ApplyError → Prop
  | listing {names : List String} (h : env.listing.contains (names.foldl Path.join root) = true) :
      Obstructs r root accepts env t place (.enter names)
        ⟨.walking, names.foldl Path.join root, .listingDenied (names.foldl Path.join root)⟩
  | reading {names : List String} {text : String} (haccepted : accepts (Path.text names) = true)
      (h : env.reading.lookup (Path.below root names) = some text) :
      Obstructs r root accepts env t place (.take names) ⟨.rewriting, Path.below root names, .denied text⟩
  | writing {names : List String} {data : List UInt8} {text : String}
      (haccepted : accepts (Path.text names) = true)
      (hread : env.reading.lookup (Path.below root names) = none)
      (hfile : t.fileAt? (place ++ names) = some data) (hchanges : r.changes data = true)
      (h : env.writing.lookup (Path.below root names) = some text) :
      Obstructs r root accepts env t place (.take names) ⟨.rewriting, Path.below root names, .denied text⟩

/-- No fault is in the way of any of the steps. -/
def Clear (r : Replacer) (root : String) (accepts : String → Bool) (env : Environment) (t : Tree)
    (place : List String) (steps : List Step) : Prop :=
  ∀ step ∈ steps, ∀ e, ¬Obstructs r root accepts env t place step e

/-- All steps are clear, or there is a first one that a fault is in the way of. -/
theorem clear_or_first (r : Replacer) (root : String) (accepts : String → Bool) (env : Environment) (t : Tree)
    (place : List String) (steps : List Step) :
    Clear r root accepts env t place steps ∨ ∃ done step later e, steps = done ++ step :: later ∧
      Clear r root accepts env t place done ∧ Obstructs r root accepts env t place step e := by
  induction steps with
  | nil => exact .inl nofun
  | cons step steps ih =>
    by_cases hstep : ∃ e, Obstructs r root accepts env t place step e
    · obtain ⟨e, he⟩ := hstep
      exact .inr ⟨[], step, steps, e, rfl, nofun, he⟩
    · have hclear : ∀ e, ¬Obstructs r root accepts env t place step e := fun e he => hstep ⟨e, he⟩
      rcases ih with ih | ⟨done, first, later, e, rfl, hdone, he⟩
      · exact .inl (List.forall_mem_cons.mpr ⟨hclear, ih⟩)
      · exact .inr ⟨step :: done, first, later, e, rfl, List.forall_mem_cons.mpr ⟨hclear, hdone⟩, he⟩

/-- A rewrite that no fault is in the way of. -/
theorem rewriteFile_clear (he : Encoding.ofName? encoding = some .utf8)
    (hread : t.readFile path = .ok (place, data)) (hreading : env.reading.lookup path = none)
    (hwriting : r.changes data = true → env.writing.lookup path = none) :
    rewriteFile r encoding env t path = rewriteFile r encoding {} t path := by
  by_cases hchanges : r.changes data = true
  · simp only [rewriteFile_encoding he, hread, hreading, hwriting hchanges, List.lookup_nil]
  · rw [changes_iff, ne_eq, not_not] at hchanges
    simp only [rewriteFile_encoding he, hread, hreading, hchanges, List.lookup_nil, if_true]

/-- A file that cannot be opened stays as it is. -/
theorem rewriteFile_denied (write : List UInt8 → List UInt8) (he : Encoding.ofName? encoding = some .utf8)
    {done : List (List String)}
    (hread : t.readFile (Path.below root names) = .ok (place ++ names, data))
    (hfile : t.fileAt? (place ++ names) = some data) (hnew : place ++ names ∉ done)
    (h : Obstructs r root accepts env t place (.take names) e) :
    rewriteFile r encoding env (t.mapFiles (Tree.only done write)) (Path.below root names) =
      ⟨t.mapFiles (Tree.only done write), [], .error (.apply e)⟩ := by
  have hread' := readFile_only write hread hnew
  cases h with
  | reading haccepted hreading => simp only [rewriteFile, hreading]
  | writing haccepted hreading hfound hchanges hwriting =>
    rw [hfile] at hfound
    obtain rfl := Option.some.inj hfound
    rw [changes_iff] at hchanges
    simp only [rewriteFile_encoding he, hreading, hread', hwriting]
    exact if_neg hchanges

/-- The steps of a walk that lead to a file: it is where the names say, and is read from there. -/
theorem exists_file (ht : t.Plain) (hroot : t.resolve root = .ok (place, .directory entries)) (hempty : root ≠ "")
    (hcovers : t.Covers place steps) (hstep : .take names ∈ steps) :
    ∃ data, t.at? (place ++ names) = some (.file data) ∧
      t.readFile (Path.below root names) = .ok (place ++ names, data) := by
  obtain ⟨data, hfile⟩ := (hcovers.mem _).mp hstep
  exact ⟨data, hfile, Tree.readFile_below ht hroot hempty hfile⟩

/-- A file is not among those that were taken before it. -/
theorem place_not_before (place : List String) (horder : (done ++ later).Pairwise Step.Before)
    (hstep : .take names ∈ later) : place ++ names ∉ (taken accepts done).map (place ++ ·) := by
  rw [List.mem_map_of_injective fun _ _ => List.append_cancel_left, Tree.mem_taken]
  intro hdone
  have hbefore := (List.pairwise_append.mp horder).2.2 _ hdone.1 _ hstep
  exact hbefore.asymm hbefore

theorem Clear.take (h : Clear r root accepts env t place steps) (hnames : names ∈ taken accepts steps) :
    env.reading.lookup (Path.below root names) = none ∧
      ∀ data, t.fileAt? (place ++ names) = some data → r.changes data = true →
        env.writing.lookup (Path.below root names) = none := by
  obtain ⟨hstep, haccepted⟩ := Tree.mem_taken.mp hnames
  have hread : env.reading.lookup (Path.below root names) = none := by
    cases hreading : env.reading.lookup (Path.below root names) with
    | none => rfl
    | some text => exact absurd (.reading haccepted hreading) (h _ hstep _)
  refine ⟨hread, fun data hfile hchanges => ?_⟩
  cases hwriting : env.writing.lookup (Path.below root names) with
  | none => rfl
  | some text => exact absurd (.writing haccepted hread hfile hchanges hwriting) (h _ hstep _)

theorem Clear.complete (h : Clear r root accepts env t place steps) :
    cut env.listing.contains [] root steps = ⟨steps.filterMap Step.taken?, none⟩ := by
  rw [Tree.cut_complete]
  · simp
  · intro names hstep
    rw [← Bool.not_eq_true]
    exact fun hlisting => h _ hstep _ (.listing hlisting)

/-- Files that no fault is in the way of are rewritten as if there were no faults. -/
theorem rewriteFiles_clear (ht : t.Plain) (he : Encoding.ofName? encoding = some .utf8) (hw : Writes r write)
    {files done : List (List String)} (v : Visit)
    (hfound : ∀ names ∈ files, ∃ data, t.at? (place ++ names) = some (.file data) ∧
      t.readFile (Path.below root names) = .ok (place ++ names, data))
    (hdistinct : (done ++ files.map (place ++ ·)).Nodup)
    (hclear : ∀ names ∈ files, env.reading.lookup (Path.below root names) = none ∧
      ∀ data, t.fileAt? (place ++ names) = some data → r.changes data = true →
        env.writing.lookup (Path.below root names) = none) :
    rewriteFiles r encoding env v (t.mapFiles (Tree.only done write)) (files.map (Path.below root)) =
      rewriteFiles r encoding {} v (t.mapFiles (Tree.only done write)) (files.map (Path.below root)) := by
  induction files generalizing done v with
  | nil => rfl
  | cons names files ih =>
    rw [List.forall_mem_cons] at hfound hclear
    obtain ⟨⟨data, hfile, hread⟩, hfound⟩ := hfound
    obtain ⟨⟨hreading, hwriting⟩, hclear⟩ := hclear
    have hshape : done ++ (names :: files).map (place ++ ·) =
        done ++ [place ++ names] ++ files.map (place ++ ·) := by simp
    rw [hshape] at hdistinct
    have hnew : place ++ names ∉ done := by
      rw [List.nodup_append, List.nodup_append] at hdistinct
      exact fun hmem => hdistinct.1.2.2 _ hmem _ List.mem_cons_self rfl
    have hone := rewriteFile_clear (r := r) he (readFile_only write hread hnew) hreading
      (hwriting data (Tree.fileAt?_some.mpr hfile))
    obtain ⟨htree, count, hresult, -⟩ := rewriteFile_only ht.proper he hw hread hnew
    simp only [List.map_cons, rewriteFiles, hone, hresult, htree]
    rw [ih _ hfound hdistinct hclear]

/-- What is done by the first steps of a walk if no fault is in their way. -/
theorem rewriteFiles_done (ht : t.Plain) (he : Encoding.ofName? encoding = some .utf8) (hw : Writes r write)
    (hroot : t.resolve root = .ok (place, .directory entries)) (hempty : root ≠ "")
    (hcovers : t.Covers place (done ++ later)) (hclear : Clear r root accepts env t place done) :
    rewriteFiles r encoding env {} t ((taken accepts done).map (Path.below root)) =
        rewriteFiles r encoding {} {} t ((taken accepts done).map (Path.below root)) ∧
      (rewriteFiles r encoding {} {} t ((taken accepts done).map (Path.below root))).tree =
        t.mapFiles (Tree.only ((taken accepts done).map (place ++ ·)) write) ∧
      ∃ visit, (rewriteFiles r encoding {} {} t ((taken accepts done).map (Path.below root))).result =
        .ok visit := by
  have hfound : ∀ names ∈ taken accepts done, ∃ data, t.at? (place ++ names) = some (.file data) ∧
      t.readFile (Path.below root names) = .ok (place ++ names, data) := by
    intro names hnames
    exact exists_file ht hroot hempty hcovers (List.mem_append_left _ (Tree.mem_taken.mp hnames).1)
  have hnodup : (taken accepts done).Nodup := by
    have hall := (hcovers.selects accepts).nodup
    rw [Tree.taken_append, List.nodup_append] at hall
    exact hall.1
  have hplaces : ([] ++ (taken accepts done).map (place ++ ·)).Nodup :=
    hnodup.map fun _ _ => List.append_cancel_left
  have hstart : t.mapFiles (Tree.only [] write) = t := by
    have hsame : Tree.only [] write = fun _ data => data := by
      funext path data
      simp [Tree.only]
    rw [hsame]
    exact Tree.mapFiles_same ht
  have hspared := rewriteFiles_clear ht he hw {} hfound hplaces fun names => hclear.take
  obtain ⟨htree, hresult⟩ := rewriteFiles_only ht he hw {} hfound hplaces
  rw [hstart] at hspared htree hresult
  exact ⟨hspared, htree, _, hresult⟩

theorem Obstructs.accepted (h : Obstructs r root accepts env t place (.take names) e) :
    accepts (Path.text names) = true := by
  cases h with
  | reading haccepted => exact haccepted
  | writing haccepted => exact haccepted

/-- The walk ends at a directory that cannot be listed. -/
theorem cut_at_listing (hclear : Clear r root accepts env t place done)
    (h : env.listing.contains (names.foldl Path.join root) = true) (later : List Step) :
    cut env.listing.contains [] root (done ++ .enter names :: later) =
      ⟨done.filterMap Step.taken?, some (.listingDenied (names.foldl Path.join root))⟩ := by
  rw [Tree.cut_append, hclear.complete, cut, if_pos h, Walk.append, List.append_nil]

/-- The walk goes on behind a file. -/
theorem cut_at_file (hclear : Clear r root accepts env t place done)
    (haccepted : accepts (Path.text names) = true) (later : List Step) :
    ∃ more, (cut env.listing.contains [] root (done ++ .take names :: later)).files.filter
        (fun names => accepts (Path.text names)) = taken accepts done ++ names :: more := by
  refine ⟨(cut env.listing.contains [] root later).files.filter fun names => accepts (Path.text names), ?_⟩
  rw [Tree.cut_append, hclear.complete, cut, Walk.append, List.filter_append, List.filter_cons]
  simp [haccepted, taken]

/-- The first obstacle ends the application with its error. -/
theorem run_obstructed (hr : s.replacer = .ok r) (ht : t.Plain) (he : Encoding.ofName? encoding = some .utf8)
    (hw : Writes r write) (hroot : t.resolve (Path.normal root) = .ok (place, .directory entries))
    (hcovers : t.Covers place (done ++ step :: later))
    (hwalk : t.walk env (Path.normal root) =
      cut env.listing.contains [] (Path.normal root) (done ++ step :: later))
    (hclear : Clear r (Path.normal root) accepts env t place done)
    (h : Obstructs r (Path.normal root) accepts env t place step e) :
    (run s root accepts encoding env t).tree =
        t.mapFiles (Tree.only ((taken accepts done).map (place ++ ·)) write) ∧
      (run s root accepts encoding env t).result = .error (.apply e) := by
  have hempty := Path.normal_ne_empty root
  obtain ⟨hspared, htree, visit, hvisit⟩ := rewriteFiles_done ht he hw hroot hempty hcovers hclear
  rw [← hspared] at htree hvisit
  cases step with
  | enter names =>
    cases h with
    | listing hlisting =>
      rw [cut_at_listing hclear hlisting] at hwalk
      have hfiles : (done.filterMap Step.taken?).filter (fun names => accepts (Path.text names)) =
        taken accepts done := rfl
      simp only [run, hr, hwalk, hfiles, hvisit, failedPath]
      exact ⟨htree, trivial⟩
  | take names =>
    obtain ⟨more, hmore⟩ := cut_at_file hclear h.accepted later
    have hstep : .take names ∈ done ++ .take names :: later := List.mem_append_right done List.mem_cons_self
    obtain ⟨data, hfile, hread⟩ := exists_file ht hroot hempty hcovers hstep
    have hnew : place ++ names ∉ (taken accepts done).map (place ++ ·) :=
      place_not_before place hcovers.order List.mem_cons_self
    have hdenied := rewriteFile_denied write he hread (Tree.fileAt?_some.mpr hfile) hnew h
    obtain ⟨hall, hresult⟩ := rewriteFiles_append hvisit
      (Path.below (Path.normal root) names :: more.map (Path.below (Path.normal root)))
    rw [htree] at hall hresult
    simp only [rewriteFiles, hdenied] at hall hresult
    rw [← List.map_cons, ← List.map_append, ← hmore, ← hwalk] at hall hresult
    simp only [run, hr, hresult]
    exact ⟨hall, trivial⟩

/-- Without obstacles the application is as without faults. -/
theorem run_clear (hr : s.replacer = .ok r) (ht : t.Plain) (he : Encoding.ofName? encoding = some .utf8)
    (hw : Writes r write) (hroot : t.resolve (Path.normal root) = .ok (place, .directory entries))
    (hcovers : t.Covers place steps)
    (hwalk : ∀ env, t.walk env (Path.normal root) = cut env.listing.contains [] (Path.normal root) steps)
    (hclear : Clear r (Path.normal root) accepts env t place steps) :
    run s root accepts encoding env t = run s root accepts encoding {} t := by
  have hnone : t.walk {} (Path.normal root) = ⟨steps.filterMap Step.taken?, none⟩ := by
    rw [hwalk, Tree.cut_complete fun _ _ => rfl]
    simp
  have henv := (hwalk env).trans hclear.complete
  have hfiles : (steps.filterMap Step.taken?).filter (fun names => accepts (Path.text names)) =
    taken accepts steps := rfl
  rw [← List.append_nil steps] at hcovers
  obtain ⟨hspared, -⟩ := rewriteFiles_done ht he hw hroot (Path.normal_ne_empty root) hcovers hclear
  simp only [run, hr, hnone, henv, hfiles, hspared]

/-- There is nothing to walk where there is no directory. -/
theorem run_nowhere (accepts : String → Bool) (encoding : String) (env : Environment) (hr : s.replacer = .ok r)
    (h : t.isDirectory (Path.normal root) = false) :
    run s root accepts encoding env t = ⟨t, [], .error (.apply
      ⟨.walking, Path.normal root, .notDirectory (Path.normal root)⟩)⟩ := by
  have hwalk : t.walk env (Path.normal root) = ⟨[], some (.notDirectory (Path.normal root))⟩ := by
    unfold Tree.isDirectory at h
    unfold Tree.walk
    cases hroot : t.resolve (Path.normal root) with
    | error error => rfl
    | ok found =>
      obtain ⟨place, node⟩ := found
      cases node with
      | file data => rfl
      | link target => rfl
      | directory entries =>
        rw [hroot] at h
        cases h
  simp only [run, hr, hwalk, List.filter_nil, List.map_nil, rewriteFiles, failedPath]

/-- An application goes through the steps of a walk up to the first one that a fault is in the way of, and ends
with the error of that fault. The accepted files before it are rewritten, and all other files, that one and those
after it among them, are as they were. If no fault is in the way, all is done as without faults, and if the root is
no directory, nothing is done. -/
theorem run_aborts (accepts : String → Bool) (env : Environment) (hr : s.replacer = .ok r) (ht : t.Plain)
    (he : Encoding.ofName? encoding = some .utf8) :
    ∃ write, Writes r write ∧
      (t.isDirectory (Path.normal root) = false →
        run s root accepts encoding env t = ⟨t, [], .error (.apply
          ⟨.walking, Path.normal root, .notDirectory (Path.normal root)⟩)⟩) ∧
      ∀ place entries, t.resolve (Path.normal root) = .ok (place, .directory entries) →
        ∃ steps, t.Covers place steps ∧
          (Clear r (Path.normal root) accepts env t place steps ∧
              run s root accepts encoding env t = run s root accepts encoding {} t ∨
            ∃ done step later e, steps = done ++ step :: later ∧
              Clear r (Path.normal root) accepts env t place done ∧
              Obstructs r (Path.normal root) accepts env t place step e ∧
              (run s root accepts encoding env t).result = .error (.apply e) ∧
              (run s root accepts encoding env t).tree =
                t.mapFiles (Tree.only ((taken accepts done).map (place ++ ·)) write) ∧
              (∀ path, (run s root accepts encoding env t).tree.fileAt? path =
                (t.fileAt? path).map (Tree.only ((taken accepts done).map (place ++ ·)) write path)) ∧
              ∀ names, .take names ∈ step :: later →
                (run s root accepts encoding env t).tree.fileAt? (place ++ names) =
                  t.fileAt? (place ++ names)) := by
  obtain ⟨write, hw⟩ := exists_writes r
  refine ⟨write, hw, run_nowhere accepts encoding env hr, ?_⟩
  intro place entries hroot
  obtain ⟨steps, hcovers, hwalk⟩ := Tree.walk_steps ht hroot
  refine ⟨steps, hcovers, ?_⟩
  rcases clear_or_first r (Path.normal root) accepts env t place steps with
    hclear | ⟨done, step, later, e, rfl, hclear, hobstructs⟩
  · exact .inl ⟨hclear, run_clear hr ht he hw hroot hcovers hwalk hclear⟩
  · obtain ⟨htree, hresult⟩ := run_obstructed hr ht he hw hroot hcovers (hwalk env) hclear hobstructs
    refine .inr ⟨done, step, later, e, rfl, hclear, hobstructs, hresult, htree, ?_, ?_⟩
    · intro path
      rw [htree, Tree.fileAt?_mapFiles]
    · intro names hstep
      have hnew : place ++ names ∉ (taken accepts done).map (place ++ ·) :=
        place_not_before place hcovers.order hstep
      have hsame : Tree.only ((taken accepts done).map (place ++ ·)) write (place ++ names) = id :=
        funext fun data => if_neg hnew
      rw [htree, Tree.fileAt?_mapFiles, hsame, Option.map_id, id]

/-- One directory cannot be listed: the file beside it is rewritten, and the file in it is not. -/
theorem run_aborts_nested :
    ∃ s e, Spec.create { before := "foo", after := "bar" } = .ok s ∧
      (run s "w" (fun path => decide (path ≠ "d")) "utf-8" { listing := ["w/b"] }
        (.directory [("w", .directory nested)])).result = .error (.apply e) ∧
      (run s "w" (fun path => decide (path ≠ "d")) "utf-8" { listing := ["w/b"] }
        (.directory [("w", .directory nested)])).tree.fileAt? ["w", "c"] =
          some [0xFF, 0x62, 0x61, 0x72, 0x0D, 0x0A] ∧
      (run s "w" (fun path => decide (path ≠ "d")) "utf-8" { listing := ["w/b"] }
        (.directory [("w", .directory nested)])).tree.fileAt? ["w", "b", "x"] = some [0x66, 0x6F, 0x6F] := by
  have hcreated : ∃ s, Spec.create { before := "foo", after := "bar" } = .ok s ∧
      s.replacer.toOption.any (fun r => decide (Encoding.utf8.encode (r.replace (Encoding.utf8.decode
        [0xFF, 0x66, 0x6F, 0x6F, 0x0D, 0x0A])) = .ok [0xFF, 0x62, 0x61, 0x72, 0x0D, 0x0A])) = true :=
    Results.exists_ok (by decide +kernel)
  obtain ⟨s, hs, hreplacer⟩ := hcreated
  obtain ⟨r, hr, hbytes⟩ := Results.exists_ok hreplacer
  have hnormal : Path.normal "w" = "w" := Path.normal_name (by decide)
  have hparts : Path.parts (Path.normal "w") = ["w"] := by rw [hnormal, Path.parts_name (by decide)]
  have hroot : (Tree.directory [("w", .directory nested)]).resolve (Path.normal "w") =
      .ok (["w"], .directory nested) := by
    rw [hnormal]
    exact Tree.resolve_name (by decide) rfl fun _ => Tree.noConfusion
  obtain ⟨write, hwrite, -, hwalks⟩ :=
    run_aborts (fun path => decide (path ≠ "d")) { listing := ["w/b"] } hr nested_plain Encoding.ofName?_utf8
  obtain ⟨steps, hcovers, hrun⟩ := hwalks _ _ hroot
  have hb : .enter ["b"] ∈ steps := (hcovers.mem _).mpr ⟨_, rfl⟩
  have hc : .take ["c"] ∈ steps := (hcovers.mem _).mpr ⟨_, rfl⟩
  have hx : .take ["b", "x"] ∈ steps := (hcovers.mem _).mpr ⟨_, rfl⟩
  rcases hrun with ⟨hclear, -⟩ | ⟨done, step, later, e, rfl, -, hobstructs, hresult, -, hfiles, hkept⟩
  · exact absurd (.listing (by decide +kernel)) (hclear _ hb _)
  · have hstep : step = .enter ["b"] := by
      cases hobstructs with
      | @listing names h =>
        have hstep : .enter names ∈ done ++ .enter names :: later := List.mem_append_right done List.mem_cons_self
        obtain ⟨entries, hdirectory⟩ := (hcovers.mem _).mp hstep
        have hnames : ∀ name ∈ names, Path.IsName name :=
          fun name hname => (nested_plain.at? hdirectory).1 name (List.mem_append_right _ hname)
        have hcalled : names.foldl Path.join (Path.normal "w") = "w/b" := by simpa using h
        have hjoined : Path.parts (names.foldl Path.join (Path.normal "w")) =
            Path.parts (Path.normal "w") ++ names := Path.parts_joined hnames
        rw [hcalled, hparts] at hjoined
        have hb : Path.parts "w/b" = ["w"] ++ ["b"] := by decide
        rw [List.append_cancel_left (hb.symm.trans hjoined)]
      | reading _ h => cases h
      | writing _ _ _ _ h => cases h
    obtain rfl := hstep
    obtain ⟨-, hlater, hdone⟩ := List.pairwise_append.mp hcovers.order
    have hbefore : .take ["c"] ∈ done := by
      rcases List.mem_append.mp hc with hmem | hmem
      · exact hmem
      · rcases List.mem_cons.mp hmem with heq | hmem
        · cases heq
        · have hlate : Tree.Precedes ["b", ""] ["c"] := (List.pairwise_cons.mp hlater).1 _ hmem
          exact absurd hlate (by decide)
    have hafter : .take ["b", "x"] ∈ .enter ["b"] :: later := by
      rcases List.mem_append.mp hx with hmem | hmem
      · have hearly : Tree.Precedes ["b", "x"] ["b", ""] := hdone _ hmem _ List.mem_cons_self
        exact absurd hearly (by decide)
      · exact hmem
    refine ⟨s, e, hs, hresult, ?_, hkept _ hafter⟩
    have hwritten := (hwrite _).symm.trans (of_decide_eq_true hbytes)
    have haccepted : ["w", "c"] ∈ (taken (fun path => decide (path ≠ "d")) done).map (["w"] ++ ·) :=
      List.mem_map_of_mem (Tree.mem_taken.mpr ⟨hbefore, by decide⟩)
    rw [hfiles]
    exact congrArg some ((if_pos haccepted).trans (Except.ok.inj hwritten))

end TemplateSwap.Application
