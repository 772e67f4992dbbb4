import TemplateSwap.Proofs.Replacement.Origins
import TemplateSwap.Proofs.Running.Stopping
import TemplateSwap.Proofs.Tree.Finding
import TemplateSwap.Proofs.Tree.Walking

namespace TemplateSwap

open TemplateSwap.Text (Encoding codes Lines.lineBreak)

/-- Whether a file with the given contents gets another text. -/
def Replacer.changes (r : Replacer) (data : List UInt8) : Bool :=
  decide (r.replace (Encoding.utf8.decode data) ≠ Encoding.utf8.decode data)

/-- New contents for the files at some paths. -/
def Tree.only (paths : List (List String)) (write : List UInt8 → List UInt8) (path : List String)
    (data : List UInt8) : List UInt8 :=
  if path ∈ paths then write data else data

namespace Visit

/-- Files recorded one after the other, with whether their texts changed. -/
def recordAll (v : Visit) (files : List (String × Bool)) : Visit :=
  files.foldl (fun v file => v.record file.1 file.2) v

/-- The report of visits to files. The paths are as seen from a root. -/
structure Reports (v : Visit) (identity root : String) (files rewritten : List (List String)) : Prop where
  visited : v.visited = files.length
  changedPaths : v.changedPaths = rewritten.map (Path.below root)
  distinct : v.changedPaths.Nodup
  changed : v.changed = v.changedPaths.length
  events : v.events = v.changedPaths.map .changed ++ if rewritten = [] then [.noop identity] else []

theorem recordAll_eq (v : Visit) (files : List (String × Bool)) :
    v.recordAll files =
      { visited := v.visited + files.length
        changed := v.changed + (files.filter (·.2)).length
        changedPaths := v.changedPaths ++ (files.filter (·.2)).map (·.1)
        events := v.events ++ (files.filter (·.2)).map fun file => .changed file.1 } := by
  induction files generalizing v with
  | nil => simp [recordAll]
  | cons file files ih =>
    obtain ⟨path, changed⟩ := file
    have hstep : v.recordAll ((path, changed) :: files) = (v.record path changed).recordAll files := rfl
    rw [hstep, ih]
    cases changed <;> simp [record] <;> omega

theorem close_eq (v : Visit) (identity : String) :
    v.close identity =
      { v with events := v.events ++ if v.changed = 0 then [.noop identity] else [] } := by
  unfold close isNoop
  by_cases h : v.changed = 0
  · simp [h]
  · simp [h]

/-- The report at the end of the visits to different files. -/
theorem reports_close {root identity : String} {files : List (List String)} (changes : List String → Bool)
    (hnames : ∀ names ∈ files, ∀ name ∈ names, Path.IsName name) (hdistinct : files.Nodup) :
    ((({} : Visit).recordAll (files.map fun names => (Path.below root names, changes names))).close
      identity).Reports identity root files (files.filter changes) := by
  have hfilter : (files.map fun names => (Path.below root names, changes names)).filter (·.2) =
      (files.filter changes).map fun names => (Path.below root names, changes names) := List.filter_map
  have hpaths : ((files.filter changes).map (Path.below root)).Nodup := by
    refine (hdistinct.filter changes).map_on ?_
    intro names hmem others hothers heq
    exact Path.below_injective (hnames names (List.mem_of_mem_filter hmem))
      (hnames others (List.mem_of_mem_filter hothers)) heq
  rw [close_eq, recordAll_eq, hfilter]
  constructor <;> simp [Function.comp_def, hpaths]

end Visit

namespace Application

variable {r : Replacer} {t : Tree} {encoding path : String} {place names : List String} {data : List UInt8}
variable {write : List UInt8 → List UInt8}

/-- What is written for the contents of a file. -/
def Writes (r : Replacer) (write : List UInt8 → List UInt8) : Prop :=
  ∀ data, Encoding.utf8.encode (r.replace (Encoding.utf8.decode data)) = .ok (write data)

theorem exists_writes (r : Replacer) : ∃ write, Writes r write := by
  have h : ∀ data, ∃ bytes, Encoding.utf8.encode (r.replace (Encoding.utf8.decode data)) = .ok bytes := by
    intro data
    -- Bytes that are no text have codes that turn into bytes again, and the after template is text.
    refine Encoding.encode_ok.mpr (Replacer.forall_replace ?_ rfl ?_)
    · exact fun s _ c hc => Encoding.encodable_of_mem_codes hc
    · exact fun c hc => Encoding.encodable_of_mem_decode hc
  choose write hwrite using h
  exact ⟨write, hwrite⟩

theorem changes_iff : r.changes data = true ↔ r.replace (Encoding.utf8.decode data) ≠ Encoding.utf8.decode data :=
  decide_eq_true_iff

theorem Writes.same (h : Writes r write) (hsame : ¬r.changes data = true) : write data = data := by
  have hdata := h data
  rw [changes_iff, ne_eq, not_not] at hsame
  rw [hsame, Encoding.encode_decode_utf8] at hdata
  exact (Except.ok.inj hdata).symm

theorem rewriteFile_same (he : Encoding.ofName? encoding = some .utf8)
    (hread : t.readFile path = .ok (place, data)) (hsame : ¬r.changes data = true) :
    rewriteFile r encoding {} t path = ⟨t, [], .ok none⟩ := by
  rw [changes_iff, ne_eq, not_not] at hsame
  simp only [rewriteFile_encoding he, hread, List.lookup_nil]
  exact if_pos hsame

theorem rewriteFile_changed (he : Encoding.ofName? encoding = some .utf8) (hw : Writes r write)
    (hread : t.readFile path = .ok (place, data)) (hchanged : r.changes data = true) :
    ∃ count, rewriteFile r encoding {} t path =
      ⟨t.put place (.file (write data)), [.rewrote path count], .ok (some count)⟩ := by
  rw [changes_iff] at hchanged
  refine ⟨(r.replaceCount (Encoding.utf8.decode data)).2, ?_⟩
  simp only [rewriteFile_encoding he, hread, List.lookup_nil, hw data]
  exact if_neg hchanged

/-- A file that is not done yet is read as it was. -/
theorem readFile_only (write : List UInt8 → List UInt8) {done : List (List String)}
    (hread : t.readFile path = .ok (place, data)) (hnew : place ∉ done) :
    (t.mapFiles (Tree.only done write)).readFile path = .ok (place, data) := by
  rw [Tree.readFile_mapFiles, hread, Except.map, Tree.only, if_neg hnew]

/-- A file is rewritten in a tree where files have new contents already, and the contents of the others stay. -/
theorem rewriteFile_mapFiles (ht : t.Proper) (he : Encoding.ofName? encoding = some .utf8) (hw : Writes r write)
    {f g : List String → List UInt8 → List UInt8} (hread : t.readFile path = .ok (place, data))
    (hothers : ∀ other, other ≠ place → g other = f other) (hnew : g place data = write (f place data)) :
    (rewriteFile r encoding {} (t.mapFiles f) path).tree = t.mapFiles g ∧
      ∃ count, (rewriteFile r encoding {} (t.mapFiles f) path).result = .ok count ∧
        count.isSome = r.changes (f place data) := by
  have hfile := Tree.at?_of_readFile hread
  have hread' : (t.mapFiles f).readFile path = .ok (place, f place data) := by
    rw [Tree.readFile_mapFiles, hread]
    rfl
  have hput := Tree.put_mapFiles ht hfile hothers hnew
  by_cases hchanges : r.changes (f place data) = true
  · obtain ⟨count, hone⟩ := rewriteFile_changed he hw hread' hchanges
    rw [hone, hchanges]
    exact ⟨hput, some count, rfl, rfl⟩
  · -- What would be written is what the file holds.
    have hkept := Tree.put_mapFiles (g := f) ht hfile (fun _ _ => rfl) rfl
    rw [rewriteFile_same he hread' hchanges, ← hput, hw.same hchanges, hkept]
    exact ⟨rfl, none, rfl, by simpa using hchanges⟩

/-- A file that is not done yet is rewritten from its own contents. -/
theorem rewriteFile_only (ht : t.Proper) (he : Encoding.ofName? encoding = some .utf8) (hw : Writes r write)
    {done : List (List String)} (hread : t.readFile path = .ok (place, data)) (hnew : place ∉ done) :
    (rewriteFile r encoding {} (t.mapFiles (Tree.only done write)) path).tree =
        t.mapFiles (Tree.only (done ++ [place]) write) ∧
      ∃ count, (rewriteFile r encoding {} (t.mapFiles (Tree.only done write)) path).result = .ok count ∧
        count.isSome = r.changes data := by
  have hold : Tree.only done write place data = data := if_neg hnew
  have hothers : ∀ other, other ≠ place →
      Tree.only (done ++ [place]) write other = Tree.only done write other := by
    intro other hother
    funext data
    simp [Tree.only, hother]
  have hwritten : Tree.only (done ++ [place]) write place data = write (Tree.only done write place data) := by
    rw [hold]
    simp [Tree.only]
  have hstep := rewriteFile_mapFiles ht he hw hread hothers hwritten
  rwa [hold] at hstep

/-- The tree on the way is the first tree with the files that are done rewritten. -/
theorem rewriteFiles_only (ht : t.Plain) (he : Encoding.ofName? encoding = some .utf8) (hw : Writes r write)
    {root : String} {files done : List (List String)} (v : Visit)
    (hfound : ∀ names ∈ files, ∃ data, t.at? (place ++ names) = some (.file data) ∧
      t.readFile (Path.below root names) = .ok (place ++ names, data))
    (hdistinct : (done ++ files.map (place ++ ·)).Nodup) :
    (rewriteFiles r encoding {} v (t.mapFiles (Tree.only done write)) (files.map (Path.below root))).tree =
        t.mapFiles (Tree.only (done ++ files.map (place ++ ·)) write) ∧
      (rewriteFiles r encoding {} v (t.mapFiles (Tree.only done write)) (files.map (Path.below root))).result =
        .ok (v.recordAll (files.map fun names =>
          (Path.below root names, (t.fileAt? (place ++ names)).any r.changes))) := by
  induction files generalizing done v with
  | nil => simp [rewriteFiles, Visit.recordAll]
  | cons names files ih =>
    rw [List.forall_mem_cons] at hfound
    obtain ⟨⟨data, hfile, hread⟩, hrest⟩ := hfound
    have hshape : done ++ (names :: files).map (place ++ ·) =
        done ++ [place ++ names] ++ files.map (place ++ ·) := by simp
    rw [hshape] at hdistinct ⊢
    have hnew : place ++ names ∉ done := by
      rw [List.nodup_append, List.nodup_append] at hdistinct
      exact fun hmem => hdistinct.1.2.2 _ hmem _ List.mem_cons_self rfl
    obtain ⟨htree, count, hresult, hcount⟩ := rewriteFile_only ht.proper he hw hread hnew
    obtain ⟨hfinal, hvisit⟩ := ih (v.record (Path.below root names) (r.changes data)) hrest hdistinct
    rw [List.map_cons, List.map_cons, Tree.fileAt?_some.mpr hfile]
    simp only [rewriteFiles, hresult, htree, hcount]
    exact ⟨hfinal, hvisit⟩

theorem run_complete {s : Spec} {root : String} {accepts : String → Bool} {env : Environment} {visit : Visit}
    {files : List (List String)} (hr : s.replacer = .ok r)
    (hfiles : (t.walk env (Path.normal root)).files.filter (fun names => accepts (Path.text names)) = files)
    (hcomplete : (t.walk env (Path.normal root)).failure = none)
    (hvisit : (rewriteFiles r encoding env {} t (files.map (Path.below (Path.normal root)))).result =
      .ok visit) :
    (run s root accepts encoding env t).tree =
        (rewriteFiles r encoding env {} t (files.map (Path.below (Path.normal root)))).tree ∧
      (run s root accepts encoding env t).result = .ok (visit.close s.describe) := by
  simp only [run, hr, hfiles, hvisit, hcomplete, and_self]

/-- What an application that gives a report has done. -/
theorem run_ok {s : Spec} {root : String} {accepts : String → Bool} {env : Environment} {visit : Visit}
    (h : (run s root accepts encoding env t).result = .ok visit) :
    ∃ r found files, s.replacer = .ok r ∧ (t.walk env (Path.normal root)).failure = none ∧
      (t.walk env (Path.normal root)).files.filter (fun names => accepts (Path.text names)) = files ∧
      (rewriteFiles r encoding env {} t (files.map (Path.below (Path.normal root)))).result = .ok found ∧
      visit = found.close s.describe := by
  unfold run at h
  cases hr : s.replacer with
  | error failure =>
    simp only [hr] at h
    cases h
  | ok r =>
    simp only [hr] at h
    generalize (t.walk env (Path.normal root)).files.filter (fun names => accepts (Path.text names)) =
      files at h
    cases hresult : (rewriteFiles r encoding env {} t (files.map (Path.below (Path.normal root)))).result with
    | error failure =>
      simp only [hresult] at h
      cases h
    | ok found =>
      simp only [hresult] at h
      cases hfailure : (t.walk env (Path.normal root)).failure with
      | some error =>
        simp only [hfailure] at h
        cases h
      | none =>
        simp only [hfailure] at h
        exact ⟨r, found, files, rfl, rfl, rfl, hresult, (Except.ok.inj h).symm⟩

/-- All that is done to a tree with one file is to rewrite it. -/
theorem run_one {s : Spec} {root : String} {accepts : String → Bool} {env : Environment} (encoding : String)
    (hr : s.replacer = .ok r) (hwalk : t.walk env (Path.normal root) = ⟨[names], none⟩)
    (haccepted : accepts (Path.text names) = true) (hpath : Path.below (Path.normal root) names = path) :
    (run s root accepts encoding env t).tree = (rewriteFile r encoding env t path).tree ∧
      (run s root accepts encoding env t).result = (rewriteFile r encoding env t path).result.map fun count =>
        (({} : Visit).record path count.isSome).close s.describe := by
  have hfiles : [names].filter (fun names => accepts (Path.text names)) = [names] := by simp [haccepted]
  simp only [run, hr, hwalk, hfiles, List.map_cons, List.map_nil, hpath, rewriteFiles]
  cases (rewriteFile r encoding env t path).result <;> simp [Except.map]

/-- An application to a tree without links rewrites the accepted files, each from its own contents, and
reports which of them changed. -/
theorem run_exact {s : Spec} {root : String} {entries : List (String × Tree)} (accepts : String → Bool)
    (hr : s.replacer = .ok r) (ht : t.Plain)
    (hroot : t.resolve (Path.normal root) = .ok (place, .directory entries))
    (he : Encoding.ofName? encoding = some .utf8) :
    ∃ files write visit, t.Selects place accepts files ∧ Writes r write ∧
      (run s root accepts encoding {} t).tree = t.mapFiles (Tree.only (files.map (place ++ ·)) write) ∧
      (∀ path, (run s root accepts encoding {} t).tree.fileAt? path =
        (t.fileAt? path).map (Tree.only (files.map (place ++ ·)) write path)) ∧
      (run s root accepts encoding {} t).result = .ok visit ∧
      visit.Reports s.describe (Path.normal root) files
        (files.filter fun names => (t.fileAt? (place ++ names)).any r.changes) := by
  obtain ⟨write, hwrite⟩ := exists_writes r
  obtain ⟨hcomplete, hselects⟩ := Tree.walk_selects ht hroot accepts
  generalize hfiles : (t.walk {} (Path.normal root)).files.filter (fun names => accepts (Path.text names)) =
    files at hselects
  have hnames : ∀ names ∈ files, ∀ name ∈ names, Path.IsName name := by
    intro names hmem name hname
    obtain ⟨data, hfile⟩ := hselects.found hmem
    exact (ht.at? hfile).1 name (List.mem_append_right _ hname)
  have hread : ∀ names ∈ files, ∃ data, t.at? (place ++ names) = some (.file data) ∧
      t.readFile (Path.below (Path.normal root) names) = .ok (place ++ names, data) := by
    intro names hmem
    obtain ⟨data, hfile⟩ := hselects.found hmem
    exact ⟨data, hfile, Tree.readFile_below ht hroot (Path.normal_ne_empty root) hfile⟩
  have hplaces : ([] ++ files.map (place ++ ·)).Nodup :=
    hselects.nodup.map fun _ _ => List.append_cancel_left
  obtain ⟨htree, hvisit⟩ := rewriteFiles_only ht he hwrite {} hread hplaces
  have hstart : t.mapFiles (Tree.only [] write) = t := by
    have hsame : Tree.only [] write = fun _ data => data := by
      funext path data
      simp [Tree.only]
    rw [hsame]
    exact Tree.mapFiles_same ht
  rw [hstart, List.nil_append] at htree
  rw [hstart] at hvisit
  obtain ⟨hruntree, hresult⟩ := run_complete hr hfiles hcomplete hvisit
  rw [htree] at hruntree
  rw [hruntree]
  exact ⟨files, write, _, hselects, hwrite, rfl, Tree.fileAt?_mapFiles _ t, hresult,
    Visit.reports_close _ hnames hselects.nodup⟩

/-- Files with a match in a directory and in its subdirectory. -/
def nested : List (String × Tree) :=
  [("b", .directory [("x", .file [0x66, 0x6F, 0x6F])]),
    ("c", .file [0xFF, 0x66, 0x6F, 0x6F, 0x0D, 0x0A]), ("d", .file [0x66, 0x6F, 0x6F])]

theorem nested_plain : (Tree.directory [("w", .directory nested)]).Plain := by
  have hx : (Tree.directory [("x", .file [0x66, 0x6F, 0x6F])]).Plain :=
    .directory (by decide) (by decide) (by simpa using .file _)
  have hw : (Tree.directory nested).Plain :=
    .directory (by decide) (by decide) (by simpa [nested] using ⟨hx, .file _, .file _⟩)
  exact .directory (by decide) (by decide) (by simpa using hw)

/-- One file is not accepted, and one holds a byte that is no text. -/
theorem run_exact_nested :
    ∃ s visit, Spec.create { before := "foo", after := "bar" } = .ok s ∧
      (run s "w" (fun path => decide (path ≠ "d")) "utf-8" {} (.directory [("w", .directory nested)])).result =
        .ok visit ∧
      visit.changed = visit.changedPaths.length ∧
      (run s "w" (fun path => decide (path ≠ "d")) "utf-8" {}
        (.directory [("w", .directory nested)])).tree.fileAt? ["w", "c"] =
          some [0xFF, 0x62, 0x61, 0x72, 0x0D, 0x0A] ∧
      (run s "w" (fun path => decide (path ≠ "d")) "utf-8" {}
        (.directory [("w", .directory nested)])).tree.fileAt? ["w", "d"] = some [0x66, 0x6F, 0x6F] := by
  have hcreated : ∃ s, Spec.create { before := "foo", after := "bar" } = .ok s ∧
      s.replacer.toOption.any (fun r => decide (Encoding.utf8.encode (r.replace (Encoding.utf8.decode
        [0xFF, 0x66, 0x6F, 0x6F, 0x0D, 0x0A])) = .ok [0xFF, 0x62, 0x61, 0x72, 0x0D, 0x0A])) = true :=
    Results.exists_ok (by decide +kernel)
  obtain ⟨s, hs, hreplacer⟩ := hcreated
  obtain ⟨r, hr, hbytes⟩ := Results.exists_ok hreplacer
  have hroot : (Tree.directory [("w", .directory nested)]).resolve (Path.normal "w") =
      .ok (["w"], .directory nested) := by
    rw [Path.normal_name (by decide)]
    exact Tree.resolve_name (by decide) rfl fun _ => Tree.noConfusion
  obtain ⟨files, write, visit, hselects, hwrite, -, hfiles, hresult, hreports⟩ :=
    run_exact (fun path => decide (path ≠ "d")) hr nested_plain hroot Encoding.ofName?_utf8
  have haccepted : ["w", "c"] ∈ files.map (["w"] ++ ·) :=
    List.mem_map_of_mem ((hselects.mem ["c"]).mpr ⟨rfl, by decide⟩)
  have hrefused : ["w", "d"] ∉ files.map (["w"] ++ ·) := by
    intro hmem
    obtain ⟨names, hnames, heq⟩ := List.mem_map.mp hmem
    obtain rfl : names = ["d"] := List.append_cancel_left heq
    exact absurd ((hselects.mem ["d"]).mp hnames).2 (by decide)
  refine ⟨s, visit, hs, hresult, hreports.changed, ?_, ?_⟩
  · have hwritten := (hwrite _).symm.trans (of_decide_eq_true hbytes)
    rw [hfiles]
    exact congrArg some ((if_pos haccepted).trans (Except.ok.inj hwritten))
  · rw [hfiles]
    exact congrArg some (if_neg hrefused)

end Application

/-- A transformation that gives the only file of a tree a new text. -/
theorem Transformation.apply_one {t : Transformation} {r : Replacer} {tree : Tree} {root path : String}
    {place names : List String} {old new : List UInt8} (hr : t.spec.replacer = .ok r)
    (he : Encoding.ofName? t.encoding = some .utf8) (haccepted : t.paths.accepts (Path.text names) = true)
    (hwalk : tree.walk {} (Path.normal root) = ⟨[names], none⟩)
    (hpath : Path.below (Path.normal root) names = path)
    (hread : tree.readFile path = .ok (place, old)) (hchanges : r.changes old = true)
    (hbytes : Encoding.utf8.encode (r.replace (Encoding.utf8.decode old)) = .ok new) :
    ∃ result, (t.apply root {} tree).result = .ok result ∧ result.ok = true ∧
      (t.apply root {} tree).tree = tree.put place (.file new) := by
  obtain ⟨write, hwrite⟩ := Application.exists_writes r
  obtain ⟨count, hone⟩ := Application.rewriteFile_changed he hwrite hread hchanges
  obtain ⟨htree, hresult⟩ := Application.run_one t.encoding hr hwalk haccepted hpath
  have hnew : write old = new := Except.ok.inj ((hwrite old).symm.trans hbytes)
  rw [hone, hnew] at htree hresult
  simp only [apply, hresult, htree, Except.map]
  exact ⟨_, rfl, rfl, trivial⟩

end TemplateSwap
