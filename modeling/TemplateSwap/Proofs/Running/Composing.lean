import TemplateSwap.Proofs.Running.Escaping

namespace TemplateSwap

open TemplateSwap.Text (Encoding)

namespace Transformation

variable {root : String} {env : Environment} {tree last : Tree} {t : Transformation}
variable {ts xs done later : List Transformation} {failed : ApplyResult} {results : List ApplyResult}

/-- A list that does not succeed does the same whatever comes behind it. -/
theorem applyAll_append_failed (h : ¬Succeeds root env xs tree) (ys : List Transformation) :
    applyAll root env (xs ++ ys) tree = applyAll root env xs tree := by
  induction xs generalizing tree with
  | nil => exact absurd ⟨[], rfl, List.forall_mem_nil _⟩ h
  | cons x xs ih =>
    cases hx : (x.apply root env tree).result with
    | error failure => simp only [List.cons_append, applyAll, hx]
    | ok first =>
      cases hfirst : first.ok with
      | false =>
        simp only [List.cons_append, applyAll, hx, hfirst]
        rfl
      | true =>
        have hrest : ¬Succeeds root env xs (x.apply root env tree).tree := by
          intro hrest
          exact h (succeeds_cons.mpr ⟨_, ⟨⟨first, hx, hfirst⟩, rfl⟩, hrest⟩)
        rw [List.cons_append, applyAll_cons hx hfirst, applyAll_cons hx hfirst, ih hrest]

/-- The first failure ends a list with the result of that transformation and with what it did to the tree. -/
theorem applyAll_failed {before : List ApplyResult} (hdone : (applyAll root env done tree).result = .ok before)
    (hok : ∀ r ∈ before, r.ok = true)
    (ht : (t.apply root env (applyAll root env done tree).tree).result = .ok failed)
    (hfailed : failed.ok = false) :
    (applyAll root env (done ++ [t]) tree).tree = (t.apply root env (applyAll root env done tree).tree).tree ∧
      (applyAll root env (done ++ [t]) tree).result = .ok (before ++ [failed]) := by
  rw [applyAll_append _ hdone hok]
  simp only [applyAll, ht, hfailed]
  exact ⟨rfl, rfl⟩

/-- So a list with a failure in it does not succeed. -/
theorem not_succeeds_failed (hdone : Succeeds root env done tree)
    (ht : (t.apply root env (applyAll root env done tree).tree).result = .ok failed)
    (hfailed : failed.ok = false) : ¬Succeeds root env (done ++ [t]) tree := by
  obtain ⟨before, hbefore, hok⟩ := hdone
  intro hsucceeds
  obtain ⟨results, hresults, hall⟩ := hsucceeds
  rw [(applyAll_failed hbefore hok ht hfailed).2] at hresults
  have hmem : failed ∈ results := by
    rw [← Except.ok.inj hresults]
    exact List.mem_append_right _ (List.mem_singleton_self _)
  rw [hall failed hmem] at hfailed
  cases hfailed

/-- Transformations have been applied one after the other, each of them to the tree that the one before it left. -/
inductive Steps (root : String) (env : Environment) :
    List Transformation → Tree → List ApplyResult → Tree → Prop
  | nil (tree : Tree) : Steps root env [] tree [] tree
  | cons {t : Transformation} {ts : List Transformation} {tree last : Tree} {result : ApplyResult}
      {results : List ApplyResult} (ht : (t.apply root env tree).result = .ok result)
      (h : Steps root env ts (t.apply root env tree).tree results last) :
      Steps root env (t :: ts) tree (result :: results) last

theorem Steps.identities (h : Steps root env ts tree results last) :
    results.map (·.identity) = ts.map (·.identity) := by
  induction h with
  | nil => rfl
  | cons ht _ ih => rw [List.map_cons, List.map_cons, apply_identity ht, ih]

/-- Results that all but the last are of success. Transformations are left over only if the last is of a failure. -/
structure UpToFailure (results : List ApplyResult) (left : List Transformation) : Prop where
  before : ∀ r ∈ results.dropLast, r.ok = true
  stopped : left ≠ [] → ∃ failed ∈ results.getLast?, failed.ok = false

/-- A success in front does not count. -/
theorem UpToFailure.rest {first : ApplyResult} (h : UpToFailure (first :: results) later) (hfirst : first.ok = true) :
    UpToFailure results later := by
  cases results with
  | nil =>
    refine ⟨List.forall_mem_nil _, fun hlater => ?_⟩
    obtain ⟨failed, hlast, hfailed⟩ := h.stopped hlater
    have hsame : first = failed := Option.some.inj hlast
    rw [← hsame, hfirst] at hfailed
    cases hfailed
  | cons second results => exact ⟨(List.forall_mem_cons.mp h.before).2, h.stopped⟩

/-- Nothing comes behind a failure. -/
theorem UpToFailure.eq_nil {first : ApplyResult} (h : UpToFailure (first :: results) later)
    (hfirst : first.ok = false) : results = [] := by
  cases results with
  | nil => rfl
  | cons second results =>
    rw [h.before first List.mem_cons_self] at hfirst
    cases hfirst

/-- A run takes as many steps as it has results. -/
theorem applyAll_steps (h : (applyAll root env ts tree).result = .ok results) :
    Steps root env (ts.take results.length) tree results (applyAll root env ts tree).tree := by
  induction ts generalizing tree results with
  | nil =>
    obtain rfl := Except.ok.inj h
    exact .nil tree
  | cons t ts ih =>
    obtain ⟨first, ht, ⟨hfirst, rfl⟩ | ⟨hfirst, rest, hrest, rfl⟩⟩ := applyAll_cons_ok h
    · have htree : (applyAll root env (t :: ts) tree).tree = (t.apply root env tree).tree := by
        simp only [applyAll, ht, hfirst]
        rfl
      rw [htree]
      exact .cons ht (.nil _)
    · rw [applyAll_cons ht hfirst]
      exact .cons ht (ih hrest)

/-- Steps up to the first failure are those of a run. -/
theorem Steps.applyAll_eq (h : Steps root env done tree results last) (hup : UpToFailure results later) :
    (applyAll root env (done ++ later) tree).result = .ok results ∧
      (applyAll root env (done ++ later) tree).tree = last := by
  induction h with
  | nil tree =>
    have hlater : later = [] := by
      by_contra hne
      obtain ⟨failed, hlast, -⟩ := hup.stopped hne
      cases hlast
    rw [hlater]
    exact ⟨rfl, rfl⟩
  | @cons t ts tree last first results ht hsteps ih =>
    cases hfirst : first.ok with
    | false =>
      obtain rfl := hup.eq_nil hfirst
      cases hsteps
      simp only [List.cons_append, applyAll, ht, hfirst]
      exact ⟨rfl, rfl⟩
    | true =>
      obtain ⟨hresult, hlast⟩ := ih (hup.rest hfirst)
      rw [List.cons_append, applyAll_cons ht hfirst, hresult]
      exact ⟨rfl, hlast⟩

theorem applyAll_iff_steps :
    (applyAll root env ts tree).result = .ok results ∧ (applyAll root env ts tree).tree = last ↔
      ∃ done later, ts = done ++ later ∧ Steps root env done tree results last ∧ UpToFailure results later := by
  constructor
  · intro h
    obtain ⟨hresults, rfl⟩ := h
    obtain ⟨-, hok, hend⟩ := applyAll_results hresults
    refine ⟨ts.take results.length, ts.drop results.length, (List.take_append_drop _ _).symm,
      applyAll_steps hresults, hok, fun hleft => hend.resolve_left fun hlength => hleft ?_⟩
    rw [hlength, List.drop_length]
  · intro h
    obtain ⟨done, later, rfl, hsteps, hup⟩ := h
    exact hsteps.applyAll_eq hup

/-- Two lists in a row are applied as the first and, from the tree that it leaves, the second, unless the first does
not succeed: then the second is as if it were not there. So a run goes through its transformations in order, each
applied to the tree that the one before it left, up to the first failure, and leaves the tree of its last step. -/
theorem applyAll_composes (root : String) (env : Environment) (tree : Tree) :
    (∀ xs ys results, (applyAll root env xs tree).result = .ok results → (∀ r ∈ results, r.ok = true) →
      (applyAll root env (xs ++ ys) tree).tree =
          (applyAll root env ys (applyAll root env xs tree).tree).tree ∧
        (applyAll root env (xs ++ ys) tree).result =
          (applyAll root env ys (applyAll root env xs tree).tree).result.map (results ++ ·)) ∧
    (∀ xs ys, ¬Succeeds root env xs tree →
      applyAll root env (xs ++ ys) tree = applyAll root env xs tree) ∧
    (∀ ts results last,
      (applyAll root env ts tree).result = .ok results ∧ (applyAll root env ts tree).tree = last ↔
        ∃ done later, ts = done ++ later ∧ Steps root env done tree results last ∧
          UpToFailure results later) ∧
    (∀ done results last, Steps root env done tree results last →
      results.map (·.identity) = done.map (·.identity)) ∧
    ∀ done t later failed, Succeeds root env done tree →
      (t.apply root env (applyAll root env done tree).tree).result = .ok failed → failed.ok = false →
      applyAll root env (done ++ t :: later) tree = applyAll root env (done ++ [t]) tree ∧
        (applyAll root env (done ++ t :: later) tree).tree =
          (t.apply root env (applyAll root env done tree).tree).tree := by
  refine ⟨fun xs ys results hresults hok => ?_, fun xs ys h => applyAll_append_failed h ys,
    fun ts results last => applyAll_iff_steps, fun done results last => Steps.identities, ?_⟩
  · rw [applyAll_append ys hresults hok]
    exact ⟨rfl, rfl⟩
  · intro done t later failed hdone ht hfailed
    have hstops : applyAll root env (done ++ t :: later) tree = applyAll root env (done ++ [t]) tree := by
      rw [List.append_cons]
      exact applyAll_append_failed (not_succeeds_failed hdone ht hfailed) later
    obtain ⟨before, hbefore, hok⟩ := hdone
    rw [hstops]
    exact ⟨rfl, (applyAll_failed hbefore hok ht hfailed).1⟩

def twoFiles (a b : List UInt8) : Tree := .directory [("w", .directory [("a", .file a), ("b", .file b)])]

def oneSealed : Environment := { writing := [("w/b", "read-only")] }

variable {a b new : List UInt8} {r : Replacer}

theorem twoFiles_resolve (a b : List UInt8) :
    (twoFiles a b).resolve "w" = .ok (["w"], .directory [("a", .file a), ("b", .file b)]) :=
  Tree.resolve_name (by decide) rfl fun _ => Tree.noConfusion

theorem twoFiles_read (a b : List UInt8) : (twoFiles a b).readFile "w/a" = .ok (["w", "a"], a) ∧
    (twoFiles a b).readFile "w/b" = .ok (["w", "b"], b) := by
  have ha : Path.below "w" ["a"] = "w/a" := Path.below_name (by decide)
  have hb : Path.below "w" ["b"] = "w/b" := Path.below_name (by decide)
  rw [← ha, ← hb]
  constructor
  · exact Tree.readFile_entry (by decide) (twoFiles_resolve a b) (by decide) rfl
  · exact Tree.readFile_entry (by decide) (twoFiles_resolve a b) (by decide) rfl

theorem twoFiles_walk (a b : List UInt8) :
    (twoFiles a b).walk oneSealed (Path.normal "w") = ⟨[["a"], ["b"]], none⟩ := by
  have hsorted : ([("a", .take), ("b", .take)] : List (String × Tree.Visit)).mergeSort
      (fun a b => decide (a.1 ≤ b.1)) = [("a", .take), ("b", .take)] :=
    List.mergeSort_of_pairwise (by simp)
  rw [Path.normal_name (by decide)]
  simp [Tree.walk, twoFiles_resolve, Tree.walkNode, Tree.walkEntries, Tree.gather, Walk.append, Walk.concat, oneSealed,
    hsorted]

theorem twoFiles_accepted : ({} : PathFilter).accepts (Path.text ["a"]) = true ∧
    ({} : PathFilter).accepts (Path.text ["b"]) = true := by decide +kernel

theorem twoFiles_paths : [["a"], ["b"]].map (Path.below (Path.normal "w")) = ["w/a", "w/b"] := by
  have ha : Path.below (Path.normal "w") ["a"] = "w/a" := Path.below_normal (by decide)
  have hb : Path.below (Path.normal "w") ["b"] = "w/b" := Path.below_normal (by decide)
  rw [List.map_cons, List.map_cons, ha, hb, List.map_nil]

/-- The first file gets a new text, and so would the second one, or not. -/
def rewritesFirst (a b new : List UInt8) (andSecond : Bool) (r : Replacer) : Bool :=
  r.changes a && decide (Encoding.utf8.encode (r.replace (Encoding.utf8.decode a)) = .ok new) &&
    (r.changes b == andSecond)

theorem rewriteFile_first {andSecond : Bool} (h : rewritesFirst a b new andSecond r = true) :
    ∃ count, Application.rewriteFile r "utf-8" oneSealed (twoFiles a b) "w/a" =
      ⟨twoFiles new b, [.rewrote "w/a" count], .ok (some count)⟩ := by
  simp only [rewritesFirst, Bool.and_eq_true, decide_eq_true_eq] at h
  obtain ⟨⟨hchanges, hbytes⟩, -⟩ := h
  obtain ⟨write, hwrite⟩ := Application.exists_writes r
  obtain ⟨hread, -⟩ := twoFiles_read a b
  have hnew : write a = new := Except.ok.inj ((hwrite a).symm.trans hbytes)
  obtain ⟨count, hfirst⟩ := Application.rewriteFile_changed Encoding.ofName?_utf8 hwrite hread hchanges
  rw [Application.rewriteFile_clear Encoding.ofName?_utf8 hread rfl fun _ => rfl, hfirst, hnew]
  exact ⟨count, rfl⟩

theorem rewriteFile_second (hkeeps : r.changes b = false) :
    Application.rewriteFile r "utf-8" oneSealed (twoFiles a b) "w/b" = ⟨twoFiles a b, [], .ok none⟩ := by
  obtain ⟨-, hread⟩ := twoFiles_read a b
  have hsame : ¬r.changes b = true := by simp [hkeeps]
  rw [Application.rewriteFile_clear Encoding.ofName?_utf8 hread rfl fun hchanges => absurd hchanges hsame,
    Application.rewriteFile_same Encoding.ofName?_utf8 hread hsame]

theorem rewriteFile_sealed (hchanges : r.changes b = true) :
    Application.rewriteFile r "utf-8" oneSealed (twoFiles a b) "w/b" =
      ⟨twoFiles a b, [], .error (.apply ⟨.rewriting, "w/b", .denied "read-only"⟩)⟩ := by
  obtain ⟨-, hread⟩ := twoFiles_read a b
  have hreading : oneSealed.reading.lookup "w/b" = none := rfl
  have hwriting : oneSealed.writing.lookup "w/b" = some "read-only" := rfl
  rw [Application.changes_iff] at hchanges
  simp only [Application.rewriteFile_encoding Encoding.ofName?_utf8, hread, hreading, hwriting]
  exact if_neg hchanges

theorem twoFiles_run {s : Spec} (hr : s.replacer = .ok r) :
    (Application.run s "w" ({} : PathFilter).accepts "utf-8" oneSealed (twoFiles a b)).tree =
        (Application.rewriteFiles r "utf-8" oneSealed {} (twoFiles a b) ["w/a", "w/b"]).tree ∧
      (Application.run s "w" ({} : PathFilter).accepts "utf-8" oneSealed (twoFiles a b)).result =
        (Application.rewriteFiles r "utf-8" oneSealed {} (twoFiles a b) ["w/a", "w/b"]).result.map
          (Visit.close · s.describe) := by
  have hfiles : [["a"], ["b"]].filter (fun names => ({} : PathFilter).accepts (Path.text names)) = [["a"], ["b"]] := by
    simp [twoFiles_accepted]
  simp only [Application.run, hr, twoFiles_walk, hfiles, twoFiles_paths]
  cases (Application.rewriteFiles r "utf-8" oneSealed {} (twoFiles a b) ["w/a", "w/b"]).result <;>
    exact ⟨rfl, rfl⟩

theorem leads_twoFiles {s : Spec} (hr : s.replacer = .ok r) (h : rewritesFirst a b new false r = true) :
    Leads "w" oneSealed { spec := s } (twoFiles a b) (twoFiles new b) := by
  obtain ⟨count, hfirst⟩ := rewriteFile_first h
  have hkeeps : r.changes b = false := by simpa using (Bool.and_eq_true_iff.mp h).2
  obtain ⟨htree, hresult⟩ := twoFiles_run (a := a) (b := b) hr
  simp only [Application.rewriteFiles, hfirst, rewriteFile_second hkeeps, Except.map] at htree hresult
  constructor
  · simp only [apply, hresult]
    exact ⟨_, rfl, rfl⟩
  · simp only [apply, hresult]
    exact htree

/-- The first file is rewritten before the second one is refused. -/
theorem denied_twoFiles {s : Spec} (hr : s.replacer = .ok r) (h : rewritesFirst a b new true r = true) :
    (apply { spec := s } "w" oneSealed (twoFiles a b)).tree = twoFiles new b ∧
      (apply { spec := s } "w" oneSealed (twoFiles a b)).result =
        .ok ⟨s.describe, .error (.apply ⟨.rewriting, "w/b", .denied "read-only"⟩)⟩ := by
  obtain ⟨count, hfirst⟩ := rewriteFile_first h
  have hchanges : r.changes b = true := by simpa using (Bool.and_eq_true_iff.mp h).2
  obtain ⟨htree, hresult⟩ := twoFiles_run (a := a) (b := b) hr
  simp only [Application.rewriteFiles, hfirst, rewriteFile_sealed hchanges, Except.map] at htree hresult
  simp only [apply, hresult, Failure.isReported, if_true]
  exact ⟨htree, rfl⟩

theorem exists_rewritesFirst {source : SpecSource} {andSecond : Bool}
    (h : (Spec.create source).toOption.any (fun s =>
      s.replacer.toOption.any (rewritesFirst a b new andSecond)) = true) :
    ∃ s r, Spec.create source = .ok s ∧ s.replacer = .ok r ∧ rewritesFirst a b new andSecond r = true := by
  obtain ⟨s, hs, hreplacer⟩ := Results.exists_ok h
  obtain ⟨r, hr, hrewrites⟩ := Results.exists_ok hreplacer
  exact ⟨s, r, hs, hr, hrewrites⟩

/-- The second transformation fails after it has changed the first file, and the third, which would change it once
more, is not applied. -/
theorem applyAll_composes_denied : ∃ t u v : Transformation,
    Spec.create { before := "p", after := "x" } = .ok t.spec ∧
    Spec.create { before := "x", after := "y" } = .ok u.spec ∧
    Spec.create { before := "y", after := "z" } = .ok v.spec ∧
    (applyAll "w" oneSealed ([t, u] ++ [v]) (twoFiles [0x70] [0x78])).tree = twoFiles [0x79] [0x78] ∧
    (v.apply "w" oneSealed (twoFiles [0x79] [0x78])).tree = twoFiles [0x7A] [0x78] ∧
    ∃ first, first.ok = true ∧
      (applyAll "w" oneSealed ([t, u] ++ [v]) (twoFiles [0x70] [0x78])).result =
        .ok [first, ⟨u.identity, .error (.apply ⟨.rewriting, "w/b", .denied "read-only"⟩)⟩] := by
  obtain ⟨s, r, hs, hr, hrewrites⟩ : ∃ s r, Spec.create { before := "p", after := "x" } = .ok s ∧
    s.replacer = .ok r ∧ rewritesFirst [0x70] [0x78] [0x78] false r = true := exists_rewritesFirst (by decide)
  obtain ⟨s', r', hs', hr', hrewrites'⟩ : ∃ s r, Spec.create { before := "x", after := "y" } = .ok s ∧
    s.replacer = .ok r ∧ rewritesFirst [0x78] [0x78] [0x79] true r = true := exists_rewritesFirst (by decide)
  obtain ⟨s'', r'', hs'', hr'', hrewrites''⟩ : ∃ s r, Spec.create { before := "y", after := "z" } = .ok s ∧
    s.replacer = .ok r ∧ rewritesFirst [0x79] [0x78] [0x7A] false r = true := exists_rewritesFirst (by decide)
  have hleads := leads_twoFiles hr hrewrites
  obtain ⟨htree, hdenied⟩ := denied_twoFiles hr' hrewrites'
  obtain ⟨first, hresult, hok⟩ := hleads.succeeds
  have hone : (applyAll "w" oneSealed [{ spec := s }] (twoFiles [0x70] [0x78])).result = .ok [first] ∧
      (applyAll "w" oneSealed [{ spec := s }] (twoFiles [0x70] [0x78])).tree = twoFiles [0x78] [0x78] := by
    rw [applyAll_cons hresult hok, hleads.leaves]
    exact ⟨rfl, rfl⟩
  have hall : ∀ r ∈ [first], r.ok = true := List.forall_mem_singleton.mpr hok
  obtain ⟨hrow, -, -, -, hends⟩ := applyAll_composes "w" oneSealed (twoFiles [0x70] [0x78])
  obtain ⟨-, hboth⟩ := hrow [{ spec := s }] [{ spec := s' }] [first] hone.1 hall
  obtain ⟨hstops, hlast⟩ := hends [{ spec := s }] { spec := s' } [{ spec := s'' }]
    ⟨s'.describe, .error (.apply ⟨.rewriting, "w/b", .denied "read-only"⟩)⟩ ⟨[first], hone.1, hall⟩
    (by rw [hone.2]; exact hdenied) rfl
  have hsecond : (applyAll "w" oneSealed [{ spec := s' }] (twoFiles [0x78] [0x78])).result =
      .ok [⟨s'.describe, .error (.apply ⟨.rewriting, "w/b", .denied "read-only"⟩)⟩] := by
    simp only [applyAll, hdenied]
    rfl
  rw [hone.2, hsecond] at hboth
  rw [hone.2, htree] at hlast
  refine ⟨{ spec := s }, { spec := s' }, { spec := s'' }, hs, hs', hs'', hlast, ?_, first, hok, ?_⟩
  · exact (leads_twoFiles hr'' hrewrites'').leaves
  · exact (congrArg Outcome.result hstops).trans hboth

end Transformation

end TemplateSwap
