import TemplateSwap.Proofs.Running.HalfApplied
import TemplateSwap.Proofs.Running.Inverse
import TemplateSwap.Proofs.Running.Aborting

namespace TemplateSwap

variable {root : String} {env : Environment} {tree : Tree}

theorem ApplyResult.ok_of_isNoop (r : ApplyResult) (h : r.isNoop = true) : r.ok = true := by
  rw [ok]
  cases houtcome : r.outcome with
  | ok visit => rfl
  | error failure =>
    rw [isNoop, houtcome] at h
    cases h

namespace Application

/-- Files are counted as changed one by one, and where none is the tree stays as it is. -/
theorem rewriteFiles_changed {r : Replacer} {encoding : String} {v visit : Visit} {paths : List String}
    (h : (rewriteFiles r encoding env v tree paths).result = .ok visit) :
    v.changed ≤ visit.changed ∧
      (visit.changed = v.changed → (rewriteFiles r encoding env v tree paths).tree = tree) := by
  induction paths generalizing v tree with
  | nil =>
    obtain rfl := Except.ok.inj h
    exact ⟨le_rfl, fun _ => rfl⟩
  | cons path paths ih =>
    have hends := rewriteFile_ends r encoding env tree path
    simp only [rewriteFiles] at h ⊢
    generalize rewriteFile r encoding env tree path = one at h hends ⊢
    cases hends with
    | closed | unread | unknown | undecoded | sealed | refused => cases h
    | same => exact ih h
    | written _ _ _ _ count =>
      have hmore : v.changed + 1 ≤ visit.changed := (ih h).1
      exact ⟨by omega, fun heq => by omega⟩

theorem run_noop {s : Spec} {accepts : String → Bool} {encoding : String} {visit : Visit}
    (h : (run s root accepts encoding env tree).result = .ok visit) (hnoop : visit.isNoop = true) :
    (run s root accepts encoding env tree).tree = tree := by
  obtain ⟨r, found, files, hr, hcomplete, hfiles, hfound, rfl⟩ := run_ok h
  have hclosed : (found.close s.describe).changed = found.changed := by rw [Visit.close_eq]
  rw [(run_complete hr hfiles hcomplete hfound).1]
  refine (rewriteFiles_changed hfound).2 ?_
  rw [← hclosed]
  exact beq_iff_eq.mp hnoop

end Application

namespace Transformation

variable {t : Transformation} {ts : List Transformation} {result r : ApplyResult}
variable {results done later : List ApplyResult}

theorem apply_identity (h : (t.apply root env tree).result = .ok result) : result.identity = t.identity := by
  unfold apply at h
  dsimp only at h
  split at h
  · rw [← Except.ok.inj h]
  · split at h
    · rw [← Except.ok.inj h]
    · cases h

theorem apply_noop (h : (t.apply root env tree).result = .ok result) (hnoop : result.isNoop = true) :
    (t.apply root env tree).tree = tree := by
  unfold apply at h ⊢
  dsimp only at h ⊢
  cases hrun : (Application.run t.spec root t.paths.accepts t.encoding env tree).result with
  | ok visit =>
    simp only [hrun] at h ⊢
    rw [← Except.ok.inj h] at hnoop
    exact Application.run_noop hrun hnoop
  | error failure =>
    simp only [hrun] at h
    split at h
    · rw [← Except.ok.inj h] at hnoop
      cases hnoop
    · cases h

/-- Only the last result can be of a failure. -/
theorem applyAll_ok_before (h : (applyAll root env ts tree).result = .ok (done ++ r :: later)) :
    ∀ d ∈ done, d.ok = true := by
  induction done generalizing ts tree with
  | nil => simp
  | cons d done ih =>
    cases ts with
    | nil => cases h
    | cons t ts =>
      obtain ⟨first, ht, ⟨-, hone⟩ | ⟨hfirst, rest, hrest, hall⟩⟩ := applyAll_cons_ok h
      · simp at hone
      · obtain ⟨rfl, rfl⟩ := List.cons.inj hall
        exact List.forall_mem_cons.mpr ⟨hfirst, ih hrest⟩

/-- Results of success come from as many transformations. -/
theorem applyAll_take (h : (applyAll root env ts tree).result = .ok (done ++ later))
    (hok : ∀ d ∈ done, d.ok = true) :
    (applyAll root env (ts.take done.length) tree).result = .ok done := by
  induction done generalizing ts tree with
  | nil => rfl
  | cons d done ih =>
    obtain ⟨hd, hok⟩ := List.forall_mem_cons.mp hok
    cases ts with
    | nil => cases h
    | cons t ts =>
      obtain ⟨first, ht, ⟨hfirst, hone⟩ | ⟨-, rest, hrest, hall⟩⟩ := applyAll_cons_ok h
      · rw [← (List.cons.inj hone).1, hd] at hfirst
        cases hfirst
      · obtain ⟨rfl, rfl⟩ := List.cons.inj hall
        rw [List.length_cons, List.take_succ_cons, applyAll_cons ht hd, ih hrest hok]
        rfl

/-- An application goes through the transformations with these results, and then through the others. -/
theorem applyAll_drop (h : (applyAll root env ts tree).result = .ok (done ++ later))
    (hok : ∀ d ∈ done, d.ok = true) :
    (applyAll root env (ts.drop done.length)
        (applyAll root env (ts.take done.length) tree).tree).result = .ok later ∧
      (applyAll root env ts tree).tree = (applyAll root env (ts.drop done.length)
        (applyAll root env (ts.take done.length) tree).tree).tree := by
  have hall := applyAll_append (ts.drop done.length) (applyAll_take h hok) hok
  rw [List.take_append_drop] at hall
  have htree := congrArg Outcome.tree hall
  rw [hall] at h
  refine ⟨?_, htree⟩
  cases hrest : (applyAll root env (ts.drop done.length)
      (applyAll root env (ts.take done.length) tree).tree).result with
  | error failure =>
    rw [hrest] at h
    cases h
  | ok rest =>
    rw [hrest] at h
    rw [List.append_cancel_left (Except.ok.inj h)]

theorem applyAll_noop (h : (applyAll root env ts tree).result = .ok results)
    (hnoop : ∀ d ∈ results, d.isNoop = true) : (applyAll root env ts tree).tree = tree := by
  induction ts generalizing tree results with
  | nil => rfl
  | cons t ts ih =>
    obtain ⟨first, ht, ⟨hfirst, rfl⟩ | ⟨hfirst, rest, hrest, rfl⟩⟩ := applyAll_cons_ok h
    · have hsame := apply_noop ht (hnoop first List.mem_cons_self)
      simp only [applyAll, ht, hfirst]
      exact hsame
    · obtain ⟨hone, hlater⟩ := List.forall_mem_cons.mp hnoop
      rw [applyAll_cons ht hfirst]
      exact (ih hrest hlater).trans (apply_noop ht hone)

theorem applyAll_identity (h : (applyAll root env ts tree).result = .ok results) (hr : r ∈ results) :
    ∃ t ∈ ts, r.identity = t.identity := by
  induction ts generalizing tree results with
  | nil =>
    rw [← Except.ok.inj h] at hr
    cases hr
  | cons t ts ih =>
    obtain ⟨first, ht, ⟨-, rfl⟩ | ⟨-, rest, hrest, rfl⟩⟩ := applyAll_cons_ok h
    · obtain rfl := List.mem_singleton.mp hr
      exact ⟨t, List.mem_cons_self, apply_identity ht⟩
    · rcases List.mem_cons.mp hr with rfl | hr
      · exact ⟨t, List.mem_cons_self, apply_identity ht⟩
      · obtain ⟨found, hfound, hsame⟩ := ih hrest hr
        exact ⟨found, List.mem_cons_of_mem _ hfound, hsame⟩

end Transformation

namespace CommandLine

open TemplateSwap.Text (Encoding)

variable {config : String} {reverse ignoreNoop : Bool} {ts : List Transformation}
variable {results done later : List ApplyResult} {noop failed : ApplyResult} {failure : Failure}

theorem Report.append_assoc (a b c : Report) : (a.append b).append c = a.append (b.append c) := by
  simp [Report.append]

/-- Warnings of transformations without effect. -/
def warnings (results : List ApplyResult) : List String :=
  (results.filter (·.isNoop)).map fun r => "Warning: " ++ Event.noopMessage r.identity

/-- A report goes on after results of success, unless one of them is without effect and this is not ignored. -/
theorem reportResults_append (root : String) (verbose : Bool) (hok : ∀ r ∈ done, r.ok = true)
    (hpass : ignoreNoop = true ∨ ∀ r ∈ done, r.isNoop = false) (later : List ApplyResult) :
    reportResults root verbose ignoreNoop (done ++ later) =
      (reportResults root verbose true done).append (reportResults root verbose ignoreNoop later) := by
  induction done with
  | nil => simp [reportResults, Report.append]
  | cons d done ih =>
    obtain ⟨hd, hok⟩ := List.forall_mem_cons.mp hok
    have hrest : ignoreNoop = true ∨ ∀ r ∈ done, r.isNoop = false :=
      hpass.imp_right fun h r hr => h r (List.mem_cons_of_mem _ hr)
    cases houtcome : d.outcome with
    | error failure =>
      rw [ApplyResult.ok, houtcome] at hd
      cases hd
    | ok visit =>
      have hstop : (visit.isNoop && !ignoreNoop) = false := by
        rcases hpass with rfl | hnone
        · simp
        · have hnone := hnone d List.mem_cons_self
          rw [ApplyResult.isNoop, houtcome] at hnone
          simp [hnone]
      simp [reportResults, houtcome, hstop, ih hok hrest, Report.append_assoc]

theorem reportResults_warnings (root : String) (verbose : Bool) (hok : ∀ r ∈ done, r.ok = true) :
    (reportResults root verbose true done).errors = warnings done := by
  induction done with
  | nil => rfl
  | cons d done ih =>
    obtain ⟨hd, hok⟩ := List.forall_mem_cons.mp hok
    cases houtcome : d.outcome with
    | error failure =>
      rw [ApplyResult.ok, houtcome] at hd
      cases hd
    | ok visit =>
      have hsame : d.isNoop = visit.isNoop := by rw [ApplyResult.isNoop, houtcome]
      cases hnoop : visit.isNoop <;>
        simp [reportResults, houtcome, Report.append, ih hok, warnings, hsame, hnoop]

theorem warnings_eq_nil (h : ∀ r ∈ done, r.isNoop = false) : warnings done = [] := by
  simpa [warnings] using h

/-- The first result without effect ends the report, unless such are ignored. -/
theorem reportResults_noop (root : String) (verbose : Bool) (hok : ∀ r ∈ done, r.ok = true)
    (hdone : ∀ r ∈ done, r.isNoop = false) (hnoop : noop.isNoop = true) (later : List ApplyResult) :
    (reportResults root verbose false (done ++ noop :: later)).errors =
        [errorLine (Event.noopMessage noop.identity), noopHint] ∧
      (reportResults root verbose false (done ++ noop :: later)).ending = .exit 1 := by
  rw [reportResults_append root verbose hok (.inr hdone)]
  cases houtcome : noop.outcome with
  | error failure =>
    rw [ApplyResult.isNoop, houtcome] at hnoop
    cases hnoop
  | ok visit =>
    rw [ApplyResult.isNoop, houtcome] at hnoop
    simp [Report.append, reportResults_warnings root verbose hok, warnings_eq_nil hdone, reportResults, houtcome, hnoop]

/-- A failure ends the report, if the report comes to it. -/
theorem reportResults_failed (root : String) (verbose : Bool) (hok : ∀ r ∈ done, r.ok = true)
    (hpass : ignoreNoop = true ∨ ∀ r ∈ done, r.isNoop = false) (hfailed : failed.outcome = .error failure) :
    (reportResults root verbose ignoreNoop (done ++ [failed])).errors =
        warnings done ++ [errorLine (failed.identity ++ ": " ++ failure.message)] ∧
      (reportResults root verbose ignoreNoop (done ++ [failed])).ending = .exit 1 := by
  rw [reportResults_append root verbose hok hpass]
  simp [Report.append, reportResults_warnings root verbose hok, reportResults, hfailed, Report.failure]

theorem head_append {a : String} {c : Char} (h : a.toList.head? = some c) (b : String) :
    (a ++ b).toList.head? = some c := by
  rw [String.toList_append, List.head?_append, h]
  rfl

theorem head_errorLine (message : String) : (errorLine message).toList.head? = some 'E' :=
  head_append (by decide) message

/-- The line for a failure is not the one for a transformation without effect. -/
theorem errorLine_failed_ne (t : Transformation) (message identity : String) :
    errorLine (t.identity ++ ": " ++ message) ≠ errorLine (Event.noopMessage identity) := by
  have hfailed : (t.identity ++ ": " ++ message).toList.head? = some 'R' :=
    head_append (head_append (head_append (by decide) _) _) _
  have hnoop : (Event.noopMessage identity).toList.head? = some 'T' :=
    head_append (head_append (by decide) _) _
  intro heq
  rw [(String.append_right_inj _).mp heq, hnoop] at hfailed
  cases hfailed

theorem errorLine_ne_noopHint (message : String) : errorLine message ≠ noopHint := by
  have hhint : noopHint.toList.head? = some 'P' := by decide
  intro heq
  rw [← heq, head_errorLine] at hhint
  cases hhint

/-- A line of the log is no error. -/
theorem noteLine?_ne_errorLine {verbose : Bool} {note : Note} {line message : String}
    (h : noteLine? "" verbose note = some line) : line ≠ errorLine message := by
  have hshape : ∃ logger level text, line = logLine "" logger level text := by
    cases note <;> simp only [noteLine?, Option.ite_none_right_eq_some, Option.some.injEq] at h
    · exact ⟨_, _, _, h.2.symm⟩
    · exact ⟨_, _, _, h.symm⟩
    · exact ⟨_, _, _, h.2.symm⟩
  obtain ⟨logger, level, text, rfl⟩ := hshape
  have hlog : (logLine "" logger level text).toList.head? = some ' ' :=
    head_append (head_append (head_append (head_append (head_append (by decide) _) _) _) _) _
  intro heq
  rw [heq, head_errorLine] at hlog
  cases hlog

/-- A run that comes to an end tells its log, and then its results. -/
theorem apply_of_prepared (stamp : String) (verbose ignoreNoop : Bool) (hts : prepared tree config reverse = .ok ts)
    (hroot : tree.isDirectory (Path.normal root) = true)
    (hrun : (Transformation.applyAll (Path.normal root) env ts tree).result = .ok results) :
    (apply stamp env tree verbose config root reverse ignoreNoop).1 =
      Report.append
        { errors := (Transformation.applyAll (Path.normal root) env ts tree).notes.filterMap
            (noteLine? stamp verbose) }
        (reportResults (Path.normal root) verbose ignoreNoop results) := by
  rw [apply_eq, hts]
  simp only [hroot, if_true, runReport, hrun]

def mixture : String :=
  "transformations:\n- \x7bbefore: foo, after: bar\x7d\n- \x7bbefore: x, after: y\x7d\n"

def mixtureTree : Tree :=
  .directory [("a", .file (contents mixture)), ("w", .directory [("b", .file [0x78])])]

/-- The file cannot be opened for writing. -/
def mixtureSealed : Environment := { writing := [("w/b", "read-only")] }

/-- The transformations of this configuration: the first leaves the file as it is, and the second does not. -/
structure Mixture (t u : Transformation) : Prop where
  identities : t.identity = "Replace foo" ∧ u.identity = "Replace x"
  accepts : ∀ x ∈ [t, u], x.encoding = "utf-8" ∧ x.paths.accepts (Path.text ["b"]) = true
  keeps : ∃ r, t.spec.replacer = .ok r ∧ ¬r.changes [0x78] = true
  changes : ∃ r, u.spec.replacer = .ok r ∧ r.changes [0x78] = true ∧
    Encoding.utf8.encode (r.replace (Encoding.utf8.decode [0x78])) = .ok [0x79]

def mixtureChecked : List (Except ConfigError Transformation) → Bool
  | [.ok t, .ok u] =>
    decide (t.identity = "Replace foo" ∧ u.identity = "Replace x")
      && decide (∀ x ∈ [t, u], x.encoding = "utf-8" ∧ x.paths.accepts (Path.text ["b"]) = true)
      && t.spec.replacer.toOption.any (fun r => decide (¬r.changes [0x78] = true))
      && u.spec.replacer.toOption.any fun r => decide (r.changes [0x78] = true ∧
        Encoding.utf8.encode (r.replace (Encoding.utf8.decode [0x78])) = .ok [0x79])
  | _ => false

theorem mixture_of_checked {built : List (Except ConfigError Transformation)} (h : mixtureChecked built = true) :
    ∃ t u, built = [.ok t, .ok u] ∧ Mixture t u := by
  unfold mixtureChecked at h
  split at h
  · next t u =>
    simp only [Bool.and_eq_true, decide_eq_true_eq] at h
    obtain ⟨⟨⟨hidentities, haccepts⟩, hkeeps⟩, hchanges⟩ := h
    obtain ⟨r, hr, hkept⟩ := Results.exists_ok hkeeps
    obtain ⟨r', hr', hchanged⟩ := Results.exists_ok hchanges
    exact ⟨t, u, rfl, hidentities, haccepts, ⟨r, hr, of_decide_eq_true hkept⟩, r', hr', of_decide_eq_true hchanged⟩
  · cases h

theorem mixture_plain : mixtureTree.Plain := by
  have hw : (Tree.directory [("b", .file [0x78])]).Plain :=
    .directory (by decide) (by decide) (by simpa using .file _)
  exact .directory (by decide) (by decide) (by simpa using ⟨.file _, hw⟩)

theorem mixture_isDirectory : mixtureTree.isDirectory (Path.normal "w") = true := workTree_isDirectory _ _

theorem mixture_read : mixtureTree.readFile "w/b" = .ok (["w", "b"], [0x78]) := workTree_read _ _

theorem mixture_prepared : ∃ t u, prepared mixtureTree "a" false = .ok [t, u] ∧ Mixture t u := by
  have hbuilt : ∃ built, Configuration.build {} mixtureTree "a" = .ok built ∧ mixtureChecked built = true :=
    Configuration.exists_build (workTree_config mixture [0x78]) (by decide +kernel)
  obtain ⟨built, hbuild, hchecked⟩ := hbuilt
  obtain ⟨t, u, rfl, hmixture⟩ := mixture_of_checked hchecked
  have hload : loadAll mixtureTree "a" = .ok [t, u] := loadAll_eq_ok.mpr hbuild
  exact ⟨t, u, Results.bind_ok.mpr ⟨_, hload, rfl⟩, hmixture⟩

/-- All that is done to this tree is to rewrite its file. -/
theorem mixture_run {s : Spec} {r : Replacer} {accepts : String → Bool} {env : Environment} (encoding : String)
    (hr : s.replacer = .ok r) (haccepted : accepts (Path.text ["b"]) = true) (hlisting : env.listing = []) :
    let one := Application.rewriteFile r encoding env mixtureTree "w/b"
    (Application.run s (Path.normal "w") accepts encoding env mixtureTree).tree = one.tree ∧
      (Application.run s (Path.normal "w") accepts encoding env mixtureTree).result =
        one.result.map fun count => (({} : Visit).record "w/b" count.isSome).close s.describe := by
  have hpath : Path.below (Path.normal (Path.normal "w")) ["b"] = "w/b" := by
    rw [Path.normal_normal]
    exact Path.below_normal (by decide)
  have hwalk : mixtureTree.walk env (Path.normal (Path.normal "w")) = ⟨[["b"]], none⟩ := by
    rw [Path.normal_normal]
    exact workTree_walk _ _ hlisting
  exact Application.run_one encoding hr hwalk haccepted hpath

namespace Mixture

variable {t u : Transformation}

theorem encoded (h : Mixture t u) : ∀ x ∈ [t, u], Encoding.ofName? x.encoding = some .utf8 := by
  intro x hx
  rw [(h.accepts x hx).1]
  exact Encoding.ofName?_utf8

/-- The first transformation is not held up where the file cannot be written. -/
theorem first (h : Mixture t u) (env : Environment) (hlisting : env.listing = []) (hreading : env.reading = []) :
    (t.apply (Path.normal "w") env mixtureTree).tree = mixtureTree ∧
      ∃ noop, (t.apply (Path.normal "w") env mixtureTree).result = .ok noop ∧
        noop.isNoop = true ∧ noop.identity = "Replace foo" := by
  obtain ⟨r, hr, hkeeps⟩ := h.keeps
  have ht : t ∈ [t, u] := List.mem_cons_self
  have hone : Application.rewriteFile r t.encoding env mixtureTree "w/b" = ⟨mixtureTree, [], .ok none⟩ := by
    rw [Application.rewriteFile_clear (h.encoded t ht) mixture_read (by simp [hreading]) fun hc => absurd hc hkeeps,
      Application.rewriteFile_same (h.encoded t ht) mixture_read hkeeps]
  obtain ⟨htree, hresult⟩ := mixture_run t.encoding hr (h.accepts t ht).2 hlisting
  rw [hone] at htree hresult
  simp only [Transformation.apply, hresult, htree, Except.map]
  exact ⟨trivial, _, rfl, rfl, h.identities.1⟩

theorem second (h : Mixture t u) : ∃ changed, (u.apply (Path.normal "w") {} mixtureTree).result = .ok changed ∧
    changed.ok = true ∧ (u.apply (Path.normal "w") {} mixtureTree).tree.fileAt? ["w", "b"] = some [0x79] := by
  obtain ⟨r, hr, hchanges, hbytes⟩ := h.changes
  obtain ⟨hencoding, haccepted⟩ := h.accepts u (by simp)
  obtain ⟨changed, hresult, hok, htree⟩ := apply_workTree mixture hr hencoding haccepted hchanges hbytes
  exact ⟨changed, hresult, hok, (congrArg (Tree.fileAt? · ["w", "b"]) htree).trans rfl⟩

theorem second_denied (h : Mixture t u) : (u.apply (Path.normal "w") mixtureSealed mixtureTree).result =
    .ok ⟨"Replace x", .error (.apply ⟨.rewriting, "w/b", .denied "read-only"⟩)⟩ := by
  obtain ⟨r, hr, hchanges, -⟩ := h.changes
  have hu : u ∈ [t, u] := by simp
  have hone : Application.rewriteFile r u.encoding mixtureSealed mixtureTree "w/b" =
      ⟨mixtureTree, [], .error (.apply ⟨.rewriting, "w/b", .denied "read-only"⟩)⟩ := by
    have hwriting : mixtureSealed.writing.lookup "w/b" = some "read-only" := rfl
    have hreading : mixtureSealed.reading.lookup "w/b" = none := rfl
    rw [Application.changes_iff] at hchanges
    simp only [Application.rewriteFile_encoding (h.encoded u hu), mixture_read, hreading, hwriting]
    exact if_neg hchanges
  have hlisting : mixtureSealed.listing = [] := rfl
  obtain ⟨-, hresult⟩ := mixture_run u.encoding hr (h.accepts u hu).2 hlisting
  rw [hone] at hresult
  simp only [Transformation.apply, hresult, Except.map, Failure.isReported, if_true, h.identities.2]

theorem alone (h : Mixture t u) :
    (Transformation.applyAll (Path.normal "w") {} [t] mixtureTree).tree = mixtureTree := by
  obtain ⟨htree, noop, hfirst, hnoop, -⟩ := h.first {} rfl rfl
  rw [Transformation.applyAll_cons hfirst (noop.ok_of_isNoop hnoop), htree]
  rfl

/-- Nothing comes before the result without effect, and a change comes after it. -/
theorem written (h : Mixture t u) : ∃ noop changed,
    (Transformation.applyAll (Path.normal "w") {} [t, u] mixtureTree).result = .ok ([] ++ noop :: [changed]) ∧
    noop.isNoop = true ∧ noop.identity = "Replace foo" ∧
    (Transformation.applyAll (Path.normal "w") {} [t, u] mixtureTree).tree.fileAt? ["w", "b"] = some [0x79] := by
  obtain ⟨htree, noop, hfirst, hnoop, hidentity⟩ := h.first {} rfl rfl
  obtain ⟨changed, hsecond, hok, hfile⟩ := h.second
  rw [Transformation.applyAll_cons hfirst (noop.ok_of_isNoop hnoop), htree,
    Transformation.applyAll_cons hsecond hok]
  exact ⟨noop, changed, rfl, hnoop, hidentity, hfile⟩

/-- The failure comes after the result without effect. -/
theorem denied (h : Mixture t u) : ∃ noop,
    (Transformation.applyAll (Path.normal "w") mixtureSealed [t, u] mixtureTree).result =
      .ok ([noop] ++ [⟨"Replace x", .error (.apply ⟨.rewriting, "w/b", .denied "read-only"⟩)⟩]) ∧
    noop.isNoop = true ∧ noop.identity = "Replace foo" := by
  obtain ⟨htree, noop, hfirst, hnoop, hidentity⟩ := h.first mixtureSealed rfl rfl
  rw [Transformation.applyAll_cons hfirst (noop.ok_of_isNoop hnoop), htree]
  simp only [Transformation.applyAll, h.second_denied]
  exact ⟨noop, rfl, hnoop, hidentity⟩

end Mixture

/-- A run goes on after a transformation without effect, as it does where such are ignored, and then ends with the
error for it. So what comes after it is applied, and what that changes stays changed. -/
theorem apply_goes_on (stamp : String) (verbose : Bool) (hts : prepared tree config reverse = .ok ts)
    (hroot : tree.isDirectory (Path.normal root) = true)
    (hrun : (Transformation.applyAll (Path.normal root) env ts tree).result = .ok (done ++ noop :: later))
    (hdone : ∀ r ∈ done, r.isNoop = false) (hnoop : noop.isNoop = true) :
    ∃ first rest, first = Transformation.applyAll (Path.normal root) env (ts.take (done.length + 1)) tree ∧
      rest = Transformation.applyAll (Path.normal root) env (ts.drop (done.length + 1)) first.tree ∧
      first.result = .ok (done ++ [noop]) ∧ rest.result = .ok later ∧
      (apply stamp env tree verbose config root reverse false).1.errors =
        (Transformation.applyAll (Path.normal root) env ts tree).notes.filterMap (noteLine? stamp verbose) ++
          [errorLine (Event.noopMessage noop.identity), noopHint] ∧
      (apply stamp env tree verbose config root reverse false).1.ending = .exit 1 ∧
      (apply stamp env tree verbose config root reverse false).2 = rest.tree ∧
      (apply stamp env tree verbose config root reverse false).2 =
        (apply stamp env tree verbose config root reverse true).2 ∧
      ((∀ r ∈ later, r.isNoop = true) →
        (apply stamp env tree verbose config root reverse false).2 = first.tree) := by
  have hok := Transformation.applyAll_ok_before hrun
  have hreport := apply_of_prepared stamp verbose false hts hroot hrun
  obtain ⟨herrors, hending⟩ := reportResults_noop (Path.normal root) verbose hok hdone hnoop later
  have hsplit : done ++ noop :: later = (done ++ [noop]) ++ later := by simp
  have hlength : (done ++ [noop]).length = done.length + 1 := by simp
  have hall : ∀ r ∈ done ++ [noop], r.ok = true := by
    simpa [or_imp, forall_and] using ⟨hok, noop.ok_of_isNoop hnoop⟩
  rw [hsplit] at hrun
  obtain ⟨hrest, htree⟩ := Transformation.applyAll_drop hrun hall
  have hfirst := Transformation.applyAll_take hrun hall
  rw [hlength] at hrest htree hfirst
  have hfinal : (apply stamp env tree verbose config root reverse false).2 =
      (Transformation.applyAll (Path.normal root) env ts tree).tree := by
    simp only [apply_tree, hts, hroot, if_true]
  refine ⟨_, _, rfl, rfl, hfirst, hrest, ?_, ?_, hfinal.trans htree, ?_, fun hlater => ?_⟩
  · rw [hreport, Report.append, herrors]
  · rw [hreport, Report.append, hending]
  · simp only [apply_tree]
  · rw [hfinal, htree, Transformation.applyAll_noop hrest hlater]

/-- The file is changed though the run ends with the error of the transformation before. -/
theorem apply_goes_on_mixture : ∃ t u, prepared mixtureTree "a" false = .ok [t, u] ∧
    (apply "" {} mixtureTree false "a" "w" false false).1.ending = .exit 1 ∧
    (∃ log, (apply "" {} mixtureTree false "a" "w" false false).1.errors =
      log ++ [errorLine (Event.noopMessage "Replace foo"), noopHint]) ∧
    (Transformation.applyAll (Path.normal "w") {} [t] mixtureTree).tree.fileAt? ["w", "b"] = some [0x78] ∧
    (apply "" {} mixtureTree false "a" "w" false false).2.fileAt? ["w", "b"] = some [0x79] := by
  obtain ⟨t, u, hts, hmixture⟩ := mixture_prepared
  obtain ⟨noop, changed, hrun, hnoop, hidentity, hfile⟩ := hmixture.written
  obtain ⟨first, rest, -, -, -, -, herrors, hending, -⟩ :=
    apply_goes_on "" false hts mixture_isDirectory hrun (List.forall_mem_nil _) hnoop
  rw [hidentity] at herrors
  refine ⟨t, u, hts, hending, ⟨_, herrors⟩, ?_, ?_⟩
  · rw [hmixture.alone]
    rfl
  · rw [apply_tree, hts]
    simp only [mixture_isDirectory, if_true]
    exact hfile

/-- So the tree is not always the one that the transformations up to the first without effect leave. -/
theorem apply_not_stopped :
    ¬∀ stamp env tree verbose config root reverse ts done noop later,
      prepared tree config reverse = .ok ts → tree.isDirectory (Path.normal root) = true →
      (Transformation.applyAll (Path.normal root) env ts tree).result = .ok (done ++ noop :: later) →
      (∀ r ∈ done, r.isNoop = false) → noop.isNoop = true →
      (apply stamp env tree verbose config root reverse false).2 =
        (Transformation.applyAll (Path.normal root) env (ts.take (done.length + 1)) tree).tree := by
  intro hstops
  obtain ⟨t, u, hts, hmixture⟩ := mixture_prepared
  obtain ⟨noop, changed, hrun, hnoop, -, hfile⟩ := hmixture.written
  have hstopped := hstops "" {} mixtureTree false "a" "w" false [t, u] [] noop [changed] hts mixture_isDirectory hrun
    (List.forall_mem_nil _) hnoop
  have hletter : (apply "" {} mixtureTree false "a" "w" false false).2.fileAt? ["w", "b"] = some [0x78] := by
    rw [hstopped]
    exact congrArg (Tree.fileAt? · ["w", "b"]) hmixture.alone
  rw [apply_tree, hts] at hletter
  simp only [mixture_isDirectory, if_true] at hletter
  exact absurd (hfile.symm.trans hletter) (by decide)

/-- A run that fails ends with an error, but the failure is told only if the transformations without effect before
it are ignored, or there are none. Otherwise the error is that of the first of these. -/
theorem apply_failure_told (stamp : String) (verbose ignoreNoop : Bool)
    (hts : prepared tree config reverse = .ok ts) (hroot : tree.isDirectory (Path.normal root) = true)
    (hrun : (Transformation.applyAll (Path.normal root) env ts tree).result = .ok (done ++ [failed]))
    (hfailed : failed.outcome = .error failure) :
    (apply stamp env tree verbose config root reverse ignoreNoop).1.ending = .exit 1 ∧
      ∃ told, (apply stamp env tree verbose config root reverse ignoreNoop).1.errors =
          (Transformation.applyAll (Path.normal root) env ts tree).notes.filterMap (noteLine? stamp verbose) ++
            told ∧
        (errorLine (failed.identity ++ ": " ++ failure.message) ∈ told ↔
          ignoreNoop = true ∨ ∀ r ∈ done, r.isNoop = false) ∧
        ((ignoreNoop = true ∨ ∀ r ∈ done, r.isNoop = false) →
          told = warnings done ++ [errorLine (failed.identity ++ ": " ++ failure.message)]) ∧
        (ignoreNoop = false → ∀ noop, done.find? (·.isNoop) = some noop →
          told = [errorLine (Event.noopMessage noop.identity), noopHint]) := by
  have hok := Transformation.applyAll_ok_before hrun
  obtain ⟨t, -, hidentity⟩ :=
    Transformation.applyAll_identity hrun (List.mem_append_right _ (List.mem_singleton_self _))
  rw [apply_of_prepared stamp verbose ignoreNoop hts hroot hrun]
  by_cases hpass : ignoreNoop = true ∨ ∀ r ∈ done, r.isNoop = false
  · obtain ⟨herrors, hending⟩ := reportResults_failed (Path.normal root) verbose hok hpass hfailed
    refine ⟨hending, _, rfl, ?_, fun _ => herrors, ?_⟩
    · rw [herrors]
      exact iff_of_true (List.mem_append_right _ (List.mem_singleton_self _)) hpass
    · intro hignored noop hnoop
      rcases hpass with rfl | hnone
      · cases hignored
      · have hfound := List.find?_some hnoop
        rw [hnone noop (List.mem_of_find?_eq_some hnoop)] at hfound
        cases hfound
  · obtain ⟨hignored, hsome⟩ := not_or.mp hpass
    obtain rfl := Bool.eq_false_iff.mpr hignored
    cases hfind : done.find? (·.isNoop) with
    | none => exact absurd (by simpa using hfind) hsome
    | some noop =>
      obtain ⟨hnoop, before, after, rfl, hbefore⟩ := List.find?_eq_some_iff_append.mp hfind
      have hbefore : ∀ r ∈ before, r.isNoop = false := by simpa using hbefore
      rw [List.append_assoc, List.cons_append]
      obtain ⟨herrors, hending⟩ := reportResults_noop (Path.normal root) verbose
        (fun r hr => hok r (List.mem_append_left _ hr)) hbefore hnoop (after ++ [failed])
      refine ⟨hending, _, rfl, ?_, fun hpassed => absurd hpassed hpass, fun _ found hfound => ?_⟩
      · rw [herrors, hidentity]
        refine iff_of_false (fun hmem => ?_) hpass
        rcases List.mem_cons.mp hmem with heq | hmem
        · exact errorLine_failed_ne t _ _ heq
        · exact absurd (List.mem_singleton.mp hmem) (errorLine_ne_noopHint _)
      · rw [herrors, Option.some.inj hfound]

/-- The failure is told if the transformation before it is ignored, and is hidden by it otherwise. -/
theorem apply_failure_told_mixture :
    (∃ log, (apply "" mixtureSealed mixtureTree false "a" "w" false true).1.errors =
      log ++ [errorLine "Replace x: Failed to rewrite w/b: read-only"]) ∧
    (∃ log, (apply "" mixtureSealed mixtureTree false "a" "w" false false).1.errors =
      log ++ [errorLine (Event.noopMessage "Replace foo"), noopHint]) := by
  obtain ⟨t, u, hts, hmixture⟩ := mixture_prepared
  obtain ⟨noop, hrun, hnoop, hidentity⟩ := hmixture.denied
  obtain ⟨-, told, herrors, -, htold, -⟩ :=
    apply_failure_told "" false true hts mixture_isDirectory hrun rfl
  obtain ⟨-, untold, herrors', -, -, huntold⟩ :=
    apply_failure_told "" false false hts mixture_isDirectory hrun rfl
  constructor
  · rw [herrors, htold (.inl rfl), ← List.append_assoc]
    exact ⟨_, rfl⟩
  · rw [herrors', huntold rfl noop (by simp [hnoop]), hidentity]
    exact ⟨_, rfl⟩

/-- So it is not always told. -/
theorem apply_failure_untold :
    ¬∀ stamp env tree verbose config root reverse ignoreNoop ts done failed failure,
      prepared tree config reverse = .ok ts → tree.isDirectory (Path.normal root) = true →
      (Transformation.applyAll (Path.normal root) env ts tree).result = .ok (done ++ [failed]) →
      failed.outcome = .error failure →
      errorLine (failed.identity ++ ": " ++ failure.message) ∈
          (apply stamp env tree verbose config root reverse ignoreNoop).1.errors ∧
        (apply stamp env tree verbose config root reverse ignoreNoop).1.ending = .exit 1 := by
  intro htold
  obtain ⟨t, u, hts, hmixture⟩ := mixture_prepared
  obtain ⟨noop, hrun, hnoop, hidentity⟩ := hmixture.denied
  obtain ⟨hmem, -⟩ := htold "" mixtureSealed mixtureTree false "a" "w" false false [t, u] [noop] _ _ hts
    mixture_isDirectory hrun rfl
  rw [apply_of_prepared "" false false hts mixture_isDirectory hrun] at hmem
  rcases List.mem_append.mp hmem with hlog | hreport
  · obtain ⟨note, -, hnote⟩ := List.mem_filterMap.mp hlog
    exact noteLine?_ne_errorLine hnote rfl
  · have hnoops := reportResults_noop (Path.normal "w") false (List.forall_mem_nil _) (List.forall_mem_nil _) hnoop
      [⟨"Replace x", .error (.apply ⟨.rewriting, "w/b", .denied "read-only"⟩)⟩]
    have hreport : errorLine "Replace x: Failed to rewrite w/b: read-only" ∈
        (reportResults (Path.normal "w") false false ([] ++ noop :: [_])).errors := hreport
    rw [hnoops.1, hidentity] at hreport
    exact absurd hreport (by decide)

end CommandLine

end TemplateSwap
