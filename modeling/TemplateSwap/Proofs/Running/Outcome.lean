import TemplateSwap.Proofs.Running.Reporting
import TemplateSwap.Proofs.Running.Visiting

namespace TemplateSwap

/-- A report goes on after the result. -/
def ApplyResult.passes (ignoreNoop : Bool) (r : ApplyResult) : Bool :=
  match r.outcome with
  | .ok visit => !visit.isNoop || ignoreNoop
  | .error _ => false

theorem ApplyResult.ok_of_passes {ignoreNoop : Bool} {r : ApplyResult} (h : r.passes ignoreNoop = true) :
    r.ok = true := by
  rw [ok]
  cases houtcome : r.outcome with
  | ok visit => rfl
  | error failure =>
    rw [passes, houtcome] at h
    cases h

namespace Account

/-- What is printed of a transformation: a summary and, if more is asked for, the files that it changed. -/
def lines (verbose : Bool) (a : Account) : List String :=
  (a.transformation.identity ++ ": " ++ toString a.changed.length ++ " of " ++ toString a.visits.length
    ++ " files changed") :: if verbose then a.changed.map fun names => "  " ++ Path.text names else []

theorem passes_result (root : String) (ignoreNoop : Bool) (a : Account) :
    (a.result root).passes ignoreNoop = true ↔ ignoreNoop = true ∨ a.changed ≠ [] := by
  obtain ⟨visit, hresult, -, hchanged, -⟩ := a.result_eq root
  simp [hresult, ApplyResult.passes, Visit.isNoop, hchanged, or_comm]

end Account

namespace CommandLine

open Transformation (AppliedAll)

variable {stamp config root : String} {env : Environment} {tree final : Tree} {verbose reverse ignoreNoop : Bool}
variable {ts : List Transformation} {accounts : List Account} {report : Report} {arguments : List String}

/-- A configuration loads, and all that it declares is built. -/
def Loads (tree : Tree) (config : String) (ts : List Transformation) : Prop :=
  ∃ declared, Configuration.load tree config = .ok declared ∧
    List.Forall₂ (fun (d : Declared) t => Kinds.build {} d.entry (some d.location) = .ok (.ok t)) declared ts

/-- Transformations are loaded. Where this is asked for, they are turned around one by one, and come in the opposite
order. -/
def Prepares (tree : Tree) (config : String) (reverse : Bool) (ts : List Transformation) : Prop :=
  ∃ origins, Loads tree config origins ∧
    if reverse then List.Forall₂ (fun t r => t.reverse = .ok r) origins ts.reverse else origins = ts

theorem loadAll_iff : loadAll tree config = .ok ts ↔ Loads tree config ts := by
  rw [loadAll_eq_ok, Configuration.build, Results.bind_ok]
  simp only [Results.mapM_ok, List.forall₂_map_right_iff]
  rfl

theorem prepared_iff : prepared tree config reverse = .ok ts ↔ Prepares tree config reverse ts := by
  rw [prepared, Results.bind_ok]
  refine exists_congr fun origins => and_congr loadAll_iff ?_
  cases reverse with
  | false => exact Results.pure_ok
  | true => exact reverseOrReport_ok.trans Transformation.reverseAll_ok

theorem loadAll_fails (h : loadAll tree config = .error report) :
    report.ending = .exit 1 ∨ ∃ failure, report.ending = .escaped failure := by
  unfold loadAll at h
  cases hbuilt : Configuration.build {} tree config with
  | error failure =>
    simp only [hbuilt] at h
    rw [← Except.error.inj h]
    split_ifs
    · exact .inl rfl
    · exact .inr ⟨failure, rfl⟩
  | ok built =>
    simp only [hbuilt] at h
    split_ifs at h
    rw [← Except.error.inj h]
    exact .inl rfl

theorem prepared_fails (h : prepared tree config reverse = .error report) :
    report.ending = .exit 1 ∨ ∃ failure, report.ending = .escaped failure := by
  rcases Results.bind_error.mp h with h | ⟨origins, -, h⟩
  · exact loadAll_fails h
  · split_ifs at h
    · unfold reverseOrReport at h
      split at h
      · cases h
      · rw [← Except.error.inj h]
        exact .inl rfl
    · cases h

theorem reportResults_ending (root : String) (verbose ignoreNoop : Bool) (results : List ApplyResult) :
    (reportResults root verbose ignoreNoop results).ending =
      .exit (if results.all (·.passes ignoreNoop) then 0 else 1) := by
  induction results with
  | nil => rfl
  | cons r results ih =>
    cases houtcome : r.outcome with
    | error failure => simp [reportResults, houtcome, ApplyResult.passes, Report.failure]
    | ok visit =>
      cases hnoop : visit.isNoop <;> cases ignoreNoop <;>
        simp [reportResults, houtcome, ApplyResult.passes, hnoop, Report.append, ih]

/-- As long as the report goes on, it prints of each transformation what it visited and changed. -/
theorem reportResults_output (root : String) (verbose : Bool)
    (hpass : ∀ a ∈ accounts, (a.result root).passes ignoreNoop = true)
    (hseen : ∀ a ∈ accounts, ∀ names ∈ a.changed, Path.relative root (Path.below root names) = Path.text names) :
    (reportResults root verbose ignoreNoop (accounts.map (Account.result root))).output =
      accounts.flatMap (Account.lines verbose) := by
  induction accounts with
  | nil => rfl
  | cons a accounts ih =>
    rw [List.forall_mem_cons] at hpass hseen
    obtain ⟨visit, hresult, hvisited, hchanged, hpaths⟩ := a.result_eq root
    have hgoes : (visit.isNoop && !ignoreNoop) = false := by
      have hfirst := hpass.1
      rw [hresult, ApplyResult.passes] at hfirst
      rw [← Bool.not_eq_true', Bool.not_and, Bool.not_not]
      exact hfirst
    have hnames : visit.changedPaths.map (fun path => "  " ++ Path.relative root path) =
        a.changed.map fun names => "  " ++ Path.text names := by
      rw [hpaths, List.map_map]
      exact List.map_congr_left fun names hmem => congrArg ("  " ++ ·) (hseen.1 names hmem)
    rw [List.map_cons, List.flatMap_cons, ← ih hpass.2 hseen.2, hresult]
    simp only [reportResults, hgoes, Report.append, summary, hvisited, hchanged, hnames, Account.lines]
    rfl

/-- What it takes for a run to end well, with what its transformations visited and the tree that they left. -/
structure Completes (env : Environment) (tree : Tree) (config root : String) (reverse ignoreNoop : Bool)
    (accounts : List Account) (final : Tree) : Prop where
  prepares : Prepares tree config reverse (accounts.map (·.transformation))
  isDirectory : tree.isDirectory (Path.normal root) = true
  applied : AppliedAll (Path.normal root) env tree accounts final
  effective : ignoreNoop = true ∨ ∀ a ∈ accounts, a.changed ≠ []

theorem passes_iff (root : String) (ignoreNoop : Bool) (accounts : List Account) :
    (accounts.map (Account.result root)).all (·.passes ignoreNoop) = true ↔
      ignoreNoop = true ∨ ∀ a ∈ accounts, a.changed ≠ [] := by
  simp only [List.all_map, List.all_eq_true, Function.comp_apply, Account.passes_result]
  cases ignoreNoop <;> simp

theorem apply_completed (stamp : String) (verbose : Bool) (htree : tree.Proper)
    (h : Completes env tree config root reverse ignoreNoop accounts final) :
    (apply stamp env tree verbose config root reverse ignoreNoop).1.ending = .exit 0 ∧
      (apply stamp env tree verbose config root reverse ignoreNoop).1.output =
        accounts.flatMap (Account.lines verbose) ∧
      (apply stamp env tree verbose config root reverse ignoreNoop).2 = final := by
  obtain ⟨hresult, hfinal⟩ := h.applied.applyAll_eq (Path.normal_normal root)
  have hpass := (passes_iff (Path.normal root) ignoreNoop accounts).mpr h.effective
  have heach : ∀ a ∈ accounts, (a.result (Path.normal root)).passes ignoreNoop = true := by
    simpa [List.all_eq_true] using hpass
  have hseen := h.applied.relative htree (Path.normal_ne_empty root)
  rw [apply_eq, prepared_iff.mpr h.prepares]
  simp only [h.isDirectory, if_true, runReport, hresult, hfinal, Report.append,
    reportResults_ending, hpass, reportResults_output _ verbose heach hseen, List.nil_append, and_self]

/-- A run that does not end well ends with an error, unless a failure escapes. -/
theorem apply_ends (stamp : String) (env : Environment) (tree : Tree) (verbose : Bool) (config root : String)
    (reverse ignoreNoop : Bool) :
    (∃ accounts final, Completes env tree config root reverse ignoreNoop accounts final) ∨
      (apply stamp env tree verbose config root reverse ignoreNoop).1.ending = .exit 1 ∨
      ∃ failure, (apply stamp env tree verbose config root reverse ignoreNoop).1.ending = .escaped failure := by
  rw [apply_eq]
  cases hts : prepared tree config reverse with
  | error report => exact .inr (prepared_fails hts)
  | ok ts =>
    dsimp only
    split_ifs with hroot
    · cases hrun : (Transformation.applyAll (Path.normal root) env ts tree).result with
      | error failure => exact .inr (.inr ⟨failure, by simp only [runReport, hrun, Report.append, Report.escaped]⟩)
      | ok results =>
        simp only [runReport, hrun, Report.append, reportResults_ending]
        split_ifs with hpass
        · left
          have hok : ∀ r ∈ results, r.ok = true :=
            fun r hr => ApplyResult.ok_of_passes (List.all_eq_true.mp hpass r hr)
          obtain ⟨accounts, final, rfl, happlied⟩ :=
            Transformation.exists_appliedAll (Path.normal_normal root) ⟨results, hrun, hok⟩
          rw [(happlied.applyAll_eq (Path.normal_normal root)).1] at hrun
          obtain rfl := Except.ok.inj hrun
          exact ⟨accounts, final, prepared_iff.mp hts, hroot, happlied, (passes_iff _ _ _).mp hpass⟩
        · exact .inr (.inl rfl)
    · exact .inr (.inl rfl)

/-- How the application of a configuration ends if no failure escapes, whatever the file system holds. -/
theorem run_outcome (stamp : String) (env : Environment) (htree : tree.Proper)
    (harguments : Request.ofArguments arguments = .run verbose (.apply config root reverse ignoreNoop))
    (hends : ∀ failure, (run stamp env tree arguments).1.ending ≠ .escaped failure) :
    ((run stamp env tree arguments).1.ending = .exit 0 ↔
      ∃ accounts final, Completes env tree config root reverse ignoreNoop accounts final) ∧
    ((run stamp env tree arguments).1.ending ≠ .exit 0 →
      (run stamp env tree arguments).1.ending = .exit 1) ∧
    (∀ accounts final, Completes env tree config root reverse ignoreNoop accounts final →
      (run stamp env tree arguments).1.output = accounts.flatMap (Account.lines verbose) ∧
        (run stamp env tree arguments).2 = final) ∧
    ((¬∃ ts, Prepares tree config reverse ts) ∨ tree.isDirectory (Path.normal root) = false →
      (run stamp env tree arguments).2 = tree) := by
  have hrun : run stamp env tree arguments = apply stamp env tree verbose config root reverse ignoreNoop := by
    rw [run, harguments]
  rw [hrun] at hends ⊢
  have hcompleted := fun accounts final =>
    @apply_completed config root env tree final reverse ignoreNoop accounts stamp verbose htree
  have hother : (∃ accounts final, Completes env tree config root reverse ignoreNoop accounts final) ∨
      (apply stamp env tree verbose config root reverse ignoreNoop).1.ending = .exit 1 := by
    rcases apply_ends stamp env tree verbose config root reverse ignoreNoop with h | h | ⟨failure, h⟩
    · exact .inl h
    · exact .inr h
    · exact absurd h (hends failure)
  refine ⟨⟨fun hzero => ?_, ?_⟩, fun hnonzero => ?_, fun accounts final h => (hcompleted accounts final h).2, ?_⟩
  · refine hother.resolve_right fun hone => ?_
    rw [hzero] at hone
    cases hone
  · rintro ⟨accounts, final, h⟩
    exact (hcompleted accounts final h).1
  · refine hother.resolve_left ?_
    rintro ⟨accounts, final, h⟩
    exact hnonzero (hcompleted accounts final h).1
  · intro hstopped
    rw [apply_tree]
    cases hts : prepared tree config reverse with
    | error report => rfl
    | ok ts =>
      have hroot := hstopped.resolve_left fun hno => hno ⟨ts, prepared_iff.mp hts⟩
      simp [hroot]

/-- Both transformations of the mixture visit the file, and the second one changes it. -/
theorem Mixture.appliedAll {t u : Transformation} (h : Mixture t u) : ∃ final,
    AppliedAll (Path.normal "w") {} mixtureTree [⟨t, [(["b"], false)]⟩, ⟨u, [(["b"], true)]⟩] final := by
  obtain ⟨r, hr, hkeeps⟩ := h.keeps
  obtain ⟨r', hr', hchanges, hbytes⟩ := h.changes
  have hpath : Path.below (Path.normal "w") ["b"] = "w/b" := Path.below_normal (by decide)
  have hwalk : mixtureTree.walk {} (Path.normal "w") = ⟨[["b"]], none⟩ := workTree_walk _ _ rfl
  have hfiles : ∀ x ∈ [t, u], [["b"]] =
      (mixtureTree.walk {} (Path.normal "w")).files.filter fun names => x.paths.accepts (Path.text names) := by
    intro x hx
    rw [hwalk]
    simp [(h.accepts x hx).2]
  rw [Application.changes_iff, ne_eq, not_not] at hkeeps
  rw [Application.changes_iff] at hchanges
  have hread : mixtureTree.readFile (Path.below (Path.normal "w") ["b"]) = .ok (["w", "b"], [0x78]) := by
    rw [hpath]
    exact mixture_read
  have hfirst : t.Applied (Path.normal "w") {} mixtureTree [(["b"], false)] mixtureTree :=
    ⟨congrArg Walk.failure hwalk, hfiles t (by simp), r, hr,
      .cons (.same (.of_encoding (h.encoded t (by simp)) rfl hread) hkeeps) (.nil _)⟩
  have hsecond : u.Applied (Path.normal "w") {} mixtureTree [(["b"], true)]
      (mixtureTree.put ["w", "b"] (.file [0x79])) :=
    ⟨congrArg Walk.failure hwalk, hfiles u (by simp), r', hr',
      .cons (.changed (.of_encoding (h.encoded u (by simp)) rfl hread) hchanges rfl
        (Text.Encoding.codec_encode_ok.mpr hbytes)) (.nil _)⟩
  exact ⟨_, .cons hfirst (.cons hsecond (.nil _))⟩

/-- One transformation is without effect, which is ignored. -/
theorem run_outcome_mixture :
    (run "" {} mixtureTree ["-v", "apply", "a", "--root", "w", "--ignore-noop"]).1.ending = .exit 0 ∧
    (run "" {} mixtureTree ["-v", "apply", "a", "--root", "w", "--ignore-noop"]).1.output =
      ["Replace foo: 0 of 1 files changed", "Replace x: 1 of 1 files changed", "  b"] := by
  obtain ⟨t, u, hts, hmixture⟩ := mixture_prepared
  obtain ⟨final, happlied⟩ := hmixture.appliedAll
  have hcompletes : Completes {} mixtureTree "a" "w" false true
      [⟨t, [(["b"], false)]⟩, ⟨u, [(["b"], true)]⟩] final :=
    ⟨prepared_iff.mp hts, mixture_isDirectory, happlied, .inl rfl⟩
  have harguments : Request.ofArguments ["-v", "apply", "a", "--root", "w", "--ignore-noop"] =
      .run true (.apply "a" "w" false true) := by decide +kernel
  have hends : ∀ failure,
      (run "" {} mixtureTree ["-v", "apply", "a", "--root", "w", "--ignore-noop"]).1.ending ≠ .escaped failure := by
    intro failure hescaped
    rw [run, harguments] at hescaped
    have hzero := (apply_completed "" true mixture_plain.proper hcompletes).1
    cases hescaped.symm.trans hzero
  obtain ⟨hzero, -, houtput, -⟩ := run_outcome "" {} mixture_plain.proper harguments hends
  refine ⟨hzero.mpr ⟨_, final, hcompletes⟩, ?_⟩
  rw [(houtput _ _ hcompletes).1]
  simp only [List.flatMap_cons, List.flatMap_nil, Account.lines, Account.changed, hmixture.identities]
  decide

end CommandLine

end TemplateSwap
