import TemplateSwap.Proofs.Running.Retracing
import TemplateSwap.Proofs.Tree.Linking

namespace TemplateSwap

open TemplateSwap.Text (Code Codec Encoding)

namespace Application

variable {r : Replacer} {encoding path root : String} {env : Environment} {t next final : Tree} {changed : Bool}
variable {files : List (List String)} {visits : List (List String × Bool)} {v visit : Visit}

/-- A file is rewritten without a failure. It is read, and either keeps its text or is given another one. -/
inductive Rewrites (r : Replacer) (encoding : String) (env : Environment) (t : Tree) (path : String) :
    Bool → Tree → Prop
  | same {place : List String} {codec : Codec} {text : List Code} (opens : Opens encoding env t path place codec text)
      (hsame : r.replace text = text) : Rewrites r encoding env t path false t
  | changed {place : List String} {codec : Codec} {text : List Code} {bytes : List UInt8}
      (opens : Opens encoding env t path place codec text) (hchanged : r.replace text ≠ text)
      (writable : env.writing.lookup path = none) (hbytes : codec.encode (r.replace text) = .ok bytes) :
      Rewrites r encoding env t path true (t.put place (.file bytes))

/-- Files below a root are rewritten one after the other without a failure. -/
inductive RewritesAll (r : Replacer) (encoding : String) (env : Environment) (root : String) :
    Tree → List (List String × Bool) → Tree → Prop
  | nil (t : Tree) : RewritesAll r encoding env root t [] t
  | cons {t next final : Tree} {names : List String} {changed : Bool} {visits : List (List String × Bool)}
      (one : Rewrites r encoding env t (Path.below root names) changed next)
      (rest : RewritesAll r encoding env root next visits final) :
      RewritesAll r encoding env root t ((names, changed) :: visits) final

theorem Rewrites.rewriteFile_eq (h : Rewrites r encoding env t path changed next) :
    ∃ count, (rewriteFile r encoding env t path).result = .ok count ∧ count.isSome = changed ∧
      (rewriteFile r encoding env t path).tree = next := by
  cases h with
  | same opens hsame =>
    obtain ⟨data, hread, hdecode⟩ := opens.decoded
    have hone : rewriteFile r encoding env t path = ⟨t, [], .ok none⟩ := by
      simp only [rewriteFile, opens.readable, hread, opens.known, hdecode]
      exact if_pos hsame
    rw [hone]
    exact ⟨none, rfl, rfl, rfl⟩
  | @changed place codec text bytes opens hchanged writable hbytes =>
    obtain ⟨data, hread, hdecode⟩ := opens.decoded
    obtain ⟨count, hone⟩ : ∃ count, rewriteFile r encoding env t path =
        ⟨t.put place (.file bytes), [.rewrote path count], .ok (some count)⟩ := by
      rw [Replacer.replace] at hbytes
      simp only [rewriteFile, opens.readable, hread, opens.known, hdecode, writable, hbytes]
      exact ⟨_, if_neg hchanged⟩
    rw [hone]
    exact ⟨some count, rfl, rfl, rfl⟩

theorem rewrites_of_ok {count : Option Nat} (h : (rewriteFile r encoding env t path).result = .ok count) :
    Rewrites r encoding env t path count.isSome (rewriteFile r encoding env t path).tree := by
  have hends := rewriteFile_ends r encoding env t path
  generalize rewriteFile r encoding env t path = outcome at h hends ⊢
  cases hends with
  | closed | unread | unknown | undecoded | sealed | refused => cases h
  | same opens hsame =>
    obtain rfl := Except.ok.inj h
    exact .same opens hsame
  | written opens hchanged hwriting hbytes count =>
    obtain rfl := Except.ok.inj h
    exact .changed opens hchanged hwriting hbytes

/-- The visits to files are recorded as they were. -/
theorem RewritesAll.rewriteFiles_eq (h : RewritesAll r encoding env root t visits final) (v : Visit) :
    (rewriteFiles r encoding env v t (visits.map fun visit => Path.below root visit.1)).result =
        .ok (v.recordAll (visits.map fun visit => (Path.below root visit.1, visit.2))) ∧
      (rewriteFiles r encoding env v t (visits.map fun visit => Path.below root visit.1)).tree = final := by
  induction h generalizing v with
  | nil t => exact ⟨rfl, rfl⟩
  | @cons t next final names changed visits one rest ih =>
    obtain ⟨count, hresult, rfl, rfl⟩ := one.rewriteFile_eq
    simp only [List.map_cons, rewriteFiles, hresult]
    exact ih (v.record (Path.below root names) count.isSome)

theorem exists_rewritesAll (h : (rewriteFiles r encoding env v t (files.map (Path.below root))).result = .ok visit) :
    ∃ visits, visits.map (·.1) = files ∧ RewritesAll r encoding env root t visits
      (rewriteFiles r encoding env v t (files.map (Path.below root))).tree := by
  induction files generalizing v t with
  | nil => exact ⟨[], rfl, .nil t⟩
  | cons names files ih =>
    simp only [List.map_cons, rewriteFiles] at h ⊢
    cases hone : (rewriteFile r encoding env t (Path.below root names)).result with
    | error failure =>
      simp only [hone] at h
      cases h
    | ok count =>
      simp only [hone] at h ⊢
      obtain ⟨visits, hfiles, hrest⟩ := ih h
      exact ⟨(names, count.isSome) :: visits, congrArg (names :: ·) hfiles, .cons (rewrites_of_ok hone) hrest⟩

theorem Rewrites.proper (ht : t.Proper) (h : Rewrites r encoding env t path changed next) : next.Proper := by
  cases h with
  | same => exact ht
  | changed opens =>
    obtain ⟨data, hread, -⟩ := opens.decoded
    exact ht.put (Tree.at?_of_readFile hread) _

theorem RewritesAll.proper (ht : t.Proper) (h : RewritesAll r encoding env root t visits final) :
    final.Proper := by
  induction h with
  | nil t => exact ht
  | cons one _ ih => exact ih (one.proper ht)

end Application

/-- A transformation with the files that it visited, each with whether it got another text. -/
structure Account where
  transformation : Transformation
  visits : List (List String × Bool)

namespace Account

/-- The files that got another text. -/
def changed (a : Account) : List (List String) := (a.visits.filter (·.2)).map (·.1)

/-- The result for a transformation that was applied below a root. -/
def result (root : String) (a : Account) : ApplyResult :=
  ⟨a.transformation.identity, .ok ((({} : Visit).recordAll
    (a.visits.map fun visit => (Path.below root visit.1, visit.2))).close a.transformation.identity)⟩

theorem result_eq (root : String) (a : Account) : ∃ visit, a.result root = ⟨a.transformation.identity, .ok visit⟩ ∧
    visit.visited = a.visits.length ∧ visit.changed = a.changed.length ∧
    visit.changedPaths = a.changed.map (Path.below root) := by
  refine ⟨_, rfl, ?_, ?_, ?_⟩ <;>
    simp [Visit.close_eq, Visit.recordAll_eq, changed, List.filter_map, Function.comp_def]

end Account

namespace Transformation

variable {root : String} {env : Environment} {t : Transformation} {ts : List Transformation} {tree next final : Tree}
variable {visits : List (List String × Bool)} {accounts : List Account}

/-- A transformation is applied without a failure: the walk comes to its end, and all accepted files in it are
rewritten. -/
structure Applied (root : String) (env : Environment) (t : Transformation) (tree : Tree)
    (visits : List (List String × Bool)) (final : Tree) : Prop where
  listed : (tree.walk env root).failure = none
  files : visits.map (·.1) = (tree.walk env root).files.filter fun names => t.paths.accepts (Path.text names)
  rewritten : ∃ r, t.spec.replacer = .ok r ∧ Application.RewritesAll r t.encoding env root tree visits final

/-- Transformations are applied one after the other without a failure. -/
inductive AppliedAll (root : String) (env : Environment) : Tree → List Account → Tree → Prop
  | nil (tree : Tree) : AppliedAll root env tree [] tree
  | cons {tree next final : Tree} {a : Account} {accounts : List Account}
      (one : Applied root env a.transformation tree a.visits next)
      (rest : AppliedAll root env next accounts final) : AppliedAll root env tree (a :: accounts) final

theorem Applied.apply_eq (hroot : Path.normal root = root) (h : t.Applied root env tree visits final) :
    (t.apply root env tree).result = .ok (Account.result root ⟨t, visits⟩) ∧
      (t.apply root env tree).tree = final := by
  obtain ⟨hlisted, hfiles, r, hr, hall⟩ := h
  obtain ⟨hresult, htree⟩ := hall.rewriteFiles_eq {}
  have hpaths : visits.map (fun visit => Path.below root visit.1) = (visits.map (·.1)).map (Path.below root) := by
    rw [List.map_map]
    rfl
  rw [← hroot] at hlisted hfiles
  rw [hpaths, ← hroot] at hresult htree
  obtain ⟨hruntree, hrun⟩ := Application.run_complete hr hfiles.symm hlisted hresult
  simp only [apply, hrun, hruntree]
  rw [hroot] at htree ⊢
  exact ⟨rfl, htree⟩

theorem exists_applied (hroot : Path.normal root = root) (h : t.Leads root env tree next) :
    ∃ visits, t.Applied root env tree visits next := by
  obtain ⟨⟨result, hresult, hok⟩, rfl⟩ := h
  unfold apply at hresult ⊢
  dsimp only at hresult ⊢
  cases hrun : (Application.run t.spec root t.paths.accepts t.encoding env tree).result with
  | error failure =>
    simp only [hrun] at hresult
    split_ifs at hresult
    rw [← Except.ok.inj hresult] at hok
    cases hok
  | ok visit =>
    obtain ⟨r, found, files, hr, hlisted, hfiles, hrewritten, -⟩ := Application.run_ok hrun
    obtain ⟨htree, -⟩ := Application.run_complete hr hfiles hlisted hrewritten
    obtain ⟨visits, hvisits, hall⟩ := Application.exists_rewritesAll hrewritten
    rw [← htree, hroot] at hall
    rw [hroot] at hlisted hfiles
    exact ⟨visits, hlisted, hvisits.trans hfiles.symm, r, hr, hall⟩

/-- All results are of success, and say what was visited. -/
theorem AppliedAll.applyAll_eq (hroot : Path.normal root = root) (h : AppliedAll root env tree accounts final) :
    (applyAll root env (accounts.map (·.transformation)) tree).result = .ok (accounts.map (Account.result root)) ∧
      (applyAll root env (accounts.map (·.transformation)) tree).tree = final := by
  induction h with
  | nil tree => exact ⟨rfl, rfl⟩
  | cons one _ ih =>
    obtain ⟨hresult, rfl⟩ := one.apply_eq hroot
    rw [List.map_cons, applyAll_cons hresult rfl, ih.1]
    exact ⟨rfl, ih.2⟩

theorem exists_appliedAll (hroot : Path.normal root = root) (h : Succeeds root env ts tree) :
    ∃ accounts final, accounts.map (·.transformation) = ts ∧ AppliedAll root env tree accounts final := by
  induction ts generalizing tree with
  | nil => exact ⟨[], tree, rfl, .nil tree⟩
  | cons t ts ih =>
    obtain ⟨next, ht, hrest⟩ := succeeds_cons.mp h
    obtain ⟨visits, one⟩ := exists_applied hroot ht
    obtain ⟨accounts, final, hts, rest⟩ := ih hrest
    exact ⟨⟨t, visits⟩ :: accounts, final, congrArg (t :: ·) hts, .cons one rest⟩

theorem Applied.proper (htree : tree.Proper) (h : t.Applied root env tree visits final) : final.Proper := by
  obtain ⟨-, -, r, -, hall⟩ := h
  exact hall.proper htree

/-- From the root, what is visited is seen as the names that lead to it. -/
theorem Applied.relative (htree : tree.Proper) (hroot : root ≠ "") (h : t.Applied root env tree visits final)
    {names : List String} (hnames : names ∈ visits.map (·.1)) :
    Path.relative root (Path.below root names) = Path.text names := by
  obtain ⟨place, entries, hresolve⟩ := Tree.exists_root h.listed
  rw [h.files] at hnames
  obtain ⟨hsome, hall⟩ := Tree.names_of_mem_walk htree hresolve hroot (List.mem_of_mem_filter hnames)
  exact Path.relative_below hall hsome

theorem AppliedAll.relative (htree : tree.Proper) (hroot : root ≠ "")
    (h : AppliedAll root env tree accounts final) : ∀ a ∈ accounts, ∀ names ∈ a.changed,
      Path.relative root (Path.below root names) = Path.text names := by
  induction h with
  | nil tree => exact List.forall_mem_nil _
  | cons one _ ih =>
    refine List.forall_mem_cons.mpr ⟨fun names hnames => ?_, ih (one.proper htree)⟩
    obtain ⟨visit, hvisit, rfl⟩ := List.mem_map.mp hnames
    exact one.relative htree hroot (List.mem_map_of_mem (List.mem_of_mem_filter hvisit))

end Transformation

end TemplateSwap
