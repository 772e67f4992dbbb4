import TemplateSwap.Proofs.Running.Applying
import TemplateSwap.Proofs.Replacement.Reversal
import TemplateSwap.CommandLine.Run

namespace TemplateSwap

open TemplateSwap.Text (Encoding)

theorem Factory.specOf_ok {source : SpecSource} {before after : Value} {s : Spec}
    (h : Factory.specOf source before after = .ok s) :
    ∃ before after, Spec.create { source with before, after } = .ok s := by
  unfold Factory.specOf at h
  split at h
  · exact ⟨_, _, h⟩
  · obtain ⟨f, -, h⟩ := Results.bind_ok.mp h
    obtain ⟨t, -, h⟩ := Results.bind_ok.mp h
    cases h
  · obtain ⟨f, -, h⟩ := Results.bind_ok.mp h
    cases h

theorem Spec.ready_of_create {source : SpecSource} {s : Spec} {r : Replacer}
    (hs : Spec.create source = .ok s) (hr : s.replacer = .ok r) : s.Ready := by
  obtain ⟨hf, hbefore, hafter⟩ := Spec.create_ok hs
  exact ⟨Composite.sound_of_compile hf, Template.read_numbered hbefore, Template.read_numbered hafter,
    r, hr⟩

/-- A transformation is built together with its replacer. -/
theorem Factory.buildReplace_ready {e : Entry} {location : Option Location} {t : Transformation}
    (h : Factory.buildReplace e location = .ok t) : t.spec.Ready := by
  obtain ⟨before, -, h⟩ := Results.bind_ok.mp h
  obtain ⟨after, -, h⟩ := Results.bind_ok.mp h
  obtain ⟨groups, -, h⟩ := Results.bind_ok.mp h
  obtain ⟨s, hs, h⟩ := Results.bind_ok.mp h
  obtain ⟨r, hr, h⟩ := Results.bind_ok.mp h
  obtain ⟨paths, -, h⟩ := Results.bind_ok.mp h
  obtain rfl := Results.pure_ok.mp h
  obtain ⟨_, _, hsource⟩ := Factory.specOf_ok hs
  exact Spec.ready_of_create hsource hr

theorem Kinds.get_default {kind : Value} {f : Factory} (h : Kinds.get {} kind = .ok f) :
    f = .replace := by
  unfold Kinds.get at h
  split at h
  · cases h
  · split at h
    · next name found hfind =>
      have hmem := List.mem_of_find?_eq_some hfind
      obtain ⟨-, rfl⟩ := Prod.mk.inj (List.mem_singleton.mp hmem)
      exact (Except.ok.inj h).symm
    · cases h

theorem Kinds.build_ready {e : Entry} {location : Option Location} {t : Transformation}
    (h : Kinds.build {} e location = .ok (.ok t)) : t.spec.Ready := by
  unfold Kinds.build at h
  split at h
  · cases Except.ok.inj h
  · cases h
  · next f hf =>
    obtain rfl := Kinds.get_default hf
    split at h
    · next built hbuilt =>
      obtain rfl := Except.ok.inj (Except.ok.inj h)
      exact Factory.buildReplace_ready hbuilt
    · cases Except.ok.inj h
    · cases h

namespace Configuration

theorem load_of_readFile {tree : Tree} {path : String} {place : List String} {data : List UInt8}
    (h : tree.readFile (Path.normal path) = .ok (place, data)) :
    load tree path = read (Path.normal path) data := by
  have hsystem : (tree.readFile (Path.normal path)).mapError Failure.system = .ok (place, data) :=
    Results.mapError_ok.mpr h
  exact congrArg (fun file => file >>= fun x => read (Path.normal path) x.2) hsystem

/-- What is built from a file that is read and built without a failure. -/
theorem exists_build {tree : Tree} {path : String} {place : List String} {data : List UInt8}
    {check : List (Except ConfigError Transformation) → Bool}
    (hfile : tree.readFile (Path.normal path) = .ok (place, data))
    (h : ((read (Path.normal path) data).toOption.any fun declared =>
      (declared.mapM fun d => Kinds.build {} d.entry (some d.location)).toOption.any check) = true) :
    ∃ built, build {} tree path = .ok built ∧ check built = true := by
  obtain ⟨declared, hdeclared, h⟩ := Results.exists_ok h
  obtain ⟨built, hbuilt, hchecked⟩ := Results.exists_ok h
  exact ⟨built, Results.bind_ok.mpr ⟨declared, (load_of_readFile hfile).trans hdeclared, hbuilt⟩, hchecked⟩

end Configuration

namespace Transformation

/-- The error of a transformation that cannot be turned around. -/
def refusal? (t : Transformation) : Option ConfigError :=
  match t.reverse with
  | .ok _ => none
  | .error e => some e

/-- From the last transformation to the first, each gives its reverse or an error. -/
theorem reverseAll_eq (ts : List Transformation) :
    reverseAll ts = (ts.reverse.filterMap (·.reverse.toOption), ts.reverse.filterMap refusal?) := by
  induction ts with
  | nil => rfl
  | cons t ts ih =>
    rw [reverseAll, ih, List.reverse_cons]
    cases ht : t.reverse <;> simp [refusal?, ht, Except.toOption]

end Transformation

namespace CommandLine

variable {tree : Tree} {config : String} {ts : List Transformation}

theorem build_ready {built : List (Except ConfigError Transformation)} {t : Transformation}
    (h : Configuration.build {} tree config = .ok built) (ht : .ok t ∈ built) : t.spec.Ready := by
  obtain ⟨declared, -, hall⟩ := Results.bind_ok.mp h
  obtain ⟨d, -, hd⟩ := Results.forall₂_right (Results.mapM_ok.mp hall) ht
  exact Kinds.build_ready hd

/-- A configuration is accepted when all that it declares is built. -/
theorem loadAll_eq_ok : loadAll tree config = .ok ts ↔ Configuration.build {} tree config = .ok (ts.map .ok) := by
  unfold loadAll
  cases Configuration.build {} tree config with
  | error failure => simp
  | ok built =>
    dsimp only
    split_ifs with hnone
    · have hbuilt : (built.filterMap Except.toOption).map .ok = built := by
        refine Results.map_ok_filterMap fun e he => ?_
        cases List.filterMap_eq_nil_iff.mp (List.isEmpty_iff.mp hnone) _ he
      rw [Except.ok.injEq, Except.ok.injEq]
      constructor
      · rintro rfl
        exact hbuilt.symm
      · rintro rfl
        simp [Except.toOption, Function.comp_def]
    · refine iff_of_false (fun hload => by cases hload) fun hall => hnone ?_
      rw [Except.ok.inj hall]
      simp

theorem loadAll_ok (h : loadAll tree config = .ok ts) :
    ∃ built, Configuration.build {} tree config = .ok built ∧ (∀ e, .error e ∉ built) ∧
      ∀ t ∈ ts, .ok t ∈ built := by
  refine ⟨_, loadAll_eq_ok.mp h, fun e he => ?_, fun t => List.mem_map_of_mem⟩
  obtain ⟨t, -, ht⟩ := List.mem_map.mp he
  cases ht

theorem loadAll_ready (h : loadAll tree config = .ok ts) : ∀ t ∈ ts, t.spec.Ready := by
  intro t ht
  obtain ⟨built, hbuilt, -, hall⟩ := loadAll_ok h
  exact build_ready hbuilt (hall t ht)

theorem mem_reverseAll {t : Transformation} (ht : t ∈ (Transformation.reverseAll ts).1) :
    ∃ origin ∈ ts, origin.reverse = .ok t := by
  rw [Transformation.reverseAll_eq] at ht
  obtain ⟨origin, horigin, hturned⟩ := List.mem_filterMap.mp ht
  refine ⟨origin, List.mem_reverse.mp horigin, ?_⟩
  cases hreverse : origin.reverse with
  | error e =>
    rw [hreverse] at hturned
    cases hturned
  | ok r =>
    rw [hreverse] at hturned
    exact congrArg Except.ok (Option.some.inj hturned)

theorem reverseOrReport_ok {ts' : List Transformation} :
    reverseOrReport ts = .ok ts' ↔ Transformation.reverseAll ts = (ts', []) := by
  unfold reverseOrReport
  split
  · next reversed hreversed => simp [hreversed]
  · next reversed errors hsome hreversed => simpa [hreversed] using fun _ => hsome

/-- The transformations of a run, once they are loaded and, where asked for, turned around. -/
def prepared (tree : Tree) (config : String) (reverse : Bool) : Except Report (List Transformation) := do
  let ts ← loadAll tree config
  if reverse then reverseOrReport ts else pure ts

/-- A run meets a configuration error: when the file is read, when an entry of it is built, when one is
turned around, or when one is applied. -/
inductive ConfigFailure (env : Environment) (tree : Tree) (config root : String) (reverse : Bool) : Prop
  | reading {e : ConfigError} (h : Configuration.build {} tree config = .error (.config e))
  | building {built : List (Except ConfigError Transformation)} {e : ConfigError}
    (h : Configuration.build {} tree config = .ok built) (he : .error e ∈ built)
  | reversing {ts : List Transformation} {e : ConfigError} (hreverse : reverse = true)
    (h : loadAll tree config = .ok ts) (he : e ∈ (Transformation.reverseAll ts).2)
  | applying {ts : List Transformation} {results : List ApplyResult} {result : ApplyResult}
    {e : ConfigError} (h : prepared tree config reverse = .ok ts)
    (hroot : tree.isDirectory (Path.normal root) = true)
    (hrun : (Transformation.applyAll (Path.normal root) env ts tree).result = .ok results)
    (hmem : result ∈ results) (he : result.outcome = .error (.config e))

theorem prepared_ok {reverse : Bool} (h : prepared tree config reverse = .ok ts) :
    (∃ origins, loadAll tree config = .ok origins) ∧
      (∀ origins, loadAll tree config = .ok origins →
        (reverse = false → ts = origins) ∧
        (reverse = true → Transformation.reverseAll origins = (ts, []))) := by
  obtain ⟨origins, hload, h⟩ := Results.bind_ok.mp h
  refine ⟨⟨origins, hload⟩, ?_⟩
  intro origins' hload'
  obtain rfl := Except.ok.inj (hload.symm.trans hload')
  constructor
  · intro heq
    obtain rfl := heq
    exact (Results.pure_ok.mp h).symm
  · intro heq
    obtain rfl := heq
    exact reverseOrReport_ok.mp h

/-- What is reported of transformations that were applied. -/
def runReport (stamp root : String) (verbose ignoreNoop : Bool) (run : Outcome (List ApplyResult)) : Report :=
  Report.append { errors := run.notes.filterMap (noteLine? stamp verbose) }
    (match run.result with
      | .error failure => .escaped failure
      | .ok results => reportResults root verbose ignoreNoop results)

/-- A run reports what is in its way before it applies anything. -/
theorem apply_eq (stamp : String) (env : Environment) (tree : Tree) (verbose : Bool)
    (config root : String) (reverse ignoreNoop : Bool) :
    apply stamp env tree verbose config root reverse ignoreNoop =
      match prepared tree config reverse with
      | .ok ts =>
        if tree.isDirectory (Path.normal root) then
          (runReport stamp (Path.normal root) verbose ignoreNoop
              (Transformation.applyAll (Path.normal root) env ts tree),
            (Transformation.applyAll (Path.normal root) env ts tree).tree)
        else (.failure [errorLine (Path.normal root ++ " is not a directory")], tree)
      | .error report => (report, tree) := by
  unfold apply prepared
  cases loadAll tree config with
  | error report => rfl
  | ok ts =>
    by_cases hroot : tree.isDirectory (Path.normal root) = true
    · cases reverse with
      | false =>
        simp only [bind, Except.bind, pure, Except.pure, hroot, if_true]
        rfl
      | true =>
        cases hts : reverseOrReport ts with
        | error report => simp [bind, Except.bind, hts]
        | ok rs =>
          simp only [bind, Except.bind, pure, Except.pure, hts, hroot, if_true]
          rfl
    · cases reverse with
      | false => simp [bind, Except.bind, pure, Except.pure, hroot, throw, throwThe, MonadExceptOf.throw]
      | true =>
        cases hts : reverseOrReport ts <;>
          simp [bind, Except.bind, hts, hroot, throw, throwThe, MonadExceptOf.throw]

/-- Nothing is changed but by the transformations that are applied. -/
theorem apply_tree (stamp : String) (env : Environment) (tree : Tree) (verbose : Bool)
    (config root : String) (reverse ignoreNoop : Bool) :
    (apply stamp env tree verbose config root reverse ignoreNoop).2 =
      match prepared tree config reverse with
      | .ok ts =>
        if tree.isDirectory (Path.normal root) then
          (Transformation.applyAll (Path.normal root) env ts tree).tree
        else tree
      | .error _ => tree := by
  rw [apply_eq]
  cases prepared tree config reverse with
  | error report => rfl
  | ok ts =>
    dsimp only
    split_ifs <;> rfl

theorem prepared_forward (h : prepared tree config false = .ok ts) :
    ∀ t ∈ ts, ∃ r, t.spec.replacer = .ok r := by
  obtain ⟨⟨origins, hload⟩, hall⟩ := prepared_ok h
  obtain rfl := (hall origins hload).1 rfl
  intro t ht
  exact (loadAll_ready hload t ht).replacer

theorem prepared_reverse (h : prepared tree config true = .ok ts)
    (hswappable : ∀ origins, loadAll tree config = .ok origins → ∀ t ∈ origins, t.spec.Swappable) :
    ∀ t ∈ ts, ∃ r, t.spec.replacer = .ok r := by
  obtain ⟨⟨origins, hload⟩, hall⟩ := prepared_ok h
  have hreversed := (hall origins hload).2 rfl
  intro t ht
  have hmem : t ∈ (Transformation.reverseAll origins).1 := by
    rw [hreversed]
    exact ht
  obtain ⟨origin, horigin, hreverse⟩ := mem_reverseAll hmem
  obtain ⟨spec, hspec, hsame⟩ := Results.bind_ok.mp hreverse
  obtain rfl := Results.pure_ok.mp hsame
  exact (loadAll_ready hload origin horigin).reverse (hswappable origins hload origin horigin) hspec

/-- Before all transformations are prepared nothing is changed, and then only an applied one can fail. -/
theorem ConfigFailure.cases_prepared {env : Environment} {root : String} {reverse : Bool}
    (h : ConfigFailure env tree config root reverse) :
    (∃ report, prepared tree config reverse = .error report) ∨
      ∃ done t more e, prepared tree config reverse = .ok (done ++ t :: more) ∧
        tree.isDirectory (Path.normal root) = true ∧
        Transformation.Succeeds (Path.normal root) env done tree ∧
        t.spec.replacer = .error (.config e) := by
  cases hprepared : prepared tree config reverse with
  | error report => exact .inl ⟨report, rfl⟩
  | ok ts =>
    obtain ⟨⟨origins, hload⟩, hall⟩ := prepared_ok hprepared
    obtain ⟨built, hbuilt, hnone, -⟩ := loadAll_ok hload
    cases h with
    | reading h =>
      rw [hbuilt] at h
      cases h
    | building h he =>
      obtain rfl := Except.ok.inj (hbuilt.symm.trans h)
      exact absurd he (hnone _)
    | reversing hreverse h he =>
      rw [(hall _ h).2 hreverse] at he
      cases he
    | applying h hroot hrun hmem he =>
      obtain rfl := Except.ok.inj (hprepared.symm.trans h)
      obtain ⟨done, t, more, rfl, hdone, hunready⟩ := Transformation.applyAll_config hrun hmem he
      exact .inr ⟨done, t, more, _, rfl, hroot, hdone, hunready⟩

/-- Which runs meet a configuration error after they have changed the tree. -/
theorem config_failure_iff (stamp : String) (env : Environment) (tree : Tree) (verbose : Bool)
    (config root : String) (reverse ignoreNoop : Bool) :
    ConfigFailure env tree config root reverse ∧
        (apply stamp env tree verbose config root reverse ignoreNoop).2 ≠ tree ↔
      reverse = true ∧ tree.isDirectory (Path.normal root) = true ∧
        ∃ done t more e, prepared tree config true = .ok (done ++ t :: more) ∧
          Transformation.Succeeds (Path.normal root) env done tree ∧
          (Transformation.applyAll (Path.normal root) env done tree).tree ≠ tree ∧
          t.spec.replacer = .error (.config e) := by
  rw [apply_tree]
  constructor
  · intro h
    obtain ⟨hfailure, hchanged⟩ := h
    rcases hfailure.cases_prepared with
      ⟨report, hprepared⟩ | ⟨done, t, more, e, hprepared, hroot, hdone, hunready⟩
    · rw [hprepared] at hchanged
      exact absurd rfl hchanged
    · simp only [hprepared, hroot, if_true] at hchanged
      rw [(Transformation.applyAll_unready more hdone hunready).1] at hchanged
      cases reverse with
      | false =>
        obtain ⟨r, hr⟩ := prepared_forward hprepared t (List.mem_append_right _ List.mem_cons_self)
        rw [hr] at hunready
        cases hunready
      | true => exact ⟨rfl, hroot, done, t, more, e, hprepared, hdone, hchanged, hunready⟩
  · intro h
    obtain ⟨rfl, hroot, done, t, more, e, hprepared, hdone, hchanged, hunready⟩ := h
    obtain ⟨htree, results, hresults, hmem⟩ := Transformation.applyAll_unready more hdone hunready
    simp only [hprepared, hroot, if_true]
    rw [htree]
    exact ⟨.applying hprepared hroot hresults hmem rfl, hchanged⟩

/-- A run that meets a configuration error has changed the tree only if its transformations were turned
around, and the first of them that cannot be applied, for its after template cannot be searched, comes
after one that changed something. There is none such if all after templates can be searched. -/
theorem config_failure_changes (stamp : String) (env : Environment) (tree : Tree) (verbose : Bool)
    (config root : String) (reverse ignoreNoop : Bool) :
    (ConfigFailure env tree config root reverse ∧
        (apply stamp env tree verbose config root reverse ignoreNoop).2 ≠ tree ↔
      reverse = true ∧ tree.isDirectory (Path.normal root) = true ∧
        ∃ done t more e, prepared tree config true = .ok (done ++ t :: more) ∧
          Transformation.Succeeds (Path.normal root) env done tree ∧
          (Transformation.applyAll (Path.normal root) env done tree).tree ≠ tree ∧
          t.spec.replacer = .error (.config e)) ∧
    ((∀ ts, loadAll tree config = .ok ts → ∀ t ∈ ts, t.spec.Swappable) →
      ConfigFailure env tree config root reverse →
        (apply stamp env tree verbose config root reverse ignoreNoop).2 = tree) := by
  have hiff := config_failure_iff stamp env tree verbose config root reverse ignoreNoop
  refine ⟨hiff, ?_⟩
  intro hswappable hfailure
  by_contra hchanged
  obtain ⟨-, -, done, t, more, e, hprepared, -, -, hunready⟩ := hiff.mp ⟨hfailure, hchanged⟩
  obtain ⟨r, hr⟩ := prepared_reverse hprepared hswappable t (List.mem_append_right _ List.mem_cons_self)
  rw [hr] at hunready
  cases hunready

def contents (text : String) : List UInt8 := text.toList.map fun c => UInt8.ofNat c.toNat

/-- A configuration, and a directory with one file. -/
def workTree (config : String) (data : List UInt8) : Tree :=
  .directory [("a", .file (contents config)), ("w", .directory [("b", .file data)])]

theorem workTree_config (config : String) (data : List UInt8) :
    (workTree config data).readFile (Path.normal "a") = .ok (["a"], contents config) := by
  rw [Path.normal_name (by decide)]
  exact Tree.readFile_name (by decide) rfl

theorem workTree_resolve (config : String) (data : List UInt8) :
    (workTree config data).resolve (Path.normal "w") = .ok (["w"], .directory [("b", .file data)]) := by
  rw [Path.normal_name (by decide)]
  exact Tree.resolve_name (by decide) rfl fun _ => Tree.noConfusion

theorem workTree_isDirectory (config : String) (data : List UInt8) :
    (workTree config data).isDirectory (Path.normal "w") = true := by
  rw [Tree.isDirectory, workTree_resolve]

theorem workTree_read (config : String) (data : List UInt8) :
    (workTree config data).readFile "w/b" = .ok (["w", "b"], data) := by
  have hpath : Path.below (Path.normal "w") ["b"] = "w/b" := Path.below_normal (by decide)
  rw [← hpath]
  exact Tree.readFile_entry (by decide) (workTree_resolve config data) (Path.normal_ne_empty "w") rfl

theorem workTree_walk (config : String) (data : List UInt8) {env : Environment} (hlisting : env.listing = []) :
    (workTree config data).walk env (Path.normal "w") = ⟨[["b"]], none⟩ := by
  simp [Tree.walk, workTree_resolve, hlisting, Tree.walkNode, Tree.walkEntries, Tree.gather, Walk.append,
    Walk.concat]

/-- A transformation that gives the file a new text leaves the tree with that file. -/
theorem apply_workTree {t : Transformation} {r : Replacer} {old new : List UInt8} (config : String)
    (hr : t.spec.replacer = .ok r) (hencoding : t.encoding = "utf-8")
    (haccepted : t.paths.accepts (Path.text ["b"]) = true) (hchanges : r.changes old = true)
    (hbytes : Encoding.utf8.encode (r.replace (Encoding.utf8.decode old)) = .ok new) :
    ∃ result, (t.apply (Path.normal "w") {} (workTree config old)).result = .ok result ∧ result.ok = true ∧
      (t.apply (Path.normal "w") {} (workTree config old)).tree = workTree config new := by
  have he : Encoding.ofName? t.encoding = some .utf8 := by
    rw [hencoding]
    exact Encoding.ofName?_utf8
  have hwalk : (workTree config old).walk {} (Path.normal (Path.normal "w")) = ⟨[["b"]], none⟩ := by
    rw [Path.normal_normal]
    exact workTree_walk config old rfl
  have hpath : Path.below (Path.normal (Path.normal "w")) ["b"] = "w/b" := by
    rw [Path.normal_normal]
    exact Path.below_normal (by decide)
  exact Transformation.apply_one hr he haccepted hwalk hpath (workTree_read config old) hchanges hbytes

/-- The first of two transformations gives the file another text, and the second cannot be applied. -/
structure Halves (old new : List UInt8) (t u : Transformation) : Prop where
  encoding : t.encoding = "utf-8"
  accepts : t.paths.accepts (Path.text ["b"]) = true
  writes : ∃ r, t.spec.replacer = .ok r ∧ r.changes old = true ∧
    Encoding.utf8.encode (r.replace (Encoding.utf8.decode old)) = .ok new
  refused : ∃ e, u.spec.replacer = .error (.config e)

def halvesChecked (old new : List UInt8) : List (Except ConfigError Transformation) → Bool
  | [.ok first, .ok last] =>
    match Transformation.reverseAll [first, last] with
    | ([t, u], []) =>
      decide (t.encoding = "utf-8") && t.paths.accepts (Path.text ["b"])
        && (t.spec.replacer.toOption.any fun r => r.changes old &&
          decide (Encoding.utf8.encode (r.replace (Encoding.utf8.decode old)) = .ok new))
        && match u.spec.replacer with
          | .error (.config _) => true
          | _ => false
    | _ => false
  | _ => false

theorem halves_of_checked {old new : List UInt8} {built : List (Except ConfigError Transformation)}
    (h : halvesChecked old new built = true) :
    ∃ ts t u, built = ts.map .ok ∧ Transformation.reverseAll ts = ([t, u], []) ∧ Halves old new t u := by
  unfold halvesChecked at h
  split at h
  · next first last =>
    split at h
    · next t u hturned =>
      simp only [Bool.and_eq_true, decide_eq_true_eq] at h
      obtain ⟨⟨⟨hencoding, haccepts⟩, hwrites⟩, hrefused⟩ := h
      obtain ⟨r, hr, hboth⟩ := Results.exists_ok hwrites
      obtain ⟨hchanges, hbytes⟩ := Bool.and_eq_true_iff.mp hboth
      refine ⟨[first, last], t, u, rfl, hturned, hencoding, haccepts, ⟨r, hr, hchanges, of_decide_eq_true hbytes⟩, ?_⟩
      split at hrefused
      · next e he => exact ⟨e, he⟩
      · cases hrefused
    · cases h
  · cases h

/-- What the first one wrote is there when the second is refused. -/
theorem Halves.succeeds {old new : List UInt8} {t u : Transformation} (h : Halves old new t u) (config : String) :
    Transformation.Succeeds (Path.normal "w") {} [t] (workTree config old) ∧
      (Transformation.applyAll (Path.normal "w") {} [t] (workTree config old)).tree = workTree config new := by
  obtain ⟨r, hr, hchanges, hbytes⟩ := h.writes
  obtain ⟨result, hresult, hok, htree⟩ := apply_workTree config hr h.encoding h.accepts hchanges hbytes
  rw [Transformation.Succeeds, Transformation.applyAll_cons hresult hok, htree]
  exact ⟨⟨[result], rfl, List.forall_mem_singleton.mpr hok⟩, rfl⟩

/-- In the one order the reference by number is to the group of the other placeholder, and turned around to the group
that it stands in, which is open. -/
def exchange : String :=
  "transformations:\n- \x7bbefore: '${y}${x}', after: '${x}${y}', regex_groups: \x7bx: (a)\\1, y: c\x7d\x7d\n"
    ++ "- \x7bbefore: foo, after: bar\x7d\n"

theorem exchange_prepared : ∃ t u, prepared (workTree exchange (contents "bar")) "a" true = .ok [t, u] ∧
    Halves (contents "bar") (contents "foo") t u := by
  have hbuilt : ∃ built, Configuration.build {} (workTree exchange (contents "bar")) "a" = .ok built ∧
      halvesChecked (contents "bar") (contents "foo") built = true :=
    Configuration.exists_build (workTree_config _ _) (by decide +kernel)
  obtain ⟨built, hbuild, hchecked⟩ := hbuilt
  obtain ⟨ts, t, u, rfl, hturned, hhalves⟩ := halves_of_checked hchecked
  exact ⟨t, u, Results.bind_ok.mpr ⟨ts, loadAll_eq_ok.mpr hbuild, reverseOrReport_ok.mpr hturned⟩, hhalves⟩

/-- The file is another one when the second transformation is refused. -/
theorem exchange_halved : ∃ t u e, prepared (workTree exchange (contents "bar")) "a" true = .ok [t, u] ∧
    Transformation.Succeeds (Path.normal "w") {} [t] (workTree exchange (contents "bar")) ∧
    (Transformation.applyAll (Path.normal "w") {} [t] (workTree exchange (contents "bar"))).tree ≠
      workTree exchange (contents "bar") ∧
    u.spec.replacer = .error (.config e) := by
  obtain ⟨t, u, hprepared, hhalves⟩ := exchange_prepared
  obtain ⟨e, hrefused⟩ := hhalves.refused
  obtain ⟨hsucceeds, htree⟩ := hhalves.succeeds exchange
  refine ⟨t, u, e, hprepared, hsucceeds, fun hsame => ?_, hrefused⟩
  rw [htree] at hsame
  have hfile := congrArg (Tree.fileAt? · ["w", "b"]) hsame
  revert hfile
  decide

/-- The transformation has a fragment that its after template does not use. -/
def oneWay : String :=
  "transformations:\n- \x7bbefore: '${x}a', after: b, regex_groups: \x7bx: c\x7d\x7d\n"

def oneWayChecked : List (Except ConfigError Transformation) → Bool
  | [.ok t] =>
    (t.spec.fragments.entries.all fun (_, p) => !Pattern.refersByNumber p.source)
      && t.spec.after.placeholders.isEmpty && !(Transformation.reverseAll [t]).2.isEmpty
  | _ => false

theorem oneWay_loaded (data : List UInt8) : ∃ t, loadAll (workTree oneWay data) "a" = .ok [t] ∧
    t.spec.Swappable ∧ ∃ e, e ∈ (Transformation.reverseAll [t]).2 := by
  have hbuilt : ∃ built, Configuration.build {} (workTree oneWay data) "a" = .ok built ∧
      oneWayChecked built = true := Configuration.exists_build (workTree_config _ _) (by decide +kernel)
  obtain ⟨built, hbuild, hchecked⟩ := hbuilt
  unfold oneWayChecked at hchecked
  split at hchecked
  · next t =>
    simp only [Bool.and_eq_true, List.all_eq_true, Bool.not_eq_true'] at hchecked
    obtain ⟨⟨hplain, hnone⟩, herrors⟩ := hchecked
    refine ⟨t, loadAll_eq_ok.mpr hbuild, ⟨fun name p hp => hplain (name, p) (Results.mem_of_lookup hp), ?_⟩, ?_⟩
    · rw [List.isEmpty_iff.mp hnone]
      exact .inl List.nodup_nil
    · exact List.exists_mem_of_ne_nil _ (List.isEmpty_eq_false_iff.mp herrors)
  · cases hchecked

/-- A run turned around fails after it has changed a file, as a fragment refers to groups by number, and one that
fails without such a fragment leaves the tree as it is. -/
theorem config_failure_changes_exchange :
    ConfigFailure {} (workTree exchange (contents "bar")) "a" "w" true ∧
    (apply "" {} (workTree exchange (contents "bar")) false "a" "w" true false).2 ≠
      workTree exchange (contents "bar") ∧
    (¬∀ ts, loadAll (workTree exchange (contents "bar")) "a" = .ok ts → ∀ t ∈ ts, t.spec.Swappable) ∧
    (∀ ts, loadAll (workTree oneWay (contents "bar")) "a" = .ok ts → ∀ t ∈ ts, t.spec.Swappable) ∧
    ConfigFailure {} (workTree oneWay (contents "bar")) "a" "w" true ∧
    (apply "" {} (workTree oneWay (contents "bar")) false "a" "w" true false).2 =
      workTree oneWay (contents "bar") := by
  obtain ⟨t, u, e, hprepared, hsucceeds, hchanged, hrefused⟩ := exchange_halved
  obtain ⟨hiff, hkeeps⟩ := config_failure_changes "" {} (workTree exchange (contents "bar")) false "a" "w" true false
  have hhalf := hiff.mpr ⟨rfl, workTree_isDirectory _ _, [t], u, [], e, hprepared, hsucceeds, hchanged, hrefused⟩
  obtain ⟨-, hsafe⟩ := config_failure_changes "" {} (workTree oneWay (contents "bar")) false "a" "w" true false
  obtain ⟨v, hload, hswappable, e', he'⟩ := oneWay_loaded (contents "bar")
  have hall : ∀ ts, loadAll (workTree oneWay (contents "bar")) "a" = .ok ts → ∀ t ∈ ts, t.spec.Swappable := by
    intro ts hts
    obtain rfl := Except.ok.inj (hload.symm.trans hts)
    exact List.forall_mem_singleton.mpr hswappable
  have hfailure : ConfigFailure {} (workTree oneWay (contents "bar")) "a" "w" true := .reversing rfl hload he'
  exact ⟨hhalf.1, hhalf.2, fun hswappable => hhalf.2 (hkeeps hswappable hhalf.1), hall, hfailure,
    hsafe hall hfailure⟩

/-- So not every run that meets a configuration error leaves the tree as it is. -/
theorem config_failure_halves : ¬∀ stamp tree verbose config root reverse ignoreNoop,
    ConfigFailure {} tree config root reverse →
      (apply stamp {} tree verbose config root reverse ignoreNoop).2 = tree := by
  intro halways
  obtain ⟨t, u, e, hprepared, hsucceeds, hchanged, hrefused⟩ := exchange_halved
  obtain ⟨hfailure, hhalf⟩ := (config_failure_iff "" {} _ false "a" "w" true false).mpr
    ⟨rfl, workTree_isDirectory _ _, [t], u, [], e, hprepared, hsucceeds, hchanged, hrefused⟩
  exact hhalf (halways _ _ _ _ _ _ _ hfailure)

end CommandLine

end TemplateSwap
