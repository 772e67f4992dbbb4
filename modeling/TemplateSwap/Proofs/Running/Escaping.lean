import TemplateSwap.Proofs.Running.Emptying
import TemplateSwap.Proofs.Running.Reporting
import TemplateSwap.Proofs.Running.Retracing

namespace TemplateSwap

open TemplateSwap.Text (Codec Encoding)

namespace Application

variable {r : Replacer} {encoding path : String} {env : Environment} {t : Tree} {failure : Failure}

/-- What a file that can be opened makes fail and no result tells of: there is no codec of the name, or it has no text
for what the file holds, or no bytes for the new text. -/
inductive Breaks (r : Replacer) (encoding : String) (env : Environment) (t : Tree) (path : String) : Failure → Prop
  | unknown {place : List String} {data : List UInt8} {error : CodecError}
      (readable : env.reading.lookup path = none) (hread : t.readFile path = .ok (place, data))
      (hunknown : env.codec encoding = .error error) : Breaks r encoding env t path (.ofCodec error)
  | undecoded {place : List String} {data : List UInt8} {codec : Codec} {error : CodecError}
      (readable : env.reading.lookup path = none) (hread : t.readFile path = .ok (place, data))
      (hknown : env.codec encoding = .ok codec) (hrefused : codec.decode data = .error error) :
      Breaks r encoding env t path (.ofCodec error)
  | unencoded {place : List String} {error : CodecError} (hspoils : Spoils r encoding env t path place error) :
      Breaks r encoding env t path (.ofCodec error)

theorem breaks_of_error (h : (rewriteFile r encoding env t path).result = .error failure)
    (hescapes : failure.isReported = false) : Breaks r encoding env t path failure := by
  have hends := rewriteFile_ends r encoding env t path
  generalize rewriteFile r encoding env t path = outcome at h hends
  cases hends with
  | closed | unread | sealed =>
    cases h
    cases hescapes
  | unknown hreading hread hunknown =>
    cases h
    exact .unknown hreading hread hunknown
  | undecoded hreading hread hknown hrefused =>
    cases h
    exact .undecoded hreading hread hknown hrefused
  | same | written => cases h
  | refused hopens hchanged hwriting hencode =>
    cases h
    exact .unencoded ⟨hwriting, _, _, hopens, hchanged, hencode⟩

theorem Breaks.rewriteFile_error (h : Breaks r encoding env t path failure) :
    (rewriteFile r encoding env t path).result = .error failure ∧ failure.isReported = false := by
  cases h with
  | unknown readable hread hunknown =>
    simp only [rewriteFile, readable, hread, hunknown]
    exact ⟨trivial, Failure.isReported_ofCodec _⟩
  | undecoded readable hread hknown hrefused =>
    simp only [rewriteFile, readable, hread, hknown, hrefused]
    exact ⟨trivial, Failure.isReported_ofCodec _⟩
  | unencoded hspoils =>
    rw [hspoils.rewriteFile_eq]
    exact ⟨rfl, Failure.isReported_ofCodec _⟩

/-- In the encodings that decode whatever a file holds, only the after template can break a file. -/
theorem Breaks.foreign {e : Encoding} (h : Breaks r encoding env t path failure)
    (he : Encoding.ofName? encoding = some e) : r.Foreign e ∧ ∃ refused, failure = .unencodable refused := by
  cases h with
  | unknown _ _ hunknown =>
    rw [Environment.codec_eq he] at hunknown
    cases hunknown
  | undecoded readable hread hknown hrefused =>
    rw [Environment.codec_eq he] at hknown
    obtain rfl := Except.ok.inj hknown
    cases hrefused
  | unencoded hspoils =>
    obtain ⟨hforeign, refused, rfl⟩ := hspoils.foreign he
    exact ⟨hforeign, refused, rfl⟩

theorem breaks_iff : Breaks r encoding env t path failure ↔
    (rewriteFile r encoding env t path).result = .error failure ∧ failure.isReported = false :=
  ⟨Breaks.rewriteFile_error, fun h => breaks_of_error h.1 h.2⟩

/-- The paths of the accepted files below a root, in the order of the walk. -/
def accepted (t : Tree) (env : Environment) (root : String) (accepts : String → Bool) : List String :=
  ((t.walk env (Path.normal root)).files.filter fun names => accepts (Path.text names)).map
    (Path.below (Path.normal root))

/-- An application ends without a report at the first file that fails, if this one breaks. -/
theorem run_breaks {s : Spec} {root : String} {accepts : String → Bool} (hs : Composite.Sound s.fragments) :
    (run s root accepts encoding env t).result = .error failure ∧ failure.isReported = false ↔
      ∃ r done path later visit, s.replacer = .ok r ∧ accepted t env root accepts = done ++ path :: later ∧
        (rewriteFiles r encoding env {} t done).result = .ok visit ∧
        Breaks r encoding env (rewriteFiles r encoding env {} t done).tree path failure := by
  cases hr : s.replacer with
  | error unready =>
    obtain ⟨e, rfl⟩ := Spec.config_of_replacer hs hr
    rw [run_unready hr]
    constructor
    · intro h
      obtain ⟨hsame, hescapes⟩ := h
      rw [← Except.error.inj hsame] at hescapes
      cases hescapes
    · intro h
      obtain ⟨r, _, _, _, _, hready, -⟩ := h
      cases hready
  | ok r =>
    have hrun : (run s root accepts encoding env t).result = .error failure ∧ failure.isReported = false ↔
        (rewriteFiles r encoding env {} t (accepted t env root accepts)).result = .error failure ∧
          failure.isReported = false := by
      unfold run accepted
      simp only [hr]
      refine and_congr_left fun hescapes => ?_
      cases (rewriteFiles r encoding env {} t (List.map _ _)).result with
      | error first => rfl
      | ok visit =>
        -- A walk that is cut short is reported.
        have hwalk : ∀ e : ApplyError, Failure.apply e ≠ failure := by
          intro e heq
          rw [← heq] at hescapes
          cases hescapes
        cases (t.walk env (Path.normal root)).failure <;> simp [hwalk]
    rw [hrun, rewriteFiles_failed]
    simp only [breaks_iff]
    constructor
    · intro h
      obtain ⟨⟨done, path, later, visit, hpaths, hdone, hfailed⟩, hescapes⟩ := h
      exact ⟨r, done, path, later, visit, rfl, hpaths, hdone, hfailed, hescapes⟩
    · intro h
      obtain ⟨r', done, path, later, visit, hready, hpaths, hdone, hfailed, hescapes⟩ := h
      obtain rfl := Except.ok.inj hready
      exact ⟨⟨done, path, later, visit, hpaths, hdone, hfailed⟩, hescapes⟩

end Application

namespace Transformation

variable {root : String} {env : Environment} {tree : Tree} {t : Transformation} {ts : List Transformation}
variable {failure : Failure} {results : List ApplyResult}

/-- How an application ends without a result: the first of its files that fails breaks. -/
def Escapes (root : String) (env : Environment) (t : Transformation) (tree : Tree) (failure : Failure) : Prop :=
  ∃ r done path later visit, t.spec.replacer = .ok r ∧
    Application.accepted tree env root t.paths.accepts = done ++ path :: later ∧
    (Application.rewriteFiles r t.encoding env {} tree done).result = .ok visit ∧
    Application.Breaks r t.encoding env (Application.rewriteFiles r t.encoding env {} tree done).tree path failure

theorem apply_error (hs : Composite.Sound t.spec.fragments) :
    (t.apply root env tree).result = .error failure ↔ t.Escapes root env tree failure := by
  rw [Escapes, ← Application.run_breaks hs]
  unfold apply
  dsimp only
  cases (Application.run t.spec root t.paths.accepts t.encoding env tree).result with
  | ok visit => simp
  | error first =>
    simp only [Except.error.injEq]
    split_ifs with hfirst
    · simp only [false_iff, not_and]
      intro heq
      rw [← heq, hfirst]
      exact Bool.noConfusion
    · simp only [Except.error.injEq, iff_self_and]
      intro heq
      rw [← heq]
      exact Bool.eq_false_iff.mpr hfirst

/-- A list fails at the transformation that does, after others that succeeded. -/
theorem applyAll_error : (applyAll root env ts tree).result = .error failure ↔
    ∃ done t later, ts = done ++ t :: later ∧ Succeeds root env done tree ∧
      (t.apply root env (applyAll root env done tree).tree).result = .error failure := by
  constructor
  · intro h
    induction ts generalizing tree with
    | nil => cases h
    | cons t ts ih =>
      cases ht : (t.apply root env tree).result with
      | error first =>
        simp only [applyAll, ht] at h
        obtain rfl := Except.error.inj h
        exact ⟨[], t, ts, rfl, ⟨[], rfl, List.forall_mem_nil _⟩, ht⟩
      | ok first =>
        cases hfirst : first.ok with
        | false =>
          simp only [applyAll, ht, hfirst] at h
          cases h
        | true =>
          have hnext : t.Leads root env tree (t.apply root env tree).tree := ⟨⟨first, ht, hfirst⟩, rfl⟩
          rw [applyAll_cons ht hfirst] at h
          cases hrest : (applyAll root env ts (t.apply root env tree).tree).result with
          | ok later =>
            rw [hrest] at h
            cases h
          | error failed =>
            rw [hrest] at h
            obtain rfl := Except.error.inj h
            obtain ⟨done, u, later, rfl, hdone, hu⟩ := ih hrest
            obtain ⟨_, -, htree, -⟩ := hnext.applyAll_cons done
            exact ⟨t :: done, u, later, rfl, succeeds_cons.mpr ⟨_, hnext, hdone⟩, htree ▸ hu⟩
  · intro h
    obtain ⟨done, t, later, rfl, ⟨results, hresults, hok⟩, ht⟩ := h
    rw [applyAll_append _ hresults hok]
    simp only [applyAll, ht]
    rfl

/-- The tree is left as that transformation left it, with what the others before it have written. -/
theorem applyAll_error_tree {done later : List Transformation} (hdone : Succeeds root env done tree)
    (h : (t.apply root env (applyAll root env done tree).tree).result = .error failure) :
    (applyAll root env (done ++ t :: later) tree).tree =
      (t.apply root env (applyAll root env done tree).tree).tree := by
  obtain ⟨results, hresults, hok⟩ := hdone
  rw [applyAll_append _ hresults hok]
  simp only [applyAll, h]

/-- Results come from as many transformations, and the last of them is of the first failure, if there is any. -/
theorem applyAll_results (h : (applyAll root env ts tree).result = .ok results) :
    results.map (·.identity) = (ts.take results.length).map (·.identity) ∧
      (∀ r ∈ results.dropLast, r.ok = true) ∧
      (results.length = ts.length ∨ ∃ failed ∈ results.getLast?, failed.ok = false) := by
  induction ts generalizing tree results with
  | nil =>
    obtain rfl := Except.ok.inj h
    exact ⟨rfl, List.forall_mem_nil _, .inl rfl⟩
  | cons t ts ih =>
    obtain ⟨first, ht, ⟨hfirst, rfl⟩ | ⟨hfirst, later, hlater, rfl⟩⟩ := applyAll_cons_ok h
    · exact ⟨congrArg ([·]) (apply_identity ht), List.forall_mem_nil _, .inr ⟨first, rfl, hfirst⟩⟩
    · obtain ⟨hidentities, hok, hend⟩ := ih hlater
      refine ⟨?_, ?_, ?_⟩
      · rw [List.map_cons, hidentities, apply_identity ht]
        rfl
      · cases later with
        | nil => exact List.forall_mem_nil _
        | cons second later => exact List.forall_mem_cons.mpr ⟨hfirst, hok⟩
      · rcases hend with hlength | ⟨failed, hlast, hfailed⟩
        · exact .inl (congrArg (· + 1) hlength)
        · cases later with
          | nil => cases hlast
          | cons second later => exact .inr ⟨failed, hlast, hfailed⟩

/-- A transformation has a result unless a file breaks it: the file can be opened, and there is no codec of the name, or
the codec has no text for what the file holds or no bytes for the new text. A list has results up to the first failure
unless one of its transformations breaks so; then the results before are lost, and what these have written stays. -/
theorem applyAll_escapes (hs : ∀ t ∈ ts, Composite.Sound t.spec.fragments) :
    (∀ t ∈ ts, ∀ tree failure,
      (t.apply root env tree).result = .error failure ↔ t.Escapes root env tree failure) ∧
    (∀ failure, (applyAll root env ts tree).result = .error failure ↔
      ∃ done t later, ts = done ++ t :: later ∧ Succeeds root env done tree ∧
        t.Escapes root env (applyAll root env done tree).tree failure) ∧
    (∀ done t later failure, ts = done ++ t :: later → Succeeds root env done tree →
      t.Escapes root env (applyAll root env done tree).tree failure →
      (applyAll root env ts tree).tree = (t.apply root env (applyAll root env done tree).tree).tree) ∧
    (∀ r encoding tree path failure e, Application.Breaks r encoding env tree path failure →
      Encoding.ofName? encoding = some e → r.Foreign e ∧ ∃ refused, failure = .unencodable refused) ∧
    ∀ results, (applyAll root env ts tree).result = .ok results →
      results.map (·.identity) = (ts.take results.length).map (·.identity) ∧
        (∀ r ∈ results.dropLast, r.ok = true) ∧
        (results.length = ts.length ∨ ∃ failed ∈ results.getLast?, failed.ok = false) := by
  refine ⟨fun t ht tree failure => apply_error (hs t ht), fun failure => ?_, ?_,
    fun r encoding tree path failure e h he => h.foreign he, fun results => applyAll_results⟩
  · rw [applyAll_error]
    refine exists_congr fun done => exists_congr fun t => exists_congr fun later => ?_
    refine and_congr_right fun hts => and_congr_right fun _ => apply_error (hs t ?_)
    rw [hts]
    exact List.mem_append_right _ List.mem_cons_self
  · intro done t later failure hts hdone hescapes
    obtain rfl := hts
    exact applyAll_error_tree hdone
      ((apply_error (hs t (List.mem_append_right _ List.mem_cons_self))).mpr hescapes)

theorem exists_unknown : ∃ t u : Transformation, (∀ x ∈ [t, u], ∃ source, Spec.create source = .ok x.spec) ∧
    t.Leads "w" {} (oneFile [0x78]) (oneFile [0x79]) ∧
    u.Escapes "w" {} (oneFile [0x79]) (.unknownEncoding "klingon") := by
  obtain ⟨s, hs, hwrites⟩ : ∃ s, Spec.create { before := "x", after := "y" } = .ok s ∧
    writesText [0x78] [0x79] s = true := Results.exists_ok (by decide)
  obtain ⟨v, hv, hready⟩ : ∃ v, Spec.create { before := "y", after := "z" } = .ok v ∧
    v.replacer.toOption.any (fun _ => true) = true := Results.exists_ok (by decide)
  obtain ⟨r, hr, -⟩ := Results.exists_ok hready
  have haccepted : Application.accepted (oneFile [0x79]) {} "w" ({} : PathFilter).accepts = ["w/b"] := by
    have hpath : Path.below (Path.normal "w") ["b"] = "w/b" := Path.below_normal (by decide)
    simp [Application.accepted, oneFile_walk, oneFile_accepted, hpath]
  have hunknown : ({} : Environment).codec "klingon" = .error (.unknown "klingon") := by
    have hname : Encoding.ofName? "klingon" = none := by decide +kernel
    rw [Environment.codec, hname]
  refine ⟨{ spec := s }, { spec := v, encoding := "klingon" }, ?_, leads_of_writesText hwrites, ?_⟩
  · simpa using And.intro ⟨_, hs⟩ ⟨_, hv⟩
  · exact ⟨r, [], "w/b", [], {}, hr, haccepted, rfl, .unknown rfl (oneFile_read _) hunknown⟩

theorem sound_of_create {xs : List Transformation} (h : ∀ x ∈ xs, ∃ source, Spec.create source = .ok x.spec) :
    ∀ x ∈ xs, Composite.Sound x.spec.fragments := by
  intro x hx
  obtain ⟨source, hsource⟩ := h x hx
  exact Composite.sound_of_compile (Spec.create_ok hsource).1

/-- The file keeps what the first transformation wrote, and there are no results. -/
theorem applyAll_escapes_unknown : ∃ t u : Transformation,
    (∀ x ∈ [t, u], ∃ source, Spec.create source = .ok x.spec) ∧
    (applyAll "w" {} [t, u] (oneFile [0x78])).result = .error (.unknownEncoding "klingon") ∧
    (applyAll "w" {} [t, u] (oneFile [0x78])).tree = (u.apply "w" {} (oneFile [0x79])).tree := by
  obtain ⟨t, u, hcreated, hleads, hescapes⟩ := exists_unknown
  have hfirst : Succeeds "w" {} [t] (oneFile [0x78]) :=
    succeeds_cons.mpr ⟨_, hleads, [], rfl, List.forall_mem_nil _⟩
  obtain ⟨_, -, htree, -⟩ := hleads.applyAll_cons []
  have hu : u.Escapes "w" {} (applyAll "w" {} [t] (oneFile [0x78])).tree (.unknownEncoding "klingon") :=
    htree ▸ hescapes
  obtain ⟨-, hfails, hkeeps, -⟩ := @applyAll_escapes "w" {} (oneFile [0x78]) [t, u] (sound_of_create hcreated)
  refine ⟨t, u, hcreated, (hfails _).mpr ⟨[t], u, [], rfl, hfirst, hu⟩, ?_⟩
  rw [hkeeps [t] u [] _ rfl hfirst hu, htree]
  rfl

/-- So neither a transformation nor a list of them always has results. -/
theorem applyAll_raises :
    (¬∀ (t : Transformation) root env tree, (∃ source, Spec.create source = .ok t.spec) →
      ∃ result, (t.apply root env tree).result = .ok result) ∧
    ¬∀ (ts : List Transformation) root env tree, (∀ t ∈ ts, ∃ source, Spec.create source = .ok t.spec) →
      ∃ results, (applyAll root env ts tree).result = .ok results := by
  obtain ⟨t, u, hcreated, hleads, hescapes⟩ := exists_unknown
  have hmem : u ∈ [t, u] := by simp
  have hu := (apply_error (sound_of_create hcreated u hmem)).mpr hescapes
  constructor
  · intro halways
    obtain ⟨result, hresult⟩ := halways u "w" {} (oneFile [0x79]) (hcreated u hmem)
    rw [hu] at hresult
    cases hresult
  · intro halways
    obtain ⟨results, hresults⟩ := halways [t, u] "w" {} (oneFile [0x78]) hcreated
    have hfirst : Succeeds "w" {} [t] (oneFile [0x78]) :=
      succeeds_cons.mpr ⟨_, hleads, [], rfl, List.forall_mem_nil _⟩
    obtain ⟨_, -, htree, -⟩ := hleads.applyAll_cons []
    have hfails := applyAll_error.mpr ⟨[t], u, [], rfl, hfirst, by rw [htree]; exact hu⟩
    rw [List.singleton_append, hresults] at hfails
    cases hfails

end Transformation

end TemplateSwap
