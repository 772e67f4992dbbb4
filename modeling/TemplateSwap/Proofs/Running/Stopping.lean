import TemplateSwap.Transformation
import TemplateSwap.Proofs.Text.Encoding
import Mathlib.Tactic.SplitIfs

namespace TemplateSwap

open TemplateSwap.Text (Code Codec Encoding)

variable {root : String} {env : Environment} {tree : Tree}

theorem Environment.codec_eq {name : String} {e : Encoding} (h : Encoding.ofName? name = some e) :
    env.codec name = .ok e.codec := by
  rw [codec, h]

theorem Failure.isReported_ofCodec (error : CodecError) : (ofCodec error).isReported = false := by
  cases error <;> rfl

namespace Application

/-- A file can be opened, and what it holds is read as a text. -/
structure Opens (encoding : String) (env : Environment) (t : Tree) (path : String) (place : List String)
    (codec : Codec) (text : List Code) : Prop where
  readable : env.reading.lookup path = none
  known : env.codec encoding = .ok codec
  decoded : ∃ data, t.readFile path = .ok (place, data) ∧ codec.decode data = .ok text

namespace Opens

variable {encoding path : String} {t : Tree} {place : List String} {codec : Codec} {text : List Code} {e : Encoding}

theorem of_encoding {data : List UInt8} (he : Encoding.ofName? encoding = some e)
    (hreading : env.reading.lookup path = none) (hread : t.readFile path = .ok (place, data)) :
    Opens encoding env t path place e.codec (e.decode data) :=
  ⟨hreading, Environment.codec_eq he, data, hread, rfl⟩

theorem codec_eq (h : Opens encoding env t path place codec text) (he : Encoding.ofName? encoding = some e) :
    codec = e.codec :=
  Except.ok.inj (h.known.symm.trans (Environment.codec_eq he))

/-- An encoding has a text for whatever a file holds. -/
theorem text_eq (h : Opens encoding env t path place codec text) (he : Encoding.ofName? encoding = some e) :
    ∃ data, t.readFile path = .ok (place, data) ∧ text = e.decode data := by
  obtain rfl := h.codec_eq he
  obtain ⟨data, hread, htext⟩ := h.decoded
  exact ⟨data, hread, (Except.ok.inj htext).symm⟩

end Opens

/-- The ways in which the rewriting of a file can end. Each of them tells how far it came. -/
inductive Ends (r : Replacer) (encoding : String) (env : Environment) (t : Tree) (path : String) :
    Outcome (Option Nat) → Prop
  | closed {text : String} (h : env.reading.lookup path = some text) :
      Ends r encoding env t path ⟨t, [], .error (.apply ⟨.rewriting, path, .denied text⟩)⟩
  | unread {error : SystemError} (h : t.readFile path = .error error) :
      Ends r encoding env t path ⟨t, [], .error (.apply ⟨.rewriting, path, error⟩)⟩
  | unknown {place : List String} {data : List UInt8} {error : CodecError}
      (hreading : env.reading.lookup path = none) (hread : t.readFile path = .ok (place, data))
      (h : env.codec encoding = .error error) :
      Ends r encoding env t path ⟨t, [], .error (.ofCodec error)⟩
  | undecoded {place : List String} {data : List UInt8} {codec : Codec} {error : CodecError}
      (hreading : env.reading.lookup path = none) (hread : t.readFile path = .ok (place, data))
      (hknown : env.codec encoding = .ok codec) (h : codec.decode data = .error error) :
      Ends r encoding env t path ⟨t, [], .error (.ofCodec error)⟩
  | same {place : List String} {codec : Codec} {text : List Code}
      (hopens : Opens encoding env t path place codec text) (hsame : r.replace text = text) :
      Ends r encoding env t path ⟨t, [], .ok none⟩
  | sealed {text : String} (h : env.writing.lookup path = some text) :
      Ends r encoding env t path ⟨t, [], .error (.apply ⟨.rewriting, path, .denied text⟩)⟩
  | refused {place : List String} {codec : Codec} {text : List Code} {error : CodecError}
      (hopens : Opens encoding env t path place codec text) (hchanged : r.replace text ≠ text)
      (hwriting : env.writing.lookup path = none) (h : codec.encode (r.replace text) = .error error) :
      Ends r encoding env t path ⟨t.put place (.file []), [], .error (.ofCodec error)⟩
  | written {place : List String} {codec : Codec} {text : List Code} {bytes : List UInt8}
      (hopens : Opens encoding env t path place codec text) (hchanged : r.replace text ≠ text)
      (hwriting : env.writing.lookup path = none) (h : codec.encode (r.replace text) = .ok bytes) (count : Nat) :
      Ends r encoding env t path ⟨t.put place (.file bytes), [.rewrote path count], .ok (some count)⟩

theorem rewriteFile_ends (r : Replacer) (encoding : String) (env : Environment) (t : Tree) (path : String) :
    Ends r encoding env t path (rewriteFile r encoding env t path) := by
  unfold rewriteFile
  dsimp only
  split
  · next hreading => exact .closed hreading
  · next hread => exact .unread hread
  · next hreading hread =>
    split
    · next hknown => exact .unknown hreading hread hknown
    · next hknown =>
      split
      · next htext => exact .undecoded hreading hread hknown htext
      · next htext =>
        have hopens : Opens encoding env t path _ _ _ := ⟨hreading, hknown, _, hread, htext⟩
        split_ifs with hsame
        · exact .same hopens hsame
        · split
          · next hwriting => exact .sealed hwriting
          · next hwriting =>
            split
            · next hencode => exact .refused hopens hsame hwriting hencode
            · next hencode => exact .written hopens hsame hwriting hencode _

/-- In an encoding that decodes whatever a file holds, only what is written can be refused. -/
theorem rewriteFile_encoding {r : Replacer} {encoding : String} {e : Encoding} {t : Tree} {path : String}
    (h : Encoding.ofName? encoding = some e) :
    rewriteFile r encoding env t path =
      match env.reading.lookup path, t.readFile path with
      | some text, _ => ⟨t, [], .error (.apply ⟨.rewriting, path, .denied text⟩)⟩
      | none, .error error => ⟨t, [], .error (.apply ⟨.rewriting, path, error⟩)⟩
      | none, .ok (place, data) =>
        if r.replace (e.decode data) = e.decode data then ⟨t, [], .ok none⟩
        else
          match env.writing.lookup path with
          | some text => ⟨t, [], .error (.apply ⟨.rewriting, path, .denied text⟩)⟩
          | none =>
            match e.encode (r.replace (e.decode data)) with
            | .error error => ⟨t.put place (.file []), [], .error (.unencodable error)⟩
            | .ok bytes =>
              ⟨t.put place (.file bytes), [.rewrote path (r.replaceCount (e.decode data)).2],
                .ok (some (r.replaceCount (e.decode data)).2)⟩ := by
  unfold rewriteFile
  rw [Environment.codec_eq h]
  cases env.reading.lookup path with
  | some text => rfl
  | none =>
    cases t.readFile path with
    | error error => rfl
    | ok found =>
      obtain ⟨place, data⟩ := found
      simp only [Encoding.codec, Replacer.replace]
      cases e.encode (r.replaceCount (e.decode data)).1 <;> rfl

theorem rewriteFile_error {r : Replacer} {encoding path : String} {failure : Failure}
    (h : (rewriteFile r encoding env tree path).result = .error failure) (e : ConfigError) :
    failure ≠ .config e := by
  have hends := rewriteFile_ends r encoding env tree path
  have hcodec (error : CodecError) : Failure.ofCodec error ≠ .config e := by
    cases error <;> exact Failure.noConfusion
  generalize rewriteFile r encoding env tree path = outcome at h hends
  cases hends with
  | closed | unread | sealed =>
    cases h
    exact Failure.noConfusion
  | unknown | undecoded | refused =>
    cases h
    exact hcodec _
  | same | written => cases h

theorem rewriteFiles_append {r : Replacer} {encoding : String} {v v' : Visit} {paths : List String}
    (h : (rewriteFiles r encoding env v tree paths).result = .ok v') (more : List String) :
    (rewriteFiles r encoding env v tree (paths ++ more)).tree =
        (rewriteFiles r encoding env v' (rewriteFiles r encoding env v tree paths).tree more).tree ∧
      (rewriteFiles r encoding env v tree (paths ++ more)).result =
        (rewriteFiles r encoding env v' (rewriteFiles r encoding env v tree paths).tree more).result := by
  induction paths generalizing v tree with
  | nil =>
    cases h
    exact ⟨rfl, rfl⟩
  | cons path paths ih =>
    cases hone : (rewriteFile r encoding env tree path).result with
    | error failure =>
      simp only [rewriteFiles, hone] at h
      cases h
    | ok count =>
      simp only [rewriteFiles, hone] at h
      obtain ⟨htree, hresult⟩ := ih h
      simp only [List.cons_append, rewriteFiles, hone]
      exact ⟨htree, hresult⟩

/-- Files are rewritten up to the first that fails. -/
theorem rewriteFiles_failed {r : Replacer} {encoding : String} {v : Visit} {paths : List String}
    {failure : Failure} :
    (rewriteFiles r encoding env v tree paths).result = .error failure ↔
      ∃ done path later visit, paths = done ++ path :: later ∧
        (rewriteFiles r encoding env v tree done).result = .ok visit ∧
        (rewriteFile r encoding env (rewriteFiles r encoding env v tree done).tree path).result =
          .error failure := by
  constructor
  · intro h
    induction paths generalizing v tree with
    | nil => cases h
    | cons path paths ih =>
      simp only [rewriteFiles] at h
      cases hone : (rewriteFile r encoding env tree path).result with
      | error first =>
        simp only [hone] at h
        obtain rfl := Except.error.inj h
        exact ⟨[], path, paths, v, rfl, rfl, hone⟩
      | ok count =>
        simp only [hone] at h
        obtain ⟨done, failed, later, visit, rfl, hdone, hfailed⟩ := ih h
        refine ⟨path :: done, failed, later, visit, rfl, ?_⟩
        simp only [rewriteFiles, hone]
        exact ⟨hdone, hfailed⟩
  · intro h
    obtain ⟨done, path, later, visit, rfl, hdone, hfailed⟩ := h
    rw [(rewriteFiles_append hdone (path :: later)).2]
    simp only [rewriteFiles, hfailed]

theorem rewriteFiles_error {r : Replacer} {encoding : String} {visit : Visit} {paths : List String}
    {failure : Failure} (h : (rewriteFiles r encoding env visit tree paths).result = .error failure)
    (e : ConfigError) : failure ≠ .config e := by
  obtain ⟨done, path, later, _, -, -, hfailed⟩ := rewriteFiles_failed.mp h
  exact rewriteFile_error hfailed e

/-- Only the replacer can be wrong in its configuration. -/
theorem run_config {s : Spec} {accepts : String → Bool} {encoding : String} {e : ConfigError}
    (h : (run s root accepts encoding env tree).result = .error (.config e)) :
    s.replacer = .error (.config e) := by
  unfold run at h
  cases hreplacer : s.replacer with
  | error failure =>
    simp only [hreplacer] at h
    rw [Except.error.inj h]
  | ok r =>
    simp only [hreplacer] at h
    generalize hrewritten : rewriteFiles r encoding env {} tree _ = rewritten at h
    cases hresult : rewritten.result with
    | error failure =>
      simp only [hresult] at h
      rw [← hrewritten] at hresult
      exact absurd (Except.error.inj h) (rewriteFiles_error hresult e)
    | ok visit =>
      simp only [hresult] at h
      split at h <;> cases h

theorem run_unready {s : Spec} {failure : Failure} (h : s.replacer = .error failure)
    (accepts : String → Bool) (encoding : String) :
    run s root accepts encoding env tree = ⟨tree, [], .error failure⟩ := by
  unfold run
  rw [h]

end Application

namespace Transformation

theorem apply_config {t : Transformation} {result : ApplyResult} {e : ConfigError}
    (h : (t.apply root env tree).result = .ok result) (he : result.outcome = .error (.config e)) :
    t.spec.replacer = .error (.config e) := by
  unfold apply at h
  dsimp only at h
  cases hrun : (Application.run t.spec root t.paths.accepts t.encoding env tree).result with
  | ok visit =>
    simp only [hrun] at h
    rw [← Except.ok.inj h] at he
    cases he
  | error failure =>
    simp only [hrun] at h
    split at h
    · rw [← Except.ok.inj h] at he
      rw [Except.error.inj he] at hrun
      exact Application.run_config hrun
    · cases h

theorem apply_unready {t : Transformation} {e : ConfigError} (h : t.spec.replacer = .error (.config e)) :
    t.apply root env tree =
      ⟨tree, [.failed t.identity (.config e)], .ok ⟨t.identity, .error (.config e)⟩⟩ := by
  unfold apply
  rw [Application.run_unready h]
  rfl

/-- All transformations of a list are applied without a failure. -/
def Succeeds (root : String) (env : Environment) (ts : List Transformation) (tree : Tree) : Prop :=
  ∃ results, (applyAll root env ts tree).result = .ok results ∧ ∀ r ∈ results, r.ok = true

theorem applyAll_cons {t : Transformation} {ts : List Transformation} {result : ApplyResult}
    (h : (t.apply root env tree).result = .ok result) (hok : result.ok = true) :
    applyAll root env (t :: ts) tree =
      { tree := (applyAll root env ts (t.apply root env tree).tree).tree
        notes := (t.apply root env tree).notes ++
          (applyAll root env ts (t.apply root env tree).tree).notes
        result := (applyAll root env ts (t.apply root env tree).tree).result.map (result :: ·) } := by
  simp only [applyAll, h, hok, if_true]

/-- An application that gives results has one of the first transformation, and goes on unless that failed. -/
theorem applyAll_cons_ok {t : Transformation} {ts : List Transformation} {results : List ApplyResult}
    (h : (applyAll root env (t :: ts) tree).result = .ok results) :
    ∃ first, (t.apply root env tree).result = .ok first ∧
      (first.ok = false ∧ results = [first] ∨
        first.ok = true ∧ ∃ later,
          (applyAll root env ts (t.apply root env tree).tree).result = .ok later ∧
          results = first :: later) := by
  cases ht : (t.apply root env tree).result with
  | error failure =>
    simp only [applyAll, ht] at h
    cases h
  | ok first =>
    refine ⟨first, rfl, ?_⟩
    cases hfirst : first.ok with
    | false =>
      simp only [applyAll, ht, hfirst] at h
      exact .inl ⟨rfl, (Except.ok.inj h).symm⟩
    | true =>
      rw [applyAll_cons ht hfirst] at h
      cases hrest : (applyAll root env ts (t.apply root env tree).tree).result with
      | error failure =>
        rw [hrest] at h
        cases h
      | ok later =>
        rw [hrest] at h
        exact .inr ⟨rfl, later, rfl, (Except.ok.inj h).symm⟩

/-- After transformations that succeeded, the others are applied to the tree that these left. -/
theorem applyAll_append {ts : List Transformation} {done : List ApplyResult} (more : List Transformation)
    (h : (applyAll root env ts tree).result = .ok done) (hok : ∀ r ∈ done, r.ok = true) :
    applyAll root env (ts ++ more) tree =
      { tree := (applyAll root env more (applyAll root env ts tree).tree).tree
        notes := (applyAll root env ts tree).notes ++
          (applyAll root env more (applyAll root env ts tree).tree).notes
        result := (applyAll root env more (applyAll root env ts tree).tree).result.map (done ++ ·) } := by
  induction ts generalizing tree done with
  | nil =>
    obtain rfl := Except.ok.inj h
    have hsame : ∀ result : Except Failure (List ApplyResult), result.map ([] ++ ·) = result := by
      rintro (_ | _) <;> rfl
    rw [hsame]
    rfl
  | cons t ts ih =>
    obtain ⟨first, ht, ⟨hfirst, rfl⟩ | ⟨hfirst, later, hlater, rfl⟩⟩ := applyAll_cons_ok h
    · rw [hok first List.mem_cons_self] at hfirst
      cases hfirst
    · rw [List.cons_append, applyAll_cons ht hfirst, applyAll_cons ht hfirst,
        ih hlater fun r hr => hok r (List.mem_cons_of_mem _ hr)]
      simp only [List.append_assoc]
      cases (applyAll root env more _).result <;> rfl

/-- The first transformation whose replacer cannot be built ends the application. -/
theorem applyAll_unready {done : List Transformation} {t : Transformation} {e : ConfigError}
    (more : List Transformation) (hdone : Succeeds root env done tree)
    (h : t.spec.replacer = .error (.config e)) :
    (applyAll root env (done ++ t :: more) tree).tree = (applyAll root env done tree).tree ∧
      ∃ results, (applyAll root env (done ++ t :: more) tree).result = .ok results ∧
        ⟨t.identity, .error (.config e)⟩ ∈ results := by
  obtain ⟨results, hresults, hok⟩ := hdone
  have hlast : ∀ tree, applyAll root env (t :: more) tree =
      ⟨tree, [.failed t.identity (.config e)], .ok [⟨t.identity, .error (.config e)⟩]⟩ := by
    intro tree
    simp only [applyAll, apply_unready h]
    rfl
  rw [applyAll_append _ hresults hok, hlast]
  exact ⟨rfl, _, rfl, List.mem_append_right _ (List.mem_singleton_self _)⟩

/-- A configuration error among the results is that of the last transformation applied. -/
theorem applyAll_config {ts : List Transformation} {results : List ApplyResult} {result : ApplyResult}
    {e : ConfigError} (h : (applyAll root env ts tree).result = .ok results) (hmem : result ∈ results)
    (he : result.outcome = .error (.config e)) :
    ∃ done t more, ts = done ++ t :: more ∧ Succeeds root env done tree ∧
      t.spec.replacer = .error (.config e) := by
  induction ts generalizing tree results with
  | nil =>
    rw [← Except.ok.inj h] at hmem
    cases hmem
  | cons t ts ih =>
    obtain ⟨first, ht, ⟨hfirst, rfl⟩ | ⟨hfirst, later, hlater, rfl⟩⟩ := applyAll_cons_ok h
    · obtain rfl := List.mem_singleton.mp hmem
      exact ⟨[], t, ts, rfl, ⟨[], rfl, by simp⟩, apply_config ht he⟩
    · rcases List.mem_cons.mp hmem with rfl | hmem
      · rw [ApplyResult.ok, he] at hfirst
        cases hfirst
      · obtain ⟨done, t', more, rfl, ⟨found, hfound, hall⟩, hunready⟩ := ih hlater hmem
        refine ⟨t :: done, t', more, rfl, ⟨first :: found, ?_, ?_⟩, hunready⟩
        · rw [applyAll_cons ht hfirst, hfound]
          rfl
        · exact List.forall_mem_cons.mpr ⟨hfirst, hall⟩

end Transformation

end TemplateSwap
