import TemplateSwap.Proofs.Replacement.Origins
import TemplateSwap.Proofs.Running.Stopping
import TemplateSwap.Proofs.Text.Encoding
import TemplateSwap.Proofs.Tree.Finding

namespace TemplateSwap

open TemplateSwap.Text (Encoding codes)

namespace Replacer

variable {r : Replacer} {e : Encoding} {data : List UInt8}

/-- The after template has a character that the encoding has no bytes for. -/
def Foreign (r : Replacer) (e : Encoding) : Prop :=
  ∃ s, .literal s ∈ r.recipe ∧ ∃ c ∈ codes s, ¬e.Encodable c

/-- What is read and what is captured in it can be written again, so it is the after template that brings in a
character without bytes. -/
theorem foreign_of_mem_replace {c : Text.Code} (hc : c ∈ r.replace (e.decode data)) (hno : ¬e.Encodable c) :
    r.Foreign e := by
  by_contra hforeign
  have hrecipe : ∀ s, Token.literal s ∈ r.recipe → ∀ c ∈ codes s, e.Encodable c := by
    intro s hs c hc
    by_contra hno
    exact hforeign ⟨s, hs, c, hc, hno⟩
  have hbreak : e.Encodable Text.Lines.lineBreak := by cases e <;> rfl
  exact hno (forall_replace hrecipe hbreak (fun c hc => Encoding.encodable_of_mem_decode hc) c hc)

end Replacer

namespace Application

variable {r : Replacer} {encoding path : String} {env : Environment} {t : Tree} {place : List String}
variable {e : Encoding} {error : CodecError}

/-- No fault is in the way of a file, and there are no bytes for its new text. -/
structure Spoils (r : Replacer) (encoding : String) (env : Environment) (t : Tree) (path : String)
    (place : List String) (error : CodecError) : Prop where
  writable : env.writing.lookup path = none
  spoiled : ∃ codec text, Opens encoding env t path place codec text ∧ r.replace text ≠ text ∧
    codec.encode (r.replace text) = .error error

namespace Spoils

theorem foreign (h : Spoils r encoding env t path place error) (he : Encoding.ofName? encoding = some e) :
    r.Foreign e ∧ ∃ refused, error = .unencodable refused := by
  obtain ⟨codec, text, hopens, -, hrefused⟩ := h.spoiled
  obtain rfl := hopens.codec_eq he
  obtain ⟨data, -, rfl⟩ := hopens.text_eq he
  obtain ⟨refused, hencode, rfl⟩ := Encoding.codec_encode_error.mp hrefused
  obtain ⟨c, hc, hno⟩ := Encoding.encode_error.mp ⟨refused, hencode⟩
  exact ⟨Replacer.foreign_of_mem_replace hc hno, refused, rfl⟩

/-- The file is open for writing when its new text is refused. -/
theorem rewriteFile_eq (h : Spoils r encoding env t path place error) :
    rewriteFile r encoding env t path = ⟨t.put place (.file []), [], .error (.ofCodec error)⟩ := by
  obtain ⟨codec, text, hopens, hchanged, hrefused⟩ := h.spoiled
  obtain ⟨data, hread, htext⟩ := hopens.decoded
  rw [Replacer.replace] at hrefused
  simp only [rewriteFile, hopens.readable, hread, hopens.known, htext, h.writable, hrefused]
  exact if_neg hchanged

theorem fileAt? (h : Spoils r encoding env t path place error) (other : List String) :
    (t.put place (.file [])).fileAt? other = if other = place then some [] else t.fileAt? other := by
  obtain ⟨codec, text, hopens, -⟩ := h.spoiled
  obtain ⟨data, hread, -⟩ := hopens.decoded
  exact Tree.fileAt?_put (Tree.at?_of_readFile hread) [] other

end Spoils

/-- A rewrite fails before the file is opened for writing, or because its new text is refused. -/
theorem rewriteFile_kept_or_spoiled {failure : Failure}
    (h : (rewriteFile r encoding env t path).result = .error failure) :
    (rewriteFile r encoding env t path).tree = t ∨ ∃ place error, Spoils r encoding env t path place error := by
  have hends := rewriteFile_ends r encoding env t path
  generalize rewriteFile r encoding env t path = outcome at h hends ⊢
  cases hends with
  | closed | unread | unknown | undecoded | sealed => exact .inl rfl
  | same | written => cases h
  | refused hopens hchanged hwriting hencode => exact .inr ⟨_, _, hwriting, _, _, hopens, hchanged, hencode⟩

/-- A file whose rewriting fails keeps its contents, unless the codec refuses the new text. Then the file is left empty,
and all other files stay as they are. In the encodings that decode whatever a file holds, this takes a character in the
after template that the encoding has no bytes for. -/
theorem rewriteFile_failed {failure : Failure}
    (h : (rewriteFile r encoding env t path).result = .error failure) :
    (rewriteFile r encoding env t path).tree = t ∧
        (∀ place error, ¬Spoils r encoding env t path place error) ∨
      ∃ place error, Spoils r encoding env t path place error ∧ failure = .ofCodec error ∧
        (∀ e, Encoding.ofName? encoding = some e → r.Foreign e ∧ ∃ refused, error = .unencodable refused) ∧
        ∀ other, (rewriteFile r encoding env t path).tree.fileAt? other =
          if other = place then some [] else t.fileAt? other := by
  by_cases hspoils : ∃ place error, Spoils r encoding env t path place error
  · obtain ⟨place, error, hspoils⟩ := hspoils
    rw [hspoils.rewriteFile_eq] at h ⊢
    exact .inr ⟨place, error, hspoils, (Except.error.inj h).symm, fun e he => hspoils.foreign he, hspoils.fileAt?⟩
  · refine .inl ⟨(rewriteFile_kept_or_spoiled h).resolve_right hspoils, fun place error hplace => ?_⟩
    exact hspoils ⟨place, error, hplace⟩

/-- Two files with the same text. -/
def twins : Tree := .directory [("a", .file [0x66, 0x6F, 0x6F]), ("b", .file [0x66, 0x6F, 0x6F])]

theorem twins_readFile : twins.readFile "a" = .ok (["a"], [0x66, 0x6F, 0x6F]) :=
  Tree.readFile_name (by decide) rfl

/-- There is no euro sign in Latin-1. -/
theorem exists_spoils_twins :
    ∃ s r refused, Spec.create { before := "foo", after := "€" } = .ok s ∧ s.replacer = .ok r ∧
      Spoils r "latin-1" {} twins "a" ["a"] (.unencodable refused) := by
  have hcreated : ∃ s, Spec.create { before := "foo", after := "€" } = .ok s ∧
      s.replacer.toOption.any (fun r => (r.replace (Encoding.latin1.decode [0x66, 0x6F, 0x6F])).any
        fun c => !(Encoding.latin1.encodeOne c).isSome) = true :=
    Results.exists_ok (by decide +kernel)
  obtain ⟨s, hs, hreplacer⟩ := hcreated
  obtain ⟨r, hr, hforeign⟩ := Results.exists_ok hreplacer
  obtain ⟨c, hc, hno⟩ := List.any_eq_true.mp hforeign
  have hno : ¬Encoding.latin1.Encodable c := by simpa [Encoding.Encodable] using hno
  obtain ⟨refused, hrefused⟩ := Encoding.encode_error.mpr ⟨c, hc, hno⟩
  refine ⟨s, r, refused, hs, hr, rfl, _, _, .of_encoding (by decide +kernel) rfl twins_readFile, fun hsame => ?_,
    Encoding.codec_encode_error.mpr ⟨refused, hrefused, rfl⟩⟩
  rw [hsame] at hc
  exact hno (Encoding.encodable_of_mem_decode hc)

/-- The file that is rewritten is left empty, and the other one keeps its text. -/
theorem rewriteFile_failed_twins :
    ∃ s r failure, Spec.create { before := "foo", after := "€" } = .ok s ∧ s.replacer = .ok r ∧
      (rewriteFile r "latin-1" {} twins "a").result = .error failure ∧ r.Foreign .latin1 ∧
      (rewriteFile r "latin-1" {} twins "a").tree.fileAt? ["a"] = some [] ∧
      (rewriteFile r "latin-1" {} twins "a").tree.fileAt? ["b"] = some [0x66, 0x6F, 0x6F] := by
  obtain ⟨s, r, refused, hs, hr, hspoils⟩ := exists_spoils_twins
  have hresult : (rewriteFile r "latin-1" {} twins "a").result = .error (.unencodable refused) := by
    rw [hspoils.rewriteFile_eq]
    rfl
  rcases rewriteFile_failed hresult with ⟨-, hkept⟩ | ⟨place, error, hempty, -, hforeign, hfiles⟩
  · exact absurd hspoils (hkept _ _)
  · obtain ⟨codec, text, hopens, -⟩ := hempty.spoiled
    obtain ⟨data, hread, -⟩ := hopens.decoded
    rw [twins_readFile] at hread
    obtain ⟨rfl, -⟩ := Prod.mk.inj (Except.ok.inj hread)
    refine ⟨s, r, _, hs, hr, hresult, (hforeign .latin1 (by decide +kernel)).1, ?_⟩
    rw [hfiles, hfiles]
    exact ⟨if_pos rfl, rfl⟩

/-- Not every rewrite that fails keeps what the file holds. -/
theorem rewriteFile_loses :
    ¬∀ r encoding env t path failure, (rewriteFile r encoding env t path).result = .error failure →
      ∀ place, (rewriteFile r encoding env t path).tree.fileAt? place = t.fileAt? place := by
  intro hkept
  obtain ⟨-, r, refused, -, -, hspoils⟩ := exists_spoils_twins
  have hsame := hkept r "latin-1" {} twins "a" (.ofCodec (.unencodable refused)) (by rw [hspoils.rewriteFile_eq]) ["a"]
  rw [hspoils.rewriteFile_eq, hspoils.fileAt?, if_pos rfl] at hsame
  cases hsame

end Application

end TemplateSwap
