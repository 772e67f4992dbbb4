import TemplateSwap.Proofs.Running.Emptying

namespace TemplateSwap

open TemplateSwap.Text (Code Encoding codes)

variable {before after : Template} {f : Fragments} {firstOnly multiline : Bool} {r : Replacer} {e : Encoding}

/-- How a replacer rewrites a text: the replaced stretches, each after its gap, and what comes after them. -/
structure Rewritten (r : Replacer) (before after : Template) (firstOnly multiline : Bool) (text : List Code)
    (edits : List (Edit Site)) (rest : List Code) : Prop where
  original : text = Edit.before edits ++ rest
  replaced : r.replaceCount text = (Edit.after edits ++ rest, edits.length)
  sites : edits.map Edit.why = limited firstOnly (sites r.pattern (searched multiline text))
  placed : Edit.Placed (ReplacesIn r before after multiline text) 0 edits

theorem Replacer.Built.rewritten (hf : Composite.Sound f) (h : Replacer.Built before after f firstOnly multiline r)
    (text : List Code) : ∃ edits rest, Rewritten r before after firstOnly multiline text edits rest := by
  obtain ⟨edits, rest, htext, hout, hwhys, hplaced⟩ := r.exists_edits text
  rw [h.firstOnly, h.multiline] at hwhys
  exact ⟨edits, rest, htext, hout, hwhys, hplaced.imp fun _ _ _ _ hexpands => h.replaces hf hexpands⟩

/-- The bytes of a rewritten text, before and after. -/
structure Rebuilt {α : Type} (e : Encoding) (edits : List (Edit α)) (rest : List Code)
    (data new : List UInt8) : Prop where
  gaps : ∀ edit ∈ edits, e.encode edit.gap = .ok (e.bytes edit.gap)
  matched : ∀ edit ∈ edits, e.encode edit.matched = .ok (e.bytes edit.matched)
  written : ∀ edit ∈ edits, e.encode edit.written = .ok (e.bytes edit.written)
  ending : e.encode rest = .ok (e.bytes rest)
  old : data = (edits.flatMap fun edit => e.bytes edit.gap ++ e.bytes edit.matched) ++ e.bytes rest
  new : new = (edits.flatMap fun edit => e.bytes edit.gap ++ e.bytes edit.written) ++ e.bytes rest

theorem bytes_flatMap {α : Type} (e : Encoding) (xs : List α) (text : α → List Code) :
    e.bytes (xs.flatMap text) = xs.flatMap fun x => e.bytes (text x) := List.flatMap_assoc

/-- When all that is read and all that is written has bytes, stretches can be encoded on their own. -/
theorem Rebuilt.of_encodable {α : Type} {edits : List (Edit α)} {rest : List Code} (he : e ≠ .utf8Signature)
    (hbefore : ∀ c ∈ Edit.before edits ++ rest, e.Encodable c)
    (hafter : ∀ c ∈ Edit.after edits ++ rest, e.Encodable c) :
    Rebuilt e edits rest (e.bytes (Edit.before edits ++ rest)) (e.bytes (Edit.after edits ++ rest)) := by
  rw [List.forall_mem_append] at hbefore hafter
  have hold : ∀ edit ∈ edits, ∀ c ∈ edit.gap ++ edit.matched, e.Encodable c := by
    intro edit hedit c hc
    exact hbefore.1 c (List.mem_flatMap.mpr ⟨edit, hedit, hc⟩)
  have hnew : ∀ edit ∈ edits, ∀ c ∈ edit.gap ++ edit.written, e.Encodable c := by
    intro edit hedit c hc
    exact hafter.1 c (List.mem_flatMap.mpr ⟨edit, hedit, hc⟩)
  simp only [List.forall_mem_append] at hold hnew
  constructor
  · exact fun edit hedit => Encoding.encode_eq_bytes he (hold edit hedit).1
  · exact fun edit hedit => Encoding.encode_eq_bytes he (hold edit hedit).2
  · exact fun edit hedit => Encoding.encode_eq_bytes he (hnew edit hedit).2
  · exact Encoding.encode_eq_bytes he hbefore.2
  · simp only [Encoding.bytes_append, Edit.before, bytes_flatMap]
  · simp only [Encoding.bytes_append, Edit.after, bytes_flatMap]

/-- Gaps keep their bytes and replaced stretches get those of what is written for them. -/
theorem Rewritten.rebuilt {edits : List (Edit Site)} {rest : List Code} {data : List UInt8}
    (h : Rewritten r before after firstOnly multiline (e.decode data) edits rest) (he : e ≠ .utf8Signature)
    (hliterals : ∀ s, .literal s ∈ r.recipe → ∀ c ∈ codes s, e.Encodable c) :
    ∃ new, Rebuilt e edits rest data new ∧ e.encode (r.replace (e.decode data)) = .ok new := by
  have hread : ∀ c ∈ e.decode data, e.Encodable c := fun c hc => Encoding.encodable_of_mem_decode hc
  have hbreak : e.Encodable Text.Lines.lineBreak := by cases e <;> rfl
  have hwritten : ∀ c ∈ r.replace (e.decode data), e.Encodable c := Replacer.forall_replace hliterals hbreak hread
  have hreplaced : r.replace (e.decode data) = Edit.after edits ++ rest := by rw [Replacer.replace, h.replaced]
  refine ⟨e.bytes (r.replace (e.decode data)), ?_, Encoding.encode_eq_bytes he hwritten⟩
  rw [hreplaced] at hwritten ⊢
  have hbytes := Rebuilt.of_encodable he (h.original ▸ hread) hwritten
  rwa [← h.original, Encoding.bytes_decode he] at hbytes

namespace Application

variable {encoding path : String} {env : Environment} {t : Tree} {place : List String} {data new : List UInt8}

theorem rewriteFile_same_text (he : Encoding.ofName? encoding = some e)
    (hread : t.readFile path = .ok (place, data)) (hsame : r.replace (e.decode data) = e.decode data) :
    (rewriteFile r encoding env t path).tree = t := by
  cases hreading : env.reading.lookup path with
  | some text => simp only [rewriteFile, hreading]
  | none =>
    simp only [rewriteFile_encoding he, hreading, hread]
    rw [if_pos hsame]

theorem rewriteFile_closed (hread : t.readFile path = .ok (place, data))
    (hclosed : env.reading.lookup path ≠ none ∨ env.writing.lookup path ≠ none) :
    (rewriteFile r encoding env t path).tree = t := by
  cases hreading : env.reading.lookup path with
  | some text => simp only [rewriteFile, hreading]
  | none =>
    obtain ⟨text, hwriting⟩ := Option.ne_none_iff_exists'.mp (hclosed.resolve_left fun h => h hreading)
    simp only [rewriteFile, hreading, hread, hwriting]
    split
    · rfl
    · split
      · rfl
      · split_ifs <;> rfl

/-- A file that is not closed, and whose new text has bytes, gets those bytes. -/
theorem rewriteFile_open (he : Encoding.ofName? encoding = some e)
    (hread : t.readFile path = .ok (place, data)) (hreading : env.reading.lookup path = none)
    (hwriting : env.writing.lookup path = none) (hnew : e.encode (r.replace (e.decode data)) = .ok new)
    (hchanged : r.replace (e.decode data) ≠ e.decode data) :
    rewriteFile r encoding env t path = ⟨t.put place (.file new),
      [.rewrote path (r.replaceCount (e.decode data)).2], .ok (some (r.replaceCount (e.decode data)).2)⟩ := by
  simp only [rewriteFile_encoding he, hreading, hread, hwriting, hnew]
  exact if_neg hchanged

/-- Bytes outside of replacements survive. What a file holds is read and written again as it was, text or not. If the
file changes, the bytes of each match are exchanged for those of what is written for it, and all other bytes stay. -/
theorem rewriteFile_bytes {entries : List (Value × Value)} {location : Option Location}
    (hf : Fragments.compile entries location = .ok f)
    (h : Replacer.compile before after f firstOnly multiline = .ok r) (he : Encoding.ofName? encoding = some e)
    (hplain : e ≠ .utf8Signature) (hliterals : ∀ s, .literal s ∈ after.tokens → ∀ c ∈ codes s, e.Encodable c)
    (data : List UInt8) :
    e.encode (e.decode data) = .ok data ∧
    ∃ edits rest new, Rewritten r before after firstOnly multiline (e.decode data) edits rest ∧
      Rebuilt e edits rest data new ∧
      ∀ env t path place, Tree.readFile t path = .ok (place, data) →
        (edits = [] → (rewriteFile r encoding env t path).tree = t) ∧
        ((rewriteFile r encoding env t path).tree ≠ t →
          (rewriteFile r encoding env t path).result = .ok (some edits.length) ∧
          ∀ other, (rewriteFile r encoding env t path).tree.fileAt? other =
            if other = place then some new else t.fileAt? other) ∧
        (env.reading.lookup path = none → env.writing.lookup path = none →
          (rewriteFile r encoding env t path).tree.fileAt? place = some new) := by
  have hbuilt := Replacer.compile_ok.mp h
  rw [← hbuilt.recipe] at hliterals
  obtain ⟨edits, rest, hrewritten⟩ := hbuilt.rewritten (Composite.sound_of_compile hf) (e.decode data)
  obtain ⟨new, hrebuilt, hnew⟩ := hrewritten.rebuilt hplain hliterals
  refine ⟨Encoding.encode_decode hplain data, edits, rest, new, hrewritten, hrebuilt, ?_⟩
  intro env t path place hread
  have hfile := Tree.at?_of_readFile hread
  refine ⟨?_, ?_, ?_⟩
  · intro hnone
    refine rewriteFile_same_text he hread ?_
    rw [Replacer.replace, hrewritten.replaced, hrewritten.original, hnone]
    rfl
  · intro htree
    have hchanged : r.replace (e.decode data) ≠ e.decode data := fun hsame =>
      htree (rewriteFile_same_text he hread hsame)
    have hopen : env.reading.lookup path = none ∧ env.writing.lookup path = none := by
      by_contra hclosed
      rw [Decidable.not_and_iff_or_not] at hclosed
      exact htree (rewriteFile_closed hread hclosed)
    rw [rewriteFile_open he hread hopen.1 hopen.2 hnew hchanged, hrewritten.replaced]
    exact ⟨rfl, Tree.fileAt?_put hfile new⟩
  · intro hreading hwriting
    by_cases hchanged : r.replace (e.decode data) = e.decode data
    · rw [hchanged, Encoding.encode_decode hplain] at hnew
      rw [rewriteFile_same_text he hread hchanged, Tree.fileAt?_some, hfile, Except.ok.inj hnew]
    · rw [rewriteFile_open he hread hreading hwriting hnew hchanged, Tree.fileAt?_put hfile, if_pos rfl]

/-- A letter between two bytes that would be a character without it. -/
def parted : List UInt8 := [0xC3, 0x61, 0xA9, 0x0D, 0x0A, 0x00]

theorem parted_readFile : Tree.readFile (.directory [("f", .file parted)]) "f" = .ok (["f"], parted) :=
  Tree.readFile_name (by decide) rfl

/-- Bytes that are no text are kept one by one, also where they come to stand next to each other. -/
theorem rewriteFile_bytes_parted :
    ∃ f r, Fragments.compile [] none = .ok f ∧
      Replacer.compile ⟨"a", [.literal "a"], none⟩ ⟨"", [], none⟩ f false false = .ok r ∧
      Encoding.utf8.encode (Encoding.utf8.decode parted) = .ok parted ∧
      ∃ edits rest, Rewritten r ⟨"a", [.literal "a"], none⟩ ⟨"", [], none⟩ false false (Encoding.utf8.decode parted)
          edits rest ∧ Rebuilt .utf8 edits rest parted [0xC3, 0xA9, 0x0D, 0x0A, 0x00] := by
  have hcompiles : ∃ f, Fragments.compile [] none = .ok f ∧
      (Replacer.compile ⟨"a", [.literal "a"], none⟩ ⟨"", [], none⟩ f false false).toOption.any (fun r =>
        r.replace (Encoding.utf8.decode parted) == [0xDCC3, 0xDCA9, 13, 10, 0]) = true :=
    Results.exists_ok (by decide +kernel)
  obtain ⟨f, hf, hreplacer⟩ := hcompiles
  obtain ⟨r, hr, htext⟩ := Results.exists_ok hreplacer
  have htext := beq_iff_eq.mp htext
  have hnew : Encoding.utf8.encode (r.replace (Encoding.utf8.decode parted)) =
      .ok [0xC3, 0xA9, 0x0D, 0x0A, 0x00] := by
    rw [htext]
    rfl
  have hchanged : r.replace (Encoding.utf8.decode parted) ≠ Encoding.utf8.decode parted := by
    rw [htext]
    decide
  have hone : rewriteFile r "utf-8" {} _ "f" = _ :=
    rewriteFile_open Encoding.ofName?_utf8 parted_readFile rfl rfl hnew hchanged
  obtain ⟨hkept, edits, rest, new, hrewritten, hrebuilt, hfiles⟩ :=
    rewriteFile_bytes hf hr Encoding.ofName?_utf8 (by decide) (by simp) parted
  obtain ⟨-, -, hwritten⟩ := hfiles {} _ "f" ["f"] parted_readFile
  have hfile := hwritten rfl rfl
  rw [hone, Tree.fileAt?_put (Tree.at?_of_readFile parted_readFile), if_pos rfl] at hfile
  obtain rfl := Option.some.inj hfile
  exact ⟨f, r, hf, hr, hkept, edits, rest, hrewritten, hrebuilt⟩

end Application

end TemplateSwap
