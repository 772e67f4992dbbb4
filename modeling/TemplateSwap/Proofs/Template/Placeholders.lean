import TemplateSwap.Proofs.Results
import TemplateSwap.Template.Reader
import Mathlib.Data.List.Nodup
import Mathlib.Data.List.Perm.Subperm

namespace TemplateSwap.Template

theorem missing_eq_nil {names known : List String} :
    names.filter (!known.contains ·) = [] ↔ ∀ name ∈ names, name ∈ known := by
  simp [List.filter_eq_nil_iff]

theorem validateKnown_ok {t : Template} {known : List String} :
    t.validateKnown known = .ok () ↔ ∀ name ∈ t.names, name ∈ known := by
  rw [validateKnown, ← missing_eq_nil]
  cases t.names.filter (!known.contains ·) <;> simp

theorem validateUnused_ok {t : Template} {defined : List String} :
    t.validateUnused defined = .ok () ↔ ∀ name ∈ defined, name ∈ t.names := by
  rw [validateUnused, ← missing_eq_nil]
  cases defined.filter (!t.names.contains ·) <;> simp

theorem validateKnown_error {t : Template} {known : List String} {e : ConfigError} :
    t.validateKnown known = .error e ↔ t.names.filter (!known.contains ·) ≠ [] ∧
      ⟨.unknownNames (t.names.filter (!known.contains ·)) t.source, t.location⟩ = e := by
  rw [validateKnown]
  cases t.names.filter (!known.contains ·) <;> simp

theorem validateUnused_error {t : Template} {defined : List String} {e : ConfigError} :
    t.validateUnused defined = .error e ↔ defined.filter (!t.names.contains ·) ≠ [] ∧
      ⟨.unusedNames (defined.filter (!t.names.contains ·)) t.source, t.location⟩ = e := by
  rw [validateUnused]
  cases defined.filter (!t.names.contains ·) <;> simp

theorem mem_names {t : Template} {name : String} :
    name ∈ t.names ↔ ∃ index, .placeholder name index ∈ t.tokens := by
  simp only [names, List.mem_eraseDups, List.mem_filterMap]
  constructor
  · intro h
    obtain ⟨token, hmem, hname⟩ := h
    cases token with
    | literal s => simp [Token.name?] at hname
    | placeholder n index =>
      obtain rfl := Option.some.inj hname
      exact ⟨index, hmem⟩
  · intro h
    obtain ⟨index, hmem⟩ := h
    exact ⟨_, hmem, rfl⟩

theorem mem_placeholders {t : Template} {name : String} {index : Nat} :
    (name, index) ∈ t.placeholders ↔ .placeholder name index ∈ t.tokens := by
  simp only [placeholders, List.mem_filterMap]
  constructor
  · intro h
    obtain ⟨token, hmem, hpair⟩ := h
    cases token with
    | literal s => simp at hpair
    | placeholder n i =>
      obtain ⟨rfl, rfl⟩ := Prod.mk.inj (Option.some.inj hpair)
      exact hmem
  · intro hmem
    exact ⟨_, hmem, rfl⟩

/-- A name that occurs has a leftmost occurrence. -/
theorem lookup_placeholders {t : Template} {name : String} (h : name ∈ t.names) :
    ∃ index, t.placeholders.lookup name = some index ∧ .placeholder name index ∈ t.tokens := by
  obtain ⟨i, hi⟩ := mem_names.mp h
  have hmem := mem_placeholders.mpr hi
  cases hlookup : t.placeholders.lookup name with
  | none =>
    have hne := List.lookup_eq_none_iff.mp hlookup _ hmem
    simp at hne
  | some index => exact ⟨index, rfl, mem_placeholders.mp (Results.mem_of_lookup hlookup)⟩

theorem lookup_of_nodup {t : Template} (hnodup : (t.placeholders.map (·.1)).Nodup)
    {name : String} {index : Nat} (hmem : .placeholder name index ∈ t.tokens) :
    t.placeholders.lookup name = some index :=
  Results.lookup_of_mem hnodup (mem_placeholders.mpr hmem)

/-- A template without repeated names has no more placeholders than one that has all of its names. -/
theorem length_placeholders_le {t t' : Template}
    (hnodup : (t.placeholders.map (·.1)).Nodup) (hnames : ∀ name ∈ t.names, name ∈ t'.names) :
    t.placeholders.length ≤ t'.placeholders.length := by
  have hsub : t.placeholders.map (·.1) ⊆ t'.placeholders.map (·.1) := by
    intro name hname
    obtain ⟨⟨n, index⟩, hmem, rfl⟩ := List.mem_map.mp hname
    have hother := hnames n (mem_names.mpr ⟨index, mem_placeholders.mp hmem⟩)
    obtain ⟨i, hi⟩ := mem_names.mp hother
    exact List.mem_map.mpr ⟨(n, i), mem_placeholders.mpr hi, rfl⟩
  have hle := (hnodup.subperm hsub).length_le
  rwa [List.length_map, List.length_map] at hle

/-- Placeholders have their positions as numbers. -/
def Numbered (t : Template) : Prop :=
  t.placeholders.map (·.2) = List.range t.placeholders.length

/-- The placeholders in a list of tokens. -/
def holes (tokens : List Token) : List (String × Nat) := placeholders { source := "", tokens }

theorem holes_append (tokens tokens' : List Token) :
    holes (tokens ++ tokens') = holes tokens ++ holes tokens' := List.filterMap_append

theorem holes_literalToken (text : List Char) : holes (literalToken text) = [] := by
  unfold literalToken
  split <;> rfl

theorem assemble_numbers (index : Nat) (text : List Char) (pieces : List Piece) :
    ∃ names : List String, holes (assemble index text pieces) = names.zipIdx index := by
  induction pieces generalizing index text with
  | nil => exact ⟨[], holes_literalToken _⟩
  | cons piece pieces ih =>
    cases piece with
    | char c => exact ih index (c :: text)
    | hole name =>
      obtain ⟨names, hnames⟩ := ih (index + 1) []
      refine ⟨String.ofList name :: names, ?_⟩
      have hfirst : holes (.placeholder (String.ofList name) index :: assemble (index + 1) [] pieces) =
          (String.ofList name, index) :: holes (assemble (index + 1) [] pieces) := rfl
      rw [assemble, holes_append, holes_literalToken, List.nil_append, hfirst, hnames,
        List.zipIdx_cons]

theorem read_numbered {source : String} {repeatsAllowed : Bool} {location : Option Location}
    {t : Template} (h : read source repeatsAllowed location = .ok t) : t.Numbered := by
  unfold read at h
  dsimp only at h
  split at h
  · cases h
  · split at h
    · cases h
    · obtain rfl := Except.ok.inj h
      obtain ⟨names, hnames⟩ := assemble_numbers 0 [] (split .text source.toList).1
      have hplaceholders : placeholders
          { source, tokens := assemble 0 [] (split .text source.toList).1, location } = names.zipIdx :=
        hnames
      rw [Numbered, hplaceholders, List.length_zipIdx, List.range_eq_range']
      exact List.zipIdx_map_snd 0 names

theorem Numbered.lt {t : Template} (h : t.Numbered) {name : String} {index : Nat}
    (hmem : .placeholder name index ∈ t.tokens) : index < t.placeholders.length := by
  have hnumber := List.mem_map_of_mem (f := (·.2)) (mem_placeholders.mpr hmem)
  rw [h] at hnumber
  exact List.mem_range.mp hnumber

theorem Numbered.exists_name {t : Template} (h : t.Numbered) {index : Nat}
    (hindex : index < t.placeholders.length) : ∃ name, .placeholder name index ∈ t.tokens := by
  have hnumber : index ∈ t.placeholders.map (·.2) := by
    rw [h]
    exact List.mem_range.mpr hindex
  obtain ⟨⟨name, i⟩, hmem, rfl⟩ := List.mem_map.mp hnumber
  exact ⟨name, mem_placeholders.mp hmem⟩

theorem pairwise_tokens {t : Template} {R : String × Nat → String × Nat → Prop}
    (h : t.placeholders.Pairwise R) :
    t.tokens.Pairwise fun a b => ∀ name name' index index', a = .placeholder name index →
      b = .placeholder name' index' → R (name, index) (name', index') := by
  refine (List.pairwise_filterMap.mp h).imp ?_
  intro a b hab name name' index index' heq heq₁
  obtain rfl := heq
  obtain rfl := heq₁
  exact hab (name, index) rfl (name', index') rfl

end TemplateSwap.Template
