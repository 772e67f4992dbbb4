import TemplateSwap.Proofs.Reading.Items
import TemplateSwap.Proofs.Results
import TemplateSwap.Replacer.Composite

namespace TemplateSwap.Composite

open TemplateSwap.Text (Code codes codes_append codes_intercalate toNat_injective)
open TemplateSwap.Pattern
open TemplateSwap.Results (bind_ok pure_ok mapM_ok exists_mapM_ok forall₂_right mem_of_lookup)

/-- What stands before a fragment and after it. -/
def opening (index : Nat) : Source :=
  .plain 40 :: .plain 63 :: .plain 80 :: .plain 60 :: (codes (groupName index)).map .plain ++
    [.plain 62, .plain 40, .plain 63, .plain 58]

def closing : Source := [.plain 41, .plain 41]

/-- The symbols of a part. -/
def partSymbols (f : Fragments) : Token → Source
  | .literal text => (codes text).map literalSymbol
  | .placeholder name index =>
    match f.get? name with
    | some p => opening index ++ symbols p.source ++ closing
    | none => []

theorem codes_groupName (index : Nat) :
    codes (groupName index) = 95 :: 112 :: 104 :: (Nat.toDigits 10 index).map Char.toNat := by
  simp [groupName, codes]

theorem digit_bounds {index : Nat} {c : Code} (h : c ∈ (Nat.toDigits 10 index).map Char.toNat) :
    48 ≤ c ∧ c ≤ 57 := by
  obtain ⟨d, hd, rfl⟩ := List.mem_map.mp h
  have hdigit := Nat.isDigit_of_mem_toDigits (by decide) (by decide) hd
  simpa [Char.isDigit, Char.le_def, UInt32.le_iff_toNat_le] using hdigit

/-- Names of groups are written in letters, digits and underscores. -/
theorem groupName_bounds {index : Nat} {c : Code} (h : c ∈ codes (groupName index)) :
    48 ≤ c ∧ c ≤ 57 ∨ c = 95 ∨ c = 112 ∨ c = 104 := by
  rw [codes_groupName] at h
  simp only [List.mem_cons] at h
  rcases h with rfl | rfl | rfl | h
  · exact .inr (.inl rfl)
  · exact .inr (.inr (.inl rfl))
  · exact .inr (.inr (.inr rfl))
  · exact .inl (digit_bounds h)

theorem groupName_inj {i j : Nat} (h : codes (groupName i) = codes (groupName j)) : i = j := by
  simp only [codes_groupName, List.cons.injEq, true_and] at h
  have hdigits := List.map_injective_iff.mpr toNat_injective h
  rw [← Nat.ofDigitChars_toDigits (b := 10) (n := i) (by decide) (by decide), hdigits,
    Nat.ofDigitChars_toDigits (by decide) (by decide)]

theorem isIdentifier_groupName (index : Nat) :
    TemplateSwap.Text.isIdentifier (codes (groupName index)) = true := by
  have hrest : ∀ c ∈ codes (groupName index), TemplateSwap.Text.isIdentifierContinue c = true := by
    intro c hc
    rcases groupName_bounds hc with ⟨hlow, hhigh⟩ | rfl | rfl | rfl
    · have hlt : c < 128 := Nat.lt_of_le_of_lt hhigh (by decide)
      simp [TemplateSwap.Text.isIdentifierContinue, hlt, TemplateSwap.Text.isAsciiDigit, hlow, hhigh]
    · rfl
    · rfl
    · rfl
  rw [codes_groupName] at hrest ⊢
  simp only [TemplateSwap.Text.isIdentifier, Bool.and_eq_true, List.all_eq_true]
  exact ⟨rfl, fun c hc => hrest c (List.mem_cons_of_mem _ hc)⟩

theorem ofCodes_wrapped {index : Nat} {source : String} (hs : ¬(symbols source).EndsAlone)
    (ds : List Code) :
    Source.ofCodes (codes (wrapped index source) ++ ds) =
      opening index ++ symbols source ++ closing ++ Source.ofCodes ds := by
  have hname : 92 ∉ codes "(?P<" ++ codes (groupName index) ++ codes ">(?:" := by
    intro h
    rcases List.mem_append.mp h with h | h
    · rcases List.mem_append.mp h with h | h
      · exact absurd h (by decide)
      · exact absurd (groupName_bounds h) (by decide)
    · exact absurd h (by decide)
  have hcodes : codes (wrapped index source) ++ ds =
      (codes "(?P<" ++ codes (groupName index) ++ codes ">(?:") ++ (codes source ++ (codes "))" ++ ds)) := by
    simp only [wrapped, codes_append, List.append_assoc]
  rw [hcodes, ofCodes_plain hname, ofCodes_append hs, ofCodes_plain (by decide)]
  have hopen : codes "(?P<" = [40, 63, 80, 60] := by decide
  have hclose : codes ">(?:" = [62, 40, 63, 58] := by decide
  have hend : codes "))" = [41, 41] := by decide
  simp [opening, closing, symbols, hopen, hclose, hend]

/-- Every fragment compiles on its own. -/
def Sound (f : Fragments) : Prop :=
  ∀ name p, f.get? name = some p → Pattern.compile p.source {} = .ok p

theorem not_endsAlone {f : Fragments} (hf : Sound f) {name : String} {p : Pattern}
    (hp : f.get? name = some p) : ¬(symbols p.source).EndsAlone := by
  obtain ⟨b, hb, -⟩ := compile_ok.mp (hf name p hp)
  exact hb.not_endsAlone

theorem ofCodes_part {f : Fragments} (hf : Sound f) {token : Token} {part : String}
    (h : Composite.part f token = .ok part) (ds : List Code) :
    Source.ofCodes (codes part ++ ds) = partSymbols f token ++ Source.ofCodes ds := by
  cases token with
  | literal text =>
    obtain rfl := Except.ok.inj h
    rw [codes_literal, ofCodes_literal]
    rfl
  | placeholder name index =>
    simp only [Composite.part] at h
    cases hp : f.get? name with
    | none => simp [hp] at h
    | some p =>
      simp only [hp] at h
      obtain rfl := Except.ok.inj h
      rw [ofCodes_wrapped (not_endsAlone hf hp)]
      simp only [partSymbols, hp]

/-- The names of the placeholders have fragments. -/
def Known (f : Fragments) (tokens : List Token) : Prop :=
  ∀ name index, .placeholder name index ∈ tokens → ∃ p, f.get? name = some p

theorem compileEntry_ok {location : Option Location} {key source : Value} {name : String} {p : Pattern}
    (h : Fragments.compileEntry location key source = .ok (name, p)) :
    Pattern.compile p.source {} = .ok p := by
  unfold Fragments.compileEntry at h
  split at h
  · split_ifs at h
    split at h
    · split at h
      · next s compiled hcompiled =>
        obtain ⟨-, rfl⟩ := Prod.mk.inj (Except.ok.inj h)
        obtain ⟨b, -, -, hb⟩ := compile_ok.mp hcompiled
        have hsource : compiled.source = _ := congrArg Pattern.source hb
        rw [hsource]
        exact hcompiled
      · cases h
    · cases h
  · cases h

/-- Fragments are compiled on their own. -/
theorem sound_of_compile {entries : List (Value × Value)} {location : Option Location} {f : Fragments}
    (h : Fragments.compile entries location = .ok f) : Sound f := by
  obtain ⟨compiled, hcompiled, hpure⟩ := bind_ok.mp h
  obtain rfl := pure_ok.mp hpure
  intro name p hp
  have hmem : (name, p) ∈ compiled := mem_of_lookup hp
  obtain ⟨⟨key, source⟩, -, hentry⟩ := forall₂_right (mapM_ok.mp hcompiled) hmem
  exact compileEntry_ok hentry

theorem part_ok {f : Fragments} {token : Token} :
    (∃ part, Composite.part f token = .ok part) ↔
      ∀ name index, token = .placeholder name index → ∃ p, f.get? name = some p := by
  cases token with
  | literal text => simp [Composite.part]
  | placeholder name index =>
    cases hp : f.get? name <;> simp [Composite.part, hp]

/-- The composite pattern exists if all placeholders are known, and its symbols are those of its
parts. -/
theorem source_ok {f : Fragments} (hf : Sound f) {before : Template} {source : String}
    (h : Composite.source before f = .ok source) :
    Known f before.tokens ∧ symbols source = before.tokens.flatMap (partSymbols f) := by
  obtain ⟨parts, hparts, hpure⟩ := bind_ok.mp h
  obtain rfl := pure_ok.mp hpure
  have hall := mapM_ok.mp hparts
  constructor
  · intro name index hmem
    exact part_ok.mp (exists_mapM_ok.mp ⟨parts, hparts⟩ _ hmem) name index rfl
  · rw [symbols, codes_intercalate]
    clear hparts h hpure
    generalize before.tokens = tokens at hall
    induction hall with
    | nil => rfl
    | cons hpart _ ih =>
      rw [List.flatMap_cons, ofCodes_part hf hpart, ih, List.flatMap_cons]

theorem exists_source {f : Fragments} {before : Template} (h : Known f before.tokens) :
    ∃ source, Composite.source before f = .ok source := by
  have hpart : ∀ token ∈ before.tokens, ∃ part, Composite.part f token = .ok part := by
    intro token hmem
    refine part_ok.mpr fun name index htoken => ?_
    rw [htoken] at hmem
    exact h name index hmem
  obtain ⟨parts, hparts⟩ := exists_mapM_ok.mpr hpart
  exact ⟨"".intercalate parts, bind_ok.mpr ⟨parts, hparts, rfl⟩⟩

end TemplateSwap.Composite
