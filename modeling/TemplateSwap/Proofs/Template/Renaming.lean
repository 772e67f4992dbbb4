import TemplateSwap.Proofs.Template.Grammar
import Mathlib.Logic.Embedding.Basic

namespace TemplateSwap

/-- What a placeholder can be called. -/
abbrev Name : Type := { name : String // Token.isName name.toList = true }

/-- Names for names, different ones for different ones. -/
abbrev Renaming : Type := Name ↪ Name

namespace Renaming

variable (ρ : Renaming)

/-- The new name of an identifier; other text stays as it is. -/
def apply (name : String) : String :=
  if h : Token.isName name.toList = true then (ρ ⟨name, h⟩).val else name

/-- The same for a name that is given by its characters. -/
def chars (name : List Char) : List Char := (ρ.apply (String.ofList name)).toList

theorem isName_apply (name : String) : Token.isName (ρ.apply name).toList = Token.isName name.toList := by
  unfold apply
  split_ifs with h
  · rw [h, (ρ ⟨name, h⟩).property]
  · rfl

theorem apply_injective : Function.Injective ρ.apply := by
  intro a b hab
  have hname : Token.isName a.toList = Token.isName b.toList := by
    rw [← ρ.isName_apply a, hab, ρ.isName_apply]
  unfold apply at hab
  by_cases h : Token.isName a.toList = true
  · rw [dif_pos h, dif_pos (hname ▸ h)] at hab
    exact congrArg Subtype.val (ρ.injective (Subtype.ext hab))
  · rwa [dif_neg h, dif_neg (hname ▸ h)] at hab

@[simp] theorem ofList_chars (name : List Char) : String.ofList (ρ.chars name) = ρ.apply (String.ofList name) := by
  rw [chars, String.ofList_toList]

theorem isName_chars (name : List Char) : Token.isName (ρ.chars name) = Token.isName name := by
  rw [chars, isName_apply, String.toList_ofList]

theorem chars_of_not_name {name : List Char} (h : Token.isName name = false) : ρ.chars name = name := by
  have hname : Token.isName (String.ofList name).toList ≠ true := by simp [h]
  rw [chars, apply, dif_neg hname, String.toList_ofList]

theorem chars_injective : Function.Injective ρ.chars := by
  intro a b hab
  have hstrings := ρ.apply_injective (String.toList_injective hab)
  exact String.ofList_injective hstrings

theorem isName_underscored {name : List Char} (h : Token.isName name = true) :
    Token.isName ('_' :: name) = true := by
  cases name with
  | nil => cases h
  | cons c rest =>
    simp only [Token.isName, Bool.and_eq_true, List.all_cons] at h ⊢
    refine ⟨rfl, ?_, h.2⟩
    have hstart := h.1
    simp only [Token.isNameStart, Token.isNameRest, Char.isAlphanum, Bool.or_eq_true] at hstart ⊢
    rcases hstart with hletter | hunderscore
    · exact .inl (.inl hletter)
    · exact .inr hunderscore

/-- An underscore before every name. -/
def underscored : Renaming where
  toFun name := ⟨"_" ++ name.val, by
    rw [String.toList_append]
    exact isName_underscored name.property⟩
  inj' a b hab := by
    have hchars := congrArg String.toList (congrArg Subtype.val hab)
    simp only [String.toList_append, List.append_cancel_left_eq] at hchars
    exact Subtype.ext (String.toList_injective hchars)

end Renaming

namespace Token

def rename (ρ : Renaming) : Token → Token
  | literal text => literal text
  | placeholder name index => placeholder (ρ.apply name) index

end Token

namespace Template

variable (ρ : Renaming)

def Piece.rename : Piece → Piece
  | char c => char c
  | hole name => hole (ρ.chars name)

/-- The text of a template with the names in its placeholders replaced, from where the reader stands. Text
that is no placeholder stays as it is. -/
def renameText : Mode → List Char → List Char
  | .text, [] => []
  | .text, c :: rest => if c = '$' then renameText .dollar rest else c :: renameText .text rest
  | .dollar, [] => ['$']
  | .dollar, c :: rest =>
    if c = '$' then '$' :: '$' :: renameText .text rest
    else if c = '\x7b' then renameText (.name []) rest
    else '$' :: c :: renameText .text rest
  | .name sofar, [] => '$' :: '\x7b' :: sofar.reverse
  | .name sofar, c :: rest =>
    if c = '\x7d' then '$' :: '\x7b' :: ρ.chars sofar.reverse ++ '\x7d' :: renameText .text rest
    else renameText (.name (c :: sofar)) rest

/-- The reader finds the same pieces with their new names, up to the same flaw. -/
theorem split_renameText {mode : Mode} (hopen : mode.Open) (text : List Char) :
    split .text (renameText ρ mode text) = ((split mode text).1.map (Piece.rename ρ), (split mode text).2) := by
  fun_induction renameText ρ mode text with
  | case1 | case4 => rfl
  | case2 rest ih => rw [ih Mode.open_dollar, split, if_pos rfl]
  | case3 c rest hc ih =>
    simp only [split, if_neg hc]
    rw [ih Mode.open_text]
    rfl
  | case5 rest ih =>
    simp only [split, if_true]
    rw [ih Mode.open_text]
    rfl
  | case6 rest hc ih =>
    rw [ih (Mode.open_name.mpr (by simp)), split, if_neg hc, if_pos rfl]
  | case7 c rest hdollar hbrace ih => simp [split, hdollar, hbrace]
  | case8 sofar =>
    have hname : '\x7d' ∉ sofar.reverse := by simpa using Mode.open_name.mp hopen
    simp [split, split_unterminated hname]
  | case9 sofar rest ih =>
    have hname : '\x7d' ∉ sofar.reverse := by simpa using Mode.open_name.mp hopen
    cases hvalid : Token.isName sofar.reverse with
    | true =>
      have hnew : (Piece.hole (ρ.chars sofar.reverse)).Valid := by
        rw [Piece.valid_hole, ρ.isName_chars, hvalid]
      have hwritten : '$' :: '\x7b' :: ρ.chars sofar.reverse ++ '\x7d' :: renameText ρ .text rest =
          (Piece.hole (ρ.chars sofar.reverse)).write ++ renameText ρ .text rest := by simp [Piece.write]
      rw [hwritten, split_write hnew, ih Mode.open_text, split, if_pos rfl, if_pos hvalid]
      rfl
    | false =>
      rw [ρ.chars_of_not_name hvalid, split_opened hname, List.reverse_reverse]
      simp [split, hvalid]
  | case10 sofar c rest hc ih =>
    have hname : '\x7d' ∉ c :: sofar := by
      rw [List.mem_cons, not_or]
      exact ⟨Ne.symm hc, Mode.open_name.mp hopen⟩
    rw [ih (Mode.open_name.mpr hname), split, if_neg hc]

theorem repeated?_rename (seen : List (List Char)) (pieces : List Piece) :
    repeated? (seen.map ρ.chars) (pieces.map (Piece.rename ρ)) = (repeated? seen pieces).map ρ.chars := by
  induction pieces generalizing seen with
  | nil => rfl
  | cons p pieces ih =>
    cases p with
    | char c => exact ih seen
    | hole name =>
      have hseen : (seen.map ρ.chars).contains (ρ.chars name) = seen.contains name := by
        rw [Bool.eq_iff_iff, List.contains_iff_mem, List.contains_iff_mem,
          List.mem_map_of_injective ρ.chars_injective]
      rw [List.map_cons, Piece.rename, repeated?, repeated?, hseen]
      split
      · rfl
      · exact ih (name :: seen)

theorem literalToken_rename (text : List Char) : (literalToken text).map (Token.rename ρ) = literalToken text := by
  unfold literalToken
  split <;> rfl

theorem assemble_rename (index : Nat) (text : List Char) (pieces : List Piece) :
    assemble index text (pieces.map (Piece.rename ρ)) = (assemble index text pieces).map (Token.rename ρ) := by
  induction pieces generalizing index text with
  | nil => exact (literalToken_rename ρ _).symm
  | cons p pieces ih =>
    cases p with
    | char c => exact ih index (c :: text)
    | hole name =>
      simp only [List.map_cons, Piece.rename, assemble, List.map_append, literalToken_rename, ih,
        Token.rename, ρ.ofList_chars]

/-- The text of a template with its placeholders renamed. -/
def renameSource (source : String) : String := String.ofList (renameText ρ .text source.toList)

/-- Only placeholders are renamed, not what looks like them. -/
example : renameSource .underscored "${x} $${x} ${1} $\x7by" = "${_x} $${x} ${1} $\x7by" := by decide +kernel

def rename (t : Template) : Template :=
  { t with source := renameSource ρ t.source, tokens := t.tokens.map (Token.rename ρ) }

/-- A renamed text is the text of the renamed template, and is refused if the text itself is. -/
theorem read_rename (source : String) (repeatsAllowed : Bool) (location : Option Location) :
    Results.Together (fun t t' => t' = t.rename ρ) (read source repeatsAllowed location)
      (read (renameSource ρ source) repeatsAllowed location) := by
  have hsplit : split .text (renameSource ρ source).toList =
      ((split .text source.toList).1.map (Piece.rename ρ), (split .text source.toList).2) := by
    rw [renameSource, String.toList_ofList]
    exact split_renameText ρ Mode.open_text source.toList
  have hrepeated : repeated? [] ((split .text source.toList).1.map (Piece.rename ρ)) =
      (repeated? [] (split .text source.toList).1).map ρ.chars := repeated?_rename ρ [] _
  have hchecked : (if repeatsAllowed then none
      else repeated? [] ((split .text source.toList).1.map (Piece.rename ρ))) =
      (if repeatsAllowed then none else repeated? [] (split .text source.toList).1).map ρ.chars := by
    rw [hrepeated]
    cases repeatsAllowed <;> rfl
  unfold read
  rw [hsplit]
  dsimp only
  rw [hchecked, assemble_rename]
  cases if repeatsAllowed then none else repeated? [] (split .text source.toList).1 with
  | some name => exact .error _ _
  | none =>
    cases (split .text source.toList).2 with
    | some flaw => exact .error _ _
    | none => exact .ok rfl

variable {ρ}

theorem mem_tokens_rename {t : Template} {name : String} {index : Nat} :
    .placeholder name index ∈ (t.rename ρ).tokens ↔ ∃ n, .placeholder n index ∈ t.tokens ∧ ρ.apply n = name := by
  simp only [rename, List.mem_map]
  constructor
  · intro h
    obtain ⟨token, hmem, heq⟩ := h
    cases token with
    | literal s => cases heq
    | placeholder n i =>
      obtain ⟨hname, rfl⟩ := Token.placeholder.inj heq
      exact ⟨n, hmem, hname⟩
  · intro h
    obtain ⟨n, hmem, rfl⟩ := h
    exact ⟨_, hmem, rfl⟩

theorem mem_names_rename {t : Template} {name : String} :
    name ∈ (t.rename ρ).names ↔ ∃ n ∈ t.names, ρ.apply n = name := by
  simp only [mem_names, mem_tokens_rename]
  constructor
  · intro h
    obtain ⟨index, n, hmem, hname⟩ := h
    exact ⟨n, ⟨index, hmem⟩, hname⟩
  · intro h
    obtain ⟨n, ⟨index, hmem⟩, hname⟩ := h
    exact ⟨index, n, hmem, hname⟩

theorem placeholders_rename (t : Template) :
    (t.rename ρ).placeholders = t.placeholders.map fun (name, index) => (ρ.apply name, index) := by
  simp only [placeholders, rename, List.filterMap_map, List.map_filterMap]
  congr 1
  funext token
  cases token <;> rfl

end Template

namespace Renaming

variable {ρ : Renaming} {α : Type}

/-- Under its new name an entry is found where it was. -/
theorem lookup_map (entries : List (String × α)) (name : String) :
    (entries.map fun (n, value) => (ρ.apply n, value)).lookup (ρ.apply name) = entries.lookup name := by
  induction entries with
  | nil => rfl
  | cons entry entries ih =>
    obtain ⟨n, value⟩ := entry
    have hsame : (ρ.apply name == ρ.apply n) = (name == n) := by
      rw [Bool.eq_iff_iff, beq_iff_eq, beq_iff_eq, ρ.apply_injective.eq_iff]
    rw [List.map_cons, List.lookup_cons, List.lookup_cons, hsame, ih]

/-- One list of names has all those of another, whatever they are called. -/
theorem forall_mem_iff {names names' known known' : List String}
    (hnames : ∀ name, name ∈ names' ↔ ∃ n ∈ names, ρ.apply n = name)
    (hknown : ∀ name, name ∈ known' ↔ ∃ n ∈ known, ρ.apply n = name) :
    (∀ name ∈ names', name ∈ known') ↔ ∀ name ∈ names, name ∈ known := by
  constructor
  · intro h name hname
    obtain ⟨n, hn, heq⟩ := (hknown _).mp (h _ ((hnames _).mpr ⟨name, hname, rfl⟩))
    rwa [← ρ.apply_injective heq]
  · intro h name hname
    obtain ⟨n, hn, rfl⟩ := (hnames _).mp hname
    exact (hknown _).mpr ⟨n, h n hn, rfl⟩

end Renaming

namespace Template

variable {ρ : Renaming}

theorem validateKnown_rename (t : Template) (known : List String) :
    Results.Together (fun _ _ => True) (t.validateKnown known)
      ((t.rename ρ).validateKnown (known.map ρ.apply)) := by
  have hnames : (∀ name ∈ (t.rename ρ).names, name ∈ known.map ρ.apply) ↔ ∀ name ∈ t.names, name ∈ known :=
    Renaming.forall_mem_iff (fun _ => mem_names_rename) fun _ => List.mem_map
  refine .of_ok (fun _ h => ⟨(), ?_, trivial⟩) fun _ h => ⟨(), ?_⟩
  · exact validateKnown_ok.mpr (hnames.mpr (validateKnown_ok.mp h))
  · exact validateKnown_ok.mpr (hnames.mp (validateKnown_ok.mp h))

theorem validateUnused_rename (t : Template) (defined : List String) :
    Results.Together (fun _ _ => True) (t.validateUnused defined)
      ((t.rename ρ).validateUnused (defined.map ρ.apply)) := by
  have hnames : (∀ name ∈ defined.map ρ.apply, name ∈ (t.rename ρ).names) ↔ ∀ name ∈ defined, name ∈ t.names :=
    Renaming.forall_mem_iff (fun _ => List.mem_map) fun _ => mem_names_rename
  refine .of_ok (fun _ h => ⟨(), ?_, trivial⟩) fun _ h => ⟨(), ?_⟩
  · exact validateUnused_ok.mpr (hnames.mpr (validateUnused_ok.mp h))
  · exact validateUnused_ok.mpr (hnames.mp (validateUnused_ok.mp h))

end Template

end TemplateSwap
