import TemplateSwap.Proofs.Matching.Languages
import TemplateSwap.Proofs.Reading.Items
import TemplateSwap.Proofs.Results
import TemplateSwap.PathFilter.Glob

namespace TemplateSwap.Glob

open TemplateSwap.Text (Code codes)
open TemplateSwap.Pattern
open TemplateSwap.Pattern.Reader
open scoped Computability

/-- The paths that a glob matches. Where several wildcards could be read the longest one is, and each of them can go
over a stretch of any length. -/
def Matches : List Char → List Char → Prop
  | [], path => path = []
  | '*' :: '*' :: '/' :: glob, path =>
    ∃ front rest, path = front ++ rest ∧ (front = [] ∨ front.getLast? = some '/') ∧ Matches glob rest
  | '*' :: '*' :: glob, path => ∃ front rest, path = front ++ rest ∧ Matches glob rest
  | '*' :: glob, path => ∃ front rest, path = front ++ rest ∧ '/' ∉ front ∧ Matches glob rest
  | '?' :: glob, path => ∃ c rest, path = c :: rest ∧ c ≠ '/' ∧ Matches glob rest
  | c :: glob, path => ∃ rest, path = c :: rest ∧ Matches glob rest

namespace Part

/-- The expression for whole directories, one at least. -/
def directory : Regex := .scope .none .none (.ofItems [.loop .greedy 0 none (.single .any), .single (.one 47)])

/-- The expression for a part. -/
def regex : Part → Regex
  | directories => .loop .greedy 0 (some 1) directory
  | anything => .loop .greedy 0 none (.single .any)
  | stretch => .loop .greedy 0 none (.single (.notOne 47))
  | one => .single (.notOne 47)
  | char c => .single (.one c.toNat)

theorem symbols_char (c : Char) : symbols (char c).source = [literalSymbol c.toNat] := by
  have hone : codes (String.singleton c) = [c.toNat] := by simp [codes]
  have hcodes := codes_literal (String.singleton c)
  rw [hone] at hcodes
  have hliteral := ofCodes_literal [c.toNat] []
  rw [List.append_nil, ← hcodes] at hliteral
  exact hliteral

theorem symbols_directories : symbols directories.source =
    [.plain 40, .plain 63, .plain 58, .plain 46, .plain 42, .plain 47, .plain 41, .plain 63] := by decide

theorem symbols_anything : symbols anything.source = [.plain 46, .plain 42] := by decide

theorem symbols_stretch : symbols stretch.source = [.plain 91, .plain 94, .plain 47, .plain 93, .plain 42] := by
  decide

theorem symbols_one : symbols one.source = [.plain 91, .plain 94, .plain 47, .plain 93] := by decide

theorem notAlone (part : Part) : .loneBackslash ∉ symbols part.source := by
  cases part with
  | directories => decide
  | anything => decide
  | stretch => decide
  | one => decide
  | char c =>
    rw [symbols_char, List.mem_singleton]
    exact (literalSymbol_ne c.toNat).symm

theorem head_ne (part : Part) {c : Code} (hspecial : isSpecial c = true) (hc : c ≠ 40 ∧ c ≠ 46 ∧ c ≠ 91)
    (rest : Source) : (symbols part.source ++ rest).head? ≠ some (.plain c) := by
  obtain ⟨h40, h46, h91⟩ := hc
  cases part with
  | directories =>
    rw [symbols_directories]
    simpa using h40.symm
  | anything =>
    rw [symbols_anything]
    simpa using h46.symm
  | stretch =>
    rw [symbols_stretch]
    simpa using h91.symm
  | one =>
    rw [symbols_one]
    simpa using h91.symm
  | char d =>
    rw [symbols_char, literalSymbol]
    split_ifs with hd
    · simp
    · simpa using ne_special hd hspecial

/-- A part does not begin with a sign. -/
theorem unsigned (part : Part) {rest : Source} (h : .loneBackslash ∉ rest) :
    Source.Unsigned (symbols part.source ++ rest) where
  notAlone := by
    rw [List.mem_append, not_or]
    exact ⟨part.notAlone, h⟩
  lazy := part.head_ne (by decide) (by decide) rest
  possessive := part.head_ne (by decide) (by decide) rest

variable {b : Builder} {rest : Source}

/-- The pattern of a part is read as its expression, wherever it stands. -/
theorem leads (part : Part) (hb : b.level.verbose = false) (hrest : rest.Unsigned) :
    Leads b (symbols part.source ++ rest) (b.add part.regex) rest := by
  have halone := ne_loneBackslash hrest.notAlone
  cases part with
  | directories =>
    rw [symbols_directories]
    have hslash : Source.Unsigned (.plain 47 :: .plain 41 :: .plain 63 :: rest) :=
      ⟨by simpa using hrest.notAlone, by simp, by simp⟩
    have hscope : Leads b (.plain 40 :: .plain 63 :: .plain 58 :: ([.plain 46, .plain 42, .plain 47] ++
        .plain 41 :: .plain 63 :: rest)) (b.add directory) (.plain 63 :: rest) := by
      refine scoped_leads (fun opened => ?_) (by simp)
      have hinside : (b.push (.scope .none .none) opened b.level.verbose).level.verbose = false := hb
      have hany := (any_leads hinside (by simp)).trans (loop_leads hinside ⟨rfl, rfl⟩ (.inl ⟨rfl, rfl⟩) hslash)
      exact hany.trans (literal_leads (by exact hinside) 47 (by simp))
    exact hscope.trans (loop_leads hb ⟨rfl, rfl⟩ (.inr ⟨rfl, rfl⟩) hrest)
  | anything =>
    rw [symbols_anything]
    exact (any_leads hb (by simp)).trans (loop_leads hb ⟨rfl, rfl⟩ (.inl ⟨rfl, rfl⟩) hrest)
  | stretch =>
    rw [symbols_stretch]
    exact (notOne_leads hb 47 (by simp)).trans (loop_leads hb ⟨rfl, rfl⟩ (.inl ⟨rfl, rfl⟩) hrest)
  | one =>
    rw [symbols_one]
    exact notOne_leads hb 47 halone
  | char c =>
    rw [symbols_char]
    exact literal_leads hb c.toNat halone

/-- The stretches of a path that a part goes over. A dot stops at a line break. -/
def language : Part → Language Code
  | directories => {word | word = [] ∨ ∃ front, 10 ∉ front ∧ word = front ++ [47]}
  | anything => {word | 10 ∉ word}
  | stretch => {word | 47 ∉ word}
  | one => {word | ∃ c, c ≠ 47 ∧ word = [c]}
  | char c => {[c.toNat]}

variable {flags : Flags}

theorem any_language (hflags : flags.dotAll = false) : (Single.any.language flags)∗ = language anything := by
  rw [Single.kstar_language]
  ext word
  change (∀ c ∈ word, Single.any.accepts flags c = true) ↔ 10 ∉ word
  simp only [Single.accepts, hflags, Bool.false_or, bne_iff_ne]
  exact ⟨fun h hmem => h 10 hmem rfl, fun h c hc heq => h (heq ▸ hc)⟩

theorem notOne_language (hflags : flags.ignoreCase = false) (d : Code) :
    (Single.notOne d).language flags = {word | ∃ c, c ≠ d ∧ word = [c]} := by
  ext word
  change (∃ c, (Single.notOne d).accepts flags c = true ∧ word = [c]) ↔ _
  simp only [Single.accepts, hflags, Bool.false_eq_true, if_false, bne_iff_ne]
  rfl

theorem one_language (hflags : flags.ignoreCase = false) (d : Code) :
    (Single.one d).language flags = {[d]} := by
  ext word
  change (∃ c, (Single.one d).accepts flags c = true ∧ word = [c]) ↔ word = [d]
  simp [Single.accepts, hflags]

theorem stretch_language (hflags : flags.ignoreCase = false) :
    language stretch = ((Single.notOne 47).language flags)∗ := by
  rw [Single.kstar_language]
  ext word
  change 47 ∉ word ↔ ∀ c ∈ word, (Single.notOne 47).accepts flags c = true
  simp only [Single.accepts, hflags, Bool.false_eq_true, if_false, bne_iff_ne]
  exact ⟨fun h c hc heq => h (heq ▸ hc), fun h hmem => h 47 hmem rfl⟩

theorem directories_language : language directories = language anything * ({[47]} * 1) + 1 := by
  ext word
  rw [Language.mem_add, Language.mem_one, mul_one]
  change (word = [] ∨ ∃ front, 10 ∉ front ∧ word = front ++ [47]) ↔ _
  rw [Language.mem_mul]
  constructor
  · intro h
    rcases h with rfl | ⟨front, hfront, rfl⟩
    · exact .inr rfl
    · exact .inl ⟨front, hfront, [47], rfl, rfl⟩
  · intro h
    rcases h with ⟨front, hfront, slash, rfl, rfl⟩ | rfl
    · exact .inr ⟨front, hfront, rfl⟩
    · exact .inl rfl

theorem recognizes (part : Part) (text : Subject) (hdot : flags.dotAll = false) (hcase : flags.ignoreCase = false) :
    Outcomes.Recognizes text (part.regex.outcomes text flags) part.language := by
  cases part with
  | directories =>
    rw [directories_language]
    have hany := (Outcomes.Recognizes.single text flags .any).star
    have hslash := Outcomes.Recognizes.single text flags (.one 47)
    rw [any_language hdot] at hany
    rw [one_language hcase] at hslash
    have hdirectory : Outcomes.Recognizes text (directory.outcomes text flags) (anything.language * ({[47]} * 1)) :=
      (hany.cat (hslash.cat (.empty text flags))).scope
    exact hdirectory.option
  | anything =>
    rw [← any_language hdot]
    exact (Outcomes.Recognizes.single text flags .any).star
  | stretch =>
    rw [stretch_language hcase]
    exact (Outcomes.Recognizes.single text flags (.notOne 47)).star
  | one =>
    have hone := Outcomes.Recognizes.single text flags (.notOne 47)
    rw [notOne_language hcase] at hone
    exact hone
  | char c =>
    have hchar := Outcomes.Recognizes.single text flags (.one c.toNat)
    rw [one_language hcase] at hchar
    exact hchar

theorem fault?_regex (part : Part) (hflags : flags.template = false) : part.regex.fault? flags = none := by
  have hinside : (flags.within .none .none).template = false := by
    rw [Flags.within_none]
    exact hflags
  cases part with
  | directories => simp [regex, directory, Regex.fault?, Regex.ofItems, hflags, hinside]
  | anything => simp [regex, Regex.fault?, hflags]
  | stretch => simp [regex, Regex.fault?, hflags]
  | one => rfl
  | char c => rfl

end Part

theorem symbols_source (glob : String) :
    symbols (source glob) = (parts glob.toList).flatMap fun part => symbols part.source := by
  have hall (ps : List Part) :
      symbols (String.join (ps.map Part.source)) = ps.flatMap fun part => symbols part.source := by
    induction ps with
    | nil => rfl
    | cons part ps ih => rw [List.map_cons, List.flatMap_cons, ← ih, String.join_cons, symbols_append part.notAlone]
  exact hall _

variable {b : Builder} {rest : Source}

theorem parts_unsigned (ps : List Part) (hrest : rest.Unsigned) :
    Source.Unsigned ((ps.flatMap fun part => symbols part.source) ++ rest) := by
  induction ps with
  | nil => exact hrest
  | cons part ps ih =>
    rw [List.flatMap_cons, List.append_assoc]
    exact part.unsigned ih.notAlone

/-- Parts are read one after the other. -/
theorem parts_leads (ps : List Part) (hb : b.level.verbose = false) (hrest : rest.Unsigned) :
    Leads b ((ps.flatMap fun part => symbols part.source) ++ rest) (b.append (ps.map Part.regex)) rest := by
  induction ps generalizing b with
  | nil => exact .refl b rest
  | cons part ps ih =>
    have hfirst := part.leads hb (parts_unsigned ps hrest)
    have hrest := ih (b := b.add part.regex) hb
    rw [List.flatMap_cons, List.append_assoc]
    exact hfirst.trans hrest

/-- The pattern for a glob has an expression for each part, and compiles. -/
theorem compile_source (glob : String) :
    ∃ p, Pattern.compile (source glob) {} = .ok p ∧
      p.regex = .ofItems ((parts glob.toList).map Part.regex) ∧ p.flags = settleMode {} := by
  have hend : Source.Unsigned [] := ⟨List.not_mem_nil, by simp, by simp⟩
  have hleads : Leads (.start {}) _ _ [] := parts_leads (parts glob.toList) rfl hend
  have hnotAlone := (parts_unsigned (parts glob.toList) hend).notAlone
  rw [List.append_nil, ← symbols_source] at hleads hnotAlone
  rw [Builder.append_eq] at hleads
  have hreads := Reads.of_leads hleads (ne_loneBackslash hnotAlone) rfl rfl rfl
  have hregex : Regex.ofItems ((((parts glob.toList).map Part.regex).reverse ++ []).reverse) =
      .ofItems ((parts glob.toList).map Part.regex) := by rw [List.append_nil, List.reverse_reverse]
  have hfault : (Regex.ofItems ((((parts glob.toList).map Part.regex).reverse ++ []).reverse)).fault?
      (settleMode {}) = none := by
    rw [hregex]
    refine fault?_ofItems fun r hr => ?_
    obtain ⟨part, -, rfl⟩ := List.mem_map.mp hr
    exact part.fault?_regex rfl
  exact ⟨_, compile_ok.mpr ⟨_, hreads, hfault, rfl⟩, hregex, rfl⟩

/-- Paths that are divided between two languages of characters that are numbered. -/
theorem map_mem_mul {L M : Language Code} {P Q : List Char → Prop} {path : List Char} (hpath : '\n' ∉ path)
    (hL : ∀ front, '\n' ∉ front → (front.map Char.toNat ∈ L ↔ P front))
    (hM : ∀ rest, '\n' ∉ rest → (rest.map Char.toNat ∈ M ↔ Q rest)) :
    path.map Char.toNat ∈ L * M ↔ ∃ front rest, path = front ++ rest ∧ P front ∧ Q rest := by
  rw [Language.mem_mul]
  constructor
  · intro h
    obtain ⟨first, hfirst, last, hlast, heq⟩ := h
    obtain ⟨front, rest, rfl, rfl, rfl⟩ := List.map_eq_append_iff.mp heq.symm
    rw [List.mem_append, not_or] at hpath
    exact ⟨front, rest, rfl, (hL front hpath.1).mp hfirst, (hM rest hpath.2).mp hlast⟩
  · intro h
    obtain ⟨front, rest, rfl, hfront, hrest⟩ := h
    rw [List.mem_append, not_or] at hpath
    exact ⟨_, (hL front hpath.1).mpr hfront, _, (hM rest hpath.2).mpr hrest, List.map_append.symm⟩

namespace Part

theorem mem_anything {front : List Char} (h : '\n' ∉ front) : front.map Char.toNat ∈ language anything := by
  change 10 ∉ front.map Char.toNat
  exact fun hmem => h ((List.mem_map_of_injective Text.toNat_injective (a := '\n')).mp hmem)

theorem mem_directories {front : List Char} (h : '\n' ∉ front) :
    front.map Char.toNat ∈ language directories ↔ front = [] ∨ front.getLast? = some '/' := by
  change front.map Char.toNat = [] ∨ (∃ word, 10 ∉ word ∧ front.map Char.toNat = word ++ [47]) ↔ _
  rw [List.map_eq_nil_iff]
  refine or_congr_right ?_
  constructor
  · intro hslash
    obtain ⟨word, -, heq⟩ := hslash
    obtain ⟨first, last, rfl, -, hlast⟩ := List.map_eq_append_iff.mp heq
    have hone : last = ['/'] := List.map_injective_iff.mpr Text.toNat_injective hlast
    rw [hone, List.getLast?_concat]
  · intro hslash
    have hfront := List.dropLast_append_getLast? '/' hslash
    have hbreak : '\n' ∉ front.dropLast := fun hmem => h (List.mem_of_mem_dropLast hmem)
    refine ⟨front.dropLast.map Char.toNat, mem_anything hbreak, ?_⟩
    conv_lhs => rw [← hfront, List.map_append]
    rfl

theorem mem_stretch (front : List Char) : front.map Char.toNat ∈ language stretch ↔ '/' ∉ front :=
  not_congr (List.mem_map_of_injective Text.toNat_injective (a := '/'))

theorem mem_one (front : List Char) : front.map Char.toNat ∈ language one ↔ ∃ c, c ≠ '/' ∧ front = [c] := by
  change (∃ c, c ≠ 47 ∧ front.map Char.toNat = [c]) ↔ _
  constructor
  · intro h
    obtain ⟨d, hne, heq⟩ := h
    obtain ⟨c, rfl, rfl⟩ := List.map_eq_singleton_iff.mp heq
    exact ⟨c, fun hslash => hne (hslash ▸ rfl), rfl⟩
  · intro h
    obtain ⟨c, hne, rfl⟩ := h
    exact ⟨c.toNat, fun hslash => hne (Text.toNat_injective hslash), rfl⟩

theorem mem_char (c : Char) (front : List Char) : front.map Char.toNat ∈ language (char c) ↔ front = [c] := by
  change front.map Char.toNat = [c].map Char.toNat ↔ _
  exact (List.map_injective_iff.mpr Text.toNat_injective).eq_iff

end Part

/-- A path is made of stretches for the parts of a glob just if the glob matches it. -/
theorem mem_prod_language (glob path : List Char) (hpath : '\n' ∉ path) :
    path.map Char.toNat ∈ ((parts glob).map Part.language).prod ↔ Matches glob path := by
  fun_induction parts glob generalizing path with
  | case1 => rw [List.map_nil, List.prod_nil, Language.mem_one, List.map_eq_nil_iff, Matches]
  | case2 rest ih =>
    rw [List.map_cons, List.prod_cons, map_mem_mul hpath (fun _ h => Part.mem_directories h) ih, Matches]
  | case3 rest hdirectories ih =>
    rw [List.map_cons, List.prod_cons, map_mem_mul hpath (fun _ h => iff_true_intro (Part.mem_anything h)) ih,
      Matches.eq_3 _ _ hdirectories]
    simp only [true_and]
  | case4 rest hdirectories hanything ih =>
    rw [List.map_cons, List.prod_cons, map_mem_mul hpath (fun front _ => Part.mem_stretch front) ih,
      Matches.eq_4 _ _ hdirectories hanything]
  | case5 rest ih =>
    rw [List.map_cons, List.prod_cons, map_mem_mul hpath (fun front _ => Part.mem_one front) ih, Matches]
    constructor
    · intro h
      obtain ⟨front, later, rfl, ⟨c, hc, rfl⟩, hlater⟩ := h
      exact ⟨c, later, rfl, hc, hlater⟩
    · intro h
      obtain ⟨c, later, rfl, hc, hlater⟩ := h
      exact ⟨[c], later, rfl, ⟨c, hc, rfl⟩, hlater⟩
  | case6 c rest hdirectories hanything hstretch hone ih =>
    rw [List.map_cons, List.prod_cons, map_mem_mul hpath (fun front _ => Part.mem_char c front) ih,
      Matches.eq_6 _ _ _ hdirectories hanything hstretch hone]
    constructor
    · intro h
      obtain ⟨front, later, rfl, rfl, hlater⟩ := h
      exact ⟨later, rfl, hlater⟩
    · intro h
      obtain ⟨later, rfl, hlater⟩ := h
      exact ⟨[c], later, rfl, rfl, hlater⟩

/-- The pattern of a glob goes over the stretches of its parts. -/
theorem source_recognizes {glob : String} {p : Pattern}
    (hregex : p.regex = .ofItems ((parts glob.toList).map Part.regex)) (hflags : p.flags = settleMode {})
    (text : Subject) :
    Outcomes.Recognizes text (p.regex.outcomes text p.flags) ((parts glob.toList).map Part.language).prod := by
  rw [hregex]
  refine .items ?_
  rw [List.forall₂_map_left_iff, List.forall₂_map_right_iff, List.forall₂_same]
  intro part _
  rw [hflags]
  exact part.recognizes text rfl rfl

/-- For every glob there is a pattern, and it matches all of a path of one line just if the glob matches the path. -/
theorem fullMatch_source (glob : String) :
    ∃ p, Pattern.compile (source glob) {} = .ok p ∧ ∀ path : String, '\n' ∉ path.toList →
      (p.fullMatch (codes path).toArray = true ↔ Matches glob.toList path.toList) := by
  obtain ⟨p, hp, hregex, hflags⟩ := compile_source glob
  refine ⟨p, hp, fun path hpath => ?_⟩
  have hrecognizes := source_recognizes hregex hflags (codes path).toArray
  calc p.fullMatch (codes path).toArray = true
      ↔ codes path ∈ ((parts glob.toList).map Part.language).prod := fullMatch_iff hrecognizes
    _ ↔ Matches glob.toList path.toList := mem_prod_language glob.toList path.toList hpath

theorem fullMatch_source_nested :
    ∃ p, Pattern.compile (source "**/?*.p[y") {} = .ok p ∧
      '\n' ∉ "a/b/cd.p[y".toList ∧ '\n' ∉ "a/b/.p[y".toList ∧
      p.fullMatch (codes "a/b/cd.p[y").toArray = true ∧ p.fullMatch (codes "a/b/.p[y").toArray = false ∧
      Matches "**/?*.p[y".toList "a/b/cd.p[y".toList ∧ ¬Matches "**/?*.p[y".toList "a/b/.p[y".toList := by
  have hruns : (Pattern.compile (source "**/?*.p[y") {}).toOption.any (fun p : Pattern =>
      decide (p.fullMatch (codes "a/b/cd.p[y").toArray = true ∧
        p.fullMatch (codes "a/b/.p[y").toArray = false)) = true := by decide +kernel
  obtain ⟨p, hp, hmatch⟩ := Results.exists_ok hruns
  obtain ⟨hlong, hshort⟩ := of_decide_eq_true hmatch
  obtain ⟨p', hp', hglob⟩ := fullMatch_source "**/?*.p[y"
  obtain rfl := Except.ok.inj (hp.symm.trans hp')
  have hline : '\n' ∉ "a/b/cd.p[y".toList := by decide
  have hline' : '\n' ∉ "a/b/.p[y".toList := by decide
  refine ⟨p, hp, hline, hline', hlong, hshort, (hglob _ hline).mp hlong, fun h => ?_⟩
  rw [(hglob _ hline').mpr h] at hshort
  cases hshort

end TemplateSwap.Glob
