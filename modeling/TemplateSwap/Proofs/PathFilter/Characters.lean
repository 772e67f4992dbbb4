import TemplateSwap.Proofs.PathFilter.Everything

namespace TemplateSwap

open TemplateSwap.Text (codes)

namespace Glob

section

variable {glob path : List Char} {c : Char}

theorem matches_own (h : '\n' ∉ glob) : Matches glob glob := (mem_prod_language glob glob h).mp (mem_own_parts glob)

theorem Matches.length_eq (h : Matches glob path) (hstar : '*' ∉ glob) : path.length = glob.length := by
  fun_induction parts glob generalizing path with
  | case1 =>
    obtain rfl : path = [] := h
    rfl
  | case2 | case3 | case4 => simp at hstar
  | case5 rest ih =>
    obtain ⟨c, later, rfl, -, hlater⟩ := h
    rw [List.length_cons, List.length_cons, ih hlater (fun hmem => hstar (List.mem_cons_of_mem _ hmem))]
  | case6 c rest hdirectories hanything hstretch hone ih =>
    rw [Matches.eq_6 _ _ _ hdirectories hanything hstretch hone] at h
    obtain ⟨later, rfl, hlater⟩ := h
    rw [List.length_cons, List.length_cons, ih hlater (fun hmem => hstar (List.mem_cons_of_mem _ hmem))]

/-- What is no wildcard and no slash is in all that a glob with it matches. -/
theorem Matches.mem (h : Matches glob path) (hc : c ∈ glob) (hplain : c ∉ ['*', '?', '/']) : c ∈ path := by
  simp only [List.mem_cons, List.not_mem_nil, or_false, not_or] at hplain
  obtain ⟨hstar, hone', hslash⟩ := hplain
  fun_induction parts glob generalizing path with
  | case1 => cases hc
  | case2 rest ih =>
    obtain ⟨front, later, rfl, -, hlater⟩ := h
    simp only [List.mem_cons, hstar, hslash, false_or] at hc
    exact List.mem_append_right front (ih hlater hc)
  | case3 rest hdirectories ih =>
    rw [Matches.eq_3 _ _ hdirectories] at h
    obtain ⟨front, later, rfl, hlater⟩ := h
    simp only [List.mem_cons, hstar, false_or] at hc
    exact List.mem_append_right front (ih hlater hc)
  | case4 rest hdirectories hanything ih =>
    rw [Matches.eq_4 _ _ hdirectories hanything] at h
    obtain ⟨front, later, rfl, -, hlater⟩ := h
    simp only [List.mem_cons, hstar, false_or] at hc
    exact List.mem_append_right front (ih hlater hc)
  | case5 rest ih =>
    obtain ⟨d, later, rfl, -, hlater⟩ := h
    simp only [List.mem_cons, hone', false_or] at hc
    exact List.mem_cons_of_mem d (ih hlater hc)
  | case6 d rest hdirectories hanything hstretch hone ih =>
    rw [Matches.eq_6 _ _ _ hdirectories hanything hstretch hone] at h
    obtain ⟨later, rfl, hlater⟩ := h
    rcases List.mem_cons.mp hc with rfl | hc
    · exact List.mem_cons_self
    · exact List.mem_cons_of_mem d (ih hlater hc)

/-- Only stars match nothing, with slashes behind them. -/
theorem matches_nil (h : Matches glob []) (hc : c ∈ glob) : c = '*' ∨ c = '/' := by
  fun_induction parts glob with
  | case1 => cases hc
  | case2 rest ih =>
    obtain ⟨front, later, hnil, -, hlater⟩ := h
    obtain ⟨rfl, rfl⟩ := List.append_eq_nil_iff.mp hnil.symm
    grind
  | case3 rest hdirectories ih =>
    rw [Matches.eq_3 _ _ hdirectories] at h
    obtain ⟨front, later, hnil, hlater⟩ := h
    obtain ⟨rfl, rfl⟩ := List.append_eq_nil_iff.mp hnil.symm
    grind
  | case4 rest hdirectories hanything ih =>
    rw [Matches.eq_4 _ _ hdirectories hanything] at h
    obtain ⟨front, later, hnil, -, hlater⟩ := h
    obtain ⟨rfl, rfl⟩ := List.append_eq_nil_iff.mp hnil.symm
    grind
  | case5 rest ih =>
    obtain ⟨d, later, hnil, -⟩ := h
    cases hnil
  | case6 d rest hdirectories hanything hstretch hone ih =>
    rw [Matches.eq_6 _ _ _ hdirectories hanything hstretch hone] at h
    obtain ⟨later, hnil, -⟩ := h
    cases hnil

theorem matches_stars (hstars : ∀ c ∈ glob, c = '*') : Matches glob [] := by
  fun_induction parts glob with
  | case1 => rfl
  | case2 | case5 => simp at hstars
  | case3 rest hdirectories ih =>
    rw [Matches.eq_3 _ _ hdirectories]
    exact ⟨[], [], rfl, ih fun c hc => hstars c (by simp [hc])⟩
  | case4 rest hdirectories hanything ih =>
    rw [Matches.eq_4 _ _ hdirectories hanything]
    exact ⟨[], [], rfl, List.not_mem_nil, ih fun c hc => hstars c (by simp [hc])⟩
  | case6 d rest hdirectories hanything hstretch hone ih => exact absurd (hstars d List.mem_cons_self) hstretch

theorem matches_slash (hlong : 2 ≤ glob.length) (hstars : ∀ c ∈ glob, c = '*') : Matches glob ['/'] := by
  obtain ⟨first, rest', rfl⟩ := List.exists_cons_of_length_pos (Nat.zero_lt_of_lt hlong)
  obtain ⟨second, rest, rfl⟩ := List.exists_cons_of_length_pos (Nat.lt_of_succ_lt_succ hlong)
  obtain rfl := hstars first (by simp)
  obtain rfl := hstars second (by simp)
  have hdirectories : ∀ later, rest ≠ '/' :: later := by
    rintro later rfl
    exact absurd (hstars '/' (by simp)) (by decide)
  have hrest := matches_stars fun c hc => hstars c (List.mem_cons_of_mem _ (List.mem_cons_of_mem _ hc))
  exact (Matches.eq_3 _ _ hdirectories).mpr ⟨['/'], [], rfl, hrest⟩

theorem matches_star : Matches ['*'] path ↔ '/' ∉ path := by
  have hstretch : Matches ['*'] path ↔ ∃ front rest, path = front ++ rest ∧ '/' ∉ front ∧ Matches [] rest :=
    Iff.rfl
  simp [hstretch, Matches]

/-- Unless they are all line breaks, several characters together do not match the same lines as on their own. -/
theorem exists_line_apart (hlong : 2 ≤ glob.length) (hc : c ∈ glob) (hline : c ≠ '\n') :
    ∃ path, '\n' ∉ path ∧ ¬((∃ c ∈ glob, Matches [c] path) ↔ Matches glob path) := by
  by_cases hbreak : '\n' ∈ glob
  · -- a character on its own matches itself, but the line break is in all that is matched together with it
    have hone : '\n' ∉ [c] := by simpa using hline.symm
    refine ⟨[c], hone, fun h => hone ?_⟩
    exact (h.mp ⟨c, hc, matches_own hone⟩).mem hbreak (by decide)
  by_cases hstar : '*' ∈ glob ∧ '/' ∉ glob
  · obtain ⟨hstar, hslash⟩ := hstar
    by_cases hstars : ∀ c ∈ glob, c = '*'
    · -- two stars match a slash together, a star on its own does not
      refine ⟨['/'], by decide, fun h => ?_⟩
      obtain ⟨d, hd, hmatches⟩ := h.mpr (matches_slash hlong hstars)
      obtain rfl := hstars d hd
      exact matches_star.mp hmatches List.mem_cons_self
    · -- a star matches nothing, what else there is does not
      push Not at hstars
      obtain ⟨d, hd, hplain⟩ := hstars
      refine ⟨[], List.not_mem_nil, fun h => ?_⟩
      have hnil := h.mp ⟨'*', hstar, matches_star.mpr List.not_mem_nil⟩
      rcases matches_nil hnil hd with rfl | rfl
      · exact hplain rfl
      · exact hslash hd
  · -- the whole matches itself: it is too long for what is no star, and has a slash if there is a star
    refine ⟨glob, hbreak, fun h => ?_⟩
    obtain ⟨d, hd, hmatches⟩ := h.mpr (matches_own hbreak)
    by_cases hwild : d = '*'
    · obtain rfl := hwild
      exact hstar ⟨hd, matches_star.mp hmatches⟩
    · have hlength := hmatches.length_eq (by simpa using Ne.symm hwild)
      rw [List.length_singleton] at hlength
      omega

end

/-- The characters of a glob, each a glob of its own. -/
def characters (glob : String) : List String := glob.toList.map Char.toString

variable {glob path : String}

theorem fullMatches_line (h : '\n' ∉ path.toList) : FullMatches glob path ↔ Matches glob.toList path.toList := by
  rw [fullMatches_iff, language]
  exact mem_prod_language glob.toList path.toList h

theorem fullMatches_own (glob : String) : FullMatches glob glob := fullMatches_iff.mpr (mem_own_parts glob.toList)

theorem fullMatches_break : FullMatches (Char.toString '\n') path ↔ path = "\n" := by
  have hparts : parts (Char.toString '\n').toList = [.char '\n'] := by decide
  have hlanguage : language (Char.toString '\n') = {codes "\n"} := by
    rw [language, hparts, List.map_singleton, List.prod_singleton]
    rfl
  rw [fullMatches_iff, hlanguage]
  exact (Function.LeftInverse.injective Text.ofCodes_codes).eq_iff

theorem characters_line (h : '\n' ∉ path.toList) :
    (∃ single ∈ characters glob, FullMatches single path) ↔ ∃ c ∈ glob.toList, Matches [c] path.toList := by
  simp [characters, fullMatches_line h, Char.toString]

/-- The characters of a glob match the same lines as the glob if it is one character, or one line break or more. -/
theorem characters_iff :
    (∀ path : String, '\n' ∉ path.toList →
      ((∃ single ∈ characters glob, FullMatches single path) ↔ FullMatches glob path)) ↔
    glob.length = 1 ∨ glob ≠ "" ∧ ∀ c ∈ glob.toList, c = '\n' := by
  constructor
  · intro h
    have hlines (path : List Char) (hpath : '\n' ∉ path) :
        (∃ c ∈ glob.toList, Matches [c] path) ↔ Matches glob.toList path := by
      have hpath' : '\n' ∉ (String.ofList path).toList := by rwa [String.toList_ofList]
      have hsame := h (String.ofList path) hpath'
      rwa [characters_line hpath', fullMatches_line hpath', String.toList_ofList] at hsame
    by_contra hneither
    push Not at hneither
    obtain ⟨hone, hbreaks⟩ := hneither
    by_cases hempty : glob = ""
    · obtain rfl := hempty
      obtain ⟨c, hc, -⟩ := (hlines [] List.not_mem_nil).mpr rfl
      cases hc
    · obtain ⟨c, hc, hline⟩ := hbreaks hempty
      have hlong : 2 ≤ glob.toList.length := by
        rw [String.length_toList]
        have hpositive : glob.length ≠ 0 := fun hzero => hempty (String.length_eq_zero_iff.mp hzero)
        omega
      obtain ⟨path, hpath, happart⟩ := exists_line_apart hlong hc hline
      exact happart (hlines path hpath)
  · intro h path hpath
    rw [characters_line hpath, fullMatches_line hpath]
    rcases h with hone | ⟨hempty, hbreaks⟩
    · obtain ⟨c, hc⟩ := List.length_eq_one_iff.mp ((String.length_toList).trans hone)
      simp [hc]
    · have hnone : ∀ glob : List Char, '\n' ∈ glob → ¬Matches glob path.toList := fun glob hmem hmatches =>
        hpath (hmatches.mem hmem (by decide))
      obtain ⟨c, hc⟩ := List.exists_mem_of_ne_nil _ (mt String.toList_eq_nil_iff.mp hempty)
      refine iff_of_false (fun hsingle => ?_) (hnone _ (hbreaks c hc ▸ hc))
      obtain ⟨d, hd, hmatches⟩ := hsingle
      exact hnone [d] (by rw [hbreaks d hd]; exact List.mem_cons_self) hmatches

end Glob

namespace PathFilter

open Glob (FullMatches characters)

/-- Two filters accept the same paths. -/
def Alike (f g : PathFilter) : Prop := ∀ path, f.accepts path = g.accepts path

theorem alike_iff {f g : PathFilter} : f.Alike g ↔ ∀ path, f.accepts path = true ↔ g.accepts path = true :=
  forall_congr' fun _ => Bool.eq_iff_iff

variable {glob path : String} {globs : List String}

theorem accepts_including :
    ({ included := globs } : PathFilter).accepts path = true ↔ ∃ glob ∈ globs, FullMatches glob path := by
  simp [accepts_eq_true]

theorem accepts_excluding : ({ excluded := globs } : PathFilter).accepts path = true ↔
    '\n' ∉ path.toList ∧ ¬∃ glob ∈ globs, FullMatches glob path := by
  simp [accepts_eq_true, Glob.fullMatches_stars]

/-- To include the characters of a glob, or all paths if there are none, is to include the glob just if it is one
character. -/
theorem included_alike_iff :
    Alike { included := if glob = "" then ["**"] else characters glob } { included := [glob] } ↔ glob.length = 1 := by
  rw [alike_iff]
  simp only [accepts_including, List.mem_singleton, exists_eq_left]
  split_ifs with hempty
  · obtain rfl := hempty
    refine iff_of_false (fun h => ?_) (by decide)
    have hline : '\n' ∉ "a".toList := by decide
    have hmatches := (h "a").mp ⟨"**", List.mem_singleton_self _, Glob.fullMatches_stars.mpr hline⟩
    rw [Glob.fullMatches_line hline] at hmatches
    cases hmatches
  · constructor
    · intro h
      rcases Glob.characters_iff.mp fun path _ => h path with hone | ⟨-, hbreaks⟩
      · exact hone
      · obtain ⟨single, hsingle, hmatches⟩ := (h glob).mpr (Glob.fullMatches_own glob)
        obtain ⟨c, hc, rfl⟩ := List.mem_map.mp hsingle
        rw [hbreaks c hc] at hmatches
        rw [Glob.fullMatches_break.mp hmatches]
        rfl
    · intro h path
      obtain ⟨c, hc⟩ := List.length_eq_one_iff.mp (String.length_toList.trans h)
      have hwhole : c.toString = glob := String.toList_injective (by rw [hc]; simp [Char.toString])
      have hsame : characters glob = [glob] := by rw [characters, hc, List.map_singleton, hwhole]
      simp [hsame]

/-- To exclude the characters of a glob is to exclude the glob just if it is one character, or as far as paths of one
line go, one line break or more. -/
theorem excluded_alike_iff :
    Alike { excluded := characters glob } { excluded := [glob] } ↔
      glob.length = 1 ∨ glob ≠ "" ∧ ∀ c ∈ glob.toList, c = '\n' := by
  rw [alike_iff, ← Glob.characters_iff]
  refine forall_congr' fun path => ?_
  simp only [accepts_excluding, List.mem_singleton, exists_eq_left]
  constructor
  · intro h hline
    simpa only [hline, not_false_eq_true, true_and, not_iff_not] using h
  · intro h
    refine and_congr_right fun hline => not_congr (h hline)

/-- To include all paths if there is no glob is to include the globs just if there is one. -/
theorem default_alike_iff :
    Alike { included := if globs = [] then ["**"] else globs } { included := globs } ↔ globs ≠ [] := by
  rw [alike_iff]
  simp only [accepts_including]
  split_ifs with hempty
  · obtain rfl := hempty
    refine iff_of_false (fun h => ?_) (by simp)
    have hany := (h "a").mp ⟨"**", List.mem_singleton_self _, Glob.fullMatches_stars.mpr (by decide)⟩
    simp at hany
  · simp [hempty]

end PathFilter

end TemplateSwap
