import TemplateSwap.Proofs.PathFilter.Filters
import TemplateSwap.Proofs.Tree.Walking

namespace TemplateSwap

open TemplateSwap.Text (Code codes codes_append mem_codes)

namespace Glob

open scoped Computability

variable {name rest path : String}

theorem fullMatches_stars : FullMatches "**" path ↔ '\n' ∉ path.toList := by
  have hparts : parts "**".toList = [.anything] := by decide
  have hlanguage : language "**" = Part.language .anything := by
    rw [language, hparts, List.map_singleton, List.prod_singleton]
  rw [fullMatches_iff, hlanguage]
  exact not_congr (mem_codes (c := '\n'))

/-- The parts of a glob, and those with a slash and more parts behind it. The slash is a part of its own, unless it
belongs to two stars in front of it. -/
inductive Slashed (below : List Part) : List Part → List Part → Prop
  | alone (ps : List Part) : Slashed below ps (ps ++ .char '/' :: below)
  | taken (ps : List Part) : Slashed below (ps ++ [.anything]) (ps ++ .directories :: below)

theorem Slashed.cons {below ps qs : List Part} (part : Part) (h : Slashed below ps qs) :
    Slashed below (part :: ps) (part :: qs) := by
  cases h with
  | alone ps => exact .alone (part :: ps)
  | taken ps => exact .taken (part :: ps)

theorem parts_slash (glob below : List Char) :
    Slashed (parts below) (parts glob) (parts (glob ++ '/' :: below)) := by
  fun_induction parts glob with
  | case1 => exact .alone []
  | case2 glob ih => exact ih.cons .directories
  | case3 glob hdirectories ih =>
    cases glob with
    -- Only here are there two stars right in front of the slash, which are read together with it.
    | nil => exact .taken []
    | cons c glob =>
      have hc : c ≠ '/' := fun h => hdirectories glob (by rw [h])
      have hfirst : parts ('*' :: '*' :: c :: (glob ++ '/' :: below)) =
          .anything :: parts (c :: (glob ++ '/' :: below)) := parts.eq_3 _ fun _ h => hc (List.cons.inj h).1
      exact hfirst ▸ ih.cons .anything
  | case4 glob hdirectories hanything ih =>
    have hfirst : parts ('*' :: (glob ++ '/' :: below)) = .stretch :: parts (glob ++ '/' :: below) := by
      cases glob with
      | nil => rfl
      | cons c glob =>
        have hc : c ≠ '*' := fun h => hanything glob (by rw [h])
        exact parts.eq_4 _ (fun _ h => hc (List.cons.inj h).1) fun _ h => hc (List.cons.inj h).1
    exact hfirst ▸ ih.cons .stretch
  | case5 glob ih => exact ih.cons .one
  | case6 c glob hdirectories hanything hstretch hone ih =>
    have hfirst : parts (c :: (glob ++ '/' :: below)) = .char c :: parts (glob ++ '/' :: below) :=
      parts.eq_6 _ _ (fun _ h _ => hstretch h) (fun _ h _ => hstretch h) hstretch hone
    exact hfirst ▸ ih.cons (.char c)

/-- What matches the parts on both sides of a slash matches all of them. -/
theorem Slashed.mem_of_mem {below ps qs : List Part} (h : Slashed below ps qs) {word : List Code}
    (hword : word ∈ (ps.map Part.language).prod * ({[47]} * (below.map Part.language).prod)) :
    word ∈ (qs.map Part.language).prod := by
  cases h with
  | alone ps =>
    rw [List.map_append, List.prod_append, List.map_cons, List.prod_cons]
    exact hword
  | taken ps =>
    have hdirectories : Part.language .anything * {[47]} ≤ Part.language .directories := by
      rw [Part.directories_language, mul_one]
      exact le_self_add
    rw [List.map_append, List.prod_append, List.map_singleton, List.prod_singleton, mul_assoc,
      ← mul_assoc (Part.language .anything)] at hword
    rw [List.map_append, List.prod_append, List.map_cons, List.prod_cons]
    exact mul_le_mul_right (mul_le_mul_left hdirectories _) _ hword

theorem Slashed.eq_append {below ps qs : List Part} (h : Slashed below ps qs) (hps : .anything ∉ ps) :
    qs = ps ++ .char '/' :: below := by
  cases h with
  | alone ps => rfl
  | taken ps => exact absurd (List.mem_append_right ps List.mem_cons_self) hps

/-- Every glob matches its own spelling, as do its parts. -/
theorem mem_own_parts (glob : List Char) : glob.map Char.toNat ∈ ((parts glob).map Part.language).prod := by
  fun_induction parts glob with
  | case1 => exact Language.nil_mem_one
  | case2 rest ih =>
    rw [List.map_cons, List.prod_cons]
    exact Language.append_mem_mul (a := [42, 42, 47]) (.inr ⟨[42, 42], by simp, rfl⟩) ih
  | case3 rest hdirectories ih =>
    rw [List.map_cons, List.prod_cons]
    have hline : '\n' ∉ ['*', '*'] := by decide
    exact Language.append_mem_mul (Part.mem_anything hline) ih
  | case4 rest hdirectories hanything ih =>
    rw [List.map_cons, List.prod_cons]
    exact Language.append_mem_mul ((Part.mem_stretch ['*']).mpr (by decide)) ih
  | case5 rest ih =>
    rw [List.map_cons, List.prod_cons]
    exact Language.append_mem_mul ((Part.mem_one ['?']).mpr ⟨'?', by decide, rfl⟩) ih
  | case6 c rest hdirectories hanything hstretch hone ih =>
    rw [List.map_cons, List.prod_cons]
    exact Language.append_mem_mul ((Part.mem_char c [c]).mpr rfl) ih

/-- The parts of a directory, and those of the glob for all that is below it. -/
theorem slashed_below (name : String) :
    Slashed [.anything] (parts name.toList) (parts (name ++ "/**").toList) := by
  have hchars : (name ++ "/**").toList = name.toList ++ '/' :: ['*', '*'] := by simp
  rw [hchars]
  exact parts_slash name.toList ['*', '*']

theorem codes_below (name rest : String) : codes (name ++ "/" ++ rest) = codes name ++ 47 :: codes rest := by
  rw [codes_append, codes_append, List.append_assoc]
  rfl

/-- A directory matches its own spelling, and two stars what goes on behind it in the same line. -/
theorem fullMatches_below (name : String) (hrest : '\n' ∉ rest.toList) :
    FullMatches (name ++ "/**") (name ++ "/" ++ rest) := by
  rw [fullMatches_iff, language, codes_below]
  refine (slashed_below name).mem_of_mem (Language.append_mem_mul (mem_own_parts name.toList) ?_)
  rw [List.map_singleton, List.prod_singleton]
  exact Language.append_mem_mul (a := [47]) rfl (Part.mem_anything hrest)

/-- No part of such a name goes over a slash. -/
theorem slash_notMem {glob : List Char} (hslash : '/' ∉ glob) (hstars : ¬['*', '*'] <:+: glob) :
    ∀ part ∈ parts glob, ∀ word ∈ part.language, 47 ∉ word := by
  have hrest {c : Char} {rest : List Char} (hslash : '/' ∉ c :: rest) (hstars : ¬['*', '*'] <:+: c :: rest) :
      '/' ∉ rest ∧ ¬['*', '*'] <:+: rest :=
    ⟨fun h => hslash (List.mem_cons_of_mem c h), fun h => hstars (h.trans (List.suffix_cons c rest).isInfix)⟩
  fun_induction parts glob with
  | case1 => exact List.forall_mem_nil _
  | case2 rest ih => exact absurd ⟨[], '/' :: rest, rfl⟩ hstars
  | case3 rest hdirectories ih => exact absurd ⟨[], rest, rfl⟩ hstars
  | case4 rest hdirectories hanything ih =>
    obtain ⟨hslash, hstars⟩ := hrest hslash hstars
    exact List.forall_mem_cons.mpr ⟨fun word hword => hword, ih hslash hstars⟩
  | case5 rest ih =>
    obtain ⟨hslash, hstars⟩ := hrest hslash hstars
    refine List.forall_mem_cons.mpr ⟨fun word hword => ?_, ih hslash hstars⟩
    obtain ⟨c, hc, rfl⟩ := hword
    simpa using hc.symm
  | case6 c rest hdirectories hanything hstretch hone ih =>
    refine List.forall_mem_cons.mpr ⟨fun word hword => ?_, ?_⟩
    · have hc : c ≠ '/' := fun h => hslash (h ▸ List.mem_cons_self)
      obtain rfl : word = [c.toNat] := hword
      exact fun hmem => hc (Text.toNat_injective (List.mem_singleton.mp hmem).symm)
    · obtain ⟨hslash, hstars⟩ := hrest hslash hstars
      exact ih hslash hstars

theorem notMem_prod {Ls : List (Language Code)} {c : Code} (h : ∀ L ∈ Ls, ∀ word ∈ L, c ∉ word) :
    ∀ word ∈ Ls.prod, c ∉ word := by
  induction Ls with
  | nil =>
    intro word hword
    obtain rfl := (Language.mem_one word).mp hword
    exact List.not_mem_nil
  | cons L Ls ih =>
    rw [List.forall_mem_cons] at h
    intro word hword
    rw [List.prod_cons] at hword
    obtain ⟨front, hfront, rest, hrest, rfl⟩ := Language.mem_mul.mp hword
    rw [List.mem_append, not_or]
    exact ⟨h.1 front hfront, ih h.2 rest hrest⟩

/-- What stands in front of the first separator is determined. -/
theorem append_cons_cancel {α : Type} [DecidableEq α] {a b x y : List α} {c : α} (ha : c ∉ a) (hb : c ∉ b)
    (h : a ++ c :: x = b ++ c :: y) : a = b ∧ x = y := by
  have hsplit := congrArg (List.splitOn c) h
  rw [List.splitOn_append_cons_self, List.splitOn_append_cons_self, List.splitOn_eq_singleton ha,
    List.splitOn_eq_singleton hb] at hsplit
  obtain rfl : a = b := (List.cons.inj hsplit).1
  exact ⟨rfl, (List.cons.inj (List.append_cancel_left h)).2⟩

/-- Behind such a name two stars go just as far as the line. -/
theorem fullMatches_below_iff (hslash : '/' ∉ name.toList) (hstars : ¬['*', '*'] <:+: name.toList) :
    FullMatches (name ++ "/**") (name ++ "/" ++ rest) ↔ '\n' ∉ rest.toList := by
  refine ⟨fun h => ?_, fullMatches_below name⟩
  have hfree := slash_notMem hslash hstars
  have hline : '\n' ∉ ['/'] := by decide
  have hanything : .anything ∉ parts name.toList :=
    fun h => hfree _ h [47] (Part.mem_anything hline) List.mem_cons_self
  rw [fullMatches_iff, language, codes_below, (slashed_below name).eq_append hanything, List.map_append,
    List.prod_append, List.map_cons, List.prod_cons, List.map_singleton, List.prod_singleton] at h
  obtain ⟨front, hfront, back, hback, heq⟩ := Language.mem_mul.mp h
  obtain ⟨slash, hone, last, hlast, rfl⟩ := Language.mem_mul.mp hback
  obtain rfl : slash = [47] := hone
  have hfront' : 47 ∉ front := by
    refine notMem_prod (fun L hL => ?_) front hfront
    obtain ⟨part, hpart, rfl⟩ := List.mem_map.mp hL
    exact hfree part hpart
  have hname : 47 ∉ codes name := fun h => hslash (mem_codes.mp h)
  obtain ⟨-, rfl⟩ := append_cons_cancel hfront' hname heq
  exact fun h => hlast (mem_codes.mpr h)

end Glob

namespace PathFilter

open Glob (FullMatches)

theorem everything_iff {path : String} : ({} : PathFilter).accepts path = true ↔ '\n' ∉ path.toList := by
  rw [accepts_eq_true]
  simp [Glob.fullMatches_stars]

def broken : Tree :=
  .directory [("w", .directory [("d", .directory [("c", .file [0x78])]), ("a\nb", .file [0x78])])]

theorem broken_walk : (broken.walk {} (Path.normal "w")).files = [["a\nb"], ["d", "c"]] := by
  have hroot : broken.resolve (Path.normal "w") =
      .ok (["w"], .directory [("d", .directory [("c", .file [0x78])]), ("a\nb", .file [0x78])]) := by
    rw [Path.normal_name (by decide)]
    exact Tree.resolve_name (by decide) rfl fun _ => Tree.noConfusion
  have hsorted : Tree.sorted [("d", Tree.Visit.enter ⟨[["d", "c"]], none⟩), ("a\nb", .take)] =
      [("a\nb", .take), ("d", .enter ⟨[["d", "c"]], none⟩)] :=
    Tree.sorted_eq (by decide) (by decide) fun item => by simp [or_comm]
  rw [Tree.sorted] at hsorted
  simp [Tree.walk, hroot, Tree.walkNode, Tree.walkEntries, Tree.gather, Walk.append, Walk.concat, hsorted]

/-- The filter for everything passes over the files with a line break in their path and over no others, whatever the
tree and the root of the walk are. Likewise the glob for all that is below a directory matches what goes on behind its
name in the same line, and unless the name has two stars in a row it matches nothing else below it. -/
theorem everything_accepts (t : Tree) (env : Environment) (root : String) :
    (t.walk env root).files.filter (fun names => ({} : PathFilter).accepts (Path.text names)) =
        (t.walk env root).files.filter (fun names => ∀ name ∈ names, '\n' ∉ name.toList) ∧
    ((t.walk env root).files.filter (fun names => ({} : PathFilter).accepts (Path.text names)) =
        (t.walk env root).files ↔
      ∀ names ∈ (t.walk env root).files, ∀ name ∈ names, '\n' ∉ name.toList) ∧
    (∀ name rest : String, '\n' ∉ rest.toList → FullMatches (name ++ "/**") (name ++ "/" ++ rest)) ∧
    ∀ name rest : String, '/' ∉ name.toList → ¬['*', '*'] <:+: name.toList →
      (FullMatches (name ++ "/**") (name ++ "/" ++ rest) ↔ '\n' ∉ rest.toList) := by
  have hline (names : List String) : ({} : PathFilter).accepts (Path.text names) =
      decide (∀ name ∈ names, '\n' ∉ name.toList) := by
    rw [Bool.eq_iff_iff, everything_iff, decide_eq_true_iff, Path.mem_text (by decide)]
    push Not
    rfl
  refine ⟨?_, ?_, ?_, ?_⟩
  · simp only [hline]
  · simp only [hline, List.filter_eq_self, decide_eq_true_iff]
  · exact fun name rest => Glob.fullMatches_below name
  · exact fun name rest => Glob.fullMatches_below_iff

theorem everything_accepts_broken :
    (broken.walk {} (Path.normal "w")).files.filter (fun names => ({} : PathFilter).accepts (Path.text names)) =
        [["d", "c"]] ∧
      '\n' ∉ "c/d".toList ∧ FullMatches ("**" ++ "/**") ("**" ++ "/" ++ "c/d") ∧
      '/' ∉ "d".toList ∧ ¬['*', '*'] <:+: "d".toList ∧ ¬FullMatches ("d" ++ "/**") ("d" ++ "/" ++ "a\nb") := by
  obtain ⟨haccepts, -, hbelow, hexact⟩ := everything_accepts broken {} (Path.normal "w")
  have hslash : '/' ∉ "d".toList := by decide
  have hstars : ¬['*', '*'] <:+: "d".toList := by decide
  refine ⟨?_, by decide, hbelow "**" "c/d" (by decide), hslash, hstars, ?_⟩
  · rw [haccepts, broken_walk]
    decide
  · rw [hexact "d" "a\nb" hslash hstars]
    decide

/-- Not all files are accepted, and not all that is below a directory is matched. -/
theorem everything_refuses :
    (¬∀ (t : Tree) (root : String),
      (t.walk {} root).files.filter (fun names => ({} : PathFilter).accepts (Path.text names)) =
        (t.walk {} root).files) ∧
    ¬∀ name rest : String, Path.IsName name → Path.IsName rest →
      FullMatches (name ++ "/**") (name ++ "/" ++ rest) := by
  constructor
  · intro hall
    have hfiles := hall broken (Path.normal "w")
    rw [broken_walk, List.filter_eq_self] at hfiles
    exact absurd (everything_iff.mp (hfiles ["a\nb"] (by decide))) (by decide)
  · intro hall
    have hmatches := hall "d" "a\nb" (by decide) (by decide)
    exact absurd ((Glob.fullMatches_below_iff (by decide) (by decide)).mp hmatches) (by decide)

end PathFilter

end TemplateSwap
