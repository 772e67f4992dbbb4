import TemplateSwap.Proofs.PathFilter.Globs

namespace TemplateSwap

open TemplateSwap.Text (Code codes)
open TemplateSwap.Pattern
open TemplateSwap.Pattern.Reader

namespace Glob

/-- The paths that the pattern of a glob matches, as words. -/
def language (glob : String) : Language Code := ((parts glob.toList).map Part.language).prod

/-- The pattern of a glob on its own matches all of a path. -/
def FullMatches (glob path : String) : Prop :=
  ∃ p, Pattern.compile (source glob) {} = .ok p ∧ p.fullMatch (codes path).toArray = true

/-- The expression for a glob among others. -/
def regex (glob : String) : Regex := .scope .none .none (.ofItems ((parts glob.toList).map Part.regex))

/-- The symbols for a glob among others. -/
def enclosed (glob : String) : Source :=
  .plain 40 :: .plain 63 :: .plain 58 :: (symbols (source glob) ++ [.plain 41])

variable {glob path : String} {globs : List String} {b : Builder} {rest : Source}

theorem fullMatches_iff : FullMatches glob path ↔ codes path ∈ language glob := by
  obtain ⟨p, hp, hregex, hflags⟩ := compile_source glob
  have hmatch := fullMatch_iff (source_recognizes hregex hflags (codes path).toArray)
  constructor
  · intro h
    obtain ⟨q, hq, hfull⟩ := h
    obtain rfl := Except.ok.inj (hp.symm.trans hq)
    exact hmatch.mp hfull
  · intro h
    exact ⟨p, hp, hmatch.mpr h⟩

theorem source_notAlone (glob : String) : .loneBackslash ∉ symbols (source glob) := by
  rw [symbols_source, List.mem_flatMap]
  intro h
  obtain ⟨part, -, hpart⟩ := h
  exact part.notAlone hpart

theorem enclosed_notAlone (glob : String) : .loneBackslash ∉ enclosed glob := by
  simp [enclosed, source_notAlone glob]

theorem symbols_enclosed (glob : String) : symbols ("(?:" ++ source glob ++ ")") = enclosed glob := by
  have hopen : symbols "(?:" = [.plain 40, .plain 63, .plain 58] := by decide
  have hclose : symbols ")" = [.plain 41] := by decide
  have hfront : symbols ("(?:" ++ source glob) = symbols "(?:" ++ symbols (source glob) :=
    symbols_append (by decide)
  have hnotAlone : .loneBackslash ∉ symbols ("(?:" ++ source glob) := by
    rw [hfront, hopen]
    simp [source_notAlone glob]
  rw [symbols_append hnotAlone, hfront, hopen, hclose]
  rfl

/-- A glob, and each further one behind a bar. -/
theorem symbols_anySource (glob : String) (globs : List String) :
    symbols (anySource (glob :: globs)) = enclosed glob ++ globs.flatMap fun next => .plain 124 :: enclosed next := by
  rw [anySource, if_neg (List.cons_ne_nil _ _)]
  induction globs generalizing glob with
  | nil => simpa using symbols_enclosed glob
  | cons next globs ih =>
    have hbar : symbols "|" = [.plain 124] := by decide
    have hfront : symbols ("(?:" ++ source glob ++ ")" ++ "|") = enclosed glob ++ [.plain 124] := by
      rw [symbols_append (by rw [symbols_enclosed]; exact enclosed_notAlone glob), symbols_enclosed, hbar]
    have hnotAlone : .loneBackslash ∉ symbols ("(?:" ++ source glob ++ ")" ++ "|") := by
      rw [hfront]
      simp [enclosed_notAlone glob]
    have hrest := ih next
    rw [List.map_cons] at hrest
    rw [List.map_cons, List.map_cons, String.intercalate_cons_cons, symbols_append hnotAlone, hrest, hfront]
    simp

theorem enclosed_leads (hb : b.level.verbose = false) (hrest : .loneBackslash ∉ rest) (glob : String) :
    Leads b (enclosed glob ++ rest) (b.add (regex glob)) rest := by
  have hclosing : Source.Unsigned (.plain 41 :: rest) := ⟨by simpa using hrest, by simp, by simp⟩
  have hinner (opened : Nat) :=
    parts_leads (b := b.push (.scope .none .none) opened b.level.verbose) (parts glob.toList) hb hclosing
  have hleads := scoped_leads hinner (ne_loneBackslash hrest)
  rw [← symbols_source] at hleads
  rw [enclosed, List.cons_append, List.cons_append, List.cons_append, List.append_assoc]
  exact hleads

/-- Each bar begins the branch of another glob. -/
theorem alternatives_leads (globs : List String) (hframes : b.frames = []) (hb : b.level.verbose = false) :
    Leads b (globs.flatMap fun next => .plain 124 :: enclosed next)
      { b with level := (globs.map regex).foldl Level.alternative b.level } [] := by
  induction globs generalizing b with
  | nil => exact .refl b []
  | cons next globs ih =>
    have hnotAlone : .loneBackslash ∉ globs.flatMap fun next => .plain 124 :: enclosed next := by
      simp [enclosed_notAlone]
    have hbar := bar_leads hframes (s := enclosed next ++ globs.flatMap fun next => .plain 124 :: enclosed next)
      (by simp [enclosed])
    have hnext := enclosed_leads (b := { b with level := b.level.startBranch }) hb hnotAlone next
    rw [List.flatMap_cons, List.cons_append]
    exact (hbar.trans hnext).trans (ih hframes hb)

theorem alternatives_foldl (rs : List Regex) (l : Level) :
    (rs.foldl Level.alternative l).alternatives = l.alternatives ++ rs.map fun r => .ofItems [r] := by
  induction rs generalizing l with
  | nil => simp
  | cons r rs ih => simp [ih, Level.alternatives_alternative]

theorem fault?_glob {flags : Flags} (hflags : flags.template = false) (glob : String) :
    (Regex.ofItems [regex glob]).fault? flags = none := by
  refine fault?_ofItems (List.forall_mem_singleton.mpr ?_)
  have hinside : (flags.within .none .none).template = false := by
    rw [Flags.within_none]
    exact hflags
  refine fault?_ofItems fun r hr => ?_
  obtain ⟨part, -, rfl⟩ := List.mem_map.mp hr
  exact part.fault?_regex hinside

/-- The pattern for several globs has a branch for each of them, and compiles. -/
theorem compile_anySource (glob : String) (globs : List String) :
    ∃ p, Pattern.compile (anySource (glob :: globs)) {} = .ok p ∧ p.flags = settleMode {} ∧
      p.regex = .ofBranches (.ofItems [regex glob]) (globs.map fun next => .ofItems [regex next]) := by
  have hnotAlone : .loneBackslash ∉ globs.flatMap fun next => .plain 124 :: enclosed next := by
    simp [enclosed_notAlone]
  have hfirst := enclosed_leads (b := .start {}) rfl hnotAlone glob
  have hleads := hfirst.trans (alternatives_leads globs rfl rfl)
  rw [← symbols_anySource] at hleads
  have hsymbols : symbols (anySource (glob :: globs)) ≠ [.loneBackslash] := by
    simp [symbols_anySource, enclosed]
  have hreads := Reads.of_leads hleads hsymbols rfl rfl rfl
  have hregex : ((globs.map regex).foldl Level.alternative ((Builder.start {}).add (regex glob)).level).regex =
      .ofBranches (.ofItems [regex glob]) (globs.map fun next => .ofItems [regex next]) := by
    refine Level.regex_of_alternatives ?_
    rw [alternatives_foldl, List.map_map]
    rfl
  refine ⟨_, compile_ok.mpr ⟨_, hreads, ?_, rfl⟩, rfl, hregex⟩
  rw [hregex]
  refine fault?_ofBranches fun r hr => ?_
  rw [← List.map_cons (f := fun next => Regex.ofItems [regex next])] at hr
  obtain ⟨next, -, rfl⟩ := List.mem_map.mp hr
  exact fault?_glob rfl next

theorem regex_recognizes (glob : String) (text : Subject) :
    Outcomes.Recognizes text ((Regex.ofItems [regex glob]).outcomes text (settleMode {})) (language glob) := by
  have hparts : Outcomes.Recognizes text
      ((Regex.ofItems ((parts glob.toList).map Part.regex)).outcomes text (settleMode {})) (language glob) := by
    refine .items ?_
    rw [List.forall₂_map_left_iff, List.forall₂_map_right_iff, List.forall₂_same]
    exact fun part _ => part.recognizes text rfl rfl
  have hone := Outcomes.Recognizes.items (List.forall₂_cons.mpr ⟨hparts.scope, .nil⟩)
  rwa [List.prod_singleton] at hone

/-- Without globs there is nothing that matches. -/
theorem fullMatch_anySource_nil :
    ∃ p, Pattern.compile (anySource []) {} = .ok p ∧ ∀ text, p.fullMatch text = false := by
  refine ⟨⟨"(?!)", .ofItems [.ahead true .empty], settleMode {}, []⟩, by decide +kernel, fun text => ?_⟩
  simp [fullMatch, Regex.ofItems, Regex.run]

/-- The pattern for several globs matches all of a path just if one of them does on its own. -/
theorem fullMatch_anySource (globs : List String) :
    ∃ p, Pattern.compile (anySource globs) {} = .ok p ∧ ∀ path : String,
      (p.fullMatch (codes path).toArray = true ↔ ∃ glob ∈ globs, FullMatches glob path) := by
  cases globs with
  | nil =>
    obtain ⟨p, hp, hnever⟩ := fullMatch_anySource_nil
    exact ⟨p, hp, fun path => by simp [hnever]⟩
  | cons glob globs =>
    obtain ⟨p, hp, hflags, hregex⟩ := compile_anySource glob globs
    refine ⟨p, hp, fun path => ?_⟩
    have hrecognizes : Outcomes.Recognizes (codes path).toArray
        (p.regex.outcomes (codes path).toArray p.flags) (language glob + (globs.map language).sum) := by
      rw [hregex, hflags]
      refine .branches (regex_recognizes glob _) ?_
      rw [List.forall₂_map_left_iff, List.forall₂_map_right_iff, List.forall₂_same]
      exact fun next _ => regex_recognizes next _
    calc p.fullMatch (codes path).toArray = true
        ↔ codes path ∈ language glob + (globs.map language).sum := fullMatch_iff hrecognizes
      _ ↔ codes path ∈ ((glob :: globs).map language).sum := by rw [List.map_cons, List.sum_cons]
      _ ↔ ∃ next ∈ glob :: globs, FullMatches next path := by
        rw [mem_sum]
        simp [fullMatches_iff]

theorem sourceMatches_anySource :
    sourceMatches (anySource globs) path = true ↔ ∃ glob ∈ globs, FullMatches glob path := by
  obtain ⟨p, hp, hmatch⟩ := fullMatch_anySource globs
  rw [sourceMatches, hp]
  exact hmatch path

end Glob

namespace PathFilter

open Glob (FullMatches)

variable {f g : PathFilter} {path : String}

theorem excluded_none :
    (f.excluded.isEmpty || !Glob.sourceMatches (Glob.anySource f.excluded) path) = true ↔
      ∀ glob ∈ f.excluded, ¬FullMatches glob path := by
  rw [Bool.or_eq_true, List.isEmpty_iff, Bool.not_eq_true', Bool.eq_false_iff, ne_eq, Glob.sourceMatches_anySource]
  push Not
  refine or_iff_right_of_imp fun hnone glob hglob => ?_
  rw [hnone] at hglob
  cases hglob

theorem accepts_eq_true : f.accepts path = true ↔
    (∃ glob ∈ f.included, FullMatches glob path) ∧ ∀ glob ∈ f.excluded, ¬FullMatches glob path := by
  rw [accepts, Bool.and_eq_true, Glob.sourceMatches_anySource, excluded_none]

theorem accepts_more (hincluded : f.included ⊆ g.included) (hexcluded : g.excluded ⊆ f.excluded)
    (h : f.accepts path = true) : g.accepts path = true := by
  obtain ⟨⟨glob, hglob, hmatches⟩, hnone⟩ := accepts_eq_true.mp h
  exact accepts_eq_true.mpr ⟨⟨glob, hincluded hglob, hmatches⟩, fun other hother => hnone other (hexcluded hother)⟩

/-- All globs have patterns, alone and together. A filter accepts a path just if a glob to include matches all of it on
its own and no glob to exclude does. So it does not matter in which order the globs come and how often, more globs to
include do not accept fewer paths, and more globs to exclude do not accept more. -/
theorem accepts_globs (f : PathFilter) :
    (∀ glob, ∃ p, Pattern.compile (Glob.source glob) {} = .ok p) ∧
    (∀ globs, ∃ p, Pattern.compile (Glob.anySource globs) {} = .ok p) ∧
    (∀ path, f.accepts path = true ↔
      (∃ glob ∈ f.included, FullMatches glob path) ∧ ∀ glob ∈ f.excluded, ¬FullMatches glob path) ∧
    (∀ g : PathFilter, (∀ glob, glob ∈ f.included ↔ glob ∈ g.included) →
      (∀ glob, glob ∈ f.excluded ↔ glob ∈ g.excluded) → ∀ path, f.accepts path = g.accepts path) ∧
    ∀ g : PathFilter, f.included ⊆ g.included → g.excluded ⊆ f.excluded →
      ∀ path, f.accepts path = true → g.accepts path = true := by
  refine ⟨fun glob => ?_, fun globs => ?_, fun path => accepts_eq_true, ?_, ?_⟩
  · obtain ⟨p, hp, -⟩ := Glob.compile_source glob
    exact ⟨p, hp⟩
  · obtain ⟨p, hp, -⟩ := Glob.fullMatch_anySource globs
    exact ⟨p, hp⟩
  · intro g hincluded hexcluded path
    have hmore : f.accepts path = true → g.accepts path = true :=
      accepts_more (fun glob => (hincluded glob).mp) fun glob => (hexcluded glob).mpr
    have hless : g.accepts path = true → f.accepts path = true :=
      accepts_more (fun glob => (hincluded glob).mpr) fun glob => (hexcluded glob).mp
    exact Bool.eq_iff_iff.mpr ⟨hmore, hless⟩
  · intro g hincluded hexcluded path
    exact accepts_more hincluded hexcluded

theorem accepts_globs_shuffled :
    ∃ f g wide : PathFilter,
      f = { included := ["*.md", "a/**"], excluded := ["a/b*", "?"] } ∧
      g = { included := ["a/**", "*.md", "a/**"], excluded := ["?", "a/b*", "?"] } ∧
      wide = { included := ["a/**", "c", "*.md"], excluded := ["?"] } ∧
      f.accepts "a/c" = true ∧ f.accepts "a/b" = false ∧
      (∃ glob ∈ f.included, FullMatches glob "a/c") ∧ (∃ glob ∈ f.excluded, FullMatches glob "a/b") ∧
      (∀ path, f.accepts path = g.accepts path) ∧ wide.accepts "a/c" = true := by
  let f : PathFilter := { included := ["*.md", "a/**"], excluded := ["a/b*", "?"] }
  obtain ⟨-, -, hglobs, hsame, hmore⟩ := accepts_globs f
  have hyes : f.accepts "a/c" = true := by decide +kernel
  have hno : f.accepts "a/b" = false := by decide +kernel
  have hincluded : ∃ glob ∈ f.included, FullMatches glob "a/b" := by
    refine ⟨"a/**", by decide, ?_⟩
    have halone : Glob.sourceMatches (Glob.anySource ["a/**"]) "a/b" = true := by decide +kernel
    obtain ⟨glob, hglob, hmatches⟩ := Glob.sourceMatches_anySource.mp halone
    exact List.mem_singleton.mp hglob ▸ hmatches
  have hexcluded : ∃ glob ∈ f.excluded, FullMatches glob "a/b" := by
    by_contra hnone
    push Not at hnone
    exact absurd ((hglobs "a/b").mpr ⟨hincluded, hnone⟩) (by simp [hno])
  refine ⟨f, _, _, rfl, rfl, rfl, hyes, hno, ((hglobs "a/c").mp hyes).1, hexcluded, ?_, ?_⟩
  · refine hsame _ ?_ ?_
    · simp [f, or_comm]
    · simp [f, or_comm]
  · refine hmore _ ?_ ?_ "a/c" hyes
    · simp [f]
    · simp [f]

end PathFilter

end TemplateSwap
