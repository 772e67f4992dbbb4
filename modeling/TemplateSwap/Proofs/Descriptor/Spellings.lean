import TemplateSwap.Proofs.Descriptor.Reading
import TemplateSwap.Proofs.PathFilter.Characters

namespace TemplateSwap

open TemplateSwap.Value (named)
open TemplateSwap.Glob (characters)

namespace Descriptor

variable {fields : List (Value × Value)} {location : Location} {paths : Value} {f : PathFilter}

/-- A descriptor has the filter when its paths are spelled so, and all else in it is as it is. -/
def Takes (fields : List (Value × Value)) (location : Location) (paths : Value) (f : PathFilter) : Prop :=
  ∃ e, read (.map (Value.Pairs.put fields (.text "paths") paths)) location = .ok e ∧
    e.get? "paths" = some (.filter f)

/-- What is said of the paths does not bear on the other fields. -/
theorem Checked.put_paths (h : Checked fields) (paths : Value) :
    Checked (Value.Pairs.put fields (.text "paths") paths) := by
  have hother {key : String} (hkey : "paths" ≠ key) :
      get? (Value.Pairs.put fields (.text "paths") paths) key = get? fields key := Value.Pairs.get?_put_of_ne hkey
  refine ⟨?_, ?_, ?_, ?_⟩
  · rw [List.eq_nil_iff_forall_not_mem]
    intro key hkey
    obtain ⟨hmem, hunknown⟩ := mem_unknownKeys.mp hkey
    rcases Value.Pairs.mem_keys_put hmem with hmem | rfl
    · exact List.eq_nil_iff_forall_not_mem.mp h.known key (mem_unknownKeys.mpr ⟨hmem, hunknown⟩)
    · exact hunknown "paths" (by decide) rfl
  · intro key hkey
    rw [hother (by rintro rfl; revert hkey; decide)]
    exact h.texts key hkey
  · intro key hkey
    rw [hother (by rintro rfl; revert hkey; decide)]
    exact h.truths key hkey
  · rw [getD, hother (by decide)]
    exact h.groups

theorem Checked.takes (h : Checked fields) (hpaths : readPaths paths location = .ok f) :
    Takes fields location paths f := by
  obtain ⟨hkeys, htexts, htruths, groups, hgroups⟩ := (checked_iff location).mp (h.put_paths paths)
  have hfound : getD (Value.Pairs.put fields (.text "paths") paths) "paths" = paths := by
    rw [getD, get?, Value.Pairs.get?_put_self, Option.getD_some]
  refine ⟨settled (Value.Pairs.put fields (.text "paths") paths) groups f, ?_, get?_settled_paths _ groups f⟩
  simp only [read, hkeys, htexts, htruths, hgroups, hfound, hpaths, bind, Except.bind]
  rfl

/-- Paths with globs to include, under their key. -/
def including (globs : Value) : Value := .map (named [("include", globs)])

/-- Paths with globs to exclude, under their key. -/
def excluding (globs : Value) : Value := .map (named [("exclude", globs)])

variable {included excluded : List String} {globs' : Value}

theorem readPaths_including (h : globs (some globs') ["**"] = .ok included) :
    readPaths (including globs') location = .ok { included } := by
  have hkeys := checkKeys_named .paths [("include", globs')] location (by simp [Section.allowed])
  have hincluded : get? (named [("include", globs')]) "include" = some globs' := Value.Pairs.get?_named
  have hexcluded : get? (named [("include", globs')]) "exclude" = none := Value.Pairs.get?_named
  refine Results.bind_ok.mpr ⟨(), hkeys, Results.bind_ok.mpr ⟨included, hincluded ▸ h, ?_⟩⟩
  rw [hexcluded]
  rfl

theorem readPaths_excluding (h : globs (some globs') [] = .ok excluded) :
    readPaths (excluding globs') location = .ok { excluded } := by
  have hkeys := checkKeys_named .paths [("exclude", globs')] location (by simp [Section.allowed])
  have hincluded : get? (named [("exclude", globs')]) "include" = none := Value.Pairs.get?_named
  have hexcluded : get? (named [("exclude", globs')]) "exclude" = some globs' := Value.Pairs.get?_named
  refine Results.bind_ok.mpr ⟨(), hkeys, Results.bind_ok.mpr ⟨["**"], by rw [hincluded]; rfl, ?_⟩⟩
  exact Results.bind_ok.mpr ⟨excluded, hexcluded ▸ h, rfl⟩

/-- A text where a list is meant is taken for the list of its characters. -/
theorem globs_text (glob : String) (default : List String) :
    globs (some (.text glob)) default = .ok (if glob = "" then default else characters glob) := by
  rw [globs, Value.isVoid, items?]
  simp only [String.isEmpty_iff]
  split_ifs
  · rfl
  · rw [List.map_map]
    rfl

/-- All spellings of the paths of a descriptor are read, if what else is in it is as it has to be. A glob on its own, in
a list and in a list under its key means the same, but as a text under its key only if it is one character, and of a
glob to exclude the characters mean the same only if it is one, or if it is line breaks. A list means the same under
its key and without, but only if there is something in it. -/
theorem read_spellings (h : Checked fields) (location : Location) :
    (∀ glob : String,
      Takes fields location (.text glob) { included := [glob] } ∧
      Takes fields location (.list [.text glob]) { included := [glob] } ∧
      Takes fields location (including (.list [.text glob])) { included := [glob] } ∧
      (∃ f, Takes fields location (including (.text glob)) f ∧
        (f.Alike { included := [glob] } ↔ glob.length = 1)) ∧
      Takes fields location (excluding (.list [.text glob])) { excluded := [glob] } ∧
      ∃ f, Takes fields location (excluding (.text glob)) f ∧
        (f.Alike { excluded := [glob] } ↔ glob.length = 1 ∨ glob ≠ "" ∧ ∀ c ∈ glob.toList, c = '\n')) ∧
    ∀ items : List Value,
      Takes fields location (.list items) { included := items.map Value.display } ∧
      ∃ f, Takes fields location (including (.list items)) f ∧
        (f.Alike { included := items.map Value.display } ↔ items ≠ []) := by
  constructor
  · intro glob
    have hlist : globs (some (.list [.text glob])) ["**"] = .ok [glob] := globs_list [.text glob] ["**"]
    have hnone : globs (some (.list [.text glob])) [] = .ok [glob] := globs_list [.text glob] []
    have htext : globs (some (.text glob)) [] = .ok (characters glob) := by
      rw [globs_text]
      split_ifs with hempty
      · obtain rfl := hempty
        rfl
      · rfl
    have hcharacters : Takes fields location (including (.text glob))
        { included := if glob = "" then ["**"] else characters glob } :=
      h.takes (readPaths_including (globs_text glob ["**"]))
    exact ⟨h.takes rfl, h.takes rfl, h.takes (readPaths_including hlist),
      ⟨_, hcharacters, PathFilter.included_alike_iff⟩, h.takes (readPaths_excluding hnone),
      _, h.takes (readPaths_excluding htext), PathFilter.excluded_alike_iff⟩
  · intro items
    refine ⟨h.takes rfl, _, h.takes (readPaths_including (globs_list items ["**"])), ?_⟩
    have hsame := @PathFilter.default_alike_iff (items.map Value.display)
    simpa only [ne_eq, List.map_eq_nil_iff] using hsame

/-- A descriptor with nothing but its templates. -/
def plain : List (Value × Value) := named [("before", .text "a"), ("after", .text "b")]

theorem plain_checked : Checked plain :=
  checked_named (by decide) (by simp [requiredKeys, List.lookup_cons]) (by simp [truthKeys, List.lookup_cons])
    (.inr rfl)

theorem read_spellings_plain :
    Checked plain ∧
    Takes plain ⟨"a", some 2⟩ (.text "*.md") { included := ["*.md"] } ∧
    Takes plain ⟨"a", some 2⟩ (including (.list [.text "*.md"])) { included := ["*.md"] } ∧
    (∃ f, Takes plain ⟨"a", some 2⟩ (including (.text "*.md")) f ∧ ¬f.Alike { included := ["*.md"] }) ∧
    (∃ f, Takes plain ⟨"a", some 2⟩ (including (.text "a")) f ∧ f.Alike { included := ["a"] }) ∧
    ∃ f, Takes plain ⟨"a", some 2⟩ (including (.list [])) f ∧ ¬f.Alike { included := [] } := by
  obtain ⟨hglobs, hlists⟩ := read_spellings plain_checked ⟨"a", some 2⟩
  obtain ⟨hwhole, -, hlist, ⟨f, hf, hsame⟩, -⟩ := hglobs "*.md"
  obtain ⟨-, -, -, ⟨g, hg, hone⟩, -⟩ := hglobs "a"
  obtain ⟨-, e, he, hempty⟩ := hlists []
  refine ⟨plain_checked, hwhole, hlist, ⟨f, hf, fun h => ?_⟩, ⟨g, hg, hone.mpr rfl⟩, e, he, fun h => hempty.mp h rfl⟩
  exact absurd (hsame.mp h) (by decide)

/-- A glob to include, a glob to exclude and no globs at all, each with two spellings that do not mean the same. -/
theorem spellings_differ :
    (∃ f g, Takes plain ⟨"a", some 2⟩ (.text "*.md") f ∧ Takes plain ⟨"a", some 2⟩ (including (.text "*.md")) g ∧
      f.accepts "a.txt" = false ∧ g.accepts "a.txt" = true) ∧
    (∃ f g, Takes plain ⟨"a", some 2⟩ (excluding (.list [.text "*.md"])) f ∧
      Takes plain ⟨"a", some 2⟩ (excluding (.text "*.md")) g ∧ f.accepts "a.txt" = true ∧ g.accepts "a.txt" = false) ∧
    ∃ f g, Takes plain ⟨"a", some 2⟩ (.list []) f ∧ Takes plain ⟨"a", some 2⟩ (including (.list [])) g ∧
      f.accepts "a.txt" = false ∧ g.accepts "a.txt" = true := by
  have htaken {paths : Value} {f : PathFilter} (hpaths : readPaths paths ⟨"a", some 2⟩ = .ok f) :
      Takes plain ⟨"a", some 2⟩ paths f := plain_checked.takes hpaths
  refine ⟨⟨{ included := ["*.md"] }, { included := ["*", ".", "m", "d"] }, htaken rfl, htaken ?_, ?_, ?_⟩,
    ⟨{ excluded := ["*.md"] }, { excluded := ["*", ".", "m", "d"] }, htaken ?_, htaken ?_, ?_, ?_⟩,
    { included := [] }, {}, htaken rfl, htaken ?_, ?_, ?_⟩
  · exact readPaths_including (globs_text "*.md" ["**"])
  · decide +kernel
  · decide +kernel
  · exact readPaths_excluding (globs_list [.text "*.md"] [])
  · exact readPaths_excluding (globs_text "*.md" [])
  · decide +kernel
  · decide +kernel
  · exact readPaths_including (globs_list [] ["**"])
  · decide +kernel
  · decide +kernel

end Descriptor

end TemplateSwap
