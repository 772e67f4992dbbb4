import TemplateSwap.Proofs.Replacement.Reversal
import TemplateSwap.Proofs.Template.Grammar

namespace TemplateSwap

/-- The sources of fragments as they are given to be compiled. -/
def Fragments.groups (f : Fragments) : List (Value × Value) :=
  f.sources.map fun (name, source) => (.text name, .text source)

theorem Fragments.compileEntry_again {location location' : Option Location} {key source : Value}
    {name : String} {p : Pattern} (h : compileEntry location key source = .ok (name, p)) :
    compileEntry location' (.text name) (.text p.source) = .ok (name, p) := by
  have hp := Composite.compileEntry_ok h
  unfold compileEntry at h
  split at h
  · next n =>
    split_ifs at h with hname
    split at h
    · split at h
      · obtain ⟨rfl, rfl⟩ := Prod.mk.inj (Except.ok.inj h)
        simp only [compileEntry, if_pos hname, hp]
      · cases h
    · cases h
  · cases h

/-- Fragments are compiled from their own sources to themselves. -/
theorem Fragments.compile_groups {entries : List (Value × Value)} {location : Option Location}
    {f : Fragments} (h : compile entries location = .ok f) (location' : Option Location) :
    compile f.groups location' = .ok f := by
  obtain ⟨compiled, hcompiled, hpure⟩ := Results.bind_ok.mp h
  obtain rfl := Results.pure_ok.mp hpure
  refine Results.bind_ok.mpr ⟨compiled, ?_, rfl⟩
  have hall : List.Forall₂ (fun (entry : Value × Value) (c : String × Pattern) =>
      compileEntry location' entry.1 entry.2 = .ok c) (Fragments.groups ⟨compiled⟩) compiled := by
    rw [groups, sources, List.map_map, List.forall₂_map_left_iff, List.forall₂_same]
    intro c hc
    obtain ⟨⟨key, source⟩, -, hentry⟩ := Results.forall₂_right (Results.mapM_ok.mp hcompiled) hc
    exact compileEntry_again hentry
  exact Results.mapM_ok.mpr hall

theorem Fragments.compileEntry_entry {location : Option Location} {entry : Value × Value} {c : String × Pattern}
    (h : compileEntry location entry.1 entry.2 = .ok c) :
    entry = (.text c.1, .text c.2.source) ∧ Token.isName c.1.toList = true := by
  obtain ⟨key, source⟩ := entry
  simp only [compileEntry] at h
  split at h
  · split_ifs at h with hname
    split at h
    · split at h
      · next s p hp =>
        obtain rfl := Except.ok.inj h
        obtain ⟨b, -, -, rfl⟩ := Pattern.compile_ok.mp hp
        exact ⟨rfl, hname⟩
      · cases h
    · cases h
  · cases h

/-- Fragments are compiled from nothing but their own sources. -/
theorem Fragments.groups_of_compile {entries : List (Value × Value)} {location : Option Location} {f : Fragments}
    (h : compile entries location = .ok f) : entries = f.groups := by
  obtain ⟨compiled, hcompiled, hpure⟩ := Results.bind_ok.mp h
  obtain rfl := Results.pure_ok.mp hpure
  rw [groups, sources, List.map_map, ← List.forall₂_eq_eq_eq, List.forall₂_map_right_iff]
  exact (Results.mapM_ok.mp hcompiled).imp fun entry c hc => (compileEntry_entry hc).1

theorem Fragments.isName_of_compile {entries : List (Value × Value)} {location : Option Location} {f : Fragments}
    (h : compile entries location = .ok f) {name : String} (hname : name ∈ f.names) :
    Token.isName name.toList = true := by
  obtain ⟨compiled, hcompiled, hpure⟩ := Results.bind_ok.mp h
  obtain rfl := Results.pure_ok.mp hpure
  obtain ⟨c, hc, rfl⟩ := List.mem_map.mp hname
  obtain ⟨entry, -, hentry⟩ := Results.forall₂_right (Results.mapM_ok.mp hcompiled) hc
  exact (compileEntry_entry hentry).2

namespace Spec

variable {s s' : Spec}

/-- Specifications that are made from a source, or by turning such a one around. -/
inductive Reachable : Spec → Prop
  | create {source : SpecSource} {s : Spec} (h : create source = .ok s) : Reachable s
  | reverse {s s' : Spec} (h : Reachable s) (hreverse : s.reverse = .ok s') : Reachable s'

/-- What the specification with its templates the other way round is made from. -/
def swapped (s : Spec) : SpecSource where
  before := s.after.source
  after := s.before.source
  groups := s.fragments.groups
  firstOnly := s.firstOnly
  multiline := s.multiline
  repeatedGroups := s.repeatedGroups
  location := s.location

/-- What all specifications have that can be reached: templates and fragments are those that are read
from their sources, and the before template has exactly the names of the fragments. -/
structure Made (s : Spec) : Prop where
  fragments : ∀ location, Fragments.compile s.fragments.groups location = .ok s.fragments
  before : Template.read s.before.source s.repeatedGroups s.location = .ok s.before
  after : Template.read s.after.source s.repeatedGroups s.location = .ok s.after
  names : ∀ name, name ∈ s.before.names ↔ name ∈ s.fragments.names

theorem made_of_create {source : SpecSource} (h : create source = .ok s) : s.Made := by
  obtain ⟨f, hf, h⟩ := Results.bind_ok.mp h
  obtain ⟨before, hbefore, h⟩ := Results.bind_ok.mp h
  obtain ⟨after, hafter, h⟩ := Results.bind_ok.mp h
  obtain ⟨_, hunused, h⟩ := Results.bind_ok.mp h
  obtain ⟨t, ht, hbefore⟩ := Results.bind_ok.mp (Results.mapError_ok.mp hbefore)
  obtain ⟨_, hknown, hsame⟩ := Results.bind_ok.mp hbefore
  obtain rfl := Results.pure_ok.mp hsame
  obtain rfl := Results.pure_ok.mp h
  have hread := Results.mapError_ok.mp hafter
  obtain ⟨-, -, hbefore, hlocation⟩ := Template.read_eq_iff.mp ht
  obtain ⟨-, -, hsource, -⟩ := Template.read_eq_iff.mp hread
  refine ⟨Fragments.compile_groups hf, ?_, ?_, fun name => ⟨?_, ?_⟩⟩
  · rw [Spec.location, hlocation, hbefore]
    exact ht
  · rw [Spec.location, hlocation, hsource]
    exact hread
  · exact Template.validateKnown_ok.mp hknown name
  · exact Template.validateUnused_ok.mp (Results.mapError_ok.mp hunused) name

theorem Made.reverse (h : s.Made) (hreverse : s.reverse = .ok s') : s'.Made := by
  obtain ⟨hnames, rfl⟩ := reverse_ok.mp hreverse
  obtain ⟨-, -, -, hlocation⟩ := Template.read_eq_iff.mp h.after
  have hsame : Spec.location { s with before := s.after, after := s.before } = s.location := hlocation
  exact ⟨h.fragments, by rw [hsame]; exact h.after, by rw [hsame]; exact h.before, hnames⟩

theorem Reachable.made (h : Reachable s) : s.Made := by
  induction h with
  | create h => exact made_of_create h
  | reverse h hreverse ih => exact ih.reverse hreverse

/-- A specification is turned around to what is made from its templates the other way round. -/
theorem Made.create_swapped (h : s.Made) : create s.swapped = s.reverse.mapError .config := by
  simp only [create, swapped, h.fragments, Template.readKnown, h.after, h.before, Spec.reverse, bind,
    Except.bind, Except.mapError, pure, Except.pure]
  cases s.after.validateKnown s.fragments.names with
  | error e => rfl
  | ok _ =>
    dsimp only
    cases s.after.validateUnused s.fragments.names <;> rfl

/-- What stops a specification from being turned around: names of the after template that are unknown,
or else names of fragments that it does not use. -/
theorem reverse_error {e : ConfigError} (h : s.reverse = .error e) :
    (s.after.names.filter (!s.fragments.names.contains ·) ≠ [] ∧
      e = ⟨.unknownNames (s.after.names.filter (!s.fragments.names.contains ·)) s.after.source,
        s.after.location⟩) ∨
    (s.after.names.filter (!s.fragments.names.contains ·) = [] ∧
      s.fragments.names.filter (!s.after.names.contains ·) ≠ [] ∧
      e = ⟨.unusedNames (s.fragments.names.filter (!s.after.names.contains ·)) s.after.source,
        s.after.location⟩) := by
  rcases Results.bind_error.mp h with hunknown | ⟨_, hknown, h⟩
  · obtain ⟨hne, heq⟩ := Template.validateKnown_error.mp hunknown
    exact .inl ⟨hne, heq.symm⟩
  · rcases Results.bind_error.mp h with hunused | ⟨_, -, h⟩
    · obtain ⟨hne, heq⟩ := Template.validateUnused_error.mp hunused
      have hnone := Template.missing_eq_nil.mpr (Template.validateKnown_ok.mp hknown)
      exact .inr ⟨hnone, hne, heq.symm⟩
    · cases h

/-- Turning around is to make the specification with the templates the other way round, with the same
result or the same failure. It is possible if the after template has exactly the names of the fragments,
which the before template always has, and a second time leads back. -/
theorem reverse_eq_create (h : s.Reachable) :
    (∀ name, name ∈ s.before.names ↔ name ∈ s.fragments.names) ∧
    (∀ s', s.reverse = .ok s' ↔ create s.swapped = .ok s') ∧
    (∀ failure, create s.swapped = .error failure ↔ ∃ e, s.reverse = .error e ∧ failure = .config e) ∧
    (∀ e, s.reverse = .error e → e.location = s.location ∧ ∃ names, names ≠ [] ∧
      (e.defect = .unknownNames names s.after.source ∧
          names = s.after.names.filter (!s.fragments.names.contains ·) ∨
        e.defect = .unusedNames names s.after.source ∧
          names = s.fragments.names.filter (!s.after.names.contains ·))) ∧
    ((∃ s', s.reverse = .ok s') ↔ ∀ name, name ∈ s.after.names ↔ name ∈ s.fragments.names) ∧
    (∀ s', s.reverse = .ok s' → s'.reverse = .ok s) := by
  have hmade := h.made
  have hcreate := hmade.create_swapped
  obtain ⟨-, -, -, hlocation⟩ := Template.read_eq_iff.mp hmade.after
  refine ⟨hmade.names, ?_, ?_, ?_, ?_, ?_⟩
  · intro s'
    rw [hcreate, Results.mapError_ok]
  · intro failure
    rw [hcreate]
    cases s.reverse with
    | ok s' => simp [Except.mapError]
    | error e => simp [Except.mapError, eq_comm]
  · intro e herror
    rcases reverse_error herror with ⟨hne, rfl⟩ | ⟨-, hne, rfl⟩
    · exact ⟨hlocation, _, hne, .inl ⟨rfl, rfl⟩⟩
    · exact ⟨hlocation, _, hne, .inr ⟨rfl, rfl⟩⟩
  · simp only [reverse_ok]
    exact ⟨fun h => h.choose_spec.1, fun h => ⟨_, h, rfl⟩⟩
  · intro s' hreverse
    obtain ⟨hnames, rfl⟩ := reverse_ok.mp hreverse
    exact reverse_ok.mpr ⟨hmade.names, rfl⟩

/-- A specification that was turned around is made from its templates, and leads back. -/
theorem reverse_eq_create_twice :
    ∃ s s', create { before := "${x}=${y}", after := "${y}: ${x}", multiline := true, groups :=
        [(.text "x", .text "[a-z]+"), (.text "y", .text "(?:0|1)*")] } = .ok s ∧
      s.reverse = .ok s' ∧ s'.Reachable ∧ s'.reverse = .ok s ∧ create s'.swapped = .ok s := by
  have hcreated : ∃ s, create { before := "${x}=${y}", after := "${y}: ${x}", multiline := true, groups :=
        [(.text "x", .text "[a-z]+"), (.text "y", .text "(?:0|1)*")] } = .ok s ∧
      s.reverse.toOption.any (fun _ => true) = true := Results.exists_ok (by decide +kernel)
  obtain ⟨s, hs, hreverses⟩ := hcreated
  obtain ⟨s', hs', -⟩ := Results.exists_ok hreverses
  have hreachable : s'.Reachable := .reverse (.create hs) hs'
  obtain ⟨-, -, -, -, -, hback⟩ := reverse_eq_create (.create hs)
  obtain ⟨-, hsame, -⟩ := reverse_eq_create hreachable
  exact ⟨s, s', hs, hs', hreachable, hback s' hs', (hsame s).mp (hback s' hs')⟩

end Spec

end TemplateSwap
