import TemplateSwap.Proofs.Descriptor.Fields
import TemplateSwap.Proofs.Replacement.Swapping
import Mathlib.Data.List.Sort
import Mathlib.Data.Prod.Lex
import Mathlib.Data.String.Basic

namespace TemplateSwap

open TemplateSwap.Results (Together)

namespace Fragments

variable {f g : Fragments} {groups groups' : List (Value × Value)} {location : Option Location}

theorem map_sources (f : Fragments) : f.sources.map (·.1) = f.names := by
  rw [sources, names, List.map_map]
  rfl

theorem same_iff (hf : f.names.Nodup) (hg : g.names.Nodup) : f.same g = true ↔ f.sources.Perm g.sources := by
  have hlength (f : Fragments) : f.sources.length = f.entries.length := List.length_map _
  rw [← map_sources] at hf hg
  rw [same, Bool.and_eq_true, beq_iff_eq, List.all_eq_true, ← hlength, ← hlength]
  constructor
  · intro h
    obtain ⟨hlength, hall⟩ := h
    have hsub : f.sources ⊆ g.sources := fun entry hentry => Results.mem_of_lookup (beq_iff_eq.mp (hall entry hentry))
    exact (hf.of_map.subperm hsub).perm_of_length_le hlength.ge
  · intro h
    refine ⟨h.length_eq, fun entry hentry => beq_iff_eq.mpr ?_⟩
    exact Results.lookup_of_mem hg (h.mem_iff.mp hentry)

/-- The order in which sources are listed for the key: by name, and by source under the same name. -/
def precedes (a b : String × String) : Bool := decide (a.1 < b.1) || (a.1 == b.1 && decide (a.2 ≤ b.2))

theorem precedes_iff {a b : String × String} : precedes a b = true ↔ toLex a ≤ toLex b := by
  simp [precedes, Prod.Lex.le_iff]

theorem pairwise_hashKey (f : Fragments) : f.hashKey.Pairwise fun a b => toLex a ≤ toLex b := by
  have hsorted := @List.pairwise_mergeSort _ precedes
    (fun a b c hab hbc => precedes_iff.mpr ((precedes_iff.mp hab).trans (precedes_iff.mp hbc)))
    (fun a b => by simpa [precedes_iff] using le_total (toLex a) (toLex b)) f.sources
  exact hsorted.imp precedes_iff.mp

theorem hashKey_eq_iff : f.hashKey = g.hashKey ↔ f.sources.Perm g.sources := by
  have hperm (f : Fragments) : f.hashKey.Perm f.sources := List.mergeSort_perm f.sources _
  constructor
  · intro h
    exact (hperm f).symm.trans (h ▸ hperm g)
  · intro h
    refine List.Perm.eq_of_pairwise (fun a b _ _ hab hba => ?_) (pairwise_hashKey f) (pairwise_hashKey g)
      ((hperm f).trans (h.trans (hperm g).symm))
    exact toLex.injective (le_antisymm hab hba)

/-- The same fragments, each under a name of its own, perhaps in another order. -/
structure Reordered (f g : Fragments) : Prop where
  perm : f.entries.Perm g.entries
  distinct : f.names.Nodup

namespace Reordered

theorem names (h : f.Reordered g) : f.names.Perm g.names := h.perm.map _

theorem sources (h : f.Reordered g) : f.sources.Perm g.sources := h.perm.map _

theorem get? (h : f.Reordered g) (name : String) : g.get? name = f.get? name :=
  Results.lookup_perm h.perm h.distinct name

theorem same (h : f.Reordered g) : f.same g = true := (same_iff h.distinct (h.names.nodup h.distinct)).mpr h.sources

end Reordered

theorem names_nodup (h : compile groups location = .ok f) (hkeys : Value.Pairs.Distinct groups) : f.names.Nodup := by
  obtain rfl := groups_of_compile h
  have hsources : f.sources.Pairwise fun a b => Value.same (.text a.1) (.text b.1) = false := List.pairwise_map.mp hkeys
  rw [← map_sources]
  refine List.pairwise_map.mpr (hsources.imp fun hne heq => ?_)
  rw [Value.same_text.mpr (congrArg Value.text heq)] at hne
  cases hne

theorem compile_reordered (h : groups.Perm groups') (hkeys : Value.Pairs.Distinct groups) (location : Option Location) :
    Together Reordered (compile groups location) (compile groups' location) := by
  refine .of_ok (fun f hf => ?_) (fun g hg => ?_)
  · obtain ⟨entries, hentries, hpure⟩ := Results.bind_ok.mp hf
    obtain rfl := Results.pure_ok.mp hpure
    obtain ⟨entries', hentries', hperm⟩ := Results.mapM_perm h hentries
    exact ⟨⟨entries'⟩, Results.bind_ok.mpr ⟨entries', hentries', rfl⟩, hperm, names_nodup hf hkeys⟩
  · obtain ⟨entries', hentries', -⟩ := Results.bind_ok.mp hg
    obtain ⟨entries, hentries, -⟩ := Results.mapM_perm h.symm hentries'
    exact ⟨⟨entries⟩, Results.bind_ok.mpr ⟨entries, hentries, rfl⟩⟩

/-- Fragments are the same just if their mappings are, but for the order. -/
theorem same_iff_groups {location' : Option Location} (hf : compile groups location = .ok f)
    (hg : compile groups' location' = .ok g) (hkeys : Value.Pairs.Distinct groups)
    (hkeys' : Value.Pairs.Distinct groups') :
    f.same g = true ↔ groups.Perm groups' := by
  have hinjective : Function.Injective fun entry : String × String => (Value.text entry.1, Value.text entry.2) := by
    intro a b heq
    obtain ⟨hname, hsource⟩ := Prod.mk.inj heq
    exact Prod.ext (Value.text.inj hname) (Value.text.inj hsource)
  rw [same_iff (names_nodup hf hkeys) (names_nodup hg hkeys'), groups_of_compile hf, groups_of_compile hg]
  exact (List.map_perm_map_iff hinjective).symm

end Fragments

namespace Template

variable {known known' : List String}

theorem validateKnown_perm (t : Template) (h : known.Perm known') : t.validateKnown known' = t.validateKnown known := by
  have hsame : t.names.filter (!known'.contains ·) = t.names.filter (!known.contains ·) :=
    List.filter_congr fun name _ => by rw [h.contains_eq]
  rw [validateKnown, validateKnown, hsame]

theorem validateUnused_perm (t : Template) (h : known.Perm known') :
    Together (fun _ _ => True) (t.validateUnused known) (t.validateUnused known') := by
  refine .of_ok (fun _ hok => ⟨(), ?_, trivial⟩) fun _ hok => ⟨(), ?_⟩
  · exact validateUnused_ok.mpr fun name hname => validateUnused_ok.mp hok name (h.mem_iff.mpr hname)
  · exact validateUnused_ok.mpr fun name hname => validateUnused_ok.mp hok name (h.mem_iff.mp hname)

end Template

variable {f g : Fragments}

theorem Composite.source_reordered (before : Template) (h : f.Reordered g) : source before g = source before f := by
  have hpart : part g = part f := by
    funext token
    cases token with
    | literal text => rfl
    | placeholder name index => rw [part, part, h.get?]
  rw [source, source, hpart]

theorem Replacer.compile_reordered (before after : Template) (h : f.Reordered g) (firstOnly multiline : Bool) :
    compile before after g firstOnly multiline = compile before after f firstOnly multiline := by
  rw [compile, compile, before.validateKnown_perm h.names, Composite.source_reordered before h]

namespace Spec

/-- The same templates and switches over the same fragments, perhaps in another order. -/
structure Reordered (s t : Spec) : Prop where
  fragments : s.fragments.Reordered t.fragments
  rest : t = { s with fragments := t.fragments }

namespace Reordered

variable {s t : Spec}

theorem same (h : s.Reordered t) : s.same t = true := by
  have hfragments := h.fragments.same
  rw [h.rest]
  simp [Spec.same, hfragments]

theorem replacer (h : s.Reordered t) : t.replacer = s.replacer := by
  rw [h.rest]
  exact Replacer.compile_reordered s.before s.after h.fragments s.firstOnly s.multiline

theorem reverse (h : s.Reordered t) : Together Reordered s.reverse t.reverse := by
  have hnames := h.fragments.names
  rw [h.rest, Spec.reverse, Spec.reverse]
  dsimp only
  rw [s.after.validateKnown_perm hnames]
  cases s.after.validateKnown s.fragments.names with
  | error e => exact .error e e
  | ok _ => exact (s.after.validateUnused_perm hnames).bind fun _ _ _ => .ok ⟨h.fragments, rfl⟩

end Reordered

theorem create_perm {source : SpecSource} {groups : List (Value × Value)} (h : source.groups.Perm groups)
    (hkeys : Value.Pairs.Distinct source.groups) :
    Together Reordered (create source) (create { source with groups }) := by
  refine (Fragments.compile_reordered h hkeys source.location).bind fun f g hfg => ?_
  have hread : Template.readKnown source.before g.names source.repeatedGroups source.location =
      Template.readKnown source.before f.names source.repeatedGroups source.location := by
    rw [Template.readKnown, Template.readKnown]
    simp only [Template.validateKnown_perm _ hfg.names]
  dsimp only
  rw [hread]
  cases (Template.readKnown source.before f.names source.repeatedGroups source.location).mapError Failure.config with
  | error e => exact .error e e
  | ok before =>
    cases (Template.read source.after source.repeatedGroups source.location).mapError Failure.config with
    | error e => exact .error e e
    | ok after =>
      have hunused := (before.validateUnused_perm hfg.names).mapError Failure.config Failure.config
      exact hunused.bind fun _ _ _ => .ok ⟨hfg, rfl⟩

/-- The order in which a mapping lists its groups does not matter. With another one a specification is made just if it
is with the first. Then the two are the same, their fragments are the same and have the same key, they have the same
replacer or fail to have one in the same way, and both are turned around, to specifications that are the same with the
same replacer, or neither is. Fragments are the same, and have the same key, only if their mappings are the same but
for the order. -/
theorem create_reordered {source : SpecSource} {groups : List (Value × Value)} (h : source.groups.Perm groups)
    (hkeys : Value.Pairs.Distinct source.groups) :
    Together (fun s t => s.fragments.same t.fragments = true ∧ s.fragments.hashKey = t.fragments.hashKey ∧
        s.same t = true ∧ t.replacer = s.replacer ∧
        Together (fun s' t' => s'.same t' = true ∧ t'.replacer = s'.replacer) s.reverse t.reverse)
      (create source) (create { source with groups }) ∧
    ∀ groups₁ groups₂ location₁ location₂ f g, Value.Pairs.Distinct groups₁ → Value.Pairs.Distinct groups₂ →
      Fragments.compile groups₁ location₁ = .ok f → Fragments.compile groups₂ location₂ = .ok g →
      (f.same g = true ↔ groups₁.Perm groups₂) ∧ (f.hashKey = g.hashKey ↔ groups₁.Perm groups₂) := by
  constructor
  · refine (create_perm h hkeys).imp fun s t _ hst => ?_
    have hreverse := hst.reverse.imp fun s' t' _ hturned => And.intro hturned.same hturned.replacer
    exact ⟨hst.fragments.same, Fragments.hashKey_eq_iff.mpr hst.fragments.sources, hst.same, hst.replacer, hreverse⟩
  · intro groups₁ groups₂ location₁ location₂ f g hkeys₁ hkeys₂ hf hg
    have hperm := Fragments.same_iff_groups hf hg hkeys₁ hkeys₂
    have hnames := Fragments.same_iff (Fragments.names_nodup hf hkeys₁) (Fragments.names_nodup hg hkeys₂)
    exact ⟨hperm, Fragments.hashKey_eq_iff.trans (hnames.symm.trans hperm)⟩

theorem create_reordered_pair :
    ∃ (source : SpecSource) (groups : List (Value × Value)) (s t : Spec),
      source.groups = [(.text "x", .text "[a-z]+"), (.text "y", .text "(?P<z>a|b)(?P=z)")] ∧
      groups = [(.text "y", .text "(?P<z>a|b)(?P=z)"), (.text "x", .text "[a-z]+")] ∧
      source.groups.Perm groups ∧ Value.Pairs.Distinct source.groups ∧
      create source = .ok s ∧ create { source with groups } = .ok t ∧ s ≠ t ∧ s.same t = true ∧
      s.fragments.hashKey = t.fragments.hashKey ∧ (∃ r, s.replacer = .ok r ∧ t.replacer = .ok r) ∧
      ∃ s' t', s.reverse = .ok s' ∧ t.reverse = .ok t' ∧ s'.same t' = true ∧ t'.replacer = s'.replacer := by
  let source : SpecSource := { before := "${x}=${y}", after := "${y}: ${x}", groups :=
    [(.text "x", .text "[a-z]+"), (.text "y", .text "(?P<z>a|b)(?P=z)")] }
  let groups : List (Value × Value) := [(.text "y", .text "(?P<z>a|b)(?P=z)"), (.text "x", .text "[a-z]+")]
  have hcreate : (create source).toOption.any (fun s => s.replacer.toOption.any (fun _ => true) &&
      s.reverse.toOption.any (fun _ => true) && decide (s.fragments.names = ["x", "y"])) = true := by decide +kernel
  have hother : (create { source with groups }).toOption.any
      (fun t => decide (t.fragments.names = ["y", "x"])) = true := by decide +kernel
  obtain ⟨s, hs, hall⟩ := Results.exists_ok hcreate
  obtain ⟨hboth, hnames⟩ := Bool.and_eq_true_iff.mp hall
  obtain ⟨hcompiles, hturns⟩ := Bool.and_eq_true_iff.mp hboth
  obtain ⟨r, hr, -⟩ := Results.exists_ok hcompiles
  obtain ⟨s', hs', -⟩ := Results.exists_ok hturns
  obtain ⟨other, hother, hnames'⟩ := Results.exists_ok hother
  have hkeys : Value.Pairs.Distinct source.groups := by simp [source, Value.Pairs.Distinct, Value.same]
  have hperm : source.groups.Perm groups := .swap _ _ []
  obtain ⟨hmade, -⟩ := create_reordered hperm hkeys
  obtain ⟨t, ht, hfragments, hkey, hsame, hreplacer, hreverse⟩ := hmade.exists_ok hs
  obtain ⟨t', ht', hsame', hreplacer'⟩ := hreverse.exists_ok hs'
  obtain rfl := Except.ok.inj (hother.symm.trans ht)
  refine ⟨source, groups, s, other, rfl, rfl, hperm, hkeys, hs, ht, ?_, hsame, hkey, ⟨r, hr, hreplacer.trans hr⟩,
    s', t', hs', ht', hsame', hreplacer'⟩
  rintro rfl
  have hswapped := (of_decide_eq_true hnames).symm.trans (of_decide_eq_true hnames')
  exact absurd hswapped (by decide)

end Spec

end TemplateSwap
