import TemplateSwap.Proofs.Composite.Names
import TemplateSwap.Proofs.Replacement.Standalone

namespace TemplateSwap

open TemplateSwap.Text (Code codes)
open TemplateSwap.Pattern
open TemplateSwap.Composite

/-- Templates make a replacer if the names of all groups are apart, no fragment refers to groups by number or has
switches for all of it, and no template uses a name that it cannot. -/
theorem Replacer.compile_of_distinct {before after : Template} {f : Fragments} (hf : Sound f)
    (hdistinct : Distinct f before) (hnumbered : before.Numbered)
    (hplain : ∀ name index p, .placeholder name index ∈ before.tokens → f.get? name = some p →
      refersByNumber p.source = false ∧ setsSwitches p.source = false)
    (hknown : ∀ name ∈ before.names, name ∈ f.names) (hcaptured : ∀ name ∈ after.names, name ∈ before.names)
    (firstOnly multiline : Bool) : ∃ r, compile before after f firstOnly multiline = .ok r := by
  have hfound : Known f before.tokens := by
    intro name index hmem
    exact Results.exists_lookup (hknown name (Template.mem_names.mpr ⟨index, hmem⟩))
  obtain ⟨source, hsource⟩ := exists_source hfound
  obtain ⟨p, hp⟩ := compile_of_clear hf hsource (hdistinct.clear hnumbered hplain) multiline
  exact ⟨⟨p, table before, after.tokens, firstOnly, multiline⟩,
    compile_ok.mpr ⟨⟨source, hsource, hp⟩, hknown, hcaptured, rfl, rfl, rfl, rfl⟩⟩

namespace Spec

variable {s s' : Spec}

/-- What is known of a specification whose replacer was built. -/
structure Ready (s : Spec) : Prop where
  sound : Sound s.fragments
  before : s.before.Numbered
  after : s.after.Numbered
  replacer : ∃ r, s.replacer = .ok r

/-- What makes sure that the after template can be searched as well. No fragment refers to groups by
number, and no name of a group would come twice. -/
def Swappable (s : Spec) : Prop :=
  (∀ name p, s.fragments.get? name = some p → refersByNumber p.source = false) ∧
    ((s.after.placeholders.map (·.1)).Nodup ∨
      ∀ name p, s.fragments.get? name = some p → ∀ g ∈ p.groups, g.name = none)

theorem reverse_ok : s.reverse = .ok s' ↔
    (∀ name, name ∈ s.after.names ↔ name ∈ s.fragments.names) ∧
      s' = { s with before := s.after, after := s.before } := by
  constructor
  · intro h
    obtain ⟨u, hknown, h⟩ := Results.bind_ok.mp h
    obtain ⟨u', hunused, h⟩ := Results.bind_ok.mp h
    exact ⟨fun name => ⟨Template.validateKnown_ok.mp hknown name,
      Template.validateUnused_ok.mp hunused name⟩, (Results.pure_ok.mp h).symm⟩
  · intro h
    obtain ⟨hnames, rfl⟩ := h
    have hknown := Template.validateKnown_ok.mpr fun name => (hnames name).mp
    have hunused := Template.validateUnused_ok.mpr fun name => (hnames name).mpr
    exact Results.bind_ok.mpr ⟨(), hknown, Results.bind_ok.mpr ⟨(), hunused, rfl⟩⟩

theorem Ready.distinct (h : s.Ready) (hs : s.Swappable)
    (hnames : ∀ name ∈ s.after.names, name ∈ s.before.names) : Distinct s.fragments s.after := by
  obtain ⟨r, hr⟩ := h.replacer
  obtain ⟨source, hsource, hp⟩ := (Replacer.compile_ok.mp hr).source
  obtain ⟨items, -, hwoven, -⟩ := woven_of_compile h.sound hsource hp
  have hsomewhere : ∀ {name index}, .placeholder name index ∈ s.after.tokens →
      ∃ i, .placeholder name i ∈ s.before.tokens := by
    intro name index hmem
    exact Template.mem_names.mp (hnames name (Template.mem_names.mpr ⟨index, hmem⟩))
  rcases hs.2 with hnodup | hnameless
  · have hlength := Template.length_placeholders_le hnodup hnames
    constructor
    · intro name index p n hmem hp hn
      obtain ⟨i, hi⟩ := hsomewhere hmem
      exact (hwoven.distinct h.before hi hp).1 n (hn.trans_le hlength)
    · refine (List.pairwise_map.mp hnodup).imp_of_mem ?_
      intro a b ha hb hne p q hp hq
      obtain ⟨name, index⟩ := a
      obtain ⟨name', index'⟩ := b
      obtain ⟨i, hi⟩ := hsomewhere (Template.mem_placeholders.mp ha)
      obtain ⟨j, hj⟩ := hsomewhere (Template.mem_placeholders.mp hb)
      exact (hwoven.distinct h.before hi hp).2 name' j q hj hne hq
  · have hnone : ∀ name p, s.fragments.get? name = some p → ∀ n, some n ∉ groupNames p.groups := by
      intro name p hp n hn
      obtain ⟨g, hg, hname⟩ := List.mem_map.mp hn
      rw [hnameless name p hp g hg] at hname
      cases hname
    constructor
    · intro name index p n _ hp _
      exact hnone name p hp _
    · refine List.pairwise_of_forall ?_
      intro a b p q hp _ n hn
      exact absurd hn (hnone a.1 p hp n)

/-- The after template can be searched where the before template can. -/
theorem Ready.reverse (h : s.Ready) (hs : s.Swappable) (hreverse : s.reverse = .ok s') :
    ∃ r, s'.replacer = .ok r := by
  obtain ⟨hnames, rfl⟩ := reverse_ok.mp hreverse
  obtain ⟨r, hr⟩ := h.replacer
  have hbuilt := Replacer.compile_ok.mp hr
  obtain ⟨source, hsource, hp⟩ := hbuilt.source
  obtain ⟨items, -, hwoven, -⟩ := woven_of_compile h.sound hsource hp
  have hplain : ∀ name index p, .placeholder name index ∈ s.after.tokens →
      s.fragments.get? name = some p → refersByNumber p.source = false ∧ setsSwitches p.source = false := by
    intro name index p hmem hp
    obtain ⟨i, hi⟩ := Template.mem_names.mp
      (hbuilt.captured name (Template.mem_names.mpr ⟨index, hmem⟩))
    obtain ⟨q, hq, hswitches⟩ := hwoven.fragment hi
    obtain rfl := Option.some.inj (hp.symm.trans hq)
    exact ⟨hs.1 name p hp, hswitches⟩
  have hbefore : ∀ name ∈ s.before.names, name ∈ s.after.names := by
    intro name hname
    exact (hnames name).mpr (hbuilt.known name hname)
  exact Replacer.compile_of_distinct h.sound (h.distinct hs hbuilt.captured) h.after hplain
    (fun name => (hnames name).mp) hbefore s.firstOnly s.multiline

/-- Without the condition on references by number there is a replacer for one direction only. -/
example : (Spec.create { before := "${y}${x}", after := "${x}${y}", groups :=
      [(.text "x", .text "(a)\\1"), (.text "y", .text "c")] }).toOption.any (fun s =>
    s.replacer.toBool && s.reverse.toOption.any fun s' => !s'.replacer.toBool) = true := by
  decide +kernel

end Spec

end TemplateSwap
