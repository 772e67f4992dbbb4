import TemplateSwap.Proofs.Replacement.Swapping

namespace TemplateSwap

open TemplateSwap.Text (Code codes)
open TemplateSwap.Composite

namespace Pattern

open Reader

namespace Reader

variable {b e : Builder} {s rest : Source}

theorem reference_ungrouped (hb : b.groups = []) (index written : Nat) {b₁ : Builder} :
    reference b index written s ≠ .ok (b₁, rest) := by
  have hnone : b.info? index = none := by simp [Builder.info?, hb]
  simp [reference, hnone, failBack]

theorem condition_numbered {name : List Code} {t : Source} (hname : Reader.name ')' "group name" s = .ok (name, t))
    (hnumber : Text.isIdentifier name = false) {index : Nat} {b₁ : Builder}
    (h : condition b s = .ok ((index, b₁), rest)) : ∃ c ∈ b₁.conditions, 0 < c.1 := by
  obtain ⟨found, u, hfound, h⟩ := bind_ok.mp h
  obtain ⟨rfl, rfl⟩ := Prod.mk.inj (Except.ok.inj (hname.symm.trans hfound))
  rw [hnumber] at h
  exact (numberedCondition_ok h).2.2.1

/-- A step over something that asks for a group by its number leaves a condition behind. -/
theorem step_numbered (hb : b.groups = []) (hnumbered : numberedAt s = true) {o : Option Builder}
    (h : step b s = .ok (o, rest)) : ∃ b₁, o = some b₁ ∧ ∃ c ∈ b₁.conditions, 0 < c.1 := by
  unfold numberedAt at hnumbered
  split at hnumbered
  · next x t =>
    obtain ⟨-, b₁, rfl, hitem⟩ := (step_item Symbol.noConfusion Symbol.noConfusion).mp h
    obtain ⟨meaning, u, hescape, hitem⟩ := bind_ok.mp hitem
    split at hnumbered
    · next index written v hgroup =>
      obtain ⟨rfl, rfl⟩ := Prod.mk.inj (Except.ok.inj (hgroup.symm.trans hescape))
      exact absurd hitem (reference_ungrouped hb index written)
    · cases hnumbered
  · next t =>
    obtain ⟨-, b₁, rfl, hitem⟩ := (step_item (by decide) (by decide)).mp h
    obtain ⟨opened, hextension⟩ := item_extension _ hitem
    obtain ⟨x, u, hx, hextension⟩ := bind_ok.mp hextension
    obtain ⟨rfl, rfl⟩ := List.cons.inj (required_ok hx)
    obtain ⟨⟨index, b₂⟩, v, hcondition, hextension⟩ := bind_ok.mp hextension
    obtain ⟨rfl, rfl⟩ := pure_ok.mp hextension
    split at hnumbered
    · next name w hname =>
      have hkept : ∃ c ∈ b₂.conditions, 0 < c.1 :=
        condition_numbered hname (by simpa using hnumbered) hcondition
      exact ⟨_, rfl, hkept⟩
    · cases hnumbered
  · cases hnumbered

/-- So nothing asks for a group by its number if there are no groups at the end and all conditions hold there. -/
theorem not_numberedAt {n : Nat} (h : assemble n b s = .ok (e, rest)) (hgroups : e.groups = [])
    (hconditions : ∀ c ∈ e.conditions, c.1 = 0) : ∀ t ∈ stations n b s, numberedAt t = false := by
  induction n generalizing b s with
  | zero => exact List.forall_mem_nil _
  | succ n ih =>
    have hb : b.groups = [] := by
      have hnames := (assemble_continues h).2.names
      simpa [Builder.names, hgroups] using hnames
    have hhere : ∀ {o : Option Builder} {t : Source}, step b s = .ok (o, t) →
        (∀ b₁, o = some b₁ → b₁.Grows e) → numberedAt s = false := by
      intro o t hstep hgrows
      rw [← Bool.not_eq_true]
      intro hnumbered
      obtain ⟨b₁, rfl, c, hc, hpos⟩ := step_numbered hb hnumbered hstep
      have hzero := hconditions c ((hgrows b₁ rfl).conditions.subset hc)
      omega
    rcases assemble_ok h with ⟨hstop, rfl⟩ | ⟨b₁, t, hstep, hrest⟩
    · simp only [stations, hstop]
      refine List.forall_mem_singleton.mpr (hhere hstop ?_)
      intro b₁ hb₁
      cases hb₁
    · simp only [stations, hstep]
      refine List.forall_mem_cons.mpr ⟨hhere hstep ?_, ih hrest⟩
      intro b₂ hb₂
      rw [← Option.some.inj hb₂]
      exact (assemble_continues hrest).2

end Reader

theorem refersByNumber_ungrouped {source : String} {p : Pattern} (hp : compile source {} = .ok p)
    (hgroups : p.groups = []) : refersByNumber source = false := by
  obtain ⟨b, hb, -, rfl⟩ := compile_ok.mp hp
  have hnone : b.groups = [] := hgroups
  have hconditions : ∀ c ∈ b.conditions, c.1 = 0 := by
    simpa [hnone] using hb.conditions
  have hstations : ∀ t ∈ stationsOf source, numberedAt t = false := not_numberedAt hb.assembled hnone hconditions
  simpa [refersByNumber] using hstations

/-- A pattern without groups, and without switches for all of it. -/
structure Closed (p : Pattern) : Prop where
  groups : p.groups = []
  switches : setsSwitches p.source = false

instance (p : Pattern) : Decidable p.Closed :=
  decidable_of_iff (p.groups = [] ∧ setsSwitches p.source = false)
    ⟨fun h => ⟨h.1, h.2⟩, fun h => ⟨h.groups, h.switches⟩⟩

end Pattern

/-- Closed fragments can stand in any order, next to anything, and as often as they like. -/
theorem Replacer.compile_closed {before after : Template} {f : Fragments} (hf : Sound f)
    (hclosed : ∀ entry ∈ f.entries, entry.2.Closed) (hnumbered : before.Numbered)
    (hknown : ∀ name ∈ before.names, name ∈ f.names) (hcaptured : ∀ name ∈ after.names, name ∈ before.names)
    (firstOnly multiline : Bool) : ∃ r, compile before after f firstOnly multiline = .ok r := by
  have hfragment : ∀ {name p}, f.get? name = some p → p.Closed :=
    fun hp => hclosed _ (Results.mem_of_lookup hp)
  have hdistinct : Distinct f before := by
    constructor
    · intro name index p n _ hp _
      simp [groupNames, (hfragment hp).groups]
    · refine List.pairwise_of_forall fun a b p q hp _ n hn => ?_
      simp [groupNames, (hfragment hp).groups] at hn
  refine compile_of_distinct hf hdistinct hnumbered ?_ hknown hcaptured firstOnly multiline
  intro name index p _ hp
  exact ⟨Pattern.refersByNumber_ungrouped (hf name p hp) (hfragment hp).groups, (hfragment hp).switches⟩

namespace Spec

variable {s s' : Spec}

/-- A specification with closed fragments has a replacer if the before template captures all names of the after
template. One that can be turned around does, and so does its reverse. -/
theorem replacer_closed {source : SpecSource} (hs : create source = .ok s)
    (hclosed : ∀ entry ∈ s.fragments.entries, entry.2.Closed) :
    ((∃ r, s.replacer = .ok r) ↔ ∀ name ∈ s.after.names, name ∈ s.before.names) ∧
    ∀ s', s.reverse = .ok s' → (∃ r, s.replacer = .ok r) ∧ ∃ r', s'.replacer = .ok r' := by
  obtain ⟨hf, hbefore, hafter⟩ := create_ok hs
  have hsound := sound_of_compile hf
  have hnames := (made_of_create hs).names
  have hforth : (∀ name ∈ s.after.names, name ∈ s.before.names) → ∃ r, s.replacer = .ok r := fun hcaptured =>
    Replacer.compile_closed hsound hclosed (Template.read_numbered hbefore) (fun name => (hnames name).mp) hcaptured _ _
  refine ⟨⟨fun h => (Replacer.compile_ok.mp h.choose_spec).captured, hforth⟩, fun s' hreverse => ?_⟩
  obtain ⟨hturned, rfl⟩ := reverse_ok.mp hreverse
  refine ⟨hforth fun name hname => (hnames name).mpr ((hturned name).mp hname), ?_⟩
  exact Replacer.compile_closed hsound hclosed (Template.read_numbered hafter) (fun name => (hturned name).mp)
    (fun name hname => (hturned name).mpr ((hnames name).mp hname)) _ _

/-- Placeholders that touch and come again, next to text that would mean something in a pattern. -/
theorem replacer_closed_crowded : ∃ s s', create
      { before := "${a}${b}1{2}\\${a}${a}\n *[", after := "${b}\\1${b}(?${a}|", repeatedGroups := true, groups :=
        [(.text "a", .text "[a-z]+|\\d{2}"), (.text "b", .text "(?i:x)|(?x: y # z\n)")] } = .ok s ∧
      (∀ entry ∈ s.fragments.entries, entry.2.Closed) ∧ s.reverse = .ok s' ∧
      (∃ r, s.replacer = .ok r) ∧ ∃ r', s'.replacer = .ok r' := by
  obtain ⟨s, hs, hchecks⟩ : ∃ s, create
      { before := "${a}${b}1{2}\\${a}${a}\n *[", after := "${b}\\1${b}(?${a}|", repeatedGroups := true, groups :=
        [(.text "a", .text "[a-z]+|\\d{2}"), (.text "b", .text "(?i:x)|(?x: y # z\n)")] } = .ok s ∧
      (decide (∀ entry ∈ s.fragments.entries, entry.2.Closed) && s.reverse.toOption.any fun _ => true) = true :=
    Results.exists_ok (by decide +kernel)
  obtain ⟨hclosed, hturned⟩ := Bool.and_eq_true_iff.mp hchecks
  have hclosed := of_decide_eq_true hclosed
  obtain ⟨s', hs', -⟩ := Results.exists_ok hturned
  obtain ⟨hforth, hback⟩ := (replacer_closed hs hclosed).2 s' hs'
  exact ⟨s, s', hs, hclosed, hs', hforth, hback⟩

end Spec

end TemplateSwap
