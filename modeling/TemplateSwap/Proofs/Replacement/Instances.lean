import TemplateSwap.Proofs.Replacement.Rewriting

namespace TemplateSwap.Replacer

open TemplateSwap.Text (Code codes)
open TemplateSwap.Pattern (Found Subject)
open TemplateSwap.Composite

variable {before after : Template} {f : Fragments} {firstOnly multiline : Bool} {r : Replacer}

/-- The table of groups leads from a name to a group that took part in a match. -/
def Caught (r : Replacer) (m : Found) (name : String) : Prop :=
  ∃ group others number span, r.groups.lookup name = some (group :: others) ∧
    r.pattern.groupNamed? group = some number ∧ m.final.span? number = some span

theorem Built.caught (hf : Sound f) (h : Built before after f firstOnly multiline r) {text : Subject}
    {m : Found} (hm : r.pattern.Matches text m) {name : String} (hname : name ∈ after.names) :
    Caught r m name := by
  obtain ⟨index, hindex, hmem⟩ := Template.lookup_placeholders (h.captured name hname)
  obtain ⟨first, last, hspan, -⟩ := h.span? hf hm hmem
  obtain ⟨number, hnumber, hspan⟩ := Option.bind_eq_some_iff.mp hspan
  have hhead := head?_groups before.placeholders name
  rw [hindex, Option.map_some] at hhead
  obtain ⟨others, hothers⟩ := List.head?_eq_some_iff.mp hhead
  refine ⟨groupName index, others, number, (first, last), ?_, hnumber, hspan⟩
  rw [h.groups, table, lookup_map, if_pos (h.captured name hname), hothers]

/-- A match is the before template, with what the groups captured in the place of the placeholders. So
nothing changes if the after template is the same. -/
theorem matches_instance {entries : List (Value × Value)} {location : Option Location}
    (hf : Fragments.compile entries location = .ok f)
    (h : compile before after f firstOnly multiline = .ok r) :
    (∀ (text : Subject) (m : Found), r.pattern.Matches text m →
      (∀ name index, .placeholder name index ∈ before.tokens →
        (Replacer.span? r.pattern m index).isSome = true) ∧
      (∀ name ∈ after.names, Caught r m name) ∧
      Divided text (fun _ index first last => Replacer.span? r.pattern m index = some (first, last))
        before.tokens m.start m.stop ∧
      Found.slice text m.start m.stop = Token.fill before.tokens fun _ index =>
        spanText text (Replacer.span? r.pattern m index)) ∧
    (after.tokens = before.tokens → (before.placeholders.map (·.1)).Nodup →
      ∀ text, r.replace text = text) := by
  have hsound := sound_of_compile hf
  have hbuilt := compile_ok.mp h
  have hdivided : ∀ (text : Subject) (m : Found), r.pattern.Matches text m →
      Divided text (fun _ index first last => Replacer.span? r.pattern m index = some (first, last))
        before.tokens m.start m.stop := by
    intro text m hm
    refine (hbuilt.divided hsound hm).imp ?_
    intro name index first last htakes
    rw [Replacer.span?, ← numberOf_eq]
    exact htakes.1
  constructor
  · intro text m hm
    refine ⟨?_, fun name => hbuilt.caught hsound hm, hdivided text m hm, ?_⟩
    · intro name index hmem
      obtain ⟨first, last, hspan, -⟩ := hbuilt.span? hsound hm hmem
      rw [hspan]
      rfl
    · refine ((hdivided text m hm).fill_eq ?_).symm
      intro name index first last hmem hspan
      rw [hspan]
      rfl
  · intro hsame hnodup text
    refine (hbuilt.edited hsound text).1.eq_of_same ?_
    intro position matched written site hreplace
    obtain ⟨-, inner, -, hreplaces⟩ := hreplace
    rw [hreplaces.written, hreplaces.matched, hsame]
    refine (hdivided _ _ hreplaces.isMatch).fill_eq ?_
    intro name index first last hmem hspan
    rw [Replacer.leftmost?, Template.lookup_of_nodup hnodup hmem, Option.bind_some, hspan]
    rfl

theorem matches_instance_pair :
    ∃ f r, Fragments.compile [(.text "x", .text "a|b"), (.text "y", .text "[0-9]*")] none = .ok f ∧
      compile { source := "${x}=${y}", tokens := [.placeholder "x" 0, .literal "=", .placeholder "y" 1] }
        { source := "${x}=${y}", tokens := [.placeholder "x" 0, .literal "=", .placeholder "y" 1] }
        f false false = .ok r ∧ ∀ text, r.replace text = text := by
  have hcompiles : ∃ f, Fragments.compile
      [(.text "x", .text "a|b"), (.text "y", .text "[0-9]*")] none = .ok f ∧
      (compile { source := "${x}=${y}", tokens := [.placeholder "x" 0, .literal "=", .placeholder "y" 1] }
        { source := "${x}=${y}", tokens := [.placeholder "x" 0, .literal "=", .placeholder "y" 1] }
        f false false).toOption.any (fun _ => true) = true := Results.exists_ok (by decide +kernel)
  obtain ⟨f, hf, hreplacer⟩ := hcompiles
  obtain ⟨r, hr, -⟩ := Results.exists_ok hreplacer
  exact ⟨f, r, hf, hr, (matches_instance hf hr).2 rfl (by decide)⟩

end TemplateSwap.Replacer
