import TemplateSwap.Proofs.Replacement.Cutting
import TemplateSwap.Proofs.Replacement.Reversal

namespace TemplateSwap

open TemplateSwap.Text (Code codes)
open TemplateSwap.Composite

namespace Replacer

variable {before after : Template} {f : Fragments} {firstOnly multiline : Bool} {r : Replacer}

/-- A match is the before template with what its own occurrences captured. -/
theorem Built.matched_eq_fill (hf : Sound f) (h : Built before after f firstOnly multiline r)
    {text matched written : List Code} {position : Nat} {site : Site}
    (hreplaces : ReplacesIn r before after multiline text position matched written site) :
    matched = Token.fill before.tokens fun _ index =>
      spanText site.body.toArray (Replacer.span? r.pattern site.found index) := by
  obtain ⟨-, inner, -, hinner⟩ := hreplaces
  rw [hinner.matched]
  refine ((h.divided hf hinner.isMatch).fill_eq ?_).symm
  intro name index first last hmem htakes
  rw [Replacer.span?, ← numberOf_eq, htakes.1]
  rfl

end Replacer

theorem Token.fill_congr {tokens : List Token} {value value' : String → Nat → List Code}
    (h : ∀ name index, .placeholder name index ∈ tokens → value name index = value' name index) :
    Token.fill tokens value = Token.fill tokens value' := by
  refine List.flatMap_congr fun token hmem => ?_
  cases token with
  | literal s => rfl
  | placeholder name index => exact h name index hmem

/-- A stretch of the rewritten text stands where one was replaced. It is what was written there, and the
reversed replacer captures in it for each name what every occurrence of the name had captured. -/
structure Edit.Undoes (r r' : Replacer) (before after : Template) (e e' : Edit Site) : Prop where
  gap : e'.gap = e.gap
  matched : e'.matched = e.written
  captured : ∀ p ∈ before.placeholders,
    spanText e'.why.body.toArray (Replacer.leftmost? r'.pattern after e'.why.found p.1) =
      spanText e.why.body.toArray (Replacer.span? r.pattern e.why.found p.2)

instance (r r' : Replacer) (before after : Template) (e e' : Edit Site) :
    Decidable (Edit.Undoes r r' before after e e') :=
  decidable_of_iff (e'.gap = e.gap ∧ e'.matched = e.written ∧ ∀ p ∈ before.placeholders,
      spanText e'.why.body.toArray (Replacer.leftmost? r'.pattern after e'.why.found p.1) =
        spanText e.why.body.toArray (Replacer.span? r.pattern e.why.found p.2))
    ⟨fun h => ⟨h.1, h.2.1, h.2.2⟩, fun h => ⟨h.gap, h.matched, h.captured⟩⟩

namespace Replacer

variable {s s' : Spec} {r r' : Replacer}

/-- What the reversed replacer writes for a stretch is what was there before. -/
theorem Built.undoes (hf : Sound s.fragments)
    (h : Built s.before s.after s.fragments s.firstOnly s.multiline r) {text out : List Code}
    {position position' : Nat} {e e' : Edit Site}
    (he : ReplacesIn r s.before s.after s.multiline text position e.matched e.written e.why)
    (he' : ReplacesIn r' s.after s.before s.multiline out position' e'.matched e'.written e'.why)
    (hundoes : Edit.Undoes r r' s.before s.after e e') : e'.written = e.matched := by
  obtain ⟨-, inner, -, hinner⟩ := he'
  rw [hinner.written, h.matched_eq_fill hf he]
  refine Token.fill_congr fun name index hmem => ?_
  exact hundoes.captured (name, index) (Template.mem_placeholders.mpr hmem)

theorem Built.after_eq_before (hf : Sound s.fragments)
    (h : Built s.before s.after s.fragments s.firstOnly s.multiline r) {text out : List Code}
    {position position' : Nat} {edits edits' : List (Edit Site)}
    (hundoes : List.Forall₂ (Edit.Undoes r r' s.before s.after) edits edits')
    (hplaced : Edit.Placed (ReplacesIn r s.before s.after s.multiline text) position edits)
    (hplaced' : Edit.Placed (ReplacesIn r' s.after s.before s.multiline out) position' edits') :
    Edit.after edits' = Edit.before edits := by
  induction hundoes generalizing position position' with
  | nil => rfl
  | @cons e e' edits edits' he _ ih =>
    have hwritten := h.undoes hf hplaced.head hplaced'.head he
    have hlater := ih hplaced.tail hplaced'.tail
    have hgap := he.gap
    rw [Edit.after, Edit.before, List.flatMap_cons, List.flatMap_cons, hgap, hwritten]
    exact congrArg (e.gap ++ e.matched ++ ·) hlater

/-- The reversed replacer restores a text, if it cuts the rewritten text where the text was cut, and
captures there what was captured before. -/
theorem reverse_restores {entries : List (Value × Value)} {location : Option Location}
    (hf : Fragments.compile entries location = .ok s.fragments) (hreverse : s.reverse = .ok s')
    (hr : s.replacer = .ok r) (hr' : s'.replacer = .ok r') (text : List Code)
    (hrest : (r'.parted (r.replace text)).2 = (r.parted text).2)
    (hedits : List.Forall₂ (Edit.Undoes r r' s.before s.after) (r.parted text).1
      (r'.parted (r.replace text)).1) :
    text = Edit.before (r.parted text).1 ++ (r.parted text).2 ∧
      r.replaceCount text =
        (Edit.after (r.parted text).1 ++ (r.parted text).2, (r.parted text).1.length) ∧
      r'.replaceCount (r.replace text) = (text, (r.parted text).1.length) := by
  obtain ⟨-, rfl⟩ := Spec.reverse_ok.mp hreverse
  have hsound := sound_of_compile hf
  have hbuilt := compile_ok.mp hr
  obtain ⟨htext, hout, hplaced⟩ := r.parted_eq text
  obtain ⟨-, hout', hplaced'⟩ := r'.parted_eq (r.replace text)
  have hrestored := hbuilt.after_eq_before hsound hedits
    (hplaced.imp fun _ _ _ _ hexpands => hbuilt.replaces hsound hexpands)
    (hplaced'.imp fun _ _ _ _ hexpands => (compile_ok.mp hr').replaces hsound hexpands)
  refine ⟨htext, hout, ?_⟩
  rw [hout', hrestored, hrest, ← htext, hedits.length_eq]

/-- Two lines with three matches, whose captures are written in the other order. -/
theorem reverse_restores_lines :
    ∃ s s' r r', Spec.create { before := "${x}=${y}", after := "${y}:${x}", groups :=
        [(.text "x", .text "[a-z]"), (.text "y", .text "(?:0|1)+")] } = .ok s ∧
      s.reverse = .ok s' ∧ s.replacer = .ok r ∧ s'.replacer = .ok r' ∧
      r.replace (codes "a=1, b=10\r\n c=0") = codes "1:a, 10:b\r\n 0:c" ∧
      r'.replaceCount (codes "1:a, 10:b\r\n 0:c") = (codes "a=1, b=10\r\n c=0", 3) := by
  have hcreated : ∃ s, Spec.create { before := "${x}=${y}", after := "${y}:${x}", groups :=
        [(.text "x", .text "[a-z]"), (.text "y", .text "(?:0|1)+")] } = .ok s ∧
      s.reverse.toOption.any (fun s' => s.replacer.toOption.any fun r => s'.replacer.toOption.any fun r' =>
        decide (r.replace (codes "a=1, b=10\r\n c=0") = codes "1:a, 10:b\r\n 0:c" ∧
          (r'.parted (codes "1:a, 10:b\r\n 0:c")).2 = (r.parted (codes "a=1, b=10\r\n c=0")).2 ∧
          (r.parted (codes "a=1, b=10\r\n c=0")).1.length = 3 ∧
          List.Forall₂ (Edit.Undoes r r' s.before s.after) (r.parted (codes "a=1, b=10\r\n c=0")).1
            (r'.parted (codes "1:a, 10:b\r\n 0:c")).1)) = true := Results.exists_ok (by decide +kernel)
  obtain ⟨s, hs, hreverses⟩ := hcreated
  obtain ⟨s', hs', hreplacer⟩ := Results.exists_ok hreverses
  obtain ⟨r, hr, hreplacer'⟩ := Results.exists_ok hreplacer
  obtain ⟨r', hr', hchecks⟩ := Results.exists_ok hreplacer'
  obtain ⟨hout, hrest, hlength, hedits⟩ := of_decide_eq_true hchecks
  rw [← hout] at hrest hedits
  obtain ⟨-, -, hrestored⟩ := reverse_restores (Spec.create_ok hs).1 hs' hr hr' _ hrest hedits
  rw [hlength, hout] at hrestored
  exact ⟨s, s', r, r', hs, hs', hr, hr', hout, hrestored⟩

end Replacer

end TemplateSwap
