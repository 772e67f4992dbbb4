import TemplateSwap.Proofs.Replacement.Captures
import TemplateSwap.Proofs.Matching.Scan

namespace TemplateSwap

open TemplateSwap.Text (Code codes)
open TemplateSwap.Pattern (Found Subject Scan)

/-- A text and what it is changed to: a character is kept, or a stretch is replaced. The condition says
which stretch can be replaced at a position, by what, and why. -/
inductive Edited {α : Type} (edit : Nat → List Code → List Code → α → Prop) :
    Nat → List Code → List Code → List α → Prop
  | nil (position : Nat) : Edited edit position [] [] []
  | keep {position : Nat} {text out : List Code} {whys : List α} (c : Code)
    (h : Edited edit (position + 1) text out whys) :
    Edited edit position (c :: text) (c :: out) whys
  | replace {position : Nat} {matched written text out : List Code} {why : α} {whys : List α}
    (hedit : edit position matched written why)
    (h : Edited edit (position + matched.length) text out whys) :
    Edited edit position (matched ++ text) (written ++ out) (why :: whys)

namespace Edited

variable {α β : Type} {edit : Nat → List Code → List Code → α → Prop} {position : Nat}
  {text out : List Code} {whys : List α}

theorem same (edit : Nat → List Code → List Code → α → Prop) (position : Nat) (text : List Code) :
    Edited edit position text text [] := by
  induction text generalizing position with
  | nil => exact .nil position
  | cons c text ih => exact .keep c (ih (position + 1))

theorem append (h : Edited edit position text out whys) {text' out' : List Code} {whys' : List α}
    (h' : Edited edit (position + text.length) text' out' whys') :
    Edited edit position (text ++ text') (out ++ out') (whys ++ whys') := by
  induction h with
  | nil position => exact h'
  | keep c h ih =>
    refine .keep c (ih ?_)
    rwa [Nat.add_right_comm, Nat.add_assoc, ← List.length_cons]
  | replace hedit h ih =>
    rw [List.append_assoc, List.append_assoc]
    refine .replace hedit (ih ?_)
    rwa [Nat.add_assoc, ← List.length_append]

theorem map (h : Edited edit position text out whys) {edit' : Nat → List Code → List Code → β → Prop}
    {offset : Nat} {f : α → β}
    (hedit : ∀ position matched written why, edit position matched written why →
      edit' (offset + position) matched written (f why)) :
    Edited edit' (offset + position) text out (whys.map f) := by
  induction h with
  | nil position => exact .nil _
  | keep c h ih => exact .keep c ih
  | replace hwhy h ih =>
    refine .replace (hedit _ _ _ _ hwhy) ?_
    rw [Nat.add_assoc]
    exact ih

theorem imp (h : Edited edit position text out whys) {edit' : Nat → List Code → List Code → α → Prop}
    (himp : ∀ position matched written why, edit position matched written why →
      edit' position matched written why) : Edited edit' position text out whys := by
  induction h with
  | nil position => exact .nil position
  | keep c h ih => exact .keep c ih
  | replace hedit h ih => exact .replace (himp _ _ _ _ hedit) ih

/-- Nothing changes if each stretch is replaced by itself. -/
theorem eq_of_same (h : Edited edit position text out whys)
    (hsame : ∀ position matched written why, edit position matched written why → written = matched) :
    out = text := by
  induction h with
  | nil position => rfl
  | keep c h ih => rw [ih]
  | replace hedit h ih => rw [ih, hsame _ _ _ _ hedit]

end Edited

/-- A replaced stretch, after a gap that is kept. -/
structure Edit (α : Type) where
  gap : List Code
  matched : List Code
  written : List Code
  why : α

namespace Edit

def before {α : Type} (edits : List (Edit α)) : List Code := edits.flatMap fun e => e.gap ++ e.matched

def after {α : Type} (edits : List (Edit α)) : List Code := edits.flatMap fun e => e.gap ++ e.written

/-- Each stretch is replaced at its place, where the text begins at a position. -/
def Placed {α : Type} (edit : Nat → List Code → List Code → α → Prop) (position : Nat)
    (edits : List (Edit α)) : Prop :=
  ∀ done e more, edits = done ++ e :: more →
    edit (position + (before done ++ e.gap).length) e.matched e.written e.why

variable {α : Type} {edit : Nat → List Code → List Code → α → Prop} {position : Nat} {e : Edit α}
  {edits : List (Edit α)}

theorem position_cons (position : Nat) (e next : Edit α) (done : List (Edit α)) :
    position + (before (e :: done) ++ next.gap).length =
      position + e.gap.length + e.matched.length + (before done ++ next.gap).length := by
  simp only [before, List.flatMap_cons, List.length_append]
  omega

theorem Placed.cons (hfirst : edit (position + e.gap.length) e.matched e.written e.why)
    (hrest : Placed edit (position + e.gap.length + e.matched.length) edits) :
    Placed edit position (e :: edits) := by
  intro done e' more heq
  cases done with
  | nil =>
    obtain ⟨rfl, rfl⟩ := List.cons.inj heq
    exact hfirst
  | cons d done =>
    obtain ⟨rfl, rfl⟩ := List.cons.inj heq
    have hlater := hrest done e' more rfl
    rw [position_cons]
    exact hlater

theorem Placed.imp (h : Placed edit position edits) {edit' : Nat → List Code → List Code → α → Prop}
    (himp : ∀ position matched written why, edit position matched written why →
      edit' position matched written why) : Placed edit' position edits := by
  intro done e more heq
  exact himp _ _ _ _ (h done e more heq)

theorem Placed.head (h : Placed edit position (e :: edits)) :
    edit (position + e.gap.length) e.matched e.written e.why :=
  h [] e edits rfl

theorem Placed.tail (h : Placed edit position (e :: edits)) :
    Placed edit (position + e.gap.length + e.matched.length) edits := by
  intro done e' more heq
  have hlater := h (e :: done) e' more (by rw [heq, List.cons_append])
  rw [position_cons] at hlater
  exact hlater

end Edit

/-- The replaced stretches with the gaps between them. -/
theorem Edited.edits {α : Type} {edit : Nat → List Code → List Code → α → Prop} {position : Nat}
    {text out : List Code} {whys : List α} (h : Edited edit position text out whys) :
    ∃ (edits : List (Edit α)) (rest : List Code), text = Edit.before edits ++ rest ∧
      out = Edit.after edits ++ rest ∧ edits.map Edit.why = whys ∧ Edit.Placed edit position edits := by
  induction h with
  | nil position => exact ⟨[], [], rfl, rfl, rfl, by simp [Edit.Placed]⟩
  | @keep position text out whys c h ih =>
    obtain ⟨edits, rest, htext, hout, hwhys, hplaced⟩ := ih
    cases edits with
    | nil =>
      refine ⟨[], c :: rest, ?_, ?_, hwhys, by simp [Edit.Placed]⟩
      · rw [htext]
        rfl
      · rw [hout]
        rfl
    | cons e edits =>
      -- the character belongs to the gap before the first stretch
      have hgap : position + (c :: e.gap).length = position + 1 + e.gap.length := by
        rw [List.length_cons]
        omega
      refine ⟨{ e with gap := c :: e.gap } :: edits, rest, ?_, ?_, hwhys, .cons ?_ ?_⟩
      · rw [htext]
        rfl
      · rw [hout]
        rfl
      · rw [hgap]
        exact hplaced.head
      · rw [hgap]
        exact hplaced.tail
  | @replace position matched written text out why whys hedit h ih =>
    obtain ⟨edits, rest, htext, hout, hwhys, hplaced⟩ := ih
    refine ⟨⟨[], matched, written, why⟩ :: edits, rest, ?_, ?_, ?_, .cons hedit hplaced⟩
    · rw [htext]
      simp [Edit.before]
    · rw [hout]
      simp [Edit.after]
    · rw [← hwhys]
      rfl

end TemplateSwap
