import TemplateSwap.Proofs.Replacement.Rewriting

namespace TemplateSwap

open TemplateSwap.Text (Code)
open TemplateSwap.Pattern (Found)

/-- Cut a text, which begins at a position, into replaced stretches with the gaps before them, and what
is left after the last of them. -/
def Edit.cut (written : Site → List Code) : Nat → List Code → List Site → List (Edit Site) × List Code
  | _, text, [] => ([], text)
  | position, text, site :: sites =>
    let first := site.offset + site.found.start
    let length := site.found.stop - site.found.start
    let rest := text.drop (first - position)
    let (edits, last) := cut written (first + length) (rest.drop length) sites
    (⟨text.take (first - position), rest.take length, written site, site⟩ :: edits, last)

/-- Stretches with their gaps are what the text is cut into at their sites. -/
theorem Edit.cut_eq {edit : Nat → List Code → List Code → Site → Prop} {written : Site → List Code}
    (hedit : ∀ position matched out site, edit position matched out site →
      position = site.offset + site.found.start ∧
      matched.length = site.found.stop - site.found.start ∧ out = written site)
    {position : Nat} {edits : List (Edit Site)} (h : Edit.Placed edit position edits) (rest : List Code) :
    Edit.cut written position (Edit.before edits ++ rest) (edits.map Edit.why) = (edits, rest) := by
  induction edits generalizing position with
  | nil => rfl
  | cons e edits ih =>
    obtain ⟨hposition, hlength, hwritten⟩ := hedit _ _ _ _ h.head
    have hrest := ih h.tail
    have hgap : e.why.offset + e.why.found.start - position = e.gap.length := by omega
    have hshape : Edit.before (e :: edits) ++ rest = e.gap ++ (e.matched ++ (Edit.before edits ++ rest)) := by
      simp [Edit.before]
    rw [List.map_cons, hshape, Edit.cut, hgap, List.drop_left, List.take_left, ← hlength, List.drop_left,
      List.take_left, ← hposition, hrest, ← hwritten]

theorem Edit.length_cut (written : Site → List Code) (position : Nat) (text : List Code) (sites : List Site) :
    (Edit.cut written position text sites).1.length = sites.length := by
  induction sites generalizing position text with
  | nil => rfl
  | cons site sites ih => simp [Edit.cut, ih]

/-- Where the first stretch is cut out does not depend on what comes behind it. -/
theorem Edit.cut_cons (written : Site → List Code) (position : Nat) (text : List Code) (site : Site) :
    ∃ e next rest, e.why = site ∧ ∀ more, Edit.cut written position text (site :: more) =
      (e :: (Edit.cut written next rest more).1, (Edit.cut written next rest more).2) :=
  ⟨⟨_, _, _, site⟩, _, _, rfl, fun _ => rfl⟩

/-- The stretches that a replacer replaces, with what it writes, and what is left of the text. -/
def Replacer.parted (r : Replacer) (text : List Code) : List (Edit Site) × List Code :=
  Edit.cut (fun site => r.expand site.body.toArray site.found) 0 text
    (limited r.firstOnly (sites r.pattern (searched r.multiline text)))

theorem ExpandsIn.places {r : Replacer} {text matched written : List Code} {position : Nat} {site : Site}
    (h : ExpandsIn r text position matched written site) :
    position = site.offset + site.found.start ∧ matched.length = site.found.stop - site.found.start ∧
      written = r.expand site.body.toArray site.found := by
  obtain ⟨-, inner, rfl, hinner⟩ := h
  refine ⟨by rw [hinner.place], ?_, hinner.written⟩
  rw [hinner.matched, Found.length_slice hinner.isMatch.stop_le]

namespace Replacer

/-- Rewriting a text is to cut it and to put what is written in the place of each stretch. -/
theorem parted_eq (r : Replacer) (text : List Code) :
    text = Edit.before (r.parted text).1 ++ (r.parted text).2 ∧
      r.replaceCount text =
        (Edit.after (r.parted text).1 ++ (r.parted text).2, (r.parted text).1.length) ∧
      Edit.Placed (ExpandsIn r text) 0 (r.parted text).1 := by
  obtain ⟨edits, rest, htext, hout, hwhys, hplaced⟩ := r.exists_edits text
  have hcut : r.parted text = (edits, rest) := by
    have hsame := Edit.cut_eq (fun _ _ _ _ hexpands => hexpands.places) hplaced rest
    rw [← htext, hwhys] at hsame
    exact hsame
  rw [hcut]
  exact ⟨htext, hout, hplaced⟩

theorem length_parted (r : Replacer) (text : List Code) :
    (r.parted text).1.length = (limited r.firstOnly (sites r.pattern (searched r.multiline text))).length :=
  Edit.length_cut _ 0 text _

end Replacer

end TemplateSwap
