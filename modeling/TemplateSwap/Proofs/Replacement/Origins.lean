import TemplateSwap.Proofs.Replacement.Rewriting

namespace TemplateSwap

open TemplateSwap.Text (Code codes Lines.split Lines.join Lines.lineBreak)
open TemplateSwap.Pattern (Found Subject)

variable {P : Code → Prop} {text : List Code} {lines : List (List Code)} {c : Code}

theorem Pattern.Found.forall_slice {text : Subject} (h : ∀ c ∈ text.toList, P c) (first last : Nat) :
    ∀ c ∈ slice text first last, P c := by
  intro c hc
  rw [slice_eq] at hc
  exact h c (List.mem_of_mem_drop (List.mem_of_mem_take hc))

namespace Replacer

variable {r : Replacer} (hrecipe : ∀ s, Token.literal s ∈ r.recipe → ∀ c ∈ codes s, P c)

include hrecipe

theorem forall_expand {text : Subject} (h : ∀ c ∈ text.toList, P c) (m : Found) :
    ∀ c ∈ r.expand text m, P c := by
  intro c hc
  obtain ⟨token, htoken, hc⟩ := List.mem_flatMap.mp hc
  cases token with
  | literal s => exact hrecipe s htoken c hc
  | placeholder name index =>
    dsimp only [captured] at hc
    cases hgroup : Option.bind _ (m.group? text) with
    | none =>
      rw [hgroup] at hc
      cases hc
    | some written =>
      rw [hgroup] at hc
      obtain ⟨group, -, hwritten⟩ := Option.bind_eq_some_iff.mp hgroup
      obtain ⟨⟨first, last⟩, -, rfl⟩ := Option.map_eq_some_iff.mp hwritten
      exact Found.forall_slice h first last c hc

theorem forall_splice {text : Subject} (h : ∀ c ∈ text.toList, P c) (position : Nat) (found : List Found) :
    ∀ c ∈ r.splice text position found, P c := by
  induction found generalizing position with
  | nil => exact Found.forall_slice h position text.size
  | cons m rest ih =>
    rw [splice, List.forall_mem_append, List.forall_mem_append]
    exact ⟨⟨Found.forall_slice h position m.start, forall_expand hrecipe h m⟩, ih m.stop⟩

theorem forall_replaceWhole (h : ∀ c ∈ text, P c) : ∀ c ∈ (r.replaceWhole text).1, P c :=
  forall_splice hrecipe (by simpa using h) 0 _

theorem forall_replaceLine {line : List Code} (h : ∀ c ∈ line, P c) : ∀ c ∈ (r.replaceLine line).1, P c := by
  obtain ⟨ending, hending, hline, -⟩ := Text.Lines.holdAside_eq line
  rw [hline, List.forall_mem_append] at h
  have hreplaced : (r.replaceLine line).1 = (r.replaceWhole (Text.Lines.holdAside line).1).1 ++ ending := by
    rw [← hending]
    rfl
  rw [hreplaced, List.forall_mem_append]
  exact ⟨forall_replaceWhole hrecipe h.1, h.2⟩

theorem forall_replaceLines (h : ∀ line ∈ lines, ∀ c ∈ line, P c) :
    ∀ line ∈ (r.replaceLines lines).1, ∀ c ∈ line, P c := by
  induction lines with
  | nil => exact nofun
  | cons line rest ih =>
    rw [List.forall_mem_cons] at h
    have hline := forall_replaceLine hrecipe h.1
    unfold replaceLines
    dsimp only
    split_ifs
    · exact List.forall_mem_cons.mpr ⟨hline, h.2⟩
    · exact List.forall_mem_cons.mpr ⟨hline, ih h.2⟩

/-- What holds of the text, of the after template and of line breaks holds of all that is written. -/
theorem forall_replace (hbreak : P Lines.lineBreak) (h : ∀ c ∈ text, P c) : ∀ c ∈ r.replace text, P c := by
  rw [replace, replaceCount]
  split_ifs
  · exact forall_replaceWhole hrecipe h
  · exact Text.Lines.forall_join hbreak (forall_replaceLines hrecipe (Text.Lines.forall_split h))

end Replacer

end TemplateSwap
