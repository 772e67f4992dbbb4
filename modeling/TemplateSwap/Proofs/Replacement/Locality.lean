import TemplateSwap.Proofs.Replacement.Origins
import TemplateSwap.Spec

namespace TemplateSwap

open TemplateSwap.Text (Code codes Lines.lineBreak)
open TemplateSwap.Pattern (Found)

namespace Replacer

variable {r : Replacer} {text line : List Code} {lines : List (List Code)}

theorem replaceCount_lines (hmode : r.multiline = false) (text : List Code) :
    r.replaceCount text =
      (Text.Lines.join (r.replaceLines (Text.Lines.split text)).1, (r.replaceLines (Text.Lines.split text)).2) := by
  rw [replaceCount, hmode]
  rfl

/-- After the first line with a match the other lines stay as they are, if only one match is replaced. -/
theorem replaceLines_cons (r : Replacer) (line : List Code) (lines : List (List Code)) :
    r.replaceLines (line :: lines) =
      if r.firstOnly = true ∧ 0 < (r.replaceLine line).2 then
        ((r.replaceLine line).1 :: lines, (r.replaceLine line).2)
      else
        ((r.replaceLine line).1 :: (r.replaceLines lines).1,
          (r.replaceLine line).2 + (r.replaceLines lines).2) := by
  rw [replaceLines]
  simp only [Bool.and_eq_true, decide_eq_true_eq]

theorem replaceWhole_none (h : (r.replaceWhole text).2 = 0) : (r.replaceWhole text).1 = text := by
  have hfound : r.pattern.find text.toArray r.firstOnly = [] := List.eq_nil_of_length_eq_zero h
  rw [replaceWhole, hfound, splice, Found.slice_all]

theorem replaceLine_none (h : (r.replaceLine line).2 = 0) : (r.replaceLine line).1 = line := by
  have hbody : (r.replaceWhole (Text.Lines.holdAside line).1).1 = (Text.Lines.holdAside line).1 :=
    replaceWhole_none h
  calc (r.replaceLine line).1
      = (r.replaceWhole (Text.Lines.holdAside line).1).1 ++ (Text.Lines.holdAside line).2 := rfl
    _ = (Text.Lines.holdAside line).1 ++ (Text.Lines.holdAside line).2 := by rw [hbody]
    _ = line := Text.Lines.holdAside_append line

theorem replaceLines_none (h : (r.replaceLines lines).2 = 0) : (r.replaceLines lines).1 = lines := by
  induction lines with
  | nil => rfl
  | cons line lines ih =>
    rw [replaceLines_cons] at h ⊢
    split_ifs at h ⊢ with hfound
    · have hnone : (r.replaceLine line).2 = 0 := h
      omega
    · have hboth : (r.replaceLine line).2 = 0 ∧ (r.replaceLines lines).2 = 0 := Nat.add_eq_zero_iff.mp h
      have hline := replaceLine_none hboth.1
      have hlines := ih hboth.2
      simp only [hline, hlines]

theorem length_replaceLines (r : Replacer) (lines : List (List Code)) :
    (r.replaceLines lines).1.length = lines.length := by
  induction lines with
  | nil => rfl
  | cons line lines ih =>
    rw [replaceLines_cons]
    split_ifs
    · rfl
    · simp [ih]

/-- The lines behind are rewritten unless one match is enough and there was one in front. -/
theorem replaceLines_append (r : Replacer) (xs ys : List (List Code)) :
    r.replaceLines (xs ++ ys) =
      if r.firstOnly = true ∧ 0 < (r.replaceLines xs).2 then
        ((r.replaceLines xs).1 ++ ys, (r.replaceLines xs).2)
      else
        ((r.replaceLines xs).1 ++ (r.replaceLines ys).1, (r.replaceLines xs).2 + (r.replaceLines ys).2) := by
  induction xs with
  | nil => simp [replaceLines]
  | cons line xs ih =>
    rw [List.cons_append, replaceLines_cons, replaceLines_cons, ih]
    by_cases hhere : r.firstOnly = true ∧ 0 < (r.replaceLine line).2
    · simp only [if_pos hhere, List.cons_append]
    · have hlater : (r.firstOnly = true ∧ 0 < (r.replaceLine line).2 + (r.replaceLines xs).2) ↔
          (r.firstOnly = true ∧ 0 < (r.replaceLines xs).2) := by
        constructor
        · intro h
          have hnone : ¬0 < (r.replaceLine line).2 := fun hpos => hhere ⟨h.1, hpos⟩
          exact ⟨h.1, by omega⟩
        · intro h
          exact ⟨h.1, by omega⟩
      simp only [if_neg hhere, hlater]
      split_ifs
      · rfl
      · simp [Nat.add_assoc]

/-- Captures come from within a line, so that only the after template can bring in a line break. -/
theorem lineBreak_not_mem_replaceLines
    (hrecipe : ∀ s, Token.literal s ∈ r.recipe → Text.Lines.lineBreak ∉ codes s) (text : List Code) :
    ∀ line ∈ (r.replaceLines (Text.Lines.split text)).1, Text.Lines.lineBreak ∉ line := by
  have hliteral : ∀ s, Token.literal s ∈ r.recipe → ∀ c ∈ codes s, c ≠ Text.Lines.lineBreak := by
    intro s hs c hc heq
    exact hrecipe s hs (heq ▸ hc)
  have hlines : ∀ line ∈ Text.Lines.split text, ∀ c ∈ line, c ≠ Text.Lines.lineBreak := by
    intro line hline c hc heq
    exact Text.Lines.lineBreak_not_mem text line hline (heq ▸ hc)
  intro line hline hmem
  exact forall_replaceLines hliteral hlines line hline _ hmem rfl

/-- A text without line breaks in the after template has as many lines when it is rewritten. -/
theorem count_lineBreak (hmode : r.multiline = false)
    (hrecipe : ∀ s, Token.literal s ∈ r.recipe → Text.Lines.lineBreak ∉ codes s) (text : List Code) :
    (r.replace text).count Text.Lines.lineBreak = text.count Text.Lines.lineBreak := by
  have hne := r.replaceLines_ne_nil (Text.Lines.split_ne_nil text)
  have hsplit := Text.Lines.split_join hne (lineBreak_not_mem_replaceLines hrecipe text)
  have hold := Text.Lines.length_split text
  have hnew := Text.Lines.length_split (Text.Lines.join (r.replaceLines (Text.Lines.split text)).1)
  rw [hsplit, length_replaceLines, hold] at hnew
  rw [replace, replaceCount_lines hmode]
  dsimp only
  omega

/-- Texts on both sides of a line break are rewritten on their own, or only the first of them that has a match. With
no line break in the after template none is lost and none is added. -/
theorem replaceCount_local (hmode : r.multiline = false) {a b a' b' : List Code} {n m : Nat}
    (ha : r.replaceCount a = (a', n)) (hb : r.replaceCount b = (b', m)) :
    (r.firstOnly = false →
      r.replaceCount (a ++ Lines.lineBreak :: b) = (a' ++ Lines.lineBreak :: b', n + m)) ∧
    (r.firstOnly = true →
      r.replaceCount (a ++ Lines.lineBreak :: b) =
        if 0 < n then (a' ++ Lines.lineBreak :: b, n) else (a ++ Lines.lineBreak :: b', m)) ∧
    ((∀ s, Token.literal s ∈ r.recipe → Lines.lineBreak ∉ codes s) →
      a'.count Lines.lineBreak = a.count Lines.lineBreak) := by
  rw [replaceCount_lines hmode] at ha hb
  obtain ⟨rfl, rfl⟩ := Prod.mk.inj ha
  obtain ⟨rfl, rfl⟩ := Prod.mk.inj hb
  have hne (text : List Code) : (r.replaceLines (Text.Lines.split text)).1 ≠ [] :=
    r.replaceLines_ne_nil (Text.Lines.split_ne_nil text)
  have hboth := r.replaceLines_append (Text.Lines.split a) (Text.Lines.split b)
  rw [replaceCount_lines hmode, Text.Lines.split_append, hboth]
  refine ⟨fun hall => ?_, fun hfirst => ?_, fun hrecipe => ?_⟩
  · rw [if_neg (by simp [hall]), Text.Lines.join_append (hne a) (hne b)]
  · by_cases hn : 0 < (r.replaceLines (Text.Lines.split a)).2
    · rw [if_pos ⟨hfirst, hn⟩, if_pos hn, Text.Lines.join_append (hne a) (Text.Lines.split_ne_nil b),
        Text.Lines.join_split]
    · have hnone : (r.replaceLines (Text.Lines.split a)).2 = 0 := Nat.eq_zero_of_not_pos hn
      have hsame := replaceLines_none hnone
      rw [if_neg (fun h => hn h.2), if_neg hn, Text.Lines.join_append (hne a) (hne b), hsame, hnone,
        Text.Lines.join_split, Nat.zero_add]
  · have hcount := count_lineBreak hmode hrecipe a
    rw [replace, replaceCount_lines hmode] at hcount
    exact hcount

theorem replaceCount_local_first :
    ∃ s r, Spec.create { before := "${x}:", after := "<${x}>", groups :=
        [(.text "x", .text "[a-z]")], firstOnly := true } = .ok s ∧
      s.replacer = .ok r ∧ r.multiline = false ∧
      r.replaceCount (codes "-\r\nk:") = (codes "-\r\n<k>", 1) ∧
      r.replaceCount (codes "m:\nn:") = (codes "<m>\nn:", 1) ∧
      r.replaceCount (codes "-\r\nk:" ++ Lines.lineBreak :: codes "m:\nn:") = (codes "-\r\n<k>\nm:\nn:", 1) := by
  have hcreate : (Spec.create { before := "${x}:", after := "<${x}>", groups :=
      [(.text "x", .text "[a-z]")], firstOnly := true }).toOption.any (fun s =>
        s.replacer.toOption.any fun r : Replacer =>
      decide (r.multiline = false ∧ r.firstOnly = true ∧
        r.replaceCount (codes "-\r\nk:") = (codes "-\r\n<k>", 1) ∧
        r.replaceCount (codes "m:\nn:") = (codes "<m>\nn:", 1))) = true := by decide +kernel
  obtain ⟨s, hs, hreplacer⟩ := Results.exists_ok hcreate
  obtain ⟨r, hr, hruns⟩ := Results.exists_ok hreplacer
  obtain ⟨hmode, hfirst, ha, hb⟩ := of_decide_eq_true hruns
  have hboth := (replaceCount_local hmode ha hb).2.1 hfirst
  rw [if_pos Nat.one_pos] at hboth
  refine ⟨s, r, hs, hr, hmode, ha, hb, hboth.trans ?_⟩
  decide

end Replacer

end TemplateSwap
