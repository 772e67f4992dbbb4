import TemplateSwap.Proofs.Replacement.Locality

namespace TemplateSwap

namespace Text.Lines

variable {text line : List Code} {lines : List (List Code)}

/-- Every line break becomes a carriage return and a line break. -/
def crlf (text : List Code) : List Code :=
  text.flatMap fun c => if c = lineBreak then [carriageReturn, lineBreak] else [c]

/-- Lines with a carriage return at the end of each but the last. -/
def returned : List (List Code) → List (List Code)
  | [] => []
  | [line] => [line]
  | line :: lines => (line ++ [carriageReturn]) :: returned lines

theorem returned_cons (h : lines ≠ []) :
    returned (line :: lines) = (line ++ [carriageReturn]) :: returned lines := by
  cases lines with
  | nil => exact absurd rfl h
  | cons next lines => rfl

theorem returned_ne_nil (h : lines ≠ []) : returned lines ≠ [] := by
  cases lines with
  | nil => exact absurd rfl h
  | cons line lines =>
    cases lines with
    | nil => exact List.cons_ne_nil line []
    | cons next lines =>
      rw [returned_cons (List.cons_ne_nil next lines)]
      exact List.cons_ne_nil _ _

theorem lineBreak_not_mem_returned (h : ∀ line ∈ lines, lineBreak ∉ line) :
    ∀ line ∈ returned lines, lineBreak ∉ line := by
  induction lines with
  | nil => exact nofun
  | cons line rest ih =>
    by_cases hlast : rest = []
    · subst hlast
      exact h
    · rw [List.forall_mem_cons] at h
      have hline : lineBreak ∉ line ++ [carriageReturn] := by
        rw [List.mem_append, not_or]
        exact ⟨h.1, by decide⟩
      rw [returned_cons hlast, List.forall_mem_cons]
      exact ⟨hline, ih h.2⟩

theorem crlf_append (a b : List Code) : crlf (a ++ b) = crlf a ++ crlf b := List.flatMap_append

theorem crlf_eq_self (h : lineBreak ∉ text) : crlf text = text := by
  induction text with
  | nil => rfl
  | cons c rest ih =>
    rw [List.mem_cons, not_or] at h
    have hrest := ih h.2
    rw [crlf] at hrest ⊢
    rw [List.flatMap_cons, if_neg (Ne.symm h.1), hrest, List.singleton_append]

theorem crlf_join (h : ∀ line ∈ lines, lineBreak ∉ line) : crlf (join lines) = join (returned lines) := by
  induction lines with
  | nil => rfl
  | cons line rest ih =>
    rw [List.forall_mem_cons] at h
    by_cases hlast : rest = []
    · subst hlast
      exact crlf_eq_self h.1
    · have hbreak : crlf [lineBreak] = [carriageReturn] ++ [lineBreak] := rfl
      rw [join_cons hlast, crlf_append, crlf_append, crlf_eq_self h.1, hbreak, ih h.2, returned_cons hlast,
        join_cons (returned_ne_nil hlast), List.append_assoc, List.append_assoc]

theorem split_crlf (text : List Code) : split (crlf text) = returned (split text) := by
  have hlines := lineBreak_not_mem text
  have hne := returned_ne_nil (split_ne_nil text)
  calc split (crlf text)
      = split (crlf (join (split text))) := by rw [join_split]
    _ = split (join (returned (split text))) := by rw [crlf_join hlines]
    _ = returned (split text) := split_join hne (lineBreak_not_mem_returned hlines)

end Text.Lines

open TemplateSwap.Text (Code codes Lines.lineBreak Lines.carriageReturn Lines.crlf)

namespace Replacer

variable {r : Replacer} {line : List Code} {lines : List (List Code)}

/-- The carriage return at the end of a line is not seen by the pattern. -/
theorem replaceLine_return (h : line.getLast? ≠ some Lines.carriageReturn) :
    r.replaceLine (line ++ [Lines.carriageReturn]) =
      ((r.replaceLine line).1 ++ [Lines.carriageReturn], (r.replaceLine line).2) := by
  have hplain : r.replaceLine line = ((r.replaceWhole line).1 ++ [], (r.replaceWhole line).2) := by
    rw [replaceLine, Text.Lines.holdAside_eq_self h]
  rw [hplain, replaceLine, Text.Lines.holdAside_return, List.append_nil]

theorem replaceLines_returned (h : ∀ line ∈ lines, line.getLast? ≠ some Lines.carriageReturn) :
    r.replaceLines (Text.Lines.returned lines) =
      (Text.Lines.returned (r.replaceLines lines).1, (r.replaceLines lines).2) := by
  induction lines with
  | nil => rfl
  | cons line rest ih =>
    rw [List.forall_mem_cons] at h
    by_cases hlast : rest = []
    · subst hlast
      have hone : (r.replaceLines [line]).1 = [(r.replaceLine line).1] := by
        rw [replaceLines_cons]
        split_ifs <;> rfl
      rw [hone]
      exact Prod.ext hone rfl
    · have hline := replaceLine_return (r := r) h.1
      have hrest := ih h.2
      have hmore := r.replaceLines_ne_nil hlast
      rw [Text.Lines.returned_cons hlast, replaceLines_cons, replaceLines_cons, hline, hrest]
      split_ifs
      · rw [Text.Lines.returned_cons hlast]
      · rw [Text.Lines.returned_cons hmore]

/-- Rewriting a text with the other line endings is rewriting the text and then changing its line endings. -/
theorem replaceCount_crlf (hmode : r.multiline = false)
    (hrecipe : ∀ s, Token.literal s ∈ r.recipe → Lines.lineBreak ∉ codes s) {text : List Code}
    (htext : Lines.carriageReturn ∉ text) :
    r.replaceCount (Lines.crlf text) = (Lines.crlf (r.replaceCount text).1, (r.replaceCount text).2) := by
  have hlast : ∀ line ∈ Text.Lines.split text, line.getLast? ≠ some Lines.carriageReturn := by
    intro line hline heq
    have hmem := Text.Lines.mem_join hline (List.mem_of_getLast? heq)
    rw [Text.Lines.join_split] at hmem
    exact htext hmem
  have hlines := replaceLines_returned hlast (r := r)
  have hwritten := Text.Lines.crlf_join (lineBreak_not_mem_replaceLines hrecipe text)
  rw [replaceCount_lines hmode, replaceCount_lines hmode, Text.Lines.split_crlf, hlines, hwritten]

theorem replaceCount_crlf_anchored :
    ∃ s r, Spec.create { before := "${x}", after := "<${x}>", groups :=
        [(.text "x", .text "[^a]?$")] } = .ok s ∧
      s.replacer = .ok r ∧ r.multiline = false ∧
      (∀ s, Token.literal s ∈ r.recipe → Lines.lineBreak ∉ codes s) ∧
      Lines.carriageReturn ∉ codes "ab\n\nca" ∧
      r.replaceCount (Lines.crlf (codes "ab\n\nca")) = (codes "a<b><>\r\n<>\r\nca<>", 4) := by
  have hcreate : (Spec.create { before := "${x}", after := "<${x}>", groups :=
      [(.text "x", .text "[^a]?$")] }).toOption.any (fun s =>
        s.replacer.toOption.any fun r : Replacer =>
      decide (r.multiline = false ∧ r.recipe = [.literal "<", .placeholder "x" 0, .literal ">"] ∧
        r.replaceCount (codes "ab\n\nca") = (codes "a<b><>\n<>\nca<>", 4))) = true := by decide +kernel
  obtain ⟨s, hs, hreplacer⟩ := Results.exists_ok hcreate
  obtain ⟨r, hr, hruns⟩ := Results.exists_ok hreplacer
  obtain ⟨hmode, hrecipe, hcount⟩ := of_decide_eq_true hruns
  have hliterals : ∀ s, Token.literal s ∈ r.recipe → Lines.lineBreak ∉ codes s := by
    intro s hmem
    rw [hrecipe] at hmem
    have hs : s = "<" ∨ s = ">" := by simpa using hmem
    rcases hs with rfl | rfl
    · decide
    · decide
  have htext : Lines.carriageReturn ∉ codes "ab\n\nca" := by decide
  have hreturned := replaceCount_crlf hmode hliterals htext
  rw [hcount] at hreturned
  refine ⟨s, r, hs, hr, hmode, hliterals, htext, hreturned.trans ?_⟩
  decide

end Replacer

end TemplateSwap
