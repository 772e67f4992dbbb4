import TemplateSwap.Text.Lines
import Mathlib.Data.List.Basic

namespace TemplateSwap.Text.Lines

variable {P : Code → Prop} {text line : List Code} {lines : List (List Code)} {c : Code}

theorem join_cons (h : lines ≠ []) : join (line :: lines) = line ++ ([lineBreak] ++ join lines) := by
  cases lines with
  | nil => exact absurd rfl h
  | cons next lines => rfl

theorem join_append {xs ys : List (List Code)} (hx : xs ≠ []) (hy : ys ≠ []) :
    join (xs ++ ys) = join xs ++ lineBreak :: join ys := by
  induction xs with
  | nil => exact absurd rfl hx
  | cons line xs ih =>
    by_cases hlast : xs = []
    · subst hlast
      exact join_cons hy
    · have hmore : xs ++ ys ≠ [] := List.append_ne_nil_of_left_ne_nil hlast ys
      rw [List.cons_append, join_cons hmore, ih hlast, join_cons hlast]
      simp

theorem forall_join (hbreak : P lineBreak) (h : ∀ line ∈ lines, ∀ c ∈ line, P c) : ∀ c ∈ join lines, P c := by
  induction lines with
  | nil => exact nofun
  | cons line rest ih =>
    rw [List.forall_mem_cons] at h
    cases rest with
    | nil => exact h.1
    | cons next rest =>
      rw [join_cons (List.cons_ne_nil next rest), List.forall_mem_append, List.forall_mem_append]
      exact ⟨h.1, by simpa using hbreak, ih h.2⟩

theorem mem_join (hline : line ∈ lines) (hc : c ∈ line) : c ∈ join lines := by
  induction lines with
  | nil => cases hline
  | cons first rest ih =>
    cases rest with
    | nil =>
      obtain rfl := List.mem_singleton.mp hline
      exact hc
    | cons next rest =>
      rw [join_cons (List.cons_ne_nil next rest), List.mem_append, List.mem_append]
      rcases List.mem_cons.mp hline with rfl | hline
      · exact .inl hc
      · exact .inr (.inr (ih hline))

theorem forall_split (h : ∀ c ∈ text, P c) : ∀ line ∈ split text, ∀ c ∈ line, P c := by
  intro line hline c hc
  have hmem := mem_join hline hc
  rw [join_split] at hmem
  exact h c hmem

theorem lineBreak_not_mem (text : List Code) : ∀ line ∈ split text, lineBreak ∉ line := by
  induction text with
  | nil => simp [split]
  | cons c rest ih =>
    intro line hline
    unfold split at hline
    split at hline
    · rcases List.mem_cons.mp hline with rfl | hline
      · simp
      · exact ih line hline
    · next hc =>
      split at hline
      · next hnil => exact absurd hnil (split_ne_nil rest)
      · next first lines hlines =>
        rw [hlines, List.forall_mem_cons] at ih
        rcases List.mem_cons.mp hline with rfl | hline
        · rw [List.mem_cons, not_or]
          exact ⟨Ne.symm hc, ih.1⟩
        · exact ih.2 line hline

theorem split_eq_singleton (h : lineBreak ∉ text) : split text = [text] := by
  induction text with
  | nil => rfl
  | cons c rest ih =>
    rw [List.mem_cons, not_or] at h
    rw [split, if_neg (Ne.symm h.1), ih h.2]

/-- Two texts with a line break between them have the lines of both. -/
theorem split_append (a b : List Code) : split (a ++ lineBreak :: b) = split a ++ split b := by
  induction a with
  | nil =>
    change split (lineBreak :: b) = [] :: split b
    rw [split, if_pos rfl]
  | cons c a ih =>
    obtain ⟨line, lines, hlines⟩ := List.exists_cons_of_ne_nil (split_ne_nil a)
    rw [List.cons_append, split, split, ih, hlines]
    by_cases hc : c = lineBreak
    · simp [hc]
    · simp [hc]

theorem split_join (hne : lines ≠ []) (h : ∀ line ∈ lines, lineBreak ∉ line) : split (join lines) = lines := by
  induction lines with
  | nil => exact absurd rfl hne
  | cons line rest ih =>
    rw [List.forall_mem_cons] at h
    by_cases hlast : rest = []
    · subst hlast
      exact split_eq_singleton h.1
    · have hrest := ih hlast h.2
      rw [join_cons hlast, List.singleton_append, split_append, split_eq_singleton h.1, hrest]
      rfl

theorem length_split (text : List Code) : (split text).length = text.count lineBreak + 1 := by
  induction text with
  | nil => rfl
  | cons c rest ih =>
    obtain ⟨line, lines, hlines⟩ := List.exists_cons_of_ne_nil (split_ne_nil rest)
    rw [hlines, List.length_cons] at ih
    rw [split, hlines]
    by_cases hc : c = lineBreak
    · simp [hc, ih]
    · simp [hc, ih]

theorem holdAside_eq (line : List Code) :
    ∃ ending, (holdAside line).2 = ending ∧ line = (holdAside line).1 ++ ending ∧
      (ending = [carriageReturn] ∨ ending = [] ∧ (holdAside line).1.getLast? ≠ some carriageReturn) := by
  refine ⟨_, rfl, ?_⟩
  unfold holdAside
  split_ifs with h
  · have hlast := List.dropLast_append_getLast? carriageReturn h
    exact ⟨hlast.symm, .inl rfl⟩
  · exact ⟨(List.append_nil line).symm, .inr ⟨rfl, h⟩⟩

theorem holdAside_append (line : List Code) : (holdAside line).1 ++ (holdAside line).2 = line := by
  obtain ⟨ending, hending, hline, -⟩ := holdAside_eq line
  rw [hending, ← hline]

theorem holdAside_eq_self (h : line.getLast? ≠ some carriageReturn) : holdAside line = (line, []) := if_neg h

theorem holdAside_return (line : List Code) :
    holdAside (line ++ [carriageReturn]) = (line, [carriageReturn]) := by
  rw [holdAside, if_pos List.getLast?_concat, List.dropLast_concat]

end TemplateSwap.Text.Lines
