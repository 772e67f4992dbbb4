import TemplateSwap.Text.Codes
import Mathlib.Data.List.Infix

namespace TemplateSwap.Text

/-- Every occurrence of a text replaced, from left to right and without overlap, or only the first one, and how many
were. The empty text occurs in front of every character and at the end. -/
def substitute (old new : List Code) (once : Bool) : List Code → List Code × Nat
  | [] => if old = [] then (new, 1) else ([], 0)
  | c :: rest =>
    if old <+: c :: rest then
      if once then (new ++ (c :: rest).drop old.length, 1)
      else
        let passed := if old = [] then [c] else []
        let (out, count) := substitute old new once (rest.drop (old.length - 1))
        (new ++ passed ++ out, count + 1)
    else
      let (out, count) := substitute old new once rest
      (c :: out, count)
termination_by text => text.length

example : substitute (codes "aa") (codes "b") false (codes "aaaaa") = (codes "bba", 2) := by decide +kernel

example : substitute [] (codes "-") false (codes "ab") = (codes "-a-b-", 3) := by decide +kernel

variable {old new : List Code} {once : Bool}

theorem substitute_nil (hold : old ≠ []) : substitute old new once [] = ([], 0) := by
  rw [substitute, if_neg hold]

theorem substitute_pass {c : Code} {rest : List Code} (h : ¬old <+: c :: rest) :
    substitute old new once (c :: rest) =
      (c :: (substitute old new once rest).1, (substitute old new once rest).2) := by
  rw [substitute, if_neg h]

theorem substitute_once {text : List Code} (h : old <+: text) :
    substitute old new true text = (new ++ text.drop old.length, 1) := by
  cases text with
  | nil =>
    obtain rfl := List.prefix_nil.mp h
    simp [substitute]
  | cons c rest => rw [substitute, if_pos h, if_pos rfl]

theorem substitute_front (hold : old ≠ []) (rest : List Code) :
    substitute old new false (old ++ rest) =
      (new ++ (substitute old new false rest).1, (substitute old new false rest).2 + 1) := by
  obtain ⟨c, old, rfl⟩ := List.exists_cons_of_ne_nil hold
  have hstarts : c :: old <+: c :: (old ++ rest) := List.prefix_append (c :: old) rest
  rw [List.cons_append, substitute, if_pos hstarts]
  simp

/-- How the empty text is replaced behind one of its occurrences. -/
def substituteBehind (new : List Code) : List Code → List Code × Nat
  | [] => ([], 0)
  | c :: rest => (c :: (substitute [] new false rest).1, (substitute [] new false rest).2)

theorem substitute_empty (text : List Code) :
    substitute [] new false text = (new ++ (substituteBehind new text).1, (substituteBehind new text).2 + 1) := by
  cases text with
  | nil => simp [substitute, substituteBehind]
  | cons c rest =>
    rw [substitute, if_pos List.nil_prefix, substituteBehind]
    simp

/-- What stands in front of the first occurrence is passed over. -/
theorem substitute_gap {gap rest : List Code} (h : ∀ i < gap.length, ¬old <+: (gap ++ rest).drop i) :
    substitute old new once (gap ++ rest) =
      (gap ++ (substitute old new once rest).1, (substitute old new once rest).2) := by
  induction gap with
  | nil => rfl
  | cons c gap ih =>
    have hlater : ∀ i < gap.length, ¬old <+: (gap ++ rest).drop i := fun i hi =>
      h (i + 1) (by simpa using hi)
    have hhere : ¬old <+: c :: (gap ++ rest) := h 0 (by simp)
    rw [List.cons_append, substitute_pass hhere, ih hlater]
    rfl

theorem substitute_absent {text : List Code} (h : ∀ i ≤ text.length, ¬old <+: text.drop i) :
    substitute old new once text = (text, 0) := by
  have hold : old ≠ [] := by
    rintro rfl
    exact h 0 (Nat.zero_le _) List.nil_prefix
  have hgap : substitute old new once (text ++ []) =
      (text ++ (substitute old new once []).1, (substitute old new once []).2) := by
    refine substitute_gap fun i hi => ?_
    rw [List.append_nil]
    exact h i hi.le
  rwa [List.append_nil, substitute_nil hold, List.append_nil] at hgap

/-- Nothing is replaced in a text that lacks a character. -/
theorem substitute_not_mem {text : List Code} {c : Code} (hc : c ∈ old) (htext : c ∉ text) :
    substitute old new once text = (text, 0) := by
  refine substitute_absent fun i _ hstarts => htext ?_
  exact List.mem_of_mem_drop (hstarts.subset hc)

theorem prefix_separated {d : Code} (hd : d ∉ old) {text rest : List Code} :
    old <+: text ++ d :: rest ↔ old <+: text := by
  constructor
  · intro h
    rcases Nat.lt_or_ge text.length old.length with hlt | hge
    · -- An occurrence that goes beyond the text in front has the separator in it.
      have hfront : text ++ [d] <+: text ++ d :: rest := ⟨rest, by simp⟩
      have hlength : (text ++ [d]).length ≤ old.length := by
        rw [List.length_append]
        exact hlt
      have hmore : text ++ [d] <+: old := List.prefix_of_prefix_length_le hfront h hlength
      exact absurd (hmore.subset (by simp)) hd
    · exact List.prefix_of_prefix_length_le h (List.prefix_append _ _) hge
  · intro h
    exact h.trans (List.prefix_append _ _)

/-- A text is replaced on both sides of a character that it lacks, each side on its own. If only the first occurrence
is replaced, the other side stays as it is when there was one on the first. -/
theorem substitute_separated (hold : old ≠ []) {d : Code} (hd : d ∉ old) (text rest : List Code) :
    substitute old new once (text ++ d :: rest) =
      if once = true ∧ 0 < (substitute old new once text).2 then
        ((substitute old new once text).1 ++ d :: rest, (substitute old new once text).2)
      else
        ((substitute old new once text).1 ++ d :: (substitute old new once rest).1,
          (substitute old new once text).2 + (substitute old new once rest).2) := by
  induction hlength : text.length using Nat.strong_induction_on generalizing text with
  | h n ih =>
    cases text with
    | nil =>
      have hnone : ¬old <+: d :: rest := by
        intro h
        have hnil : old <+: [] := (prefix_separated hd).mp (show old <+: [] ++ d :: rest from h)
        exact hold (List.prefix_nil.mp hnil)
      rw [List.nil_append, substitute_pass hnone, substitute_nil hold]
      simp
    | cons c text =>
      by_cases h : old <+: c :: text
      · cases once with
        | true =>
          have hfit : old.length ≤ (c :: text).length := h.length_le
          rw [substitute_once h, substitute_once ((prefix_separated hd).mpr h), if_pos ⟨rfl, Nat.one_pos⟩,
            List.drop_append_of_le_length hfit, List.append_assoc]
        | false =>
          obtain ⟨behind, hbehind⟩ := h
          have hshorter : behind.length < n := by
            have hpos := List.length_pos_of_ne_nil hold
            rw [← hlength, ← hbehind, List.length_append]
            omega
          rw [← hbehind, List.append_assoc, substitute_front hold, substitute_front hold,
            ih _ hshorter behind rfl]
          simp only [Bool.false_eq_true, false_and, if_false, List.append_assoc]
          rw [Nat.add_right_comm]
      · have hlater := ih text.length (by simp [← hlength]) text rfl
        have hnone : ¬old <+: c :: (text ++ d :: rest) := fun hstarts => h ((prefix_separated hd).mp hstarts)
        rw [List.cons_append, substitute_pass hnone, substitute_pass h, hlater]
        split_ifs <;> rfl

end TemplateSwap.Text
