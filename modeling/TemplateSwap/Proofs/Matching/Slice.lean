import TemplateSwap.Pattern.Match

namespace TemplateSwap.Pattern.Found

open TemplateSwap.Text (Code)

theorem slice_eq (text : Subject) (first last : Nat) :
    slice text first last = (text.toList.drop first).take (last - first) := by
  rw [slice, Array.toList_extract, List.extract_eq_take_drop]

theorem length_slice {text : Subject} {first last : Nat} (h : last ≤ text.size) :
    (slice text first last).length = last - first := by
  rw [slice_eq, List.length_take, List.length_drop, Array.length_toList]
  omega

theorem slice_self (text : Subject) (position : Nat) : slice text position position = [] := by
  simp [slice_eq]

theorem slice_append (text : Subject) {a b c : Nat} (hab : a ≤ b) (hbc : b ≤ c) :
    slice text a b ++ slice text b c = slice text a c := by
  simp only [slice_eq]
  have hlength : c - a = (b - a) + (c - b) := by omega
  have hdrop : text.toList.drop b = (text.toList.drop a).drop (b - a) := by
    rw [List.drop_drop]
    congr 1
    omega
  rw [hlength, hdrop, ← List.take_add]

theorem slice_succ {text : Subject} {a b : Nat} {c : Code} (h : text[a]? = some c) (hab : a < b) :
    slice text a b = c :: slice text (a + 1) b := by
  obtain ⟨hlt, rfl⟩ := Array.getElem?_eq_some_iff.mp h
  rw [slice_eq, slice_eq, List.drop_eq_getElem_cons (by simpa using hlt)]
  have hlength : b - a = b - (a + 1) + 1 := by omega
  rw [hlength, List.take_succ_cons]
  rfl

theorem slice_all (text : Subject) : slice text 0 text.size = text.toList := by
  rw [slice_eq, List.drop_zero, Nat.sub_zero, List.take_of_length_le (by simp)]

end TemplateSwap.Pattern.Found
