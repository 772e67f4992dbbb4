import TemplateSwap.Text.Codes
import Mathlib.Data.List.Basic

namespace TemplateSwap.Text

theorem codes_append (s t : String) : codes (s ++ t) = codes s ++ codes t := by
  simp [codes]

theorem codes_intercalate (parts : List String) : codes ("".intercalate parts) = parts.flatMap codes := by
  induction parts with
  | nil => rfl
  | cons part parts ih =>
    cases parts with
    | nil => simp
    | cons next parts =>
      rw [String.intercalate_cons_cons, codes_append, codes_append, ih]
      simp [codes]

theorem codes_ofCodes {cs : List Code} (h : ∀ c ∈ cs, (Char.ofNat c).toNat = c) :
    codes (ofCodes cs) = cs := by
  simp only [codes, ofCodes, String.toList_ofList, List.map_map]
  exact (List.map_congr_left h).trans (List.map_id _)

theorem toNat_ofNat_of_mem_codes {s : String} {c : Code} (h : c ∈ codes s) : (Char.ofNat c).toNat = c := by
  obtain ⟨d, -, rfl⟩ := List.mem_map.mp h
  rw [ofNat_toNat]

theorem toNat_injective : Function.Injective Char.toNat := by
  intro c d h
  rw [← ofNat_toNat c, h, ofNat_toNat]

theorem mem_codes {c : Char} {text : String} : c.toNat ∈ codes text ↔ c ∈ text.toList :=
  List.mem_map_of_injective toNat_injective

end TemplateSwap.Text
