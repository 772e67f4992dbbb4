import TemplateSwap.Text.RangeTable

namespace TemplateSwap.Text

def codes (s : String) : List Code := s.toList.map Char.toNat

/-- Inverse of codes on code points that are characters. -/
def ofCodes (cs : List Code) : String := String.ofList (cs.map Char.ofNat)

theorem ofNat_toNat (c : Char) : Char.ofNat c.toNat = c := by simp

theorem ofCodes_codes (s : String) : ofCodes (codes s) = s := by
  simp [ofCodes, codes, Function.comp_def]

end TemplateSwap.Text
