import TemplateSwap.Text.RangeTable

namespace TemplateSwap.Text

def isAsciiBlank (c : Code) : Bool := (decide (9 ≤ c) && decide (c ≤ 13)) || c == 32

/-- Blanks beyond ASCII, the four information separators among them. -/
def wideBlankTable : RangeTable := ⟨[28, 32, 133, 134, 160, 161, 5760, 5761, 8192, 8203, 8232, 8234,
  8239, 8240, 8287, 8288, 12288, 12289]⟩

def isBlank (c : Code) : Bool := isAsciiBlank c || wideBlankTable.contains c

end TemplateSwap.Text
