namespace TemplateSwap.Text

/-- A code point. -/
abbrev Code := Nat

def isAsciiDigit (c : Code) : Bool := decide (48 ≤ c) && decide (c ≤ 57)

def isAsciiLetter (c : Code) : Bool :=
  (decide (65 ≤ c) && decide (c ≤ 90)) || (decide (97 ≤ c) && decide (c ≤ 122))

/-- Ascending boundaries: the set opens at the first, closes before the second, and so on. -/
structure RangeTable where
  bounds : List Nat

namespace RangeTable

/-- A code point belongs if it lies past an odd number of boundaries. -/
def contains (t : RangeTable) (c : Code) : Bool :=
  (t.bounds.takeWhile (· ≤ c)).length % 2 == 1

/-- The first code point of the range that holds the given one. -/
def startOf? (t : RangeTable) (c : Code) : Option Code :=
  if t.contains c then (t.bounds.takeWhile (· ≤ c)).getLast? else none

end RangeTable

end TemplateSwap.Text
