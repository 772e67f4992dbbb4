import TemplateSwap.Pattern.Basic

namespace TemplateSwap.Pattern

open TemplateSwap.Text

def isWord (unicode : Bool) (c : Code) : Bool :=
  c == 95 || if unicode then isAlphanumeric c else isAsciiLetter c || isAsciiDigit c

namespace CharKind

/-- Without the mode for all scripts only ASCII characters are of a kind. -/
def accepts (unicode : Bool) (c : Code) : CharKind → Bool
  | digit => if unicode then isDecimal c else isAsciiDigit c
  | blank => if unicode then isBlank c else isAsciiBlank c
  | word => isWord unicode c

end CharKind

/-- The last character of the basic plane. -/
def basicPlane : Code := 0xFFFF

/-- Lower case in the given mode. -/
def foldCase (unicode : Bool) (c : Code) : Code := if unicode then toLower c else toLowerAscii c

/-- The characters in lower case that count as the given one, itself among them. -/
def foldedClass (unicode : Bool) (lower : Code) : List Code :=
  if unicode then caseClass lower else [lower]

/-- Everything whose lower case is the given character. -/
def foldSources (unicode : Bool) (lower : Code) : List Code :=
  if unicode then lowerSources lower
  else if 97 ≤ lower ∧ lower ≤ 122 then [lower - 32, lower]
  else if 65 ≤ lower ∧ lower ≤ 90 then []
  else [lower]

namespace SetItem

def accepts (unicode : Bool) (c : Code) : SetItem → Bool
  | one d => c == d
  | range first last => decide (first ≤ c) && decide (c ≤ last)
  | kind negated k => k.accepts unicode c != negated

/-- The test for a character in lower case. A single character beyond the basic plane is compared
as it stands; a range that reaches beyond it also accepts what has its upper case there. -/
def acceptsFolded (unicode : Bool) (lower : Code) : SetItem → Bool
  | one d =>
    if foldCase unicode d ≤ basicPlane then (foldedClass unicode lower).contains (foldCase unicode d)
    else lower == d
  | range first last =>
    (foldedClass unicode lower).any (fun l =>
      (foldSources unicode l).any fun c =>
        decide (first ≤ c) && decide (c ≤ last) && decide (c ≤ basicPlane))
    || (decide (basicPlane < last)
      && ((decide (first ≤ lower) && decide (lower ≤ last))
        || (decide (first ≤ toUpper lower) && decide (toUpper lower ≤ last))))
  | kind negated k => k.accepts unicode lower != negated

end SetItem

namespace Single

/-- Whether the test accepts a character under the switches in force. -/
def accepts (flags : Flags) (c : Code) : Single → Bool
  | any => flags.dotAll || c != 10
  | one d =>
    if flags.ignoreCase then
      (foldedClass flags.unicode (foldCase flags.unicode d)).contains (foldCase flags.unicode c)
    else c == d
  | notOne d =>
    if flags.ignoreCase then
      !(foldedClass flags.unicode (foldCase flags.unicode d)).contains (foldCase flags.unicode c)
    else c != d
  | oneOf negated items =>
    let inside :=
      if flags.ignoreCase then
        items.any (·.acceptsFolded flags.unicode (foldCase flags.unicode c))
      else items.any (·.accepts flags.unicode c)
    inside != negated

end Single

end TemplateSwap.Pattern
