import TemplateSwap.Pattern.Basic
import TemplateSwap.Pattern.Source
import TemplateSwap.Text.CharacterName

namespace TemplateSwap.Pattern

open TemplateSwap.Text (Code isAsciiDigit isAsciiLetter characterNamed? ofCodes codes)

def isOctalDigit (c : Code) : Bool := decide (48 ≤ c) && decide (c ≤ 55)

def isHexDigit (c : Code) : Bool :=
  isAsciiDigit c || (decide (65 ≤ c) && decide (c ≤ 70)) || (decide (97 ≤ c) && decide (c ≤ 102))

def digitValue (c : Code) : Nat :=
  if c ≤ 57 then c - 48 else if c ≤ 70 then c - 55 else c - 87

/-- The number written by digits of a base. -/
def numeral (base : Nat) (digits : List Code) : Nat :=
  digits.foldl (fun n c => n * base + digitValue c) 0

/-- What an escape stands for. -/
inductive Escape
  | literal (c : Code)
  | kind (negated : Bool) (kind : CharKind)
  | anchor (place : Anchor)
  | group (index : Nat) (written : Nat)
  deriving DecidableEq, Repr

/-- Letters for control characters. -/
def controlEscape? (c : Code) : Option Code :=
  match Char.ofNat c with
  | 'a' => some 7
  | 'b' => some 8
  | 'f' => some 12
  | 'n' => some 10
  | 'r' => some 13
  | 't' => some 9
  | 'v' => some 11
  | '\\' => some 92
  | _ => none

def kindEscape? (c : Code) : Option Escape :=
  match Char.ofNat c with
  | 'd' => some (.kind false .digit)
  | 'D' => some (.kind true .digit)
  | 's' => some (.kind false .blank)
  | 'S' => some (.kind true .blank)
  | 'w' => some (.kind false .word)
  | 'W' => some (.kind true .word)
  | _ => none

def anchorEscape? (c : Code) : Option Escape :=
  match Char.ofNat c with
  | 'A' => some (.anchor .textStart)
  | 'Z' => some (.anchor .textEnd)
  | 'b' => some (.anchor .boundary)
  | 'B' => some (.anchor .notBoundary)
  | _ => none

namespace Reader

/-- The greatest code point. -/
def codeLimit : Nat := 0x10FFFF

/-- Numbers beyond this one cannot be looked at as code points at all. -/
def codeNumberLimit : Nat := 0x7FFFFFFF

/-- Exactly so many hexadecimal digits after the letter that introduces them. -/
def hexEscape (letter : Code) (count : Nat) : Reader Escape := do
  let digits ← takeUpTo isHexDigit count
  let written := 92 :: letter :: digits
  if digits.length ≠ count then failBack written.length (.incompleteEscape written)
  else if numeral 16 digits > codeNumberLimit then fun _ => .error .numberTooLarge
  else if numeral 16 digits > codeLimit then failBack written.length (.badEscape written)
  else return .literal (numeral 16 digits)

def namedEscape : Reader Escape := do
  if !(← accept 123) then fail .missingBrace
  else
    let name ← name '\x7d' "character name"
    match characterNamed? (ofCodes name) with
    | some c => return .literal c
    | none => failBack (name.length + 4) (.undefinedCharacter name)

/-- An escape whose value must fit a byte. -/
def octalByte (digits : List Code) : Reader Escape := do
  let written := 92 :: digits
  if numeral 8 digits > 0o377 then failBack written.length (.octalTooLarge written)
  else return .literal (numeral 8 digits)

/-- A letter without a meaning is refused; any other character stands for itself. -/
def plainEscape (c : Code) : Reader Escape :=
  if isAsciiLetter c || isAsciiDigit c then failBack 2 (.badEscape [92, c])
  else return .literal c

/-- The escapes that mean the same inside and outside of sets. -/
def commonEscape? (c : Code) : Option (Reader Escape) :=
  if c = 120 then some (hexEscape c 2)
  else if c = 117 then some (hexEscape c 4)
  else if c = 85 then some (hexEscape c 8)
  else if c = 78 then some namedEscape
  else none

/-- An escape inside a character set, after its first character. -/
def setEscape (c : Code) : Reader Escape := do
  if let some control := controlEscape? c then return .literal control
  if let some kind := kindEscape? c then return kind
  if let some common := commonEscape? c then common
  else if isOctalDigit c then octalByte (c :: (← takeUpTo isOctalDigit 2))
  else plainEscape c

/-- A digit other than zero starts an octal escape of three digits or the number of a group. -/
def digitEscape (c : Code) : Reader Escape := do
  match ← takeUpTo isAsciiDigit 1 with
  | [d] =>
    if isOctalDigit c && isOctalDigit d then
      match ← takeUpTo isOctalDigit 1 with
      | [e] => octalByte [c, d, e]
      | _ => return .group (numeral 10 [c, d]) 3
    else return .group (numeral 10 [c, d]) 3
  | _ => return .group (numeral 10 [c]) 2

/-- An escape outside of character sets, after its first character. -/
def escape (c : Code) : Reader Escape := do
  if let some kind := kindEscape? c then return kind
  if let some place := anchorEscape? c then return place
  if let some control := controlEscape? c then return .literal control
  if let some common := commonEscape? c then common
  else if c = 48 then return .literal (numeral 8 (c :: (← takeUpTo isOctalDigit 2)))
  else if isAsciiDigit c then digitEscape c
  else plainEscape c

end Reader

/-- Characters that mean something in a pattern, or that are blank. -/
def isSpecial (c : Code) : Bool :=
  (codes "()[]\x7b\x7d?*+-|^$\\.&~# \t\n\x0d\x0b\x0c").contains c

/-- Literal text as a pattern: special characters get a backslash. -/
def literal (text : List Code) : List Code :=
  text.flatMap fun c => if isSpecial c then [92, c] else [c]

end TemplateSwap.Pattern
