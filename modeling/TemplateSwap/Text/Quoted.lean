import TemplateSwap.Text.Printable

namespace TemplateSwap.Text

def hexDigit (n : Nat) : Char :=
  if n < 10 then Char.ofNat (48 + n) else Char.ofNat (87 + n)

/-- The number in lower-case hexadecimal, in exactly the given number of digits. -/
def hexadecimal : Nat → Nat → List Char
  | 0, _ => []
  | digits + 1, n => hexadecimal digits (n / 16) ++ [hexDigit (n % 16)]

/-- Escapes take two, four or eight hexadecimal digits, the fewest that hold the code point. -/
def escapeCode (c : Code) : List Char :=
  if c < 0x100 then '\\' :: 'x' :: hexadecimal 2 c
  else if c < 0x10000 then '\\' :: 'u' :: hexadecimal 4 c
  else '\\' :: 'U' :: hexadecimal 8 c

def quoteFor (s : List Char) : Char :=
  if s.contains '\'' && !s.contains '"' then '"' else '\''

def quotedChar (quote c : Char) : List Char :=
  if c = quote ∨ c = '\\' then ['\\', c]
  else if c = '\t' then ['\\', 't']
  else if c = '\n' then ['\\', 'n']
  else if c = '\r' then ['\\', 'r']
  else if isPrintable c.toNat then [c]
  else escapeCode c.toNat

def quotedChars (s : List Char) : List Char :=
  quoteFor s :: s.flatMap (quotedChar (quoteFor s)) ++ [quoteFor s]

def quoted (s : String) : String := String.ofList (quotedChars s.toList)

/-- A list of quoted texts in square brackets. -/
def quotedList (items : List String) : String :=
  "[" ++ ", ".intercalate (items.map quoted) ++ "]"

end TemplateSwap.Text
