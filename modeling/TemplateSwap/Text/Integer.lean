import TemplateSwap.Text.Decimal
import TemplateSwap.Text.Blank

namespace TemplateSwap.Text

/-- The value of a digit or letter in bases up to thirty-six. -/
def digitOf? (base : Nat) (c : Code) : Option Nat :=
  let value? :=
    if 65 ≤ c ∧ c ≤ 90 then some (c - 55)
    else if 97 ≤ c ∧ c ≤ 122 then some (c - 87)
    else if isAsciiDigit c then some (c - 48)
    else decimalValue? c
  value?.filter (· < base)

/-- Digits, where an underscore may stand between two of them. -/
def digits? (base : Nat) (underscoreAllowed : Bool) (value : Nat) : List Code → Option Nat
  | [] => if underscoreAllowed then some value else none
  | c :: rest =>
    if c = 95 then (if underscoreAllowed then digits? base false value rest else none)
    else (digitOf? base c).bind fun d => digits? base true (value * base + d) rest

def trimBlanks (cs : List Code) : List Code :=
  ((cs.dropWhile isBlank).reverse.dropWhile isBlank).reverse

/-- The letter that may follow a zero to announce the base. -/
def baseLetter (base : Nat) (c : Code) : Bool :=
  match base with
  | 2 => c = 98 || c = 66
  | 8 => c = 111 || c = 79
  | 16 => c = 120 || c = 88
  | _ => false

/-- Digits after an optional announcement of the base. -/
def announced? (base : Nat) : List Code → Option Nat
  | 48 :: c :: 95 :: rest =>
    if baseLetter base c then digits? base false 0 rest else digits? base false 0 (48 :: c :: 95 :: rest)
  | 48 :: c :: rest =>
    if baseLetter base c then digits? base false 0 rest else digits? base false 0 (48 :: c :: rest)
  | cs => digits? base false 0 cs

def readInteger? (base : Nat) (cs : List Code) : Option Int :=
  match trimBlanks cs with
  | 45 :: rest => (announced? base rest).map fun n => -(n : Int)
  | 43 :: rest => (announced? base rest).map Int.ofNat
  | rest => (announced? base rest).map Int.ofNat

end TemplateSwap.Text
