namespace TemplateSwap.Decimal

/-- A quotient of natural numbers; the denominator is not zero. -/
structure Ratio where
  num : Nat
  den : Nat

namespace Ratio

def le (a b : Ratio) : Bool := a.num * b.den ≤ b.num * a.den

def lt (a b : Ratio) : Bool := a.num * b.den < b.num * a.den

/-- The product of a natural number and a power of ten. -/
def ofScaled (digits : Nat) (exponent : Int) : Ratio :=
  if exponent < 0 then ⟨digits, Nat.pow 10 exponent.natAbs⟩ else ⟨digits * Nat.pow 10 exponent.natAbs, 1⟩

/-- The ratio divided by a power of ten, rounded down. -/
def floorScaled (a : Ratio) (exponent : Int) : Nat :=
  if exponent < 0 then a.num * Nat.pow 10 exponent.natAbs / a.den
  else a.num / (a.den * Nat.pow 10 exponent.natAbs)

/-- The exponent of the leading decimal digit, at least the given one. -/
def leading (a : Ratio) : Nat → Int → Int
  | 0, e => e
  | fuel + 1, e => if (ofScaled 1 (e + 1)).le a then leading a fuel (e + 1) else e

end Ratio

/-- The reals that round to a number: their ends, and whether these belong. -/
structure Interval where
  value : Ratio
  low : Ratio
  high : Ratio
  closed : Bool

namespace Interval

def contains (i : Interval) (a : Ratio) : Bool :=
  if i.closed then i.low.le a && a.le i.high else i.low.lt a && a.lt i.high

/-- The interval of significand times a power of two. Below a power of two numbers lie closer. -/
def ofBinary (significand : Nat) (exponent : Int) (lowerIsNear : Bool) : Interval :=
  let scale (n : Nat) : Ratio :=
    if exponent < 2 then ⟨n, Nat.pow 2 (2 - exponent).natAbs⟩ else ⟨n * Nat.pow 2 (exponent - 2).natAbs, 1⟩
  { value := scale (4 * significand)
    low := scale (4 * significand - if lowerIsNear then 1 else 2)
    high := scale (4 * significand + 2)
    closed := significand % 2 == 0 }

/-- The nearer of two neighbours on a decimal grid; the even one if they are equally near. -/
def nearer (i : Interval) (exponent : Int) (below : Nat) : Nat :=
  let a := i.value
  let twice := Ratio.ofScaled (2 * below + 1) exponent
  let double : Ratio := ⟨2 * a.num, a.den⟩
  if double.lt twice then below
  else if twice.lt double then below + 1
  else if below % 2 = 0 then below else below + 1

/-- The digits on the grid of a power of ten, if one of the value's two neighbours on it reads
back. -/
def onGrid (i : Interval) (exponent : Int) : Option Nat :=
  let below := i.value.floorScaled exponent
  let ok (n : Nat) := i.contains (.ofScaled n exponent)
  match ok below, ok (below + 1) with
  | true, true => some (i.nearer exponent below)
  | true, false => some below
  | false, true => some (below + 1)
  | false, false => none

/-- Try grids from coarse to fine. -/
def search (i : Interval) : Nat → Int → Nat × Int
  | 0, exponent => (i.value.floorScaled exponent, exponent)
  | fuel + 1, exponent =>
    match i.onGrid exponent with
    | some digits => (digits, exponent)
    | none => search i fuel (exponent - 1)

/-- The fewest digits that read back, times a power of ten. -/
def shortest (i : Interval) : Nat × Int := i.search 20 (i.value.leading 700 (-350))

end Interval

/-- How a number is laid out. -/
structure Layout where
  /-- Decimal exponents from here to before the other are written without an exponent. -/
  positionalFrom : Int
  positionalBefore : Int
  exponentDigits : Nat

/-- Positional from a ten-thousandth to below ten quadrillion; exponents have two digits. -/
def plainLayout : Layout := ⟨-4, 16, 2⟩

def stripZeros (digits : List Char) : List Char :=
  (digits.reverse.dropWhile (· == '0')).reverse

def padLeft (width : Nat) (digits : List Char) : List Char :=
  List.replicate (width - digits.length) '0' ++ digits

/-- Digits with a point after the first so many, zeros filled in where there are none. -/
def positional (digits : List Char) (point : Int) : List Char :=
  if point ≤ 0 then '0' :: '.' :: (List.replicate point.natAbs '0' ++ digits)
  else
    let n := point.toNat
    let whole := digits.take n ++ List.replicate (n - digits.length) '0'
    let rest := digits.drop n
    whole ++ '.' :: (if rest.isEmpty then ['0'] else rest)

def layOut (layout : Layout) (digits : List Char) (leading : Int) : List Char :=
  if layout.positionalFrom ≤ leading ∧ leading < layout.positionalBefore then
    positional digits (leading + 1)
  else
    let head := digits.take 1
    let tail := digits.drop 1
    let mantissa := if tail.isEmpty then head else head ++ '.' :: tail
    let sign := if leading < 0 then '-' else '+'
    mantissa ++ 'e' :: sign :: padLeft layout.exponentDigits (Nat.toDigits 10 leading.natAbs)

/-- The shortest text of a number. -/
def shortestText (x : Float) : String :=
  let bits : Nat := x.toBits.toNat
  let negative : Bool := bits / Nat.pow 2 63 == 1
  let field : Nat := bits / Nat.pow 2 52 % Nat.pow 2 11
  let fraction : Nat := bits % Nat.pow 2 52
  let magnitude : List Char :=
    if field = 2047 then (if fraction = 0 then "inf" else "nan").toList
    else if field = 0 ∧ fraction = 0 then "0.0".toList
    else
      let interval :=
        if field = 0 then Interval.ofBinary fraction (-1074) false
        else
          Interval.ofBinary (fraction + Nat.pow 2 52) ((field : Int) - 1075)
            (decide (fraction = 0) && decide (1 < field))
      let (digits, exponent) := interval.shortest
      let written := Nat.toDigits 10 digits
      layOut plainLayout (stripZeros written) (exponent + written.length - 1)
  String.ofList (if negative && magnitude != "nan".toList then '-' :: magnitude else magnitude)

end TemplateSwap.Decimal
