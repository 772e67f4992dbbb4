namespace TemplateSwap.Decimal

/-- Beyond these powers of ten every number is infinite or zero. -/
def exponentLimit : Int := 400

/-- The number nearest to digits times a power of ten. -/
def nearest (digits : Nat) (exponent : Int) : Float :=
  let length : Int := (Nat.toDigits 10 digits).length
  if digits = 0 then 0.0
  else if exponent + length > exponentLimit then 1.0 / 0.0
  else if exponent + length < -exponentLimit then 0.0
  else if exponent < 0 then Float.ofScientific digits true exponent.natAbs
  else Float.ofScientific (digits * Nat.pow 10 exponent.natAbs) false 0

def digitsValue (cs : List Char) : Nat := cs.foldl (fun n c => n * 10 + (c.toNat - 48)) 0

/-- Digits with single underscores between them, and what follows. -/
def digitRun : Bool → List Char → List Char × List Char
  | _, [] => ([], [])
  | inside, c :: rest =>
    if c.isDigit then
      let (digits, tail) := digitRun true rest
      (c :: digits, tail)
    else if c = '_' && inside && (rest.head?.any Char.isDigit) then digitRun false rest
    else ([], c :: rest)

def lower (cs : List Char) : List Char := cs.map Char.toLower

/-- The exponent part, if all of the text is one. -/
def exponentPart? : List Char → Option Int
  | [] => some 0
  | e :: rest =>
    if e.toLower = 'e' then
      let (negative, rest) :=
        match rest with
        | '-' :: r => (true, r)
        | '+' :: r => (false, r)
        | r => (false, r)
      match digitRun false rest with
      | (d :: digits, []) =>
        let n : Int := digitsValue (d :: digits)
        some (if negative then -n else n)
      | _ => none
    else none

/-- A number without sign. -/
def unsigned? (cs : List Char) : Option Float :=
  if lower cs = "inf".toList ∨ lower cs = "infinity".toList then some (1.0 / 0.0)
  else if lower cs = "nan".toList then some (0.0 / 0.0)
  else
    let (whole, rest) := digitRun false cs
    let (fraction, rest) :=
      match rest with
      | '.' :: r => digitRun false r
      | r => ([], r)
    if whole.isEmpty ∧ fraction.isEmpty then none
    else (exponentPart? rest).map fun e => nearest (digitsValue (whole ++ fraction)) (e - fraction.length)

def isBlank (c : Char) : Bool := c = ' ' || (9 ≤ c.toNat && c.toNat ≤ 13)

/-- A number with an optional sign and blanks around it. -/
def read? (s : String) : Option Float :=
  let cs := ((s.toList.dropWhile isBlank).reverse.dropWhile isBlank).reverse
  match cs with
  | '-' :: r => (unsigned? r).map (-·)
  | '+' :: r => unsigned? r
  | r => unsigned? r

end TemplateSwap.Decimal
