import TemplateSwap.Markup.Tag
import TemplateSwap.Markup.Fault
import TemplateSwap.Value.Order
import TemplateSwap.Text.Integer
import TemplateSwap.Text.LetterCase
import TemplateSwap.Text.Codes
import TemplateSwap.Decimal.Reading

namespace TemplateSwap.Markup.Scalar

open TemplateSwap.Text (readInteger? digitOf?)

/-- More decimal digits than this are not read. The limit is one on scalars: the version of a document and the counts
of a pattern are read whatever their length, and an integer of any length can be written as text. -/
def digitLimit : Nat := 4300

def integer (base : Nat) (cs : List Char) : Except ScalarFault Int :=
  let codes := cs.map Char.toNat
  let digits := (codes.filter fun c => (digitOf? base c).isSome).length
  if base = 10 && digits > digitLimit then .error .notNumber
  else
    match readInteger? base codes with
    | some n => .ok n
    | none => .error .notNumber

/-- Whether a minus sign is in front, and the text after a sign. -/
def signed (cs : List Char) : Bool × List Char :=
  match cs with
  | '-' :: rest => (true, rest)
  | '+' :: rest => (false, rest)
  | _ => (false, cs)

/-- The number that its digits in base sixty give. -/
def sexagesimal (digits : List Int) : Int := digits.foldl (fun n d => n * 60 + d) 0

def magnitude (cs : List Char) : Except ScalarFault Int :=
  match cs with
  | [] => .error .emptyNumber
  | ['0'] => .ok 0
  | '0' :: 'b' :: rest => integer 2 rest
  | '0' :: 'x' :: rest => integer 16 rest
  | '0' :: _ => integer 8 cs
  | _ =>
    if cs.contains ':' then return sexagesimal (← (Form.splitColons cs).mapM (integer 10))
    else integer 10 cs

/-- Underscores in a number do not count. -/
def withoutUnderscores (text : String) : List Char := text.toList.filter (· ≠ '_')

def int (text : String) : Except ScalarFault Int :=
  match withoutUnderscores text with
  | [] => .error .emptyNumber
  | cs => do
    let (negative, digits) := signed cs
    let n ← magnitude digits
    return if negative then -n else n

def real (cs : List Char) : Except ScalarFault Float :=
  match Decimal.read? (String.ofList cs) with
  | some x => .ok x
  | none => .error .notNumber

/-- Parts in base sixty, the last one first, added up from there. -/
def sexagesimalReal (base : Nat) (sum : Float) : List Float → Except ScalarFault Float
  | [] => .ok sum
  | x :: rest =>
    if (Float.ofNat base).isInf then .error .numberTooLarge
    else sexagesimalReal (base * 60) (sum + x * Float.ofNat base) rest

def lower (cs : List Char) : List Char := cs.map fun c => Char.ofNat (Text.toLower c.toNat)

def float (text : String) : Except ScalarFault Float :=
  match lower (withoutUnderscores text) with
  | [] => .error .emptyNumber
  | cs => do
    let (negative, digits) := signed cs
    let x ←
      if digits = ".inf".toList then pure (1.0 / 0.0)
      else if digits = ".nan".toList then pure (0.0 / 0.0)
      else if digits.contains ':' then do
        let parts ← (Form.splitColons digits).mapM real
        sexagesimalReal 1 0.0 parts.reverse
      else real digits
    return if negative then -x else x

def bool (text : String) : Except ScalarFault Bool :=
  let word := String.ofList (lower text.toList)
  match Form.truthValues.lookup word with
  | some b => .ok b
  | none => .error (.notTruthValue word)

def daysInMonth (year month : Nat) : Nat :=
  if month = 2 then (if year % 4 = 0 ∧ (year % 100 ≠ 0 ∨ year % 400 = 0) then 29 else 28)
  else if [4, 6, 9, 11].contains month then 30
  else 31

def date? (fields : TimestampFields) : Option Date :=
  if 1 ≤ fields.year ∧ 1 ≤ fields.month ∧ fields.month ≤ 12 ∧ 1 ≤ fields.day
      ∧ fields.day ≤ daysInMonth fields.year fields.month then
    some ⟨fields.year, fields.month, fields.day⟩
  else none

/-- The first six digits after the point. -/
def microseconds (fraction : List Char) : Nat :=
  ((fraction ++ List.replicate 6 '0').take 6).foldl (fun n c => n * 10 + (c.toNat - 48)) 0

/-- The distance to universal time in seconds, which is less than a day. -/
def offset? : Int × Nat × Nat → Option Int
  | (sign, hours, minutes) =>
    if hours * 60 + minutes < 24 * 60 then some (sign * ((hours * 60 + minutes) * 60 : Nat)) else none

def moment? (date : Date) (time : TimeFields) : Option Moment :=
  let inDay := time.hour < 24 ∧ time.minute < 60 ∧ time.second < 60
  let moment (offset : Option Int) : Moment :=
    ⟨date, time.hour, time.minute, time.second, microseconds time.fraction, offset⟩
  if inDay then
    match time.zone with
    | none => some (moment none)
    | some zone => (offset? zone).map fun seconds => moment (some seconds)
  else none

def timestamp (text : String) : Except ScalarFault Value :=
  match TimestampFields.read? (Form.dropFinalBreak text.toList) with
  | none => .error .notTime
  | some fields =>
    match date? fields, fields.time with
    | none, _ => .error .outOfRange
    | some date, none => .ok (.date date)
    | some date, some time =>
      match moment? date time with
      | some moment => .ok (.moment moment)
      | none => .error .outOfRange

/-- The six bits that a letter stands for. -/
def sixBits? (c : Char) : Option Nat :=
  if 'A' ≤ c ∧ c ≤ 'Z' then some (c.toNat - 65)
  else if 'a' ≤ c ∧ c ≤ 'z' then some (c.toNat - 71)
  else if c.isDigit then some (c.toNat + 4)
  else if c = '+' then some 62
  else if c = '/' then some 63
  else none

/-- Bytes from letters: how many of a group of four have been read and what is left over of them,
and how many padding signs in a row. Other characters are skipped. -/
def bytesFrom (position left pads : Nat) : List Char → Option (List UInt8)
  | [] => if position = 0 then some [] else none
  | c :: rest =>
    if c = '=' then
      if position ≥ 2 ∧ position + (pads + 1) ≥ 4 then some []
      else bytesFrom position left (if position ≥ 2 then pads + 1 else pads) rest
    else
      match sixBits? c with
      | none => bytesFrom position left pads rest
      | some n =>
        match position with
        | 0 => bytesFrom 1 n 0 rest
        | 1 => (bytesFrom 2 (n % 16) 0 rest).map (UInt8.ofNat (left * 4 + n / 16) :: ·)
        | 2 => (bytesFrom 3 (n % 4) 0 rest).map (UInt8.ofNat (left * 16 + n / 4) :: ·)
        | _ => (bytesFrom 0 0 0 rest).map (UInt8.ofNat (left * 64 + n) :: ·)

def bytes (text : String) : Except Fault (List UInt8) :=
  let cs := text.toList
  if cs.any fun c => c.toNat ≥ 128 then .error .malformed
  else
    match bytesFrom 0 0 0 cs with
    | some data => .ok data
    | none => .error .malformed

end TemplateSwap.Markup.Scalar
