import TemplateSwap.Value.Basic

namespace TemplateSwap.Value

/-- The number that a value is, if it is one. Truth values count as zero and one. -/
inductive Number
  | exact (n : Int)
  | real (x : Float)

namespace Number

/-- The exact value of a finite number as a fraction of a power of two. -/
def fraction? (x : Float) : Option (Int × Nat) :=
  if x.isNaN || x.isInf then none
  else
    let bits : Nat := x.toBits.toNat
    let field : Nat := bits / Nat.pow 2 52 % Nat.pow 2 11
    let fraction : Nat := bits % Nat.pow 2 52
    let significand : Nat := if field = 0 then fraction else fraction + Nat.pow 2 52
    let exponent : Int := (if field = 0 then 1 else (field : Int)) - 1075
    let signed : Int := if bits / Nat.pow 2 63 = 1 then -significand else significand
    if exponent < 0 then some (signed, exponent.natAbs) else some (signed * Nat.pow 2 exponent.natAbs, 0)

/-- Numbers of different types are compared by what they stand for. -/
def compare : Number → Number → Option Ordering
  | exact a, exact b => some (Ord.compare a b)
  | real x, real y =>
    if x < y then some .lt else if y < x then some .gt else if x == y then some .eq else none
  | exact a, real y =>
    match fraction? y with
    | some (n, shift) => some (Ord.compare (a * Nat.pow 2 shift) n)
    | none => if y.isNaN then none else some (if 0.0 < y then .lt else .gt)
  | real x, exact b =>
    match fraction? x with
    | some (n, shift) => some (Ord.compare n (b * Nat.pow 2 shift))
    | none => if x.isNaN then none else some (if 0.0 < x then .gt else .lt)

end Number

def number? : Value → Option Number
  | bool b => some (.exact (if b then 1 else 0))
  | int n => some (.exact n)
  | float x => some (.real x)
  | _ => none

/-- Seconds since the first day of the year one; a day number does for dates. -/
def dayNumber (d : Date) : Int :=
  let y : Int := d.year - 1
  let leap := d.year % 4 = 0 && (d.year % 100 ≠ 0 || d.year % 400 = 0)
  let lengths : List Nat := [31, if leap then 29 else 28, 31, 30, 31, 30, 31, 31, 30, 31, 30, 31]
  y * 365 + y / 4 - y / 100 + y / 400 + ((lengths.take (d.month - 1)).foldl (· + ·) 0 : Nat) + d.day

def microseconds (m : Moment) : Int :=
  (((dayNumber m.date * 24 + m.hour) * 60 + m.minute) * 60 + m.second - m.offset.getD 0) * 1000000
    + m.microsecond

mutual

/-- Whether two values are equal. Mappings and sets are compared without regard to order. -/
def same : Value → Value → Bool
  | null, null => true
  | text s, text t => s == t
  | bytes a, bytes b => a == b
  | date a, date b => a == b
  | moment a, moment b =>
    a.offset.isSome == b.offset.isSome && microseconds a == microseconds b
  | list a, list b => sameAll a b
  | tuple a, tuple b => sameAll a b
  | set a, set b => a.length == b.length && subset a b
  | map a, map b => a.length == b.length && submap a b
  | filter a, filter b => a == b
  | a, b =>
    match number? a, number? b with
    | some x, some y => x.compare y == some .eq
    | _, _ => false

def sameAll : List Value → List Value → Bool
  | [], [] => true
  | a :: as, b :: bs => same a b && sameAll as bs
  | _, _ => false

def subset : List Value → List Value → Bool
  | [], _ => true
  | a :: as, bs => bs.any (same a) && subset as bs

def submap : List (Value × Value) → List (Value × Value) → Bool
  | [], _ => true
  | (k, v) :: rest, pairs => pairs.any (fun (k', v') => same k k' && same v v') && submap rest pairs

end

mutual

/-- Whether a value can be a key: collections that can change cannot. -/
def isKey : Value → Bool
  | list _ | set _ | map _ => false
  | tuple items => areKeys items
  | _ => true

def areKeys : List Value → Bool
  | [] => true
  | item :: items => isKey item && areKeys items

end

/-- The order of two values, if their types have one. -/
def compare? : Value → Value → Option Ordering
  | text s, text t => some (Ord.compare s t)
  | bytes a, bytes b => some (compareOfLessAndEq (a.map UInt8.toNat) (b.map UInt8.toNat))
  | date a, date b => some (Ord.compare (dayNumber a) (dayNumber b))
  | moment a, moment b =>
    if a.offset.isSome == b.offset.isSome then some (Ord.compare (microseconds a) (microseconds b))
    else none
  | a, b =>
    match number? a, number? b with
    | some x, some y => x.compare y
    | _, _ => none

/-- Whether two values can be compared. All numbers can, also with what is not a number and has no place
among them. -/
def comparable (a b : Value) : Bool := (compare? a b).isSome || (number? a).isSome && (number? b).isSome

/-- Values in ascending order, or nothing if two of them cannot be compared. -/
def sorted? (items : List Value) : Option (List Value) :=
  if items.length ≤ 1 then some items
  else if items.all fun a => items.all (comparable a) then
    some (items.mergeSort fun a b => compare? a b != some .gt)
  else none

namespace Pairs

/-- The value under a key. -/
def get? (pairs : List (Value × Value)) (key : Value) : Option Value :=
  (pairs.find? fun (k, _) => same k key).map (·.2)

/-- Put a value under a key. A key that is there keeps its place and its spelling. -/
def put : List (Value × Value) → Value → Value → List (Value × Value)
  | [], key, value => [(key, value)]
  | (k, v) :: rest, key, value =>
    if same k key then (k, value) :: rest else (k, v) :: put rest key value

/-- Later pairs win. -/
def ofList (pairs : List (Value × Value)) : List (Value × Value) :=
  pairs.foldl (fun acc (k, v) => put acc k v) []

end Pairs

end TemplateSwap.Value
