import TemplateSwap.Value.Basic
import TemplateSwap.Text.Quoted
import TemplateSwap.Decimal.Shortest

namespace TemplateSwap

open TemplateSwap.Text (quoted hexadecimal)

/-- A number in at least so many digits. -/
def padded (width n : Nat) : String :=
  String.ofList (Decimal.padLeft width (Nat.toDigits 10 n))

namespace Date

def text (d : Date) : String := padded 4 d.year ++ "-" ++ padded 2 d.month ++ "-" ++ padded 2 d.day

def shown (d : Date) : String :=
  "datetime.date(" ++ toString d.year ++ ", " ++ toString d.month ++ ", " ++ toString d.day ++ ")"

end Date

namespace Moment

/-- A distance as sign, hours and minutes, and seconds if there are any. -/
def offsetText (seconds : Int) : String :=
  let n := seconds.natAbs
  (if seconds < 0 then "-" else "+") ++ padded 2 (n / 3600) ++ ":" ++ padded 2 (n / 60 % 60)
    ++ (if n % 60 = 0 then "" else ":" ++ padded 2 (n % 60))

def text (m : Moment) : String :=
  m.date.text ++ " " ++ padded 2 m.hour ++ ":" ++ padded 2 m.minute ++ ":" ++ padded 2 m.second
    ++ (if m.microsecond = 0 then "" else "." ++ padded 6 m.microsecond)
    ++ (match m.offset with
      | none => ""
      | some seconds => offsetText seconds)

/-- A distance of less than a day is shown as whole days and the seconds from there. -/
def offsetShown (seconds : Int) : String :=
  if seconds = 0 then "datetime.timezone.utc"
  else
    let inner :=
      if seconds < 0 then "days=-1, seconds=" ++ toString (seconds + 86400)
      else "seconds=" ++ toString seconds
    "datetime.timezone(datetime.timedelta(" ++ inner ++ "))"

/-- Seconds and microseconds are left out from the right while they are zero. -/
def shown (m : Moment) : String :=
  let small :=
    if m.microsecond ≠ 0 then [m.second, m.microsecond]
    else if m.second ≠ 0 then [m.second]
    else []
  let fields := [m.date.year, m.date.month, m.date.day, m.hour, m.minute] ++ small
  "datetime.datetime(" ++ ", ".intercalate (fields.map toString)
    ++ (match m.offset with
      | none => ""
      | some seconds => ", tzinfo=" ++ offsetShown seconds)
    ++ ")"

end Moment

namespace Value

def byteShown (quote : Char) (b : UInt8) : List Char :=
  let c := Char.ofNat b.toNat
  if c = quote ∨ c = '\\' then ['\\', c]
  else if c = '\t' then ['\\', 't']
  else if c = '\n' then ['\\', 'n']
  else if c = '\r' then ['\\', 'r']
  else if 32 ≤ b.toNat ∧ b.toNat < 127 then [c]
  else '\\' :: 'x' :: hexadecimal 2 b.toNat

def bytesShown (data : List UInt8) : String :=
  let quote := if data.contains 39 && !data.contains 34 then '"' else '\''
  String.ofList ('b' :: quote :: data.flatMap (byteShown quote) ++ [quote])

/-- Items in parentheses; a single one is followed by a comma. -/
def tupleShown : List String → String
  | [item] => "(" ++ item ++ ",)"
  | items => "(" ++ ", ".intercalate items ++ ")"

mutual

/-- A value as it appears inside others. -/
def shown : Value → String
  | null => "None"
  | bool b => if b then "True" else "False"
  | int n => toString n
  | float x => Decimal.shortestText x
  | text s => quoted s
  | bytes data => bytesShown data
  | date d => d.shown
  | moment m => m.shown
  | list items => "[" ++ ", ".intercalate (shownAll items) ++ "]"
  | tuple items => tupleShown (shownAll items)
  | set [] => "set()"
  | set items => "\x7b" ++ ", ".intercalate (shownAll items) ++ "\x7d"
  | map pairs => "\x7b" ++ ", ".intercalate (shownPairs pairs) ++ "\x7d"
  | filter f =>
    "PathFilter(include=" ++ tupleShown (f.included.map quoted) ++ ", exclude="
      ++ tupleShown (f.excluded.map quoted) ++ ")"

def shownAll : List Value → List String
  | [] => []
  | item :: items => shown item :: shownAll items

def shownPairs : List (Value × Value) → List String
  | [] => []
  | (key, value) :: pairs => (shown key ++ ": " ++ shown value) :: shownPairs pairs

end

/-- A value on its own: text without quotes, days and times in figures, a filter as its globs. -/
def display : Value → String
  | text s => s
  | date d => d.text
  | moment m => m.text
  | filter f => f.text
  | v => v.shown

/-- A list of values in square brackets. -/
def listShown (items : List Value) : String := "[" ++ ", ".intercalate (shownAll items) ++ "]"

end Value

end TemplateSwap
