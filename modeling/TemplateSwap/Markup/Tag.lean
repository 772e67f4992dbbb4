import TemplateSwap.Text.Lines

namespace TemplateSwap.Markup

inductive Tag
  | null
  | bool
  | int
  | float
  | binary
  | timestamp
  | omap
  | pairs
  | set
  | str
  | seq
  | map
  | merge
  | value
  | other
  deriving DecidableEq, Repr

namespace Tag

/-- What the names of the tags of the format itself begin with. -/
def lead : String := "tag:yaml.org,2002:"

def names : List (String × Tag) :=
  [("null", null), ("bool", bool), ("int", int), ("float", float), ("binary", binary),
    ("timestamp", timestamp), ("omap", omap), ("pairs", pairs), ("set", set), ("str", str),
    ("seq", seq), ("map", map), ("merge", merge), ("value", value)]

def ofName (name : String) : Tag :=
  ((names.find? fun (n, _) => lead ++ n == name).map (·.2)).getD other

end Tag

namespace Form

def isNumeral (c : Char) : Bool := c.isDigit || c = '_'

def isOctal (c : Char) : Bool := ('0' ≤ c && c ≤ '7') || c = '_'

def isBinary (c : Char) : Bool := c = '0' || c = '1' || c = '_'

def isHexadecimal (c : Char) : Bool :=
  isNumeral c || ('a' ≤ c && c ≤ 'f') || ('A' ≤ c && c ≤ 'F')

def some1 (p : Char → Bool) (cs : List Char) : Bool := !cs.isEmpty && cs.all p

def unsigned : List Char → List Char
  | '+' :: rest => rest
  | '-' :: rest => rest
  | cs => cs

/-- Text between colons. -/
def splitColons : List Char → List (List Char)
  | [] => [[]]
  | c :: rest =>
    if c = ':' then [] :: splitColons rest
    else
      match splitColons rest with
      | [] => [[c]]
      | part :: parts => (c :: part) :: parts

/-- A number below sixty, in one or two digits. -/
def isSixtieth : List Char → Bool
  | [c] => c.isDigit
  | [c, d] => ('0' ≤ c && c ≤ '5') && d.isDigit
  | _ => false

/-- Numbers in base sixty with colons between them. -/
def isSexagesimal (leadZero : Bool) (cs : List Char) : Bool :=
  match splitColons cs with
  | first :: second :: rest =>
    (match first with
      | c :: more => c.isDigit && (leadZero || c ≠ '0') && more.all isNumeral
      | [] => false)
      && (second :: rest).all isSixtieth
  | _ => false

def isInteger (cs : List Char) : Bool :=
  match unsigned cs with
  | '0' :: 'b' :: rest => some1 isBinary rest
  | '0' :: 'x' :: rest => some1 isHexadecimal rest
  | '0' :: rest => rest.all isOctal
  | c :: rest => (c.isDigit && rest.all isNumeral) || isSexagesimal false (c :: rest)
  | [] => false

def isExponent : List Char → Bool
  | [] => true
  | e :: sign :: digits =>
    (e = 'e' || e = 'E') && (sign = '+' || sign = '-') && some1 Char.isDigit digits
  | [_] => false

/-- What follows the point of a number: digits, and perhaps an exponent. -/
def isFraction (cs : List Char) : Bool := isExponent (cs.dropWhile isNumeral)

def isInfinity (cs : List Char) : Bool :=
  [".inf".toList, ".Inf".toList, ".INF".toList].contains cs

def isNotANumber (cs : List Char) : Bool :=
  [".nan".toList, ".NaN".toList, ".NAN".toList].contains cs

/-- A number with a point, the digits before it counted in tens or in sixties. -/
def isPointed (cs : List Char) : Bool :=
  match cs.dropWhile (· ≠ '.') with
  | _ :: fraction =>
    match cs.takeWhile (· ≠ '.') with
    | c :: whole =>
      (c.isDigit && whole.all isNumeral && isFraction fraction)
        || (isSexagesimal true (c :: whole) && fraction.all isNumeral)
    | [] => false
  | [] => false

def isFloat (cs : List Char) : Bool :=
  isPointed (unsigned cs) || isInfinity (unsigned cs) || isNotANumber cs
    || (match cs with
      | '.' :: c :: rest => c.isDigit && isFraction rest
      | _ => false)

def truthValues : List (String × Bool) :=
  [("yes", true), ("no", false), ("true", true), ("false", false), ("on", true), ("off", false)]

/-- Words are written in small letters, with a capital, or in capitals. -/
def spellings (word : String) : List String := [word, word.capitalize, word.toUpper]

def isTruthValue (cs : List Char) : Bool :=
  (truthValues.flatMap fun (word, _) => spellings word).contains (String.ofList cs)

def isNull (cs : List Char) : Bool :=
  ("" :: "~" :: spellings "null").contains (String.ofList cs)

end Form

/-- A time of day as it is written, with what is said about the zone: a sign, hours and minutes. -/
structure TimeFields where
  hour : Nat
  minute : Nat
  second : Nat
  fraction : List Char
  zone : Option (Int × Nat × Nat)

/-- A day or a moment as it is written, whether or not there is such a day. -/
structure TimestampFields where
  year : Nat
  month : Nat
  day : Nat
  time : Option TimeFields

namespace TimestampFields

/-- The number in some of the first characters, and the rest of them. -/
def number? (least most : Nat) (cs : List Char) : Option (Nat × List Char) :=
  let digits := (cs.take most).takeWhile Char.isDigit
  if digits.length < least then none
  else some (digits.foldl (fun n c => n * 10 + (c.toNat - 48)) 0, cs.drop digits.length)

def skip? (c : Char) : List Char → Option (List Char)
  | d :: rest => if d = c then some rest else none
  | [] => none

def isSpace (c : Char) : Bool := c = ' ' || c = '\t'

/-- Nothing, the letter of universal time, or a sign with hours and perhaps minutes. -/
def zone? (cs : List Char) : Option (Option (Int × Nat × Nat)) :=
  match cs, cs.dropWhile isSpace with
  | [], _ => some none
  | _, ['Z'] => some (some (1, 0, 0))
  | _, sign :: rest => do
    if sign ≠ '+' ∧ sign ≠ '-' then none
    let (hours, rest) ← number? 1 2 rest
    let minutes ←
      match rest with
      | [] => some 0
      | _ => do
        let (minutes, rest) ← number? 2 2 (← skip? ':' rest)
        if rest.isEmpty then some minutes else none
    some (some (if sign = '-' then -1 else 1, hours, minutes))
  | _, [] => none

/-- What separates the day from the time. -/
def separator? : List Char → Option (List Char)
  | c :: rest =>
    if c = 'T' ∨ c = 't' then some rest
    else if isSpace c then some (rest.dropWhile isSpace)
    else none
  | [] => none

def time? (cs : List Char) : Option TimeFields := do
  let (hour, cs) ← number? 1 2 (← separator? cs)
  let (minute, cs) ← number? 2 2 (← skip? ':' cs)
  let (second, cs) ← number? 2 2 (← skip? ':' cs)
  let (fraction, cs) :=
    match cs with
    | '.' :: rest => (rest.takeWhile Char.isDigit, rest.dropWhile Char.isDigit)
    | _ => ([], cs)
  return ⟨hour, minute, second, fraction, ← zone? cs⟩

def read? (cs : List Char) : Option TimestampFields := do
  let (year, cs) ← number? 4 4 cs
  let (month, cs) ← number? 1 2 (← skip? '-' cs)
  let (day, cs) ← number? 1 2 (← skip? '-' cs)
  if cs.isEmpty then return ⟨year, month, day, none⟩
  else return ⟨year, month, day, some (← time? cs)⟩

end TimestampFields

namespace Form

/-- A day on its own is written in full, in ten characters. -/
def isTimestamp (cs : List Char) : Bool :=
  match TimestampFields.read? cs with
  | some fields => fields.time.isSome || cs.length = 10
  | none => false

/-- A line break at the end does not count. -/
def dropFinalBreak (cs : List Char) : List Char :=
  if cs.getLast? = some '\n' ∧ cs ≠ ['\n'] then cs.dropLast else cs

/-- The tag that the form of a plain scalar gives. -/
def tagOf (text : String) : Tag :=
  let cs := dropFinalBreak text.toList
  if isTruthValue cs then .bool
  else if isFloat cs then .float
  else if isInteger cs then .int
  else if cs = ['<', '<'] then .merge
  else if isNull cs then .null
  else if isTimestamp cs then .timestamp
  else if cs = ['='] then .value
  else if [['!'], ['&'], ['*']].contains cs then .other
  else .str

end Form

end TemplateSwap.Markup
