import TemplateSwap.Pattern.Error

namespace TemplateSwap.Pattern

open TemplateSwap.Text (Code codes isAsciiDigit)

inductive Symbol
  | plain (c : Code)
  | escaped (c : Code)
  | loneBackslash
  deriving DecidableEq, Repr

namespace Symbol

/-- The symbol as written. -/
def text : Symbol → List Code
  | plain c => [c]
  | escaped c => [92, c]
  | loneBackslash => [92]

def size (s : Symbol) : Nat := s.text.length

def isPlain (s : Symbol) (p : Code → Bool) : Bool :=
  match s with
  | plain c => p c
  | _ => false

end Symbol

abbrev Source := List Symbol

namespace Source

def ofCodes : List Code → Source
  | [] => []
  | [c] => [if c = 92 then .loneBackslash else .plain c]
  | c :: d :: rest => if c = 92 then .escaped d :: ofCodes rest else .plain c :: ofCodes (d :: rest)

def text (s : Source) : List Code := s.flatMap Symbol.text

def size (s : Source) : Nat := (s.map Symbol.size).foldl (· + ·) 0

end Source

/-- Why reading stopped. A fault carries how many characters of the pattern are left at its place. -/
inductive Stop
  | fault (fault : Fault) (left : Nat)
  | numberTooLarge
  | bothModes
  deriving DecidableEq, Repr

/-- Readers take the symbols ahead and return those they leave. -/
abbrev Reader (α : Type) := StateT Source (Except Stop) α

namespace Reader

/-- Stop at the place ahead. -/
def fail {α : Type} (fault : Fault) : Reader α := fun s => .error (.fault fault s.size)

/-- Stop some characters before the place ahead. -/
def failBack {α : Type} (back : Nat) (fault : Fault) : Reader α :=
  fun s => .error (.fault fault (s.size + back))

/-- Stop where the given number of characters is left. -/
def failAt {α : Type} (left : Nat) (fault : Fault) : Reader α :=
  fun _ => .error (.fault fault left)

/-- The number of characters left. -/
def left : Reader Nat := fun s => .ok (s.size, s)

def peek : Reader (Option Symbol) := fun s => .ok (s.head?, s)

/-- Consume a symbol. A lone backslash is noticed as soon as it is next. -/
def next : Reader (Option Symbol)
  | [] => .ok (none, [])
  | s :: rest =>
    if rest = [.loneBackslash] then .error (.fault .trailingBackslash 1) else .ok (some s, rest)

/-- Consume the given character if it is next. -/
def accept (c : Code) : Reader Bool := do
  if (← peek) = some (.plain c) then
    let _ ← next
    return true
  return false

/-- Consume at most so many characters of a class. -/
def takeUpTo (p : Code → Bool) : Nat → Reader (List Code)
  | 0 => return []
  | n + 1 => do
    match ← peek with
    | some (.plain c) =>
      if p c then
        let _ ← next
        return c :: (← takeUpTo p n)
      return []
    | _ => return []

/-- Consume all characters of a class. -/
def takeAll (p : Code → Bool) : Reader (List Code) := fun s => takeUpTo p s.length s

/-- Consume the text before a closing character, and the character. -/
def nameLoop (terminator : Char) (what : String) : Nat → List Code → Reader (List Code)
  | 0, _ => fail (.missingName what)
  | fuel + 1, name => do
    match ← next with
    | none =>
      if name = [] then fail (.missingName what)
      else failBack name.length (.unterminatedName terminator)
    | some s =>
      if s = .plain terminator.toNat then
        if name = [] then failBack 1 (.missingName what) else return name
      else nameLoop terminator what fuel (name ++ s.text)

def name (terminator : Char) (what : String) : Reader (List Code) :=
  fun s => nameLoop terminator what (s.length + 1) [] s

end Reader

end TemplateSwap.Pattern
