import TemplateSwap.Markup.Tag
import TemplateSwap.Value.Display
import TemplateSwap.Text.Printable

namespace TemplateSwap.Markup.Printer

open TemplateSwap.Text (hexadecimal)

/-- Text past this column is folded where it can be. -/
def lineWidth : Nat := 80

def spaces (n : Nat) : List Char := List.replicate n ' '

/-- A break and the indentation of the line after it. -/
def newLine (indent : Nat) : List Char := '\n' :: spaces indent

inductive Style
  | plain
  | single
  | double
  deriving DecidableEq, Repr

def isBlank (c : Char) : Bool := "\x00 \t\r\n\x85\u2028\u2029".toList.contains c

def blankOrEnd (c : Option Char) : Bool := c.all isBlank

/-- Whether a character needs an escape. -/
def isSpecial (c : Char) : Bool := c ≠ '\n' && !(' ' ≤ c && c ≤ '~')

/-- Signs that mean something at the beginning of a scalar. -/
def leadingSigns : List Char := "#,[]\x7b\x7d&*!|>'\"%@\x60".toList

/-- Whether the first character would begin something other than plain text. -/
def beginsBadly : List Char → Bool
  | [] => false
  | c :: rest =>
    leadingSigns.contains c || (['?', ':', '-'].contains c && blankOrEnd rest.head?)
      || (c :: rest.take 2 == "---".toList) || (c :: rest.take 2 == "...".toList)

/-- Whether a colon or a number sign after the first character would end plain text. -/
def endsEarly : List Char → Bool
  | c :: d :: rest =>
    (d = ':' && blankOrEnd rest.head?) || (d = '#' && isBlank c) || endsEarly (d :: rest)
  | _ => false

/-- Whether one of two characters follows the other somewhere. -/
def hasPair (first second : Char) : List Char → Bool
  | c :: d :: rest => (c = first && d = second) || hasPair first second (d :: rest)
  | _ => false

def isSpaceOrBreak (c : Char) : Bool := c = ' ' || c = '\n'

def allowsPlain (cs : List Char) : Bool :=
  !(cs.any isSpecial || cs.contains '\n' || cs.head?.any isSpaceOrBreak
    || cs.getLast?.any isSpaceOrBreak || beginsBadly cs || endsEarly cs)

def allowsSingle (cs : List Char) : Bool :=
  !(cs.any isSpecial || hasPair ' ' '\n' cs || hasPair '\n' ' ' cs)

/-- The style of a text. Plain text must not look like something other than text. -/
def styleOf (text : String) : Style :=
  let cs := text.toList
  if Form.tagOf text = .str && allowsPlain cs then .plain
  else if allowsSingle cs then .single
  else .double

inductive Piece
  | word (cs : List Char)
  | gap (width : Nat)
  | breaks (count : Nat)

/-- Text as words, gaps and breaks. -/
def pieces : List Char → List Piece
  | [] => []
  | c :: rest =>
    if c = ' ' then
      match pieces rest with
      | .gap n :: more => .gap (n + 1) :: more
      | more => .gap 1 :: more
    else if c = '\n' then
      match pieces rest with
      | .breaks n :: more => .breaks (n + 1) :: more
      | more => .breaks 1 :: more
    else
      match pieces rest with
      | .word cs :: more => .word (c :: cs) :: more
      | more => .word [c] :: more

/-- Pieces from a column on. A gap of one space past the width becomes a break, unless the text begins
or ends with it. A break in the text takes one more to be read back as one. -/
def layOut (indent : Nat) : Bool → Nat → List Piece → List Char
  | _, _, [] => []
  | _, column, .word cs :: rest => cs ++ layOut indent false (column + cs.length) rest
  | first, column, .gap n :: rest =>
    if n = 1 && !first && !rest.isEmpty && column > lineWidth then
      newLine indent ++ layOut indent false indent rest
    else spaces n ++ layOut indent false (column + n) rest
  | _, _, .breaks n :: rest =>
    List.replicate n '\n' ++ newLine indent ++ layOut indent false indent rest

/-- A single quote inside single quotes is written twice. -/
def doubleQuotes (cs : List Char) : List Char :=
  cs.flatMap fun c => if c = '\'' then ['\'', '\''] else [c]

def shortEscapes : List (Char × Char) :=
  [('\x00', '0'), ('\x07', 'a'), ('\x08', 'b'), ('\t', 't'), ('\n', 'n'), ('\x0b', 'v'),
    ('\x0c', 'f'), ('\x0d', 'r'), ('\x1b', 'e'), ('"', '"'), ('\\', '\\'), ('\x85', 'N'),
    ('\xa0', '_'), ('\u2028', 'L'), ('\u2029', 'P')]

def capitals (cs : List Char) : List Char := cs.map Char.toUpper

/-- The escape of a character, or nothing if it stands for itself. -/
def escape? (c : Char) : Option (List Char) :=
  match shortEscapes.lookup c with
  | some d => some ['\\', d]
  | none =>
    if ' ' ≤ c && c ≤ '~' then none
    else if c.toNat < 0x100 then some ('\\' :: 'x' :: capitals (hexadecimal 2 c.toNat))
    else if c.toNat < 0x10000 then some ('\\' :: 'u' :: capitals (hexadecimal 4 c.toNat))
    else some ('\\' :: 'U' :: capitals (hexadecimal 8 c.toNat))

/-- A break inside double quotes, which a backslash keeps out of the text. A space after it needs
another one. -/
def escapedBreak (indent : Nat) (next : Option Char) : List Char :=
  '\\' :: newLine indent ++ (if next = some ' ' then ['\\'] else [])

def columnAfterBreak (indent : Nat) (next : Option Char) : Nat :=
  if next = some ' ' then indent + 1 else indent

/-- Characters from a column on. The flags say whether the character is the first one and whether
an escape is in front of it; text can be folded at a space and beside an escape, but neither after
the first character nor before the last one. -/
def escapeFrom (indent : Nat) (split : Bool) : Bool → Bool → Nat → List Char → List Char
  | _, _, _, [] => []
  | first, afterEscape, column, c :: rest =>
    let inner := split && !first && !rest.isEmpty
    match escape? c with
    | some e =>
      let column := column + e.length
      if inner && column > lineWidth + 1 then
        e ++ escapedBreak indent rest.head?
          ++ escapeFrom indent split false true (columnAfterBreak indent rest.head?) rest
      else e ++ escapeFrom indent split false true column rest
    | none =>
      if inner && (c = ' ' || afterEscape) && column > lineWidth then
        escapedBreak indent (some c) ++ c ::
          escapeFrom indent split false false (columnAfterBreak indent (some c) + 1) rest
      else c :: escapeFrom indent split false false (column + 1) rest

/-- A text as a scalar from a column on. -/
def scalar (indent column : Nat) (text : String) : List Char :=
  match styleOf text with
  | .plain => layOut indent true column (pieces text.toList)
  | .single => '\'' :: layOut indent true (column + 1) (pieces (doubleQuotes text.toList)) ++ ['\'']
  | .double => '"' :: escapeFrom indent true true false (column + 1) text.toList ++ ['"']

/-- A key on one line. -/
def simpleKey (text : String) : List Char :=
  match styleOf text with
  | .plain => text.toList
  | .single => '\'' :: doubleQuotes text.toList ++ ['\'']
  | .double => '"' :: escapeFrom 0 false true false 0 text.toList ++ ['"']

/-- Keys up to this length that have no line breaks are written on one line with their value. -/
def simpleKeyLength : Nat := 122

def isSimpleKey (text : String) : Bool :=
  let cs := text.toList
  !cs.isEmpty && decide (cs.length ≤ simpleKeyLength)
    && !cs.any fun c => c = '\n' || c = '\x85' || c = '\u2028' || c = '\u2029'

/-- The text of a scalar value. -/
def textOf : Value → String
  | .null => "null"
  | .bool b => if b then "true" else "false"
  | v => v.display

/-- A scalar value from a column on. Values other than text are written plain. -/
def scalarOf (indent column : Nat) : Value → List Char
  | .text s => scalar indent column s
  | v => (textOf v).toList

/-- A key with what separates it from its value, and the column after that. -/
def keyPart (indent : Nat) (key : Value) : List Char × Nat :=
  let simple :=
    match key with
    | .text s => if isSimpleKey s then some (simpleKey s) else none
    | v => some (textOf v).toList
  match simple with
  | some cs => (cs ++ [':'], indent + cs.length + 1)
  | none =>
    ("? ".toList ++ scalarOf (indent + 2) (indent + 2) key ++ newLine indent ++ [':'], indent + 1)

mutual

/-- What follows the key of a mapping. The entries of a list stand on the column of the key. -/
def afterKey (indent column : Nat) : Value → List Char
  | .list [] => " []".toList
  | .list items => newLine indent ++ entries indent items
  | .map [] => " \x7b\x7d".toList
  | .map pairs => newLine (indent + 2) ++ fields (indent + 2) pairs
  | v => ' ' :: scalarOf (indent + 2) (column + 1) v

/-- What follows the dash of a list. -/
def afterDash (indent : Nat) : Value → List Char
  | .list [] => " []".toList
  | .list items => ' ' :: entries (indent + 2) items
  | .map [] => " \x7b\x7d".toList
  | .map pairs => ' ' :: fields (indent + 2) pairs
  | v => ' ' :: scalarOf (indent + 2) (indent + 2) v

def entries (indent : Nat) : List Value → List Char
  | [] => []
  | [item] => '-' :: afterDash indent item
  | item :: items => '-' :: afterDash indent item ++ newLine indent ++ entries indent items

def fields (indent : Nat) : List (Value × Value) → List Char
  | [] => []
  | [(key, value)] =>
    (keyPart indent key).1 ++ afterKey indent (keyPart indent key).2 value
  | (key, value) :: rest =>
    (keyPart indent key).1 ++ afterKey indent (keyPart indent key).2 value ++ newLine indent
      ++ fields indent rest

end

/-- A mapping as a document, without the line break at its end. -/
def document (pairs : List (Value × Value)) : String :=
  String.ofList (if pairs.isEmpty then "\x7b\x7d".toList else fields 0 pairs)

end TemplateSwap.Markup.Printer
