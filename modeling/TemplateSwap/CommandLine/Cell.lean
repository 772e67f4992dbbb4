import TemplateSwap.Text.CellWidth
import TemplateSwap.Text.Blank

namespace TemplateSwap.CommandLine.Cell

open TemplateSwap.Text (cellWidth)

/-- Controls that move the cursor are left out. -/
def visible (text : String) : List Char :=
  text.toList.filter fun c => !([7, 8, 11, 12, 13].contains c.toNat)

def width (cs : List Char) : Nat := (cs.map fun c => cellWidth c.toNat).foldl (· + ·) 0

def isLineEnd (c : Char) : Bool :=
  [10, 28, 29, 30, 0x85, 0x2028, 0x2029].contains c.toNat

/-- The widths of lines, with what has been seen of the current one. -/
def lineWidths (seen : Nat) : List Char → List Nat
  | [] => [seen]
  | c :: rest => if isLineEnd c then seen :: lineWidths 0 rest else lineWidths (seen + cellWidth c.toNat) rest

/-- The width of the widest line. -/
def measure (text : String) : Nat := (lineWidths 0 (visible text)).foldl max 0

def splitLines : List Char → List (List Char)
  | [] => [[]]
  | c :: rest =>
    if c = '\n' then [] :: splitLines rest
    else
      match splitLines rest with
      | [] => [[c]]
      | line :: lines => (c :: line) :: lines

def tabSize : Nat := 8

def expandTabs (column : Nat) : List Char → List Char
  | [] => []
  | c :: rest =>
    if c = '\t' then
      let next := (column / tabSize + 1) * tabSize
      List.replicate (next - column) ' ' ++ expandTabs next rest
    else c :: expandTabs (column + cellWidth c.toNat) rest

def isBlank (c : Char) : Bool := Text.isBlank c.toNat

def trimRight (cs : List Char) : List Char := (cs.reverse.dropWhile isBlank).reverse

/-- Words, each with the blanks around it that come before the next one. -/
def words : Nat → List Char → List (List Char)
  | 0, _ => []
  | fuel + 1, cs =>
    let lead := cs.takeWhile isBlank
    let body := (cs.drop lead.length).takeWhile fun c => !isBlank c
    let tail := (cs.drop (lead.length + body.length)).takeWhile isBlank
    if body.isEmpty then []
    else
      (lead ++ body ++ tail) :: words fuel (cs.drop (lead.length + body.length + tail.length))

/-- A word in parts that fit, with the part being filled. -/
def chop (limit : Nat) (part : List Char) : List Char → List (List Char)
  | [] => [part]
  | c :: rest =>
    if width part + cellWidth c.toNat > limit then part :: chop limit [c] rest
    else chop limit (part ++ [c]) rest

/-- Fill lines with words, from what is on the current line and how far it reaches. -/
def fill (limit : Nat) (line : List Char) (reach : Nat) : List (List Char) → List (List Char)
  | [] => [line]
  | word :: rest =>
    let need := width (trimRight word)
    if reach + need ≤ limit then fill limit (line ++ word) (reach + width word) rest
    else if need > limit then
      let parts := chop limit [] word
      let full := parts.dropLast
      let last := parts.getLast?.getD []
      (if line.isEmpty then [] else [line]) ++ full ++ fill limit last (width last) rest
    else if reach ≠ 0 ∧ !line.isEmpty then line :: fill limit word (width word) rest
    else fill limit (line ++ word) reach rest

/-- Blanks at the end of a line that are past the limit are dropped. -/
def crop (limit : Nat) (line : List Char) : List Char :=
  let blanks := line.length - (trimRight line).length
  line.take (line.length - min blanks (line.length - limit))

def wrap (limit : Nat) (line : List Char) : List (List Char) :=
  let expanded := expandTabs 0 line
  if width expanded ≤ limit then [expanded]
  else (fill limit [] 0 (words expanded.length expanded)).map (crop limit)

/-- The lines of a text at a width. -/
def lines (limit : Nat) (text : String) : List (List Char) :=
  (splitLines (visible text)).flatMap (wrap limit)

def spaces (n : Nat) : List Char := List.replicate n ' '

def padLeft (limit : Nat) (line : List Char) : List Char := spaces (limit - width line) ++ line

def padRight (limit : Nat) (line : List Char) : List Char := line ++ spaces (limit - width line)

/-- In the middle, with an odd space on the right. -/
def center (limit : Nat) (line : List Char) : List Char :=
  let line := trimRight line
  padRight limit (spaces ((limit - width line) / 2) ++ line)

end TemplateSwap.CommandLine.Cell
