namespace TemplateSwap.CommandLine.Styled

def beginsTag (c : Char) : Bool := ('a' ≤ c && c ≤ 'z') || c = '#' || c = '/' || c = '@'

/-- The inside of a tag up to its closing bracket, and what follows. -/
def tagEnd? : List Char → Option (List Char × List Char)
  | [] => none
  | c :: rest =>
    if c = ']' then some ([], rest)
    else if c = '[' then none
    else (tagEnd? rest).map fun (inside, after) => (c :: inside, after)

/-- The tag at the beginning of a text, brackets included, and what follows. -/
def tag? : List Char → Option (List Char × List Char)
  | '[' :: c :: rest =>
    if beginsTag c then (tagEnd? rest).map fun (inside, after) => ('[' :: c :: inside ++ [']'], after)
    else none
  | _ => none

/-- Backslashes at the beginning of a text, and the tag behind them. -/
def markedTag? (cs : List Char) : Option (Nat × List Char × List Char) :=
  let slashes := (cs.takeWhile (· = '\\')).length
  (tag? (cs.drop slashes)).map fun (tag, after) => (slashes, tag, after)

def slashes (n : Nat) : List Char := List.replicate n '\\'

/-- Make text of all tags. -/
def escapeFrom : Nat → List Char → List Char
  | 0, cs => cs
  | _, [] => []
  | fuel + 1, c :: rest =>
    match markedTag? (c :: rest) with
    | some (n, tag, after) => slashes (2 * n + 1) ++ tag ++ escapeFrom fuel after
    | none => c :: escapeFrom fuel rest

/-- A text that shows as it is, in front of a tag too. -/
def escape (text : String) : String :=
  let cs := escapeFrom text.length text.toList
  let last := (cs.reverse.takeWhile (· = '\\')).length
  String.ofList (if last = 1 then cs ++ ['\\'] else cs)

/-- Between tags a backslash in front of a bracket is dropped. -/
def unescapeBrackets : List Char → List Char
  | '\\' :: '[' :: rest => '[' :: unescapeBrackets rest
  | c :: rest => c :: unescapeBrackets rest
  | [] => []

/-- The text without its tags. Characters passed since the last tag are kept in reverse. -/
def plainFrom : Nat → List Char → List Char → List Char
  | 0, passed, cs => unescapeBrackets (passed.reverse ++ cs)
  | _, passed, [] => unescapeBrackets passed.reverse
  | fuel + 1, passed, c :: rest =>
    match markedTag? (c :: rest) with
    | some (n, tag, after) =>
      unescapeBrackets passed.reverse ++ slashes (n / 2) ++ (if n % 2 = 1 then tag else [])
        ++ plainFrom fuel [] after
    | none => plainFrom fuel (c :: passed) rest

def plain (text : String) : String := String.ofList (plainFrom text.length [] text.toList)

end TemplateSwap.CommandLine.Styled
