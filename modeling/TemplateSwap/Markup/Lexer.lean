import TemplateSwap.Markup.Token
import TemplateSwap.Markup.Fault
import TemplateSwap.Text.Encoding
import TemplateSwap.Pattern.Escape

namespace TemplateSwap.Markup

/-- A place where a key may have begun: the number of tokens before it, whether a key has to be
here, and where it is. -/
structure KeyPlace where
  level : Nat
  token : Nat
  required : Bool
  index : Nat
  line : Nat
  column : Nat

structure Lexer where
  rest : List Char
  index : Nat := 0
  line : Nat := 0
  column : Nat := 0
  /-- How many brackets and braces are open. -/
  level : Nat := 0
  tokens : Array Placed := #[]
  indent : Int := -1
  indents : List Int := []
  keyAllowed : Bool := true
  keys : List KeyPlace := []
  /-- How many tokens there were for certain before the one that is being read. -/
  settled : Nat := 0

/-- Lexing steps. The tokens found before a fault are kept. -/
abbrev Lex (α : Type) := ExceptT Fault (StateM Lexer) α

namespace Lex

def fail {α : Type} : Lex α := throw .malformed

def isBreak (c : Char) : Bool :=
  c = '\n' || c = '\x0d' || c = '\x85' || c = '\u2028' || c = '\u2029'

/-- The end of the document counts as a break. -/
def breakOrEnd (c : Option Char) : Bool := c.all isBreak

def spaceOrBreakOrEnd (c : Option Char) : Bool := c.all fun c => c = ' ' || isBreak c

def blankOrEnd (c : Option Char) : Bool := c.all fun c => c = ' ' || c = '\t' || isBreak c

def peek (n : Nat := 0) : Lex (Option Char) := return (← get).rest[n]?

/-- Whether some character is next. -/
def nextIs (c : Char) : Lex Bool := return (← peek) == some c

def advanceOne (s : Lexer) : Lexer :=
  match s.rest with
  | [] => s
  | c :: rest =>
    let s := { s with rest, index := s.index + 1 }
    if isBreak c && !(c = '\x0d' && rest.head? == some '\n') then
      { s with line := s.line + 1, column := 0 }
    else if c = '\ufeff' then s
    else { s with column := s.column + 1 }

def advanceBy : Nat → Lexer → Lexer
  | 0, s => s
  | n + 1, s => advanceBy n (advanceOne s)

def forward (n : Nat) : Lex Unit := modify (advanceBy n)

def takeWhile (p : Char → Bool) : Lex (List Char) := do
  let cs := (← get).rest.takeWhile p
  forward cs.length
  return cs

def skipSpaces : Lex Unit := do
  let _ ← takeWhile (· = ' ')

/-- Loops over the text need no more rounds than there are characters left. -/
def rounds : Lex Nat := return (← get).rest.length + 2

/-- Consume a line break. Breaks of all usual kinds are read as a line feed. -/
def lineBreak : Lex (List Char) := do
  match ← peek with
  | some c =>
    if c = '\u2028' || c = '\u2029' then
      forward 1
      return [c]
    else if isBreak c then
      forward (if c = '\x0d' && (← peek 1) == some '\n' then 2 else 1)
      return ['\n']
    else return []
  | none => return []

def emit (token : Token) : Lex Unit :=
  modify fun s => { s with tokens := s.tokens.push ⟨token, s.line⟩ }

def emitAt (line : Nat) (token : Token) : Lex Unit :=
  modify fun s => { s with tokens := s.tokens.push ⟨token, line⟩ }

/-- A key has to be on one line and at most so long. -/
def keyLength : Nat := 1024

def isStale (s : Lexer) (k : KeyPlace) : Bool := k.line ≠ s.line || k.index + keyLength < s.index

/-- How many tokens no key can be put in front of any more. -/
def countSettled (s : Lexer) : Nat :=
  (s.keys.filter fun k => !isStale s k).foldl (fun count k => min count k.token) s.tokens.size

/-- Give up keys that can no longer be completed. -/
def dropStaleKeys : Lex Unit := do
  let s ← get
  if s.keys.any fun k => isStale s k && k.required then fail
  else set { s with keys := s.keys.filter fun k => !isStale s k }

/-- Give up the key that may have begun at this level. -/
def dropKey : Lex Unit := do
  let s ← get
  if s.keys.any fun k => k.level = s.level && k.required then fail
  else set { s with keys := s.keys.filter (·.level ≠ s.level) }

/-- Remember that a key may begin here. -/
def saveKey : Lex Unit := do
  let s ← get
  if s.keyAllowed then
    dropKey
    let required := s.level = 0 && s.indent = s.column
    modify fun s =>
      { s with keys := ⟨s.level, s.tokens.size, required, s.index, s.line, s.column⟩ :: s.keys }

/-- Close the block collections that are indented further than a column. -/
def unwindLoop (column : Int) : List Int → Lex Unit
  | [] => return
  | outer :: rest => do
    let s ← get
    if column < s.indent then
      emit .blockEnd
      modify fun s => { s with indent := outer, indents := rest }
      unwindLoop column rest

def unwind (column : Int) : Lex Unit := do
  let s ← get
  if s.level = 0 then unwindLoop column s.indents

/-- Open a block collection at a column, unless there is one. -/
def indentTo (column : Nat) : Lex Bool := do
  let s ← get
  if s.indent < column then
    set { s with indent := column, indents := s.indent :: s.indents }
    return true
  return false

/-- Skip spaces, comments and line breaks. After a line break a key may begin. -/
def skipToToken : Nat → Lex Unit
  | 0 => return
  | fuel + 1 => do
    skipSpaces
    if ← nextIs '#' then
      let _ ← takeWhile fun c => !isBreak c
    if (← lineBreak).isEmpty then return
    if (← get).level = 0 then modify ({ · with keyAllowed := true })
    skipToToken fuel

/-- Only spaces and a comment may follow on the line. -/
def endOfLine : Lex Unit := do
  skipSpaces
  if ← nextIs '#' then
    let _ ← takeWhile fun c => !isBreak c
  if breakOrEnd (← peek) then
    let _ ← lineBreak
  else fail

def isNameChar (c : Char) : Bool := c.isAlphanum || c = '-' || c = '_'

def isUriChar (c : Char) : Bool := c.isAlphanum || "-;/?:@&=+$,_.!~*'()[]%".toList.contains c

def isHex (c : Char) : Bool := Pattern.isHexDigit c.toNat

def hexValue (cs : List Char) : Nat := Pattern.numeral 16 (cs.map Char.toNat)

/-- Exactly so many hexadecimal digits. -/
def hexDigits (n : Nat) : Lex Nat := do
  let cs := (← get).rest.take n
  if cs.length = n && cs.all isHex then
    forward n
    return hexValue cs
  else fail

/-- The bytes written as percent signs with two digits each. -/
def uriBytes : Nat → Lex (List UInt8)
  | 0 => return []
  | fuel + 1 => do
    if ← nextIs '%' then
      forward 1
      let b ← hexDigits 2
      return UInt8.ofNat b :: (← uriBytes fuel)
    else return []

def uriEscapes : Lex (List Char) := do
  let data ← uriBytes (← rounds)
  let codes := Text.Encoding.decodeUtf8 data
  if codes.any fun c => (Text.Encoding.escapedByte? c).isSome then fail
  else return codes.map Char.ofNat

def uriLoop : Nat → Lex (List Char)
  | 0 => return []
  | fuel + 1 => do
    match ← peek with
    | some '%' => return (← uriEscapes) ++ (← uriLoop fuel)
    | some c =>
      if isUriChar c then
        forward 1
        return c :: (← uriLoop fuel)
      else return []
    | none => return []

def uri : Lex String := do
  let cs ← uriLoop (← rounds)
  if cs.isEmpty then fail else return String.ofList cs

/-- A tag handle: an exclamation mark, or a name between two of them. -/
def tagHandle : Lex String := do
  if !(← nextIs '!') then fail
  else if (← peek 1) == some ' ' then
    forward 1
    return "!"
  else
    forward 1
    let name ← takeWhile isNameChar
    if ← nextIs '!' then
      forward 1
      return String.ofList ('!' :: name ++ ['!'])
    else fail

def directiveNumber : Lex Nat := do
  let ds ← takeWhile Char.isDigit
  if ds.isEmpty then fail else return Pattern.numeral 10 (ds.map Char.toNat)

def directiveBody (name : String) : Lex Directive := do
  if name = "YAML" then
    skipSpaces
    let major ← directiveNumber
    if !(← nextIs '.') then fail
    forward 1
    let _ ← directiveNumber
    if spaceOrBreakOrEnd (← peek) then return .version major else fail
  else if name = "TAG" then
    skipSpaces
    let handle ← tagHandle
    if !(← nextIs ' ') then fail
    skipSpaces
    let lead ← uri
    if spaceOrBreakOrEnd (← peek) then return .tag handle lead else fail
  else
    let _ ← takeWhile fun c => !isBreak c
    return .other

def directive : Lex Unit := do
  let line := (← get).line
  unwind (-1)
  dropKey
  modify ({ · with keyAllowed := false })
  forward 1
  let name ← takeWhile isNameChar
  if name.isEmpty || !spaceOrBreakOrEnd (← peek) then fail
  let d ← directiveBody (String.ofList name)
  endOfLine
  emitAt line (.directive d)

def anchorName : Lex String := do
  forward 1
  let name ← takeWhile isNameChar
  let after ← peek
  if name.isEmpty then fail
  else if blankOrEnd after || after.any fun c => "?:,]\x7d%@\x60".toList.contains c then
    return String.ofList name
  else fail

def tagName : Lex TagName := do
  let second ← peek 1
  let name : TagName ←
    if second == some '<' then do
      forward 2
      let suffix ← uri
      if !(← nextIs '>') then fail
      forward 1
      pure ⟨none, suffix⟩
    else if blankOrEnd second then do
      forward 1
      pure ⟨none, "!"⟩
    else do
      let ahead := ((← get).rest.drop 1).takeWhile fun c => !spaceOrBreakOrEnd (some c)
      let handle ← if ahead.contains '!' then tagHandle else do
        forward 1
        pure "!"
      pure ⟨some handle, ← uri⟩
  if spaceOrBreakOrEnd (← peek) then return name else fail

/-- Whether a document marker is next, such as three dashes on their own. -/
def atMarker (marks : List (List Char)) : Lex Bool := do
  let s ← get
  return marks.contains (s.rest.take 3) && blankOrEnd s.rest[3]?

def markers : List (List Char) := ["---".toList, "...".toList]

/-- What is kept of the breaks at the end of a block scalar. -/
inductive Chomp
  | strip
  | clip
  | keep
  deriving DecidableEq

def chompOf (c : Char) : Chomp := if c = '+' then .keep else .strip

def isSign (c : Option Char) : Bool := c == some '+' || c == some '-'

/-- The signs after the indicator of a block scalar: how to end it, and how far it is indented. -/
def blockHeader : Lex (Chomp × Option Nat) := do
  let digit : Lex (Option Nat) := do
    match ← peek with
    | some c =>
      if c = '0' then fail
      else if c.isDigit then
        forward 1
        return some (c.toNat - 48)
      else return none
    | none => return none
  let sign : Lex (Option Chomp) := do
    match ← peek with
    | some c =>
      if isSign (some c) then
        forward 1
        return some (chompOf c)
      else return none
    | none => return none
  let header ←
    match ← sign with
    | some chomp => pure (chomp, ← digit)
    | none => do
      let increment ← digit
      match increment with
      | some n => pure ((← sign).getD .clip, some n)
      | none => pure (.clip, none)
  if spaceOrBreakOrEnd (← peek) then return header else fail

/-- Leading empty lines, and the deepest column seen in them. -/
def blockIndentation : Nat → Nat → Lex (List Char × Nat)
  | 0, deepest => return ([], deepest)
  | fuel + 1, deepest => do
    match ← peek with
    | some ' ' =>
      forward 1
      blockIndentation fuel (max deepest (← get).column)
    | some c =>
      if isBreak c then
        let b ← lineBreak
        let (breaks, deepest) ← blockIndentation fuel deepest
        return (b ++ breaks, deepest)
      else return ([], deepest)
    | none => return ([], deepest)

def indentSpaces (indent : Nat) : Lex Unit := do
  let s ← get
  forward ((s.rest.take (indent - s.column)).takeWhile (· = ' ')).length

/-- Empty lines, and the indentation of the line after them. -/
def blockBreaks (indent : Nat) : Nat → Lex (List Char)
  | 0 => return []
  | fuel + 1 => do
    indentSpaces indent
    if (← peek).any isBreak then
      let b ← lineBreak
      return b ++ (← blockBreaks indent fuel)
    else return []

def isBlankChar (c : Option Char) : Bool := c == some ' ' || c == some '\t'

/-- The lines of a block scalar: its text, its last break, and the empty lines after it. -/
def blockLines (folded : Bool) (indent : Nat) : Nat → List Char → Lex (List Char × List Char × List Char)
  | 0, breaks => return ([], [], breaks)
  | fuel + 1, breaks => do
    let s ← get
    if s.column = indent && !s.rest.isEmpty then
      let full := !isBlankChar (← peek)
      let text ← takeWhile fun c => !isBreak c
      let lineEnd ← lineBreak
      let more ← blockBreaks indent (← rounds)
      let s ← get
      if s.column = indent && !s.rest.isEmpty then
        let joint :=
          if folded && lineEnd = ['\n'] && full && !isBlankChar s.rest.head? then
            (if more.isEmpty then [' '] else [])
          else lineEnd
        let (tail, last, after) ← blockLines folded indent fuel more
        return (breaks ++ text ++ joint ++ tail, last, after)
      else return (breaks ++ text, lineEnd, more)
    else return ([], [], breaks)

def blockScalar (folded : Bool) : Lex String := do
  forward 1
  let (chomp, increment) ← blockHeader
  endOfLine
  let least := ((← get).indent + 1).toNat.max 1
  let (breaks, indent) ←
    match increment with
    | none => do
      let (breaks, deepest) ← blockIndentation (← rounds) 0
      pure (breaks, max least deepest)
    | some n => do
      let indent := least + n - 1
      pure (← blockBreaks indent (← rounds), indent)
  let (text, last, after) ← blockLines folded indent (← rounds) breaks
  return String.ofList
    (text ++ (if chomp = .strip then [] else last) ++ (if chomp = .keep then after else []))

/-- The characters that letters stand for after a backslash. -/
def escapes : List (Char × Char) :=
  [('0', '\x00'), ('a', '\x07'), ('b', '\x08'), ('t', '\t'), ('\t', '\t'), ('n', '\n'),
    ('v', '\x0b'), ('f', '\x0c'), ('r', '\x0d'), ('e', '\x1b'), (' ', ' '), ('"', '"'),
    ('\\', '\\'), ('/', '/'), ('N', '\x85'), ('_', '\xa0'), ('L', '\u2028'), ('P', '\u2029')]

def escapeLengths : List (Char × Nat) := [('x', 2), ('u', 4), ('U', 8)]

/-- Breaks inside quotes. A document marker cannot follow them. -/
def quotedBreaks : Nat → Lex (List Char)
  | 0 => return []
  | fuel + 1 => do
    if ← atMarker markers then fail
    let _ ← takeWhile fun c => c = ' ' || c = '\t'
    if (← peek).any isBreak then
      let b ← lineBreak
      return b ++ (← quotedBreaks fuel)
    else return []

/-- A break that is folded: a single one is a space, and of several the first is dropped. -/
def folded (lineEnd breaks : List Char) : List Char :=
  (if lineEnd ≠ ['\n'] then lineEnd else if breaks.isEmpty then [' '] else []) ++ breaks

/-- A character by its number. A surrogate is no character, and no text holds one: U+0000 stands in its place. -/
def codeEscape (length : Nat) : Lex Char := do
  forward 1
  let n ← hexDigits length
  if n > 0x7FFFFFFF then throw (.scalar .characterTooLarge)
  else if n > 0x10FFFF then throw (.scalar .noSuchCharacter)
  else return Char.ofNat n

def escape : Lex (List Char) := do
  forward 1
  match ← peek with
  | none => fail
  | some c =>
    match escapes.lookup c, escapeLengths.lookup c with
    | some d, _ =>
      forward 1
      return [d]
    | none, some length => return [← codeEscape length]
    | none, none =>
      if isBreak c then
        let _ ← lineBreak
        quotedBreaks (← rounds)
      else fail

/-- The text of a quoted scalar up to its closing quote. -/
def quotedLoop (double : Bool) : Nat → Lex (List Char)
  | 0 => fail
  | fuel + 1 => do
    match ← peek with
    | none => fail
    | some c =>
      if c = ' ' || c = '\t' || isBreak c then
        let blanks ← takeWhile fun c => c = ' ' || c = '\t'
        if (← peek).isNone then fail
        let b ← lineBreak
        let chunk ← if b.isEmpty then pure blanks else do pure (folded b (← quotedBreaks (← rounds)))
        return chunk ++ (← quotedLoop double fuel)
      else if double && c = '\\' then
        let chunk ← escape
        return chunk ++ (← quotedLoop double fuel)
      else if !double && c = '\'' && (← peek 1) == some '\'' then
        forward 2
        return '\'' :: (← quotedLoop double fuel)
      else if c = (if double then '"' else '\'') then
        forward 1
        return []
      else
        forward 1
        return c :: (← quotedLoop double fuel)

def quotedScalar (double : Bool) : Lex String := do
  forward 1
  return String.ofList (← quotedLoop double (← rounds))

/-- Breaks and indentation inside a plain scalar, or nothing before a document marker. -/
def plainBreaks : Nat → Lex (Option (List Char))
  | 0 => return some []
  | fuel + 1 => do
    match ← peek with
    | some ' ' =>
      forward 1
      plainBreaks fuel
    | some c =>
      if isBreak c then
        let b ← lineBreak
        if ← atMarker markers then return none
        return (← plainBreaks fuel).map (b ++ ·)
      else return some []
    | none => return some []

/-- The space after a part of a plain scalar; nothing if the scalar ends there. -/
def plainSpaces : Lex (List Char) := do
  let spaces ← takeWhile (· = ' ')
  let b ← lineBreak
  if b.isEmpty then return spaces
  else
    modify ({ · with keyAllowed := true })
    if ← atMarker markers then return []
    match ← plainBreaks (← rounds) with
    | none => return []
    | some breaks => return folded b breaks

/-- Whether a plain scalar ends before these characters. -/
def plainEnds (level : Nat) : List Char → Bool
  | [] => true
  | c :: rest =>
    blankOrEnd (some c)
      || (c = ':' && (blankOrEnd rest.head?
        || (level ≠ 0 && rest.head?.any fun d => ",[]\x7b\x7d".toList.contains d)))
      || (level ≠ 0 && ",?[]\x7b\x7d".toList.contains c)

/-- The part of a plain scalar without blanks. -/
def plainPart (level : Nat) : List Char → List Char
  | [] => []
  | c :: rest => if plainEnds level (c :: rest) then [] else c :: plainPart level rest

def plainLoop (indent : Nat) : Nat → List Char → Lex (List Char)
  | 0, _ => return []
  | fuel + 1, spaces => do
    let s ← get
    if s.rest.head? == some '#' then return []
    let part := plainPart s.level s.rest
    if part.isEmpty then return []
    modify ({ · with keyAllowed := false })
    forward part.length
    let more ← plainSpaces
    let s ← get
    if more.isEmpty || s.rest.head? == some '#' || (s.level = 0 && s.column < indent) then
      return spaces ++ part
    else return spaces ++ part ++ (← plainLoop indent fuel more)

def plainScalar : Lex String := do
  let indent := ((← get).indent + 1).toNat
  return String.ofList (← plainLoop indent (← rounds) [])

/-- A token for a single character. -/
def punctuation (token : Token) : Lex Unit := do
  let line := (← get).line
  forward 1
  emitAt line token

def openFlow (token : Token) : Lex Unit := do
  saveKey
  modify fun s => { s with level := s.level + 1, keyAllowed := true }
  punctuation token

def closeFlow (token : Token) : Lex Unit := do
  dropKey
  modify fun s => { s with level := s.level - 1, keyAllowed := false }
  punctuation token

def flowEntry : Lex Unit := do
  modify ({ · with keyAllowed := true })
  dropKey
  punctuation .flowEntry

/-- Open a block collection here, where one may begin. -/
def openBlock (token : Token) : Lex Unit := do
  let s ← get
  if s.level = 0 then
    if !s.keyAllowed then fail
    if ← indentTo s.column then emit token

def blockEntry : Lex Unit := do
  openBlock .blockSequenceStart
  modify ({ · with keyAllowed := true })
  dropKey
  punctuation .blockEntry

def explicitKey : Lex Unit := do
  openBlock .blockMappingStart
  modify fun s => { s with keyAllowed := s.level = 0 }
  dropKey
  punctuation .key

def insertToken (position : Nat) (placed : Placed) : Lex Unit :=
  modify fun s => { s with tokens := s.tokens.insertIdxIfInBounds position placed }

/-- A colon. What may have been a key is one now. -/
def valueMark : Lex Unit := do
  let s ← get
  match s.keys.find? (·.level = s.level) with
  | some k =>
    set { s with keys := s.keys.filter (·.level ≠ s.level) }
    insertToken k.token ⟨.key, k.line⟩
    if s.level = 0 then
      if ← indentTo k.column then insertToken k.token ⟨.blockMappingStart, k.line⟩
    modify ({ · with keyAllowed := false })
  | none =>
    openBlock .blockMappingStart
    modify fun s => { s with keyAllowed := s.level = 0 }
    dropKey
  punctuation .value

/-- A property or scalar that may be the beginning of a key. -/
def property (read : Lex Token) : Lex Unit := do
  let line := (← get).line
  saveKey
  modify ({ · with keyAllowed := false })
  emitAt line (← read)

def blockText (isFolded : Bool) : Lex Unit := do
  let line := (← get).line
  modify ({ · with keyAllowed := true })
  dropKey
  emitAt line (.scalar (← blockScalar isFolded) false)

def documentMark (token : Token) : Lex Unit := do
  let line := (← get).line
  unwind (-1)
  dropKey
  modify ({ · with keyAllowed := false })
  forward 3
  emitAt line token

/-- Characters with a meaning of their own at the beginning of a token. -/
def indicators : List Char := "-?:,[]\x7b\x7d#&*!|>'\"%@\x60".toList

/-- Whether a plain scalar can begin here. -/
def plainBegins (level : Nat) (c : Char) (second : Option Char) : Bool :=
  !(blankOrEnd (some c) || indicators.contains c)
    || (!blankOrEnd second && (c = '-' || (level = 0 && (c = '?' || c = ':'))))

/-- Read the next token. The answer is false at the end of the document. -/
def token : Lex Bool := do
  modify fun s => { s with settled := countSettled s }
  skipToToken (← rounds)
  dropStaleKeys
  unwind (← get).column
  let s ← get
  let second := s.rest[1]?
  match s.rest.head? with
  | none =>
    unwind (-1)
    dropKey
    modify fun s => { s with keyAllowed := false, keys := [] }
    emit .streamEnd
    return false
  | some c =>
    if c = '%' && s.column = 0 then directive
    else if s.column = 0 && (← atMarker ["---".toList]) then documentMark .documentStart
    else if s.column = 0 && (← atMarker ["...".toList]) then documentMark .documentEnd
    else if c = '[' then openFlow .flowSequenceStart
    else if c = '\x7b' then openFlow .flowMappingStart
    else if c = ']' then closeFlow .flowSequenceEnd
    else if c = '\x7d' then closeFlow .flowMappingEnd
    else if c = ',' then flowEntry
    else if c = '-' && blankOrEnd second then blockEntry
    else if c = '?' && (s.level ≠ 0 || blankOrEnd second) then explicitKey
    else if c = ':' && (s.level ≠ 0 || blankOrEnd second) then valueMark
    else if c = '*' then property (return .alias (← anchorName))
    else if c = '&' then property (return .anchor (← anchorName))
    else if c = '!' then property (return .tag (← tagName))
    else if c = '|' && s.level = 0 then blockText false
    else if c = '>' && s.level = 0 then blockText true
    else if c = '\'' then property (return .scalar (← quotedScalar false) false)
    else if c = '"' then property (return .scalar (← quotedScalar true) false)
    else if plainBegins s.level c second then property (return .scalar (← plainScalar) true)
    else fail
    return true

def tokensLoop : Nat → Lex Unit
  | 0 => return
  | fuel + 1 => do
    if ← token then tokensLoop fuel

end Lex

/-- The tokens of a document. If there is a fault, a token in front of it counts only if it was clear before the
fault was met whether it begins a key. A mark for the byte order at the very beginning is no part of the document. -/
def Token.scan (text : List Char) : List Placed × Option Fault :=
  let start : Lexer := { rest := text }
  let start := if text.head? = some '\ufeff' then Lex.advanceOne start else start
  match (Lex.tokensLoop (text.length + 2)).run start with
  | (.ok _, s) => (s.tokens.toList, none)
  | (.error fault, s) => (s.tokens.toList.take s.settled, some fault)

end TemplateSwap.Markup
