import TemplateSwap.Pattern.CharSet
import TemplateSwap.Text.Identifier
import TemplateSwap.Text.Integer

namespace TemplateSwap.Pattern

open TemplateSwap.Text (Code isAsciiDigit isAsciiBlank isAlphabetic isIdentifier readInteger? ofCodes)

/-- What an open parenthesis will become when it closes. -/
inductive Opening
  | group (index : Nat)
  | scope (on off : Flags)
  | atomic
  | ahead (negated : Bool)
  | behind (negated : Bool) (outer : Option Nat)
  | whether (index : Nat) (yes : Option Regex)
  deriving DecidableEq, Repr

/-- One level of parentheses: its finished branches and its current one, each newest first. -/
structure Level where
  branches : List Regex := []
  items : List Regex := []
  verbose : Bool := false
  deriving DecidableEq, Repr

/-- A level that waits for an inner one, the parenthesis that opened the inner one, and how much of
the text was left there. -/
structure Frame where
  outer : Level
  opening : Opening
  left : Nat
  deriving DecidableEq, Repr

/-- A numbered group: its name, and its width once it is closed. -/
structure GroupInfo where
  name : Option (List Code) := none
  width : Option Width := none
  deriving DecidableEq, Repr

structure Builder where
  level : Level := {}
  frames : List Frame := []
  flags : Flags := {}
  groups : List GroupInfo := []
  lookbehind : Option Nat := none
  conditions : List (Nat × Nat) := []
  deriving DecidableEq, Repr

namespace Level

def add (l : Level) (r : Regex) : Level := { l with items := r :: l.items }

def branch (l : Level) : Regex := .ofItems l.items.reverse

/-- End the current branch and start another. -/
def startBranch (l : Level) : Level := { l with branches := l.branch :: l.branches, items := [] }

/-- The choice of all branches. -/
def regex (l : Level) : Regex :=
  match (l.branch :: l.branches).reverse with
  | [] => .empty
  | first :: rest => .ofBranches first rest

end Level

namespace Builder

def add (b : Builder) (r : Regex) : Builder := { b with level := b.level.add r }

/-- Groups are numbered from one. -/
def info? (b : Builder) (index : Nat) : Option GroupInfo :=
  if index = 0 then none else b.groups[index - 1]?

def closedWidth? (b : Builder) (index : Nat) : Option Width := (b.info? index).bind (·.width)

def indexOf? (b : Builder) (name : List Code) : Option Nat :=
  (b.groups.findIdx? (·.name = some name)).map (· + 1)

/-- Number a new group. -/
def openGroup (b : Builder) (name : Option (List Code)) : Nat × Builder :=
  (b.groups.length + 1, { b with groups := b.groups ++ [{ name }] })

def closeGroup (b : Builder) (index : Nat) (width : Width) : Builder :=
  { b with groups := b.groups.modify (index - 1) fun g => { g with width := some width } }

/-- Go one level deeper. -/
def push (b : Builder) (opening : Opening) (left : Nat) (verbose : Bool) : Builder :=
  { b with level := { verbose }, frames := ⟨b.level, opening, left⟩ :: b.frames }

end Builder

namespace Reader

/-- Inside a look-behind only groups that were closed before it can be referred to. -/
def checkLookbehind (b : Builder) (index : Nat) : Reader Unit :=
  match b.lookbehind with
  | none => return
  | some limit =>
    if b.closedWidth? index = none then fail .openGroup
    else if limit < index then fail .sameLookbehind
    else return

/-- A reference by number, written in so many characters. -/
def reference (b : Builder) (index written : Nat) : Reader Builder := do
  match b.info? index with
  | none => failBack (written - 1) (.unknownGroup index)
  | some g =>
    match g.width with
    | none => failBack written .openGroup
    | some width =>
      checkLookbehind b index
      return b.add (.backref index width)

/-- A name of a group, up to its closing character. -/
def groupName (terminator : Char) : Reader (List Code) := do
  let name ← name terminator "group name"
  if isIdentifier name then return name
  else failBack (name.length + 1) (.badGroupName name)

/-- A reference by name. -/
def namedReference (b : Builder) : Reader Builder := do
  let name ← groupName ')'
  match b.indexOf? name with
  | none => failBack (name.length + 1) (.unknownGroupName name)
  | some index =>
    match b.closedWidth? index with
    | none => failBack (name.length + 1) .openGroup
    | some width =>
      checkLookbehind b index
      return b.add (.backref index width)

/-- The greatest number of groups. -/
def groupLimit : Nat := 1073741823

/-- The group that a condition asks about by number. It may be defined later in the pattern, so its
place is kept for the check at the end. -/
def numberedCondition (b : Builder) (name : List Code) : Reader (Nat × Builder) := do
  let back := name.length + 1
  match readInteger? 10 name with
  | some (.ofNat index) =>
    if index = 0 then failBack back .groupZero
    else if index ≥ groupLimit then failBack back (.unknownGroup index)
    else
      let place := (← left) + back
      let b :=
        if b.conditions.any (·.1 = index) then b
        else { b with conditions := b.conditions ++ [(index, place)] }
      checkLookbehind b index
      return (index, b)
  | _ => failBack back (.badGroupName name)

/-- The group that a condition asks about, by name or by number. -/
def condition (b : Builder) : Reader (Nat × Builder) := do
  let name ← name ')' "group name"
  if isIdentifier name then
    match b.indexOf? name with
    | none => failBack (name.length + 1) (.unknownGroupName name)
    | some index =>
      checkLookbehind b index
      return (index, b)
  else numberedCondition b name

/-- The switch that a letter names. -/
def flag? (c : Code) : Option Flags :=
  match Char.ofNat c with
  | 'i' => some { ignoreCase := true }
  | 'm' => some { multiline := true }
  | 's' => some { dotAll := true }
  | 'x' => some { verbose := true }
  | 'a' => some { ascii := true }
  | 'u' => some { unicode := true }
  | 't' => some { template := true }
  | 'L' => some {}
  | _ => none

def isLetter : Symbol → Bool
  | .plain c => isAlphabetic c
  | _ => false

def isFlag : Symbol → Bool
  | .plain c => (flag? c).isSome
  | _ => false

/-- The next symbol of a list of switches, which must be a switch or one of the closing ones. -/
def flagSymbol (closing : List Code) (missing : Fault) : Reader Symbol := do
  match ← next with
  | none => fail missing
  | some s =>
    if s.isPlain closing.contains || isFlag s then return s
    else failBack s.size (if isLetter s then .unknownFlag else missing)

/-- Switches that are turned on, from the first one to the symbol that ends them. -/
def flagsOn : Nat → Flags → Symbol → Reader (Flags × Symbol)
  | 0, _, _ => fail .missingFlagEnd
  | fuel + 1, on, s => do
    match s with
    | .plain c =>
      if c = 76 then fail .localeFlag
      else
        match flag? c with
        | none => return (on, s)
        | some f =>
          let on := on.union f
          if (f.ascii || f.unicode) && on.ascii && on.unicode then fail .incompatibleModes
          else
            let s ← flagSymbol [41, 45, 58] .missingFlagEnd
            if isFlag s then flagsOn fuel on s else return (on, s)
    | _ => return (on, s)

/-- Switches that are turned off, up to the colon. -/
def flagsOff : Nat → Flags → Symbol → Reader Flags
  | 0, _, _ => fail .missingColon
  | fuel + 1, off, s => do
    match s with
    | .plain c =>
      match flag? c with
      | none => return off
      | some f =>
        if c = 76 || f.ascii || f.unicode then fail .modeTurnedOff
        else
          let off := off.union f
          let s ← flagSymbol [58] .missingColon
          if isFlag s then flagsOff fuel off s else return off
    | _ => return off

/-- Switches after an opening parenthesis: for the whole pattern, or to turn on and off inside. -/
def flags (first : Symbol) : Reader (Flags ⊕ (Flags × Flags)) := do
  let fuel ← fun s => Except.ok (s.length + 1, s)
  let (on, last) ← if first = .plain 45 then pure (Flags.none, first) else flagsOn fuel Flags.none first
  if last = .plain 41 then return .inl on
  else if on.template then failBack 1 .globalFlagOn
  else
    let off ←
      if last = .plain 45 then do
        let s ← flagSymbol [] .missingFlag
        flagsOff fuel Flags.none s
      else pure Flags.none
    if off.template then failBack 1 .globalFlagOff
    else if (on.remove off) ≠ on then failBack 1 .flagOnAndOff
    else return .inr (on, off)

/-- Skip to the end of a comment in parentheses. -/
def comment (opened : Nat) : Nat → Reader Unit
  | 0 => failAt opened .unterminatedComment
  | fuel + 1 => do
    match ← peek with
    | none => failAt opened .unterminatedComment
    | some s =>
      let _ ← next
      if s = .plain 41 then return else comment opened fuel

/-- Open a numbered group. -/
def openGroup (b : Builder) (name : Option (List Code)) (opened : Nat) : Reader Builder := do
  let repeated := name.bind fun n => (b.indexOf? n).map fun earlier => (n, earlier)
  match repeated with
  | some (n, earlier) =>
    failBack (n.length + 1) (.repeatedGroupName n (b.groups.length + 1) earlier)
  | none =>
    let (index, b) := b.openGroup name
    return b.push (.group index) opened b.level.verbose

/-- A look-behind remembers how many groups were there when the outermost one began. -/
def openBehind (b : Builder) (negated : Bool) (opened : Nat) : Builder :=
  let b' := b.push (.behind negated b.lookbehind) opened b.level.verbose
  { b' with lookbehind := b.lookbehind <|> some b.groups.length }

/-- The next symbol, which must be there. -/
def required : Reader Symbol := do
  match ← next with
  | none => fail .unexpectedEnd
  | some s => return s

/-- Switches for the whole pattern must come before everything else. -/
def globalFlags (b : Builder) (on : Flags) (opened : Nat) : Reader Builder :=
  if b.frames = [] ∧ b.level.branches = [] ∧ b.level.items = [] then
    let flags := b.flags.union on
    return { b with flags, level := { b.level with verbose := flags.verbose } }
  else failAt opened .flagsNotAtStart

/-- A parenthesis followed by a question mark. -/
def extension (b : Builder) (opened : Nat) : Reader Builder := do
  let s ← required
  let verbose := b.level.verbose
  match s with
  | .plain 80 =>
    if ← accept 60 then openGroup b (some (← groupName '>')) opened
    else if ← accept 61 then namedReference b
    else
      let s ← required
      failBack (s.size + 2) (.unknownExtension (80 :: s.text))
  | .plain 58 => return b.push (.scope .none .none) opened verbose
  | .plain 35 =>
    let fuel ← fun s => Except.ok (s.length + 1, s)
    comment opened fuel
    return b
  | .plain 61 => return b.push (.ahead false) opened verbose
  | .plain 33 => return b.push (.ahead true) opened verbose
  | .plain 60 =>
    let s ← required
    match s with
    | .plain 61 => return openBehind b false opened
    | .plain 33 => return openBehind b true opened
    | s => failBack (s.size + 2) (.unknownExtension (60 :: s.text))
  | .plain 40 =>
    let (index, b) ← condition b
    return b.push (.whether index none) opened verbose
  | .plain 62 => return b.push .atomic opened verbose
  | s =>
    if isFlag s || s = .plain 45 then
      match ← flags s with
      | .inl on => globalFlags b on opened
      | .inr (on, off) => return b.push (.scope on off) opened ((verbose || on.verbose) && !off.verbose)
    else failBack (s.size + 1) (.unknownExtension s.text)

/-- An opening parenthesis. -/
def parenthesis (b : Builder) : Reader Builder := do
  let opened := (← left) + 1
  if ← accept 63 then extension b opened else openGroup b none opened

/-- Repetition counts stop here. -/
def countLimit : Nat := 4294967295

def count (digits : List Code) : Reader Nat :=
  if numeral 10 digits ≥ countLimit then fun _ => .error .numberTooLarge
  else return numeral 10 digits

/-- Counts up to the closing brace, or nothing where the brace is an ordinary character. The given number
of characters is left after the opening brace. -/
def bracedCounts (here : Nat) : Reader (Option (Nat × Option Nat)) := do
  if (← peek) = some (.plain 125) then return none
  else
    let lo ← takeAll isAsciiDigit
    let hi ← if ← accept 44 then takeAll isAsciiDigit else pure lo
    if ← accept 125 then
      let least ← if lo = [] then pure 0 else count lo
      if hi = [] then return some (least, none)
      else
        let most ← count hi
        if most < least then failAt here .countsOutOfOrder else return some (least, some most)
    else return none

/-- Counts in braces; where there are none nothing is consumed. -/
def counts : Reader (Option (Nat × Option Nat)) := fun start => do
  match ← bracedCounts start.size start with
  | (none, _) => return (none, start)
  | (some counts, rest) => return (some counts, rest)

/-- The sign after a repetition that says how it is tried. -/
def greed : Reader Greed := do
  if ← accept 63 then return .lazy
  if ← accept 43 then return .possessive
  return .greedy

/-- Repeat the last item. -/
def repeatLast (b : Builder) (started : Nat) (least : Nat) (most : Option Nat) : Reader Builder := do
  match b.level.items with
  | [] => failAt started .nothingToRepeat
  | item :: items =>
    if item.isAnchor then failAt started .nothingToRepeat
    else if item.isLoop then failAt started .multipleRepeat
    else
      let greed ← greed
      return { b with level := { b.level with items := .loop greed least most item :: items } }

/-- A symbol that may repeat the item before it. -/
def repetition (b : Builder) (c : Code) : Reader Builder := do
  let started := (← left) + 1
  if c = 63 then repeatLast b started 0 (some 1)
  else if c = 42 then repeatLast b started 0 none
  else if c = 43 then repeatLast b started 1 none
  else
    match ← counts with
    | none => return b.add (.single (.one c))
    | some (least, most) => repeatLast b started least most

/-- In verbose text a number sign starts a comment that runs to the end of the line. -/
def lineComment : Nat → Reader Unit
  | 0 => return
  | fuel + 1 => do
    match ← next with
    | none => return
    | some s => if s = .plain 10 then return else lineComment fuel

def escaped (b : Builder) (c : Code) : Reader Builder := do
  match ← escape c with
  | .literal c => return b.add (.single (.one c))
  | .kind negated kind => return b.add (.single (.oneOf false [.kind negated kind]))
  | .anchor place => return b.add (.anchor place)
  | .group index written => reference b index written

/-- One symbol other than a bar or a closing parenthesis, which is already consumed. -/
def item (b : Builder) : Symbol → Reader Builder
  | .escaped c => escaped b c
  | .loneBackslash => return b
  | .plain c => do
    if b.level.verbose && isAsciiBlank c then return b
    else if b.level.verbose && c = 35 then
      let fuel ← fun s => Except.ok (s.length + 1, s)
      lineComment fuel
      return b
    else if c = 46 then return b.add (.single .any)
    else if c = 94 then return b.add (.anchor .lineStart)
    else if c = 36 then return b.add (.anchor .lineEnd)
    else if c = 91 then return b.add (.single (← set ((← left) + 1)))
    else if c = 40 then parenthesis b
    else if c = 42 || c = 43 || c = 63 || c = 123 then repetition b c
    else return b.add (.single (.one c))

/-- A bar starts another branch. A condition has at most two. -/
def bar (b : Builder) : Reader Builder := do
  match b.frames with
  | frame :: frames =>
    match frame.opening with
    | .whether _ (some _) => fail .tooManyBranches
    | .whether index none =>
      let _ ← next
      let frame := { frame with opening := .whether index (some b.level.branch) }
      return { b with frames := frame :: frames, level := { b.level with items := [] } }
    | _ =>
      let _ ← next
      return { b with level := b.level.startBranch }
  | [] =>
    let _ ← next
    return { b with level := b.level.startBranch }

end Reader

namespace Builder

/-- Close the innermost level. -/
def close (b : Builder) (frame : Frame) (frames : List Frame) : Builder :=
  let body := b.level.regex
  let outer := { b with level := frame.outer, frames }
  match frame.opening with
  | .group index => (outer.closeGroup index body.width).add (.group index body)
  | .scope on off => outer.add (.scope on off body)
  | .atomic => outer.add (.atomic body)
  | .ahead negated => outer.add (.ahead negated body)
  | .behind negated lookbehind => { outer.add (.behind negated body) with lookbehind }
  | .whether index none => outer.add (.whether index b.level.branch .empty)
  | .whether index (some yes) => outer.add (.whether index yes b.level.branch)

end Builder

namespace Reader

/-- Read to the end, or to a closing parenthesis that nothing opened. -/
def assemble : Nat → Builder → Reader Builder
  | 0, b => return b
  | fuel + 1, b => do
    match ← peek with
    | none => return b
    | some s =>
      if s = .plain 124 then assemble fuel (← bar b)
      else if s = .plain 41 then
        match b.frames with
        | [] => return b
        | frame :: frames =>
          let _ ← next
          assemble fuel (b.close frame frames)
      else
        let _ ← next
        assemble fuel (← item b s)

end Reader

end TemplateSwap.Pattern
