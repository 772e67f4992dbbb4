import TemplateSwap.Pattern.Builder

namespace TemplateSwap

open TemplateSwap.Text (Code codes ofCodes)

/-- A pattern ready to be matched. -/
structure Pattern where
  source : String
  regex : Pattern.Regex
  flags : Pattern.Flags
  groups : List Pattern.GroupInfo
  deriving DecidableEq, Repr

namespace Pattern

def Greed.loopName : Greed → String
  | .greedy => "MAX_REPEAT"
  | .lazy => "MIN_REPEAT"
  | .possessive => "POSSESSIVE_REPEAT"

/-- The longest look-behind. -/
def lookbehindLimit : Nat := 4294967295

namespace Regex

/-- The first part that is well formed but cannot be matched: a look-behind whose width is not
fixed, or a loop in a pattern that forbids loops. -/
def fault? (flags : Flags) : Regex → Option Fault
  | empty | single _ | anchor _ | backref _ _ => none
  | cat a b | choice a b | whether _ a b => fault? flags a <|> fault? flags b
  | loop greed _ _ body =>
    if flags.template then some (.loopInTemplate greed.loopName) else fault? flags body
  | group _ body | atomic body | ahead _ body => fault? flags body
  | scope on off body => fault? (flags.within on off) body
  | behind _ body =>
    if body.width.least > lookbehindLimit then some .lookbehindTooLong
    else if body.width.least ≠ body.width.most then some .lookbehindNotFixed
    else fault? flags body

end Regex

/-- Reading is over: nothing may be left open or left over, and conditions must ask about groups
that exist. -/
def finish (b : Builder) : Reader Builder := do
  match b.frames with
  | frame :: _ => Reader.failAt frame.left .unterminatedGroup
  | [] =>
    if b.flags.ascii && b.flags.unicode then fun _ => .error .bothModes
    else if (← Reader.peek).isSome then Reader.fail .unbalancedParenthesis
    else
      match b.conditions.find? (fun (index, _) => b.groups.length < index) with
      | some (index, left) => Reader.failAt left (.unknownGroup index)
      | none => return b

/-- All of the text. -/
def readAll (flags : Flags) : Reader Builder := fun s =>
  if s = [.loneBackslash] then .error (.fault .trailingBackslash 1)
  else (do finish (← Reader.assemble (s.length + 1) { flags, level := { verbose := flags.verbose } })) s

/-- The mode is that of all scripts unless ASCII is asked for. -/
def settleMode (flags : Flags) : Flags := { flags with unicode := !flags.ascii }

def compile (source : String) (flags : Flags) : Except Refusal Pattern :=
  let text := codes source
  match readAll flags (.ofCodes text) with
  | .error (.fault fault left) => .error (.faulty ⟨fault, text, some (text.length - left)⟩)
  | .error .numberTooLarge => .error .numberTooLarge
  | .error .bothModes => .error .bothModes
  | .ok (b, _) =>
    let flags := settleMode b.flags
    let regex := b.level.regex
    match regex.fault? flags with
    | some fault => .error (.faulty ⟨fault, text, none⟩)
    | none => .ok { source, regex, flags, groups := b.groups }

/-- The number of the group with a name. -/
def groupNamed? (p : Pattern) (name : String) : Option Nat :=
  (p.groups.findIdx? (·.name = some (codes name))).map (· + 1)

end Pattern

end TemplateSwap
