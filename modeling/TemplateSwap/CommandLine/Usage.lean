import TemplateSwap.Text.Quoted

namespace TemplateSwap.CommandLine

open TemplateSwap.Text (quoted)

inductive Flag
  | help
  | verbose
  | root
  | reverse
  | ignoreNoop
  deriving DecidableEq, Repr

namespace Flag

def spellings : Flag → List String
  | help => ["-h", "--help"]
  | verbose => ["-v", "--verbose"]
  | root => ["--root"]
  | reverse => ["--reverse"]
  | ignoreNoop => ["--ignore-noop"]

def takesValue : Flag → Bool
  | root => true
  | _ => false

/-- What stands for the value of a flag in usage texts. -/
def valueName : Flag → String
  | root => " ROOT"
  | _ => ""

def label (f : Flag) : String := "/".intercalate f.spellings

def helpText : Flag → String
  | help => "show this help message and exit"
  | verbose => "Enable debug logging"
  | root => "Directory to rewrite (default: .)"
  | reverse => "Apply the inverse transformations, in reverse order"
  | ignoreNoop => "Warn instead of failing when a transformation changes nothing"

end Flag

/-- The program as a whole, or one of its commands. -/
inductive Topic
  | program
  | apply
  | check
  | reverse
  deriving DecidableEq, Repr

namespace Topic

def commands : List Topic := [apply, check, reverse]

def word : Topic → String
  | program => "retemplate"
  | apply => "apply"
  | check => "check"
  | reverse => "reverse"

def ofWord? (word : String) : Option Topic := commands.find? fun t => t.word == word

/-- The name that messages begin with. -/
def name (t : Topic) : String := if t = program then program.word else program.word ++ " " ++ t.word

def flags : Topic → List Flag
  | program => [.help, .verbose]
  | apply => [.help, .root, .reverse, .ignoreNoop]
  | check | reverse => [.help]

/-- What has to be given: a command, or a configuration file. -/
def operand (t : Topic) : String := if t = program then "command" else "config"

def choices : String := "\x7b" ++ ",".intercalate (commands.map word) ++ "\x7d"

def usage (t : Topic) : String :=
  let flags := t.flags.map fun f => "[" ++ f.spellings.head?.getD "" ++ f.valueName ++ "]"
  let operand := if t = program then choices ++ " ..." else t.operand
  "usage: " ++ " ".intercalate (t.name :: flags ++ [operand])

def helpText : Topic → String
  | program => "Reversible template-driven search and replace"
  | apply => "Rewrite files under a directory"
  | check => "Validate a config and show reversibility"
  | reverse => "Print the inverse config as YAML"

/-- A line of a help text: how far it is indented, what it is about, and its text. -/
structure Row where
  indent : Nat
  head : String
  text : String

def operandRows (t : Topic) : List Row :=
  if t = program then ⟨2, choices, ""⟩ :: commands.map fun c => ⟨4, c.word, c.helpText⟩
  else [⟨2, t.operand, "Path to YAML file with transformations"⟩]

def flagRows (t : Topic) : List Row :=
  t.flags.map fun f => ⟨2, ", ".intercalate (f.spellings.map (· ++ f.valueName)), f.helpText⟩

/-- Texts stand behind the widest head, but no further than this. -/
def textColumn : Nat := 24

def Row.line (column : Nat) (r : Row) : String :=
  let head := "".pushn ' ' r.indent ++ r.head
  if r.text.isEmpty then head else head.pushn ' ' (column - head.length) ++ r.text

def help (t : Topic) : String :=
  let rows := t.operandRows ++ t.flagRows
  let column := min textColumn ((rows.map fun r => r.indent + r.head.length + 2).foldl max 0)
  let lines (rows : List Row) := "\n".intercalate (rows.map (Row.line column))
  t.usage ++ "\n\n" ++ (if t = program then t.helpText ++ "\n\n" else "")
    ++ "positional arguments:\n" ++ lines t.operandRows ++ "\n\noptions:\n" ++ lines t.flagRows

end Topic

inductive UsageError
  | ambiguous (text : String) (candidates : List String)
  | missing (operand : String)
  | expectedValue (flag : Flag)
  | unusedValue (flag : Flag) (value : String)
  | noSuchCommand (word : String)
  | unrecognized (texts : List String)
  deriving DecidableEq, Repr

def UsageError.message : UsageError → String
  | ambiguous text candidates =>
    "ambiguous option: " ++ text ++ " could match " ++ ", ".intercalate candidates
  | missing operand => "the following arguments are required: " ++ operand
  | expectedValue flag => "argument " ++ flag.label ++ ": expected one argument"
  | unusedValue flag value =>
    "argument " ++ flag.label ++ ": ignored explicit argument " ++ quoted value
  | noSuchCommand word =>
    "argument command: invalid choice: " ++ quoted word ++ " (choose from "
      ++ ", ".intercalate (Topic.commands.map fun t => quoted t.word) ++ ")"
  | unrecognized texts => "unrecognized arguments: " ++ " ".intercalate texts

end TemplateSwap.CommandLine
