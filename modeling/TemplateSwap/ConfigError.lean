import TemplateSwap.Location
import TemplateSwap.Pattern.Error
import TemplateSwap.Value.Display

namespace TemplateSwap

open TemplateSwap.Text (quoted quotedList)

/-- Why a fragment cannot be used under its name. -/
inductive FragmentFault
  | notIdentifier
  | notText (typeName : String)
  | faulty (error : Pattern.Error)
  deriving DecidableEq, Repr

def FragmentFault.message : FragmentFault → String
  | notIdentifier => "group names must be identifiers"
  | notText typeName => "expected a string, got " ++ typeName
  | faulty error => error.message

/-- The parts of a configuration whose keys are fixed. -/
inductive Section
  | top
  | entry
  | paths
  deriving DecidableEq, Repr

inductive Defect
  | invalidPattern (name source : String) (cause : Option FragmentFault)
  | loneDollar (template : String)
  | unterminatedName (template : String)
  | invalidName (name template : String)
  | unknownNames (names : List String) (template : String)
  | repeatedName (name template : String)
  | unusedNames (names : List String) (template : String)
  | uncompilable (template : String) (error : Pattern.Error)
  | unknownKind (kind : Value) (available : List String)
  | invalidMarkup
  | configNotMapping (typeName : String)
  | transformationsNotList
  | entryNotMapping (typeName : String)
  | unknownKeys (part : Section) (keys : List Value)
  | notText (key : String)
  | notTruthValue (key : String)
  | groupsNotMapping (typeName : String)
  | pathsNotList (typeName : String)

namespace Section

/-- The keys of a part, in ascending order. -/
def allowed : Section → List String
  | top => ["transformations"]
  | entry =>
    ["after", "before", "first_only", "multiline", "paths", "regex_groups", "repeated_groups", "type"]
  | paths => ["exclude", "include"]

def unknownKeysText : Section → String
  | top => "Unknown top-level keys: "
  | entry => "Unknown keys in transformation: "
  | paths => "Unknown keys in 'paths': "

end Section

/-- The message for a kind of transformation that is not registered. -/
def unknownKindText (kind : Value) (available : List String) : String :=
  "Unknown transformation type: " ++ kind.shown ++ ". Available: " ++ quotedList available

namespace Defect

def ofTemplate (template : String) : String := " (template: " ++ quoted template ++ ")"

def message : Defect → String
  | invalidPattern name source cause =>
    "'regex_groups' includes invalid regex for key " ++ name ++ ": " ++ source
      ++ (match cause with
        | none => ""
        | some fault => " (" ++ fault.message ++ ")")
  | loneDollar template => "Expect $ or \x7b after every $ in string: " ++ quoted template
  | unterminatedName template =>
    "Unterminated '$\x7b'. Expected '\x7d': " ++ quoted template
  | invalidName name template =>
    "Invalid interpolation name " ++ quoted name ++ " in " ++ quoted template
  | unknownNames names template =>
    "Following interpolations are used but not in regex_groups: " ++ quotedList names
      ++ ofTemplate template
  | repeatedName name template =>
    "Regex group is used in template multiple times: " ++ name ++ ofTemplate template
      ++ ". Set repeated_groups to allow it"
  | unusedNames names template =>
    "Following interpolations are defined but not used: " ++ quotedList names ++ ofTemplate template
  | uncompilable template error =>
    "Cannot compile " ++ quoted template ++ " into a regex: " ++ error.message
  | unknownKind kind available => unknownKindText kind available
  | invalidMarkup => "Invalid YAML"
  | configNotMapping typeName => "Config must be a mapping, got " ++ typeName
  | transformationsNotList => "'transformations' must be a list"
  | entryNotMapping typeName => "Transformation must be a mapping, got " ++ typeName
  | unknownKeys part keys =>
    part.unknownKeysText ++ Value.listShown keys ++ ". Allowed: " ++ quotedList part.allowed
  | notText key => quoted key ++ " is required and must be a string"
  | notTruthValue key => quoted key ++ " must be true or false"
  | groupsNotMapping typeName => "'regex_groups' must be a mapping, got " ++ typeName
  | pathsNotList typeName => "'paths' must be a list or mapping, got " ++ typeName

end Defect

structure ConfigError where
  defect : Defect
  location : Option Location

namespace ConfigError

/-- The message without its place. -/
def detail (e : ConfigError) : String := e.defect.message

def message (e : ConfigError) : String := Location.mark e.location e.detail

end ConfigError

end TemplateSwap
