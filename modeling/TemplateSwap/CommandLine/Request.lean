import TemplateSwap.CommandLine.Usage
import TemplateSwap.Text.Decimal

namespace TemplateSwap.CommandLine

/-- What a command is to be carried out on, and how. -/
inductive Command
  | apply (config root : String) (reverse ignoreNoop : Bool)
  | check (config : String)
  | reverse (config : String)
  deriving DecidableEq, Repr

/-- What a command line asks for. -/
inductive Request
  | run (verbose : Bool) (command : Command)
  | help (topic : Topic)
  | misuse (topic : Topic) (error : UsageError)
  deriving DecidableEq, Repr

namespace Request

/-- A flag as it is spelled out, with a value that is joined to it: after an equals sign, or directly
after a letter. -/
structure FlagUse where
  flag : Flag
  long : Bool
  value : Option (Bool × String) := none

/-- What an argument is. -/
inductive Kind
  | operand
  | dashes
  | unknown
  | flag (use : FlagUse)

structure Argument where
  text : String
  kind : Kind

/-- All spellings of the flags of a topic. -/
def spellings (t : Topic) : List (String × Flag) :=
  t.flags.flatMap fun f => f.spellings.map fun s => (s, f)

def isLong (spelling : String) : Bool := spelling.startsWith "--"

/-- A text up to the first equals sign, and what follows the sign. -/
def splitValue (text : String) : String × Option String :=
  let cs := text.toList
  match cs.dropWhile (· ≠ '=') with
  | _ :: value => (String.ofList (cs.takeWhile (· ≠ '=')), some (String.ofList value))
  | [] => (text, none)

/-- A minus sign with digits, and perhaps a point before the last of them. -/
def isNegativeNumber (text : String) : Bool :=
  let isDigit (c : Char) : Bool := Text.isDecimal c.toNat
  match text.toList with
  | '-' :: rest =>
    let whole := rest.takeWhile isDigit
    match rest.drop whole.length with
    | [] => !whole.isEmpty
    | '.' :: fraction => !fraction.isEmpty && fraction.all isDigit
    | _ => false
  | _ => false

/-- The flags that a shortened spelling could mean. -/
def candidates (t : Topic) (text : String) : List (String × FlagUse) :=
  if isLong text then
    let (lead, value) := splitValue text
    ((spellings t).filter fun (s, _) => s.startsWith lead).map fun (s, f) =>
      (s, ⟨f, true, value.map (true, ·)⟩)
  else
    let letter := String.ofList (text.toList.take 2)
    ((spellings t).filter fun (s, _) => s == letter).map fun (s, f) =>
      (s, ⟨f, false, some (false, String.ofList (text.toList.drop 2))⟩)

/-- What an argument is before two dashes have been seen. -/
def classify (t : Topic) (text : String) : Except UsageError Kind :=
  if !text.startsWith "-" || text.length = 1 then .ok .operand
  else
    let (lead, value) := splitValue text
    match (spellings t).lookup text, value, (spellings t).lookup lead with
    | some flag, _, _ => .ok (.flag ⟨flag, isLong text, none⟩)
    | none, some value, some flag => .ok (.flag ⟨flag, isLong lead, some (true, value)⟩)
    | _, _, _ =>
      match candidates t text with
      | [(_, use)] => .ok (.flag use)
      | [] => .ok (if isNegativeNumber text || text.contains ' ' then .operand else .unknown)
      | several => .error (.ambiguous text (several.map (·.1)))

def classifyAll (t : Topic) : List String → Except UsageError (List Argument)
  | [] => .ok []
  | text :: rest =>
    if text = "--" then .ok (⟨text, .dashes⟩ :: rest.map (⟨·, .operand⟩))
    else do
      let kind ← classify t text
      return ⟨text, kind⟩ :: (← classifyAll t rest)

/-- One-letter flags written together: the flags, and what is left over if some letter is none. -/
def cluster (t : Topic) : Nat → FlagUse → Except UsageError (List (Flag × Option String) × List String)
  | 0, _ => .ok ([], [])
  | fuel + 1, use =>
    match use.value with
    | none => .ok ([(use.flag, none)], [])
    | some (equals, value) =>
      if use.flag.takesValue then .ok ([(use.flag, some value)], [])
      else
        match use.long, value.toList with
        | false, c :: rest =>
          if equals || c = '-' then .error (.unusedValue use.flag value)
          else
            match (spellings t).lookup (String.ofList ['-', c]) with
            | none => .ok ([(use.flag, none)], ["-" ++ value])
            | some flag => do
              let next : FlagUse :=
                match rest with
                | [] => ⟨flag, false, none⟩
                | '=' :: more => ⟨flag, false, some (true, String.ofList more)⟩
                | more => ⟨flag, false, some (false, String.ofList more)⟩
              let (flags, extras) ← cluster t fuel next
              return ((use.flag, none) :: flags, extras)
        | _, _ => .error (.unusedValue use.flag value)

/-- What has been read of a command line: the flags in order, the operand with everything that goes
with it, and what was not recognized. -/
structure Found where
  flags : List (Flag × Option String) := []
  operand : Option (List String) := none
  extras : List String := []

/-- Why reading stops before the end. -/
inductive Stop
  | help
  | error (e : UsageError)

/-- Take note of flags. A flag for help counts at once. -/
def addFlags (found : Found) (flags : List (Flag × Option String)) (extras : List String) :
    Except Stop Found :=
  if flags.any fun (f, _) => f = .help then .error .help
  else .ok { found with flags := found.flags ++ flags, extras := found.extras ++ extras }

/-- How many arguments the operand takes at the beginning of some: two dashes around it are part
of it, and a command takes all that follows. -/
def operandLength (t : Topic) (args : List Argument) : Nat :=
  match args with
  | ⟨_, .operand⟩ :: rest =>
    if t = .program then args.length
    else
      match rest with
      | ⟨_, .dashes⟩ :: _ => 2
      | _ => 1
  | ⟨_, .dashes⟩ :: ⟨_, .operand⟩ :: _ => if t = .program then args.length else 2
  | _ => 0

/-- Read arguments. -/
def collect (t : Topic) : Nat → Found → List Argument → Except Stop Found
  | 0, found, _ => .ok found
  | _, found, [] => .ok found
  | fuel + 1, found, arg :: rest =>
    match arg.kind with
    | .flag use =>
      match cluster t (arg.text.length + 1) use with
      | .error e => .error (.error e)
      | .ok (flags, extras) =>
        match flags.getLast? with
        | some (flag, none) =>
          if flag.takesValue then
            match rest with
            | ⟨value, .operand⟩ :: more => do
              collect t fuel (← addFlags found (flags.dropLast ++ [(flag, some value)]) extras) more
            | _ => .error (.error (.expectedValue flag))
          else do collect t fuel (← addFlags found flags extras) rest
        | _ => do collect t fuel (← addFlags found flags extras) rest
    | .unknown => collect t fuel { found with extras := found.extras ++ [arg.text] } rest
    | _ =>
      let n := if found.operand.isSome then 0 else operandLength t (arg :: rest)
      if n = 0 then collect t fuel { found with extras := found.extras ++ [arg.text] } rest
      else
        let taken := ((arg :: rest).take n).map (·.text)
        collect t fuel { found with operand := some taken } (rest.drop (n - 1))

def read (t : Topic) (texts : List String) : Except Stop Found := do
  let args ← (classifyAll t texts).mapError .error
  let found ← collect t (texts.length + 1) {} args
  if found.operand.isNone then throw (.error (.missing t.operand))
  return found

def hasFlag (found : Found) (flag : Flag) : Bool := found.flags.any fun (f, _) => f = flag

/-- The value of a flag that was given last. -/
def valueOf (found : Found) (flag : Flag) (default : String) : String :=
  ((found.flags.reverse.find? fun (f, _) => f = flag).bind (·.2)).getD default

/-- The configuration file among what was taken for it. -/
def config (found : Found) : String :=
  (((found.operand.getD []).erase "--").head?).getD ""

def command (t : Topic) (found : Found) : Command :=
  match t with
  | .check => .check (config found)
  | .reverse => .reverse (config found)
  | _ => .apply (config found) (valueOf found .root ".") (hasFlag found .reverse)
      (hasFlag found .ignoreNoop)

def stopped (t : Topic) : Stop → Request
  | .help => .help t
  | .error e => .misuse t e

/-- What a command line asks for. -/
def ofArguments (texts : List String) : Request :=
  match read .program texts with
  | .error stop => stopped .program stop
  | .ok outer =>
    match outer.operand.getD [] with
    | [] => .misuse .program (.missing "command")
    | word :: rest =>
      match Topic.ofWord? word with
      | none => .misuse .program (.noSuchCommand word)
      | some t =>
        match read t rest with
        | .error stop => stopped t stop
        | .ok inner =>
          match outer.extras ++ inner.extras with
          | [] => .run (hasFlag outer .verbose) (command t inner)
          | extras => .misuse .program (.unrecognized extras)

end Request

end TemplateSwap.CommandLine
