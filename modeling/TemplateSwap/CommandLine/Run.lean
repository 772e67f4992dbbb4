import TemplateSwap.Configuration
import TemplateSwap.Markup.Printer
import TemplateSwap.CommandLine.Request
import TemplateSwap.CommandLine.Styled
import TemplateSwap.CommandLine.Table

namespace TemplateSwap.CommandLine

/-- How a run ends: with an exit code, or by a failure that nothing reports. -/
inductive Ending
  | exit (code : Nat)
  | escaped (failure : Failure)

structure Report where
  output : List String := []
  errors : List String := []
  ending : Ending := .exit 0

namespace Report

/-- One report after another, which is what counts for the ending. -/
def append (a b : Report) : Report := ⟨a.output ++ b.output, a.errors ++ b.errors, b.ending⟩

def failure (errors : List String) : Report := { errors, ending := .exit 1 }

def escaped (failure : Failure) : Report := { ending := .escaped failure }

/-- Lines as text, each ended by a line break. -/
def textOf (lines : List String) : String := String.join (lines.map (· ++ "\n"))

end Report

def logLine (stamp logger level message : String) : String :=
  stamp ++ " retemplate." ++ logger ++ " " ++ level ++ " " ++ message

/-- The line of the log for a note. Only some notes are for everyone. -/
def noteLine? (stamp : String) (verbose : Bool) : Note → Option String
  | .rewrote path count =>
    if verbose then
      some (logLine stamp "applier" "DEBUG"
        ("Rewrote " ++ path ++ " (" ++ toString count ++ " replacement(s))"))
    else none
  | .applied spec visited changed =>
    some (logLine stamp "applier" "INFO"
      ("Applied " ++ spec.text ++ " to " ++ toString visited ++ " files. " ++ toString changed
        ++ " changed."))
  | .failed identity failure =>
    if verbose then
      some (logLine stamp "transformations" "DEBUG" (identity ++ " failed: " ++ failure.message))
    else none

/-- Failures to load a configuration that are reported. -/
def isLoadFailure : Failure → Bool
  | .config _ | .system _ => true
  | _ => false

def errorLine (message : String) : String := "Error: " ++ message

/-- The transformations of a configuration file, or a report of everything that is wrong with it. -/
def loadAll (tree : Tree) (config : String) : Except Report (List Transformation) :=
  match Configuration.build {} tree config with
  | .error failure =>
    .error (if isLoadFailure failure then .failure [errorLine failure.message] else .escaped failure)
  | .ok built =>
    let errors := built.filterMap fun
      | .error e => some (errorLine e.message)
      | .ok _ => none
    if errors.isEmpty then .ok (built.filterMap Except.toOption) else .error (.failure errors)

/-- The transformations that undo others, or a report of those that cannot be undone. -/
def reverseOrReport (ts : List Transformation) : Except Report (List Transformation) :=
  match Transformation.reverseAll ts with
  | (reversed, []) => .ok reversed
  | (_, errors) => .error (.failure (errors.map fun e => errorLine ("cannot reverse: " ++ e.message)))

def summary (identity : String) (visit : Visit) : String :=
  identity ++ ": " ++ toString visit.changed ++ " of " ++ toString visit.visited ++ " files changed"

def noopHint : String :=
  "Pass --ignore-noop to continue past transformations that change nothing."

/-- Report what transformations did. The first that failed ends the report, and so does one without
effect unless such are ignored. -/
def reportResults (root : String) (verbose ignoreNoop : Bool) : List ApplyResult → Report
  | [] => {}
  | r :: rest =>
    match r.outcome with
    | .error failure => .failure [errorLine (r.identity ++ ": " ++ failure.message)]
    | .ok visit =>
      let paths := if verbose then visit.changedPaths.map fun p => "  " ++ Path.relative root p else []
      let output := summary r.identity visit :: paths
      let message := Event.noopMessage r.identity
      if visit.isNoop && !ignoreNoop then
        { output, errors := [errorLine message, noopHint], ending := .exit 1 }
      else
        let errors := if visit.isNoop then ["Warning: " ++ message] else []
        Report.append { output, errors } (reportResults root verbose ignoreNoop rest)

def apply (stamp : String) (env : Environment) (tree : Tree) (verbose : Bool) (config root : String)
    (reverse ignoreNoop : Bool) : Report × Tree :=
  let ready := do
    let ts ← loadAll tree config
    let ts ← if reverse then reverseOrReport ts else pure ts
    let root := Path.normal root
    if tree.isDirectory root then return (ts, root)
    else throw (Report.failure [errorLine (root ++ " is not a directory")])
  match ready with
  | .error report => (report, tree)
  | .ok (ts, root) =>
    let run := Transformation.applyAll root env ts tree
    let log : Report := { errors := run.notes.filterMap (noteLine? stamp verbose) }
    let report :=
      match run.result with
      | .error failure => .escaped failure
      | .ok results => reportResults root verbose ignoreNoop results
    (log.append report, run.tree)

def columns : List Column :=
  [{ header := "#", alignRight := true }, { header := "IDENTITY" }, { header := "AFTER" },
    { header := "FLAGS" }, { header := "PATHS" }, { header := "REVERSIBLE" }]

def flagNames (s : Spec) : List String :=
  (if s.firstOnly then ["first_only"] else []) ++ (if s.multiline then ["multiline"] else [])
    ++ (if s.repeatedGroups then ["repeated_groups"] else [])

def reversibleText (t : Transformation) : String :=
  match t.reverse with
  | .ok _ => "[bold green]yes[/bold green]"
  | .error e => "[red]no[/red] [dim]" ++ Styled.escape e.detail ++ "[/dim]"

def tableRow (number : Nat) (t : Transformation) : List String :=
  let flags := flagNames t.spec
  [toString number, t.identity, t.spec.after.source,
    if flags.isEmpty then "-" else ", ".intercalate flags, t.paths.text,
    Styled.plain (reversibleText t)]

def check (tree : Tree) (config : String) : Report :=
  match loadAll tree config with
  | .error report => report
  | .ok ts =>
    let table : Table :=
      { title := Styled.plain ("Transformations in " ++ config), columns
        rows := ts.mapIdx fun index t => tableRow (index + 1) t }
    { output := table.lines }

/-- A configuration with the given transformations. -/
def document (ts : List Transformation) : String :=
  Markup.Printer.document [(.text "transformations", .list (ts.map Descriptor.write))]

def reverse (tree : Tree) (config : String) : Report :=
  match (loadAll tree config).bind reverseOrReport with
  | .error report => report
  | .ok ts => { output := [document ts] }

def usageReport (t : Topic) (error : UsageError) : Report :=
  { errors := [t.usage, t.name ++ ": error: " ++ error.message], ending := .exit 2 }

/-- Carry out a command line. -/
def run (stamp : String) (env : Environment) (tree : Tree) (arguments : List String) : Report × Tree :=
  match Request.ofArguments arguments with
  | .help topic => ({ output := [topic.help] }, tree)
  | .misuse topic error => (usageReport topic error, tree)
  | .run _ (.check config) => (check tree config, tree)
  | .run _ (.reverse config) => (reverse tree config, tree)
  | .run verbose (.apply config root reverse ignoreNoop) =>
    apply stamp env tree verbose config root reverse ignoreNoop

end TemplateSwap.CommandLine
