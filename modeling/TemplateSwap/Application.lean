import TemplateSwap.Spec
import TemplateSwap.Tree.Walk
import TemplateSwap.Text.Encoding

namespace TemplateSwap

/-- What an application reports. -/
inductive Event
  | changed (path : String)
  | noop (identity : String)
  deriving DecidableEq, Repr

namespace Event

def noopMessage (identity : String) : String :=
  "Transformation '" ++ identity ++ "' was a no-op. It didn't affect the workdir."

def kind : Event → String
  | changed _ => "changed"
  | noop _ => "noop"

def path? : Event → Option String
  | changed path => some path
  | noop _ => none

def message : Event → String
  | changed path => "Rewrote " ++ path
  | noop identity => noopMessage identity

end Event

/-- What is noted for the log while files are rewritten. -/
inductive Note
  | rewrote (path : String) (count : Nat)
  | applied (spec : Spec) (visited changed : Nat)
  | failed (identity : String) (failure : Failure)

/-- What is counted and listed while files are rewritten. -/
structure Visit where
  visited : Nat := 0
  changed : Nat := 0
  changedPaths : List String := []
  events : List Event := []
  deriving DecidableEq, Repr

namespace Visit

def isNoop (v : Visit) : Bool := v.changed == 0

/-- One more file, whose text changed or not. -/
def record (v : Visit) (path : String) (changed : Bool) : Visit :=
  if changed then
    { visited := v.visited + 1
      changed := v.changed + 1
      changedPaths := v.changedPaths ++ [path]
      events := v.events ++ [.changed path] }
  else { v with visited := v.visited + 1 }

/-- At the end it is reported if nothing changed. -/
def close (v : Visit) (identity : String) : Visit :=
  if v.isNoop then { v with events := v.events ++ [.noop identity] } else v

end Visit

/-- A tree, what was noted on the way to it, and a result. -/
structure Outcome (α : Type) where
  tree : Tree
  notes : List Note := []
  result : Except Failure α

namespace Application

/-- Rewrite one file. The result is the number of replacements if its text changed. A file whose new
text cannot be encoded is left empty. -/
def rewriteFile (r : Replacer) (encodingName : String) (env : Environment) (t : Tree) (path : String) :
    Outcome (Option Nat) :=
  let refuse (cause : SystemError) : Failure := .apply ⟨.rewriting, path, cause⟩
  match env.reading.lookup path, t.readFile path with
  | some text, _ => ⟨t, [], .error (refuse (.denied text))⟩
  | none, .error error => ⟨t, [], .error (refuse error)⟩
  | none, .ok (place, data) =>
    match env.codec encodingName with
    | .error error => ⟨t, [], .error (.ofCodec error)⟩
    | .ok codec =>
      match codec.decode data with
      | .error error => ⟨t, [], .error (.ofCodec error)⟩
      | .ok original =>
        let (content, count) := r.replaceCount original
        if content = original then ⟨t, [], .ok none⟩
        else
          match env.writing.lookup path with
          | some text => ⟨t, [], .error (refuse (.denied text))⟩
          | none =>
            match codec.encode content with
            | .error error => ⟨t.put place (.file []), [], .error (.ofCodec error)⟩
            | .ok bytes => ⟨t.put place (.file bytes), [.rewrote path count], .ok (some count)⟩

/-- Rewrite files one after the other, and record each of them. -/
def rewriteFiles (r : Replacer) (encodingName : String) (env : Environment) :
    Visit → Tree → List String → Outcome Visit
  | v, t, [] => ⟨t, [], .ok v⟩
  | v, t, path :: paths =>
    let one := rewriteFile r encodingName env t path
    match one.result with
    | .error failure => ⟨one.tree, one.notes, .error failure⟩
    | .ok count =>
      let rest := rewriteFiles r encodingName env (v.record path count.isSome) one.tree paths
      ⟨rest.tree, one.notes ++ rest.notes, rest.result⟩

/-- The directory that could not be listed, or the root that is none. -/
def failedPath : SystemError → String → String
  | .listingDenied path, _ => path
  | _, root => root

/-- Apply a specification to every file below a root whose path from there is accepted. -/
def run (s : Spec) (root : String) (accepts : String → Bool) (encodingName : String)
    (env : Environment) (t : Tree) : Outcome Visit :=
  match s.replacer with
  | .error failure => ⟨t, [], .error failure⟩
  | .ok r =>
    let root := Path.normal root
    let walk := t.walk env root
    let accepted := walk.files.filter fun names => accepts (Path.text names)
    let rewritten := rewriteFiles r encodingName env {} t (accepted.map (Path.below root))
    match rewritten.result with
    | .error failure => ⟨rewritten.tree, rewritten.notes, .error failure⟩
    | .ok visit =>
      match walk.failure with
      | some error =>
        ⟨rewritten.tree, rewritten.notes, .error (.apply ⟨.walking, failedPath error root, error⟩)⟩
      | none =>
        { tree := rewritten.tree
          notes := rewritten.notes ++ [.applied s visit.visited visit.changed]
          result := .ok (visit.close s.describe) }

end Application

end TemplateSwap
