import TemplateSwap.Application
import TemplateSwap.PathFilter.Glob

namespace TemplateSwap

structure Transformation where
  spec : Spec
  paths : PathFilter := {}
  encoding : String := "utf-8"
  deriving DecidableEq, Repr

/-- What became of one transformation. -/
structure ApplyResult where
  identity : String
  outcome : Except Failure Visit

namespace ApplyResult

def ok (r : ApplyResult) : Bool := r.outcome.toBool

def isNoop (r : ApplyResult) : Bool :=
  match r.outcome with
  | .ok visit => visit.isNoop
  | .error _ => false

end ApplyResult

namespace Failure

/-- Failures that are reported in results. Any other ends the run. -/
def isReported : Failure → Bool
  | config _ | apply _ | system _ => true
  | _ => false

end Failure

namespace Transformation

def identity (t : Transformation) : String := t.spec.describe

def text (t : Transformation) : String := t.spec.text ++ " path=" ++ t.paths.text

def same (a b : Transformation) : Bool :=
  a.spec.same b.spec && a.paths == b.paths && a.encoding == b.encoding

def apply (t : Transformation) (root : String) (env : Environment) (tree : Tree) :
    Outcome ApplyResult :=
  let run := Application.run t.spec root t.paths.accepts t.encoding env tree
  match run.result with
  | .ok visit => ⟨run.tree, run.notes, .ok ⟨t.identity, .ok visit⟩⟩
  | .error failure =>
    if failure.isReported then
      ⟨run.tree, run.notes ++ [.failed t.identity failure], .ok ⟨t.identity, .error failure⟩⟩
    else ⟨run.tree, run.notes, .error failure⟩

def reverse (t : Transformation) : Except ConfigError Transformation := do
  return { t with spec := ← t.spec.reverse }

/-- Apply in order, up to the first that fails. -/
def applyAll (root : String) (env : Environment) : List Transformation → Tree → Outcome (List ApplyResult)
  | [], tree => ⟨tree, [], .ok []⟩
  | t :: ts, tree =>
    let first := t.apply root env tree
    match first.result with
    | .error failure => ⟨first.tree, first.notes, .error failure⟩
    | .ok result =>
      if result.ok then
        let rest := applyAll root env ts first.tree
        ⟨rest.tree, first.notes ++ rest.notes, rest.result.map (result :: ·)⟩
      else ⟨first.tree, first.notes, .ok [result]⟩

/-- Reverse every transformation and their order. What cannot be reversed is listed apart. -/
def reverseAll : List Transformation → List Transformation × List ConfigError
  | [] => ([], [])
  | t :: ts =>
    let (reversed, errors) := reverseAll ts
    match t.reverse with
    | .ok r => (reversed ++ [r], errors)
    | .error e => (reversed, errors ++ [e])

end Transformation

end TemplateSwap
