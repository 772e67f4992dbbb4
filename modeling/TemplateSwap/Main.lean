import TemplateSwap.CommandLine.Run

namespace TemplateSwap.CommandLine

/-- The files that a command needs: its configuration, and the files to rewrite. -/
def inputPaths (request : Request) (listed : IO (List String)) : IO (List String) := do
  match request with
  | .run _ (.apply config _ _ _) => return config :: (← listed)
  | .run _ (.check config) | .run _ (.reverse config) => return [config]
  | _ => return []

partial def inputLines (input : IO.FS.Stream) : IO (List String) := do
  let line ← input.getLine
  if line.isEmpty then return []
  let path := String.ofList (line.toList.filter (· ≠ '\n'))
  return path :: (← inputLines input)

/-- A tree of the files that can be read. -/
def readTree (paths : List String) : IO Tree :=
  paths.foldlM (fun (tree : Tree) (path : String) => do
    try
      let data ← IO.FS.readBinFile path
      return tree.put (Path.parts path) (.file data.toList)
    catch _ => return tree) Tree.empty

/-- Write the files that differ between two trees. -/
def writeChanges (before after : Tree) : IO Unit := do
  let old := before.files []
  for (path, data) in after.files [] do
    if !old.contains (path, data) then
      IO.FS.writeBinFile (Path.text path) ⟨data.toArray⟩

def exitCode : Ending → UInt32
  | .exit code => UInt32.ofNat code
  | .escaped _ => 1

def escapedText : Ending → String
  | .exit _ => ""
  | .escaped failure => failure.message ++ "\n"

end TemplateSwap.CommandLine

open TemplateSwap.CommandLine

def main (arguments : List String) : IO UInt32 := do
  let paths ← inputPaths (Request.ofArguments arguments) (do inputLines (← IO.getStdin))
  let tree ← readTree paths
  let stamp := toString (← IO.monoMsNow)
  let (report, result) := run stamp {} tree arguments
  writeChanges tree result
  (← IO.getStdout).putStr (Report.textOf report.output)
  (← IO.getStderr).putStr (Report.textOf report.errors ++ escapedText report.ending)
  return exitCode report.ending
