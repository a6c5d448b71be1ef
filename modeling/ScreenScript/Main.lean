import ScreenScript.CommandLine.Outcome

/-!
The command line of the program: reads files and the environment, and prints the outcome. The
pauses of a script pass on a clock of its own, so that nobody waits for them.
-/

namespace ScreenScript.CommandLine

def reasonOf : IO.Error → String
  | .noFileOrDirectory .. => noSuchFile
  | .permissionDenied .. => "Permission denied (os error 13)"
  | e => toString e

def fileNames (words : List String) : List String :=
  (Item.ofWords words).filterMap fun
    | .operand s => some s
    | .setting _ v => some v
    | _ => none

def readFiles (names : List String) : IO (List (String × Except String String)) :=
  names.mapM fun (name : String) => do
    try pure (name, .ok (← IO.FS.readFile name))
    catch e => pure (name, .error (reasonOf e))

end ScreenScript.CommandLine

open ScreenScript.CommandLine

def main (words : List String) : IO UInt32 := do
  let files ← readFiles (fileNames words)
  let surroundings : Surroundings :=
    { file := fun path => ((files.find? (·.1 = path)).map (·.2)).getD (.error noSuchFile)
      logFilter := ← IO.getEnv "RUST_LOG" }
  let o := Outcome.ofWords surroundings words
  (← IO.getStderr).putStr o.complaints
  (← IO.getStdout).putStr o.output
  pure (UInt32.ofNat o.code)
