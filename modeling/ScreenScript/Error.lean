import ScreenScript.Excerpt
import ScreenScript.Text.Blank

/-!
Why an evaluation has no value.
-/

namespace ScreenScript

/-- An error of the script itself. `stack` names the functions being called, innermost first. -/
structure ScriptError where
  message : String
  sourceName : String
  line : Option Nat := none
  col : Option Nat := none
  excerpt : Option String := none
  stack : List String := []
  deriving DecidableEq

inductive EvalError where
  | notInitialized
  | busy
  | cancelled
  | exited
  | script (e : ScriptError)
  deriving DecidableEq

namespace ScriptError

def location (e : ScriptError) : String :=
  match e.line, e.col with
  | some l, some c => e.sourceName ++ ":" ++ toString l ++ ":" ++ toString c
  | some l, none => e.sourceName ++ ":" ++ toString l
  | none, _ => e.sourceName

def pretty (e : ScriptError) : String :=
  "Script error at " ++ e.location ++ "\n" ++ e.message ++
    (match e.excerpt with
      | some x => "\n" ++ String.ofList (Text.trimEnd x.toList)
      | none => "") ++
    String.join (e.stack.map fun f => "\n    in " ++ f)

end ScriptError

namespace EvalError

def message : EvalError → String
  | notInitialized => "Error: Engine not initialized"
  | busy => "Error: Engine busy"
  | cancelled => "Error: Script interrupted"
  | exited => "Script exited"
  | script e => e.message

def pretty : EvalError → String
  | script e => e.pretty
  | e => e.message

end EvalError

end ScreenScript
