import ScreenScript.Host.Answer
import ScreenScript.Node.Operation
import ScreenScript.Script.Action
import ScreenScript.Script.Json

/-!
How the answers of the host become values of a script.
-/

namespace ScreenScript.Script.Api

open Script.Action

def yes (p : Program Bool) : Action Value := do
  pure (.bool (← guarded p))

def text (p : Program String) : Action Value := do
  pure (.string (← guarded p))

def integer (p : Program Int64) : Action Value := do
  pure (.int (← guarded p))

def node? (p : Program (Option Node.Info)) : Action Value := do
  pure (.ofNode? (← guarded p))

def nodes (p : Program (List Node.Info)) : Action Value := do
  pure (.ofNodes (← guarded p))

/-- A call whose answer is read as JSON; an answer that is none is the unit value. -/
def json (verb : String) (args : List String) : Action Value := do
  pure (((← guarded (Program.callJson verb args)).map Value.ofJson).getD .unit)

def ask (verb : String) (args : List String) : Action Value :=
  yes (Program.callBool verb args)

def refuse (f : ArgumentFault) (p : Position) : Action Value :=
  fail (.badArgument f) p

end ScreenScript.Script.Api
