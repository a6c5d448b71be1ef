import ScreenScript.Engine.Check
import ScreenScript.Script.Evaluator
import ScreenScript.Script.Simplify

/-!
The evaluation of one source in a session: compiling it, running it, and what is reported of it.
-/

namespace ScreenScript.Engine

open Script

/-- What is reported of a failure. The innermost error alone gives message and place. -/
def failureError (source name : String) (f : Failure) : EvalError :=
  match f.core with
  | .error c p => errorAt source name c.message p f.stack
  | .terminated token => if token = Failure.exitToken then .exited else .cancelled

/-- What is reported of the end of a script; nothing when the bound on nested steps was reached. -/
def outcome (source name : String) (s : Session) :
    Except Stop Value → Option (Except EvalError String)
  | .ok v => some (.ok (v.completion s.selectors))
  | .error (.returned v) => some (.ok (v.completion s.selectors))
  | .error (.finished v) => some (.ok (v.completion s.selectors))
  | .error (.failed f) => some (.error (failureError source name f))
  | .error (.left _) => some (.ok (Value.unit.completion s.selectors))
  | .error .exhausted => none

def prepare (s : Session) (t : Compiled) (afterPeriod : Bool) : Session :=
  { s.adopt t.functions with afterPeriod, operations := 0 }

def run (config : Config) (bound : Nat) (source name : String) (body : List Stmt) (s : Session) :
    Program (Option (Except EvalError String) × Session) :=
  ((evaluator bound).stmts body { config } s).bind fun (r, s) =>
    .done (outcome source name s r, s)

def evaluation (config : Config) (bound : Nat) (source name : String) (s : Session) :
    Program (Option (Except EvalError String) × Session) :=
  match Parser.parse (limits config) s.afterPeriod source with
  | .error f =>
    .done (some (.error (syntaxError source name f)), { s with afterPeriod := f.afterPeriod })
  | .ok (script, afterPeriod) =>
    let script := Simplify.script config.maxStringSize s script
    run config bound source name script.body (prepare s script afterPeriod)

end ScreenScript.Engine
