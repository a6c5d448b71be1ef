import ScreenScript.Error
import ScreenScript.Script.Parser

/-!
Compiling a script without running it.
-/

namespace ScreenScript.Engine

open Script

def errorAt (source name message : String) (p : Position) (stack : List String) : EvalError :=
  .script { message, sourceName := name, line := some p.line, col := some p.col
            excerpt := some (Excerpt.text source p.line p.col), stack }

def syntaxError (source name : String) (f : SyntaxFault) : EvalError :=
  errorAt source name f.cause.message f.pos []

/-- Compiles a source on its own, without limits on its literals. -/
def checkSyntax (source name : String) : Except EvalError Unit :=
  match Parser.parse {} false source with
  | .ok _ => .ok ()
  | .error f => .error (syntaxError source name f)

end ScreenScript.Engine
