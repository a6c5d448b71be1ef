import ScreenScript.Proofs.Engine.History
import ScreenScript.Proofs.Script.Raising

namespace ScreenScript.Engine

open Script

variable {σ : Type} {e : Engine σ} {source name : String}

/-- The end of the statements of a source, before it is said what is reported of it. -/
def ending (e : Engine σ) (name : String) (start : Runtime σ × List Stmt × Session) :
    Except Stop Value :=
  (World.run start.1.host
    ((evaluator e.bound).stmts start.2.1 { config := e.config } start.2.2)
    (e.world.note (started name))).1.1

/-- The evaluation of a source comes to raise `f` inside the given calls of functions. -/
def Raises (e : Engine σ) (source name : String) (f : Failure) (calls : List (String × Position)) :
    Prop :=
  ∃ rt body s, e.start? source = some (rt, body, s) ∧
    Script.Raises rt.host f calls ((evaluator e.bound).stmts body) { config := e.config } s
      (e.world.note (started name))

end ScreenScript.Engine
