import ScreenScript.Config.Basic
import ScreenScript.Host.Program
import ScreenScript.Script.Failure
import ScreenScript.Script.Session

/-!
Steps of an evaluation: programs over a session that may stop early. Every operation looks at the
interrupt flag, and so does everything that reaches the host, before and after.
-/

namespace ScreenScript.Script

inductive Stop where
  | failed (f : Failure)
  | returned (v : Value)
  /-- The whole script ends with a value. -/
  | finished (v : Value)
  /-- A loop ends, or only its round. -/
  | left (ends : Bool)
  /-- The bound on nested steps is reached. -/
  | exhausted

/-- `level` counts the calls around the step. -/
structure Context where
  config : Config
  level : Nat := 0

abbrev Action := ReaderT Context (ExceptT Stop (StateT Session Program))

namespace Action

variable {α : Type}

def perform (p : Program α) : Action α :=
  fun _ s => p.bind fun a => .done (.ok a, s)

def stop (s : Stop) : Action α := throw s

def failWith (f : Failure) : Action α := stop (.failed f)

def fail (c : Cause) (p : Position) : Action α := failWith (.error c p)

def heed : Action Unit := do
  if ← perform (.poll .done) then failWith (.terminated Failure.cancelToken)

/-- Carries out a program that reaches the host, between two looks at the interrupt flag. -/
def guarded (p : Program α) : Action α := do
  heed
  let a ← perform p
  heed
  pure a

def tick (p : Position) : Action Unit := do
  modify fun s => { s with operations := s.operations + 1 }
  let limit := (← read).config.maxOperations
  if limit ≠ 0 ∧ limit < (← get).operations then fail .tooManyOperations p
  heed

def afterwards (f : Session → Session) (a : Action α) : Action α :=
  fun c s => (a c s).bind fun (r, s) => .done (r, f s)

def inScope (a : Action α) : Action α := do
  let n := (← get).scope.length
  afterwards (·.rewind n) a

def isolated (vs : List Variable) (a : Action α) : Action α := do
  let outer := (← get).scope
  modify fun s => { s with scope := vs }
  afterwards (fun s => { s with scope := outer })
    (withReader (fun c => { c with level := c.level + 1 }) a)

end Action

end ScreenScript.Script
