import ScreenScript.Pattern.Cache
import ScreenScript.Script.Tree

/-!
What scripts leave behind for later scripts of the same runtime.
-/

namespace ScreenScript.Script

structure Variable where
  name : String
  constant : Bool
  value : Value

structure Scale where
  x : Binary64
  y : Binary64

structure Session where
  /-- Variables, the innermost first. -/
  scope : List Variable := []
  functions : List Function := []
  selectors : Selector.Store := {}
  patterns : Pattern.Cache := default
  scale : Option Scale := none
  /-- Whether a period was the last token looked at. -/
  afterPeriod : Bool := false
  operations : Nat := 0

namespace Session

def lookup? (s : Session) (name : String) : Option Variable :=
  s.scope.find? (·.name = name)

def function? (s : Session) (name : String) (arity : Nat) : Option Function :=
  s.functions.find? (·.is name arity)

/-- Adds the functions of a script; they replace those of the same name and arity. -/
def adopt (s : Session) (fs : List Function) : Session :=
  { s with functions := fs ++ s.functions.filter fun f =>
      !fs.any (·.is f.name f.params.length) }

def declare (s : Session) (name : String) (constant : Bool) (v : Value) : Session :=
  { s with scope := ⟨name, constant, v⟩ :: s.scope }

def rewind (s : Session) (n : Nat) : Session :=
  { s with scope := s.scope.drop (s.scope.length - n) }

def modifyVariable (name : String) (f : Value → Value) : List Variable → List Variable
  | [] => []
  | v :: vs =>
    if v.name = name then { v with value := f v.value } :: vs
    else v :: modifyVariable name f vs

def update (s : Session) (name : String) (f : Value → Value) : Session :=
  { s with scope := modifyVariable name f s.scope }

/-- A coordinate scaled to the nearest whole number, halves away from zero. -/
def scaled (factor : Binary64) (n : Int64) : Int64 :=
  ((Binary64.ofInt n.toInt).mul factor).roundAway.toWord

def point (s : Session) (x y : Int64) : Int64 × Int64 :=
  match s.scale with
  | some f => (scaled f.x x, scaled f.y y)
  | none => (x, y)

end Session

end ScreenScript.Script
