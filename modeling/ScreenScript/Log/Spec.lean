/-!
The choice of the filter's directives from command line switches and the environment.
-/

namespace ScreenScript.Log.Spec

def targets : List String := ["automate", "automate_engine", "logging"]

def forLevel (level : String) : String :=
  let l := level.map Char.toLower
  ",".intercalate (targets.map fun t => t ++ "=" ++ l)

structure Switches where
  trace : Bool := false
  debug : Bool := false
  level : Option String := none
  filter : Option String := none

/-- An explicit filter comes first, then the switches, then the environment. -/
def choose (s : Switches) (environment : Option String) : String :=
  match s.filter with
  | some f => f
  | none =>
    if s.trace then forLevel "trace"
    else if s.debug then forLevel "debug"
    else match s.level with
    | some l => forLevel l
    | none => environment.getD (forLevel "info")

end ScreenScript.Log.Spec
