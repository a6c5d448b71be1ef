import ScreenScript.Script.Session

/-!
Places an access path reaches: a variable with keys into its value, or a value that is kept nowhere.
-/

namespace ScreenScript.Script

inductive Key where
  | index (n : Nat)
  | name (s : String)
  deriving DecidableEq

inductive Place where
  | variable (name : String) (keys : List Key)
  | value (v : Value)

namespace Value

def child (v : Value) (k : Key) : Value :=
  match v, k with
  | array vs, .index n => vs.getD n unit
  | map es, .name s => (Json.getMember s es).getD unit
  | _, _ => unit

def follow (v : Value) (ks : List Key) : Value :=
  ks.foldl child v

/-- Changes what the keys lead to. A missing key of a map is added. -/
def modifyAt (f : Value → Value) : List Key → Value → Value
  | [], v => f v
  | .index n :: ks, array vs => array (vs.modify n (modifyAt f ks))
  | .name s :: ks, map es =>
    map (Json.putMember s (modifyAt f ks ((Json.getMember s es).getD unit)) es)
  | _, v => v

end Value

namespace Place

def child (p : Place) (k : Key) : Place :=
  match p with
  | .variable name ks => .variable name (ks ++ [k])
  | .value v => .value (v.child k)

def read (s : Session) : Place → Value
  | .variable name ks => ((s.lookup? name).map fun v => v.value.follow ks).getD .unit
  | .value v => v

def write (s : Session) (v : Value) : Place → Session
  | .variable name ks => s.update name (Value.modifyAt (fun _ => v) ks)
  | .value _ => s

def isConstant (s : Session) : Place → Bool
  | .variable name _ => (s.lookup? name).any (·.constant)
  | .value _ => false

end Place

end ScreenScript.Script
