import ScreenScript.Script.Api.Actions
import ScreenScript.Script.Api.Gestures
import ScreenScript.Script.Api.Nodes
import ScreenScript.Script.Api.Standard

/-!
What scripts can call. A function is found by its name and the types of its arguments, and a method
is a function whose first argument is the receiver.
-/

namespace ScreenScript.Script.Api

def method? (name : String) (args : List Value) : Option (Action Value) :=
  match args with
  | .selector h :: args => selectorMethod? h name args
  | .node i :: args => nodeMethod? i name args
  | .array vs :: args => searchMethod? vs name args
  | .namespaceObject n :: args => namespaceMethod? n name args
  | .storage s :: args => storageMethod? s name args
  | _ => none

def global? (name : String) (args : List Value) (p : Position) : Option (Action Value) :=
  match name, args with
  | "newSelector", [] => some do pure (.selector (← newSelector))
  | _, _ => gestureCall? name args p <|> actionCall? name args <|> standardCall? name args p

def function? (name : String) (args : List Value) (p : Position) : Option (Action Value) :=
  ((Selector.Kind.ofName? name).bind fun k => conditionCall k args) <|> method? name args <|>
    global? name args p

def property? (v : Value) (name : String) : Option (Action Value) :=
  match v, name with
  | .node i, name => (nodeProperty? i name).map pure
  | .namespaceObject .device, name => deviceProperty? name
  | .storage s, "name" => some (pure (.string s))
  | .string s, "len" => some (pure (.int (Int64.ofNat s.length)))
  | .array vs, "len" => some (pure (.int (Int64.ofNat vs.length)))
  | _, _ => none

/-- What a method makes of its receiver, for those that change it. They alone are refused on a
constant: no function of the screen changes a value in place. -/
def changed? (receiver : Value) (name : String) (args : List Value) : Option Value :=
  match receiver, name, args with
  | .array vs, "push", [v] => some (.array (vs ++ [v]))
  | _, _, _ => none

end ScreenScript.Script.Api
