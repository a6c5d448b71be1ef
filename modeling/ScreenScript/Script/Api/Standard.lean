import ScreenScript.Script.Api.Namespaces
import ScreenScript.Script.Operator

/-!
Functions of the language itself: lengths, types, texts of values, output, search,
and the end of a script with a value.
-/

namespace ScreenScript.Script.Api

open Script.Action

def length? : Value → Option Nat
  | .string s => some s.length
  | .array vs => some vs.length
  | .map es => some es.length
  | _ => none

def holdsItem (v : Value) (p : Position) : List Value → Action Bool
  | [] => pure false
  | w :: ws => do
    match Operator.equals w v with
    | .ok true => pure true
    | .ok false => holdsItem v p ws
    | .error c => fail c p

def contains? (container v : Value) (p : Position) : Option (Action Value) :=
  match container, v with
  | .array vs, v => some do pure (.bool (← holdsItem v p vs))
  | .string s, .string t => some (pure (.bool (Selector.Condition.occurs t.toList s.toList)))
  | .string s, .char c => some (pure (.bool (s.toList.contains c)))
  | .map es, .string k => some (pure (.bool (Json.getMember k es).isSome))
  | .range lo hi closed, .int n =>
    some (pure (.bool (lo ≤ n && if closed then n ≤ hi else n < hi)))
  | _, _ => none

def generalCall? (name : String) (args : List Value) : Option (Action Value) :=
  match name, args with
  | "type_of", [v] => some (pure (.string v.typeName))
  | "to_string", [v] => some do pure (.string (v.ownText (← get).selectors))
  | "to_debug", [v] => some do pure (.string (v.inspect (← get).selectors))
  | "exit", [v] => some (stop (.finished v))
  | "print", [] => some (write .log "")
  | "print", [v] => some do write .log (v.ownText (← get).selectors)
  | "debug", [] => some (write .debug "")
  | "debug", [v] => some do write .debug (v.inspect (← get).selectors)
  | _, _ => none

def standardCall? (name : String) (args : List Value) (p : Position) : Option (Action Value) :=
  match name, args with
  | "len", [v] => (length? v).map fun n => pure (.int (Int64.ofNat n))
  | "contains", [container, v] => contains? container v p
  | "range", [.int lo, .int hi] => some (pure (.range lo hi false))
  | _, _ => generalCall? name args

end ScreenScript.Script.Api
