import ScreenScript.Script.Value

/-!
The JSON forms of script values, in both directions.
-/

namespace ScreenScript.Script.Value

mutual

/-- Nothing for a value that is an object of the screen, or holds one. -/
def json? : Value → Option Json.Value
  | unit => some .null
  | bool b => some (.bool b)
  | int n => some (.number (.whole n.toInt))
  | float x => some (.number (.real x))
  | char c => some (.string (String.singleton c))
  | string s => some (.string s)
  | array vs => (jsonItems? vs).map .array
  | map es => (jsonMembers? es).map .object
  | _ => none

def jsonItems? : List Value → Option (List Json.Value)
  | [] => some []
  | v :: vs => do
    let j ← json? v
    let js ← jsonItems? vs
    pure (j :: js)

def jsonMembers? : List (String × Value) → Option (List (String × Json.Value))
  | [] => some []
  | (k, v) :: es => do
    let j ← json? v
    let js ← jsonMembers? es
    pure ((k, j) :: js)

end

/-- The JSON text that is sent for a value; the displayed form where it has none of its own. -/
def encoded (v : Value) : String :=
  ((json? v).getD (.string v.display)).text

/-- A whole number beyond the words is floating. -/
def ofNumber : Json.Number → Value
  | .whole n => match Word.ofInt? n with
    | some w => int w
    | none => float (Binary64.ofInt n)
  | .real x => float x

mutual

def ofJson : Json.Value → Value
  | .null => unit
  | .bool b => bool b
  | .number n => ofNumber n
  | .string s => string s
  | .array js => array (ofJsonItems js)
  | .object ms => map (ofJsonMembers ms)

def ofJsonItems : List Json.Value → List Value
  | [] => []
  | j :: js => ofJson j :: ofJsonItems js

def ofJsonMembers : List (String × Json.Value) → List (String × Value)
  | [] => []
  | (k, j) :: ms => (k, ofJson j) :: ofJsonMembers ms

end

def ofNode? : Option Node.Info → Value
  | some i => node i
  | none => unit

def ofNodes (is : List Node.Info) : Value :=
  array (is.map node)

end ScreenScript.Script.Value
