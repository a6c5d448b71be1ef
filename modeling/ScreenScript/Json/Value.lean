import ScreenScript.Json.Written
import ScreenScript.Number.Layout

/-!
JSON values: numbers are numbers, keys are unique and ascend, and at most 127 arrays and objects lie
within each other. `print` writes them without any space.
-/

namespace ScreenScript.Json

/-- The members of an object are in ascending order of their keys. -/
inductive Value where
  | null
  | bool (b : Bool)
  | number (n : Number)
  | string (s : String)
  | array (items : List Value)
  | object (members : List (String × Value))
  deriving Inhabited

def maxDepth : Nat := 127

def putMember {α : Type} (key : String) (v : α) : List (String × α) → List (String × α)
  | [] => [(key, v)]
  | (k, w) :: r =>
    if key < k then (key, v) :: (k, w) :: r
    else if key = k then (key, v) :: r
    else (k, w) :: putMember key v r

def getMember {α : Type} (key : String) : List (String × α) → Option α
  | [] => none
  | (k, v) :: r => if k = key then some v else getMember key r

/-- Members in ascending order; the last of a repeated key counts. -/
def sortMembers {α : Type} (ms : List (String × α)) : List (String × α) :=
  ms.foldl (fun acc m => putMember m.1 m.2 acc) []

namespace Value

mutual

/-- The value of a written tree, with `depth` more levels allowed. -/
def ofWritten? (depth : Nat) : Written → Option Value
  | .null => some .null
  | .bool b => some (.bool b)
  | .number n => n.number?.map .number
  | .string s => s.map .string
  | .array ws => if depth = 0 then none else (ofItems? (depth - 1) ws).map .array
  | .object ms =>
    if depth = 0 then none else (ofMembers? (depth - 1) ms).map fun ms => .object (sortMembers ms)

def ofItems? (depth : Nat) : List Written → Option (List Value)
  | [] => some []
  | w :: ws => do
    let v ← ofWritten? depth w
    let vs ← ofItems? depth ws
    pure (v :: vs)

def ofMembers? (depth : Nat) : List (Option String × Written) → Option (List (String × Value))
  | [] => some []
  | (k, w) :: ms => do
    let k ← k
    let v ← ofWritten? depth w
    let vs ← ofMembers? depth ms
    pure ((k, v) :: vs)

end

def parse? (s : String) : Option Value :=
  (Written.parse? s).bind (ofWritten? maxDepth)

def escape (c : Char) : List Char :=
  if c = '"' then ['\\', '"']
  else if c = '\\' then ['\\', '\\']
  else if c = '\x08' then ['\\', 'b']
  else if c = '\x0c' then ['\\', 'f']
  else if c = '\n' then ['\\', 'n']
  else if c = '\r' then ['\\', 'r']
  else if c = '\t' then ['\\', 't']
  else if c.toNat < 0x20 then
    ['\\', 'u', '0', '0', Nat.digitChar (c.toNat / 16), Nat.digitChar (c.toNat % 16)]
  else [c]

def printString (s : String) : List Char :=
  '"' :: s.toList.flatMap escape ++ ['"']

def printNumber : Number → List Char
  | .whole n => Decimal.ofInt n
  | .real x =>
    match x with
    | .finite .. => Layout.wire.chars x
    | _ => "null".toList

def printArray (items : List (List Char)) : List Char :=
  '[' :: (items.intersperse [',']).flatten ++ [']']

def printObject (members : List (String × List Char)) : List Char :=
  '\x7b' :: ((members.map fun m => printString m.1 ++ ':' :: m.2).intersperse [',']).flatten
    ++ ['\x7d']

mutual

def print : Value → List Char
  | null => "null".toList
  | bool true => "true".toList
  | bool false => "false".toList
  | number n => printNumber n
  | string s => printString s
  | array vs => printArray (printItems vs)
  | object ms => printObject (printMembers ms)

def printItems : List Value → List (List Char)
  | [] => []
  | v :: vs => print v :: printItems vs

def printMembers : List (String × Value) → List (String × List Char)
  | [] => []
  | (k, v) :: ms => (k, print v) :: printMembers ms

end

def text (v : Value) : String :=
  String.ofList (print v)

end Value

end ScreenScript.Json
