import ScreenScript.Script.Failure

/-!
The operators of scripts. Numbers of the two kinds mix; values of unrelated types are unequal and in
no order; a text takes in the shown form of whatever is added to it.
-/

namespace ScreenScript.Script.Operator

open Selector Value

def undefined (symbol : String) (args : List Value) : Cause :=
  .functionNotFound symbol (args.map argumentType)

inductive Comparison where
  | equal
  | unequal
  | less
  | atMost
  | greater
  | atLeast
  deriving DecidableEq

namespace Comparison

def all : List Comparison := [equal, unequal, less, atMost, greater, atLeast]

def symbol : Comparison → String
  | equal => "=="
  | unequal => "!="
  | less => "<"
  | atMost => "<="
  | greater => ">"
  | atLeast => ">="

def holds : Comparison → Option Ordering → Bool
  | equal, o => o = some .eq
  | unequal, o => o ≠ some .eq
  | less, o => o = some .lt
  | atMost, o => o = some .lt || o = some .eq
  | greater, o => o = some .gt
  | atLeast, o => o = some .gt || o = some .eq

end Comparison

def orderReals (x y : Binary64) : Option Ordering :=
  if x.lt y then some .lt else if x.eq y then some .eq else if y.lt x then some .gt else none

def order? : Value → Value → Option (Option Ordering)
  | int a, int b => some (some (compare a.toInt b.toInt))
  | int a, float y => some (orderReals (Binary64.ofInt a.toInt) y)
  | float x, int b => some (orderReals x (Binary64.ofInt b.toInt))
  | float x, float y => some (orderReals x y)
  | .bool a, .bool b => some (some (compare a b))
  | char a, char b => some (some (compare a b))
  | char a, string b => some (some (compare (String.singleton a) b))
  | string a, char b => some (some (compare a (String.singleton b)))
  | string a, string b => some (some (compare a b))
  | _, _ => none

/-- Equality of values that are no arrays and no maps. -/
def equalsPlain (a b : Value) : Except Cause Bool :=
  match order? a b, a, b with
  | some o, _, _ => .ok (o = some .eq)
  | none, unit, unit => .ok true
  | none, a, b =>
    if a.typeName = b.typeName then .error (undefined "==" [a, b]) else .ok false

mutual

def equals : Value → Value → Except Cause Bool
  | array as, array bs => if as.length = bs.length then equalsItems as bs else .ok false
  | map as, map bs => if as.length = bs.length then equalsEntries as bs else .ok false
  | a, b => equalsPlain a b

def equalsItems : List Value → List Value → Except Cause Bool
  | a :: as, b :: bs => do if ← equals a b then equalsItems as bs else pure false
  | _, _ => .ok true

def equalsEntries : List (String × Value) → List (String × Value) → Except Cause Bool
  | (k, a) :: as, bs => do
    match Json.getMember k bs with
    | some b => if ← equals a b then equalsEntries as bs else pure false
    | none => pure false
  | [], _ => .ok true

end

def isCollection : Value → Bool
  | array _ => true
  | map _ => true
  | _ => false

def compareValues (c : Comparison) (a b : Value) : Except Cause Value :=
  match order? a b, a, b with
  | some o, _, _ => .ok (.bool (c.holds o))
  | none, unit, unit => .ok (.bool (c = .equal))
  | none, a, b =>
    if a.typeName ≠ b.typeName then .ok (.bool (c = .unequal))
    else if isCollection a then
      match c with
      | .equal => (equals a b).map .bool
      | .unequal => (equals a b).map fun r => .bool !r
      | _ => .error (undefined c.symbol [a, b])
    else .error (undefined c.symbol [a, b])

def realOf : Arithmetic → Binary64 → Binary64 → Binary64
  | .addition => Binary64.add
  | .subtraction => Binary64.sub
  | .multiplication => Binary64.mul
  | .division => Binary64.div
  | .remainder => Binary64.rem

def calculate (op : Arithmetic) (a b : Value) : Except Cause Value :=
  match a, b with
  | int a, int b => match op.result? a b with
    | some n => .ok (int n)
    | none => .error (.arithmetic op a b)
  | int a, float y => .ok (float (realOf op (Binary64.ofInt a.toInt) y))
  | float x, int b => .ok (float (realOf op x (Binary64.ofInt b.toInt)))
  | float x, float y => .ok (float (realOf op x y))
  | a, b => .error (undefined op.symbol [a, b])

def concatenate (s : Store) (a b : Value) : Except Cause Value :=
  match a, b with
  | string a, b => .ok (string (a ++ b.ownText s))
  | a, string b => .ok (string (a.ownText s ++ b))
  | char a, char b => .ok (string (String.ofList [a, b]))
  | array as, array bs => .ok (array (as ++ bs))
  | a, b => calculate .addition a b

def arithmetics : List Arithmetic :=
  [.addition, .subtraction, .multiplication, .division, .remainder]

/-- The whole numbers from one to another; the last may be among them. -/
def span (closed : Bool) (a b : Value) : Except Cause Value :=
  match a, b with
  | int lo, int hi => .ok (range lo hi closed)
  | a, b => .error (undefined (if closed then "..=" else "..") [a, b])

def binary? (s : Store) (symbol : String) : Option (Value → Value → Except Cause Value) :=
  match symbol with
  | "+" => some (concatenate s)
  | ".." => some (span false)
  | "..=" => some (span true)
  | _ =>
    match arithmetics.find? (·.symbol = symbol) with
    | some op => some (calculate op)
    | none => (Comparison.all.find? (·.symbol = symbol)).map compareValues

def negate : Value → Except Cause Value
  | int n => match Word.neg? n with
    | some n => .ok (int n)
    | none => .error (.negation n)
  | float x => .ok (float x.neg)
  | v => .error (undefined "-" [v])

def unary? (symbol : String) : Option (Value → Except Cause Value) :=
  match symbol with
  | "!" => some fun
    | .bool b => .ok (.bool !b)
    | v => .error (undefined "!" [v])
  | "-" => some negate
  | "+" => some fun
    | int n => .ok (int n)
    | float x => .ok (float x)
    | v => .error (undefined "+" [v])
  | _ => none

/-- An assignment with an operator. An array takes in the elements of another, or a new one. -/
def compound (s : Store) (symbol : String) (a b : Value) : Except Cause Value :=
  match a, b with
  | array as, b =>
    if symbol = "+" then
      match b with
      | array bs => .ok (array (as ++ bs))
      | b => .ok (array (as ++ [b]))
    else .error (undefined symbol [a, b])
  | a, b => match binary? s symbol with
    | some f => f a b
    | none => .error (undefined symbol [a, b])

/-- Elements of arrays, elements of maps, and bytes of texts, at all depths. -/
structure Size where
  array : Nat := 0
  map : Nat := 0
  string : Nat := 0

def Size.add (a b : Size) : Size :=
  ⟨a.array + b.array, a.map + b.map, a.string + b.string⟩

mutual

def size : Value → Size
  | string s => { string := s.utf8ByteSize }
  | array vs => itemsSize vs
  | map es => entriesSize es
  | _ => {}

def itemsSize : List Value → Size
  | [] => {}
  | v :: vs => (Size.add { array := 1 } (size v)).add (itemsSize vs)

def entriesSize : List (String × Value) → Size
  | [] => {}
  | (_, v) :: es => (Size.add { map := 1 } (size v)).add (entriesSize es)

end

/-- What is too large, the texts first; a limit of zero on texts is none. -/
def Size.excess? (s : Size) (stringLimit collectionLimit : Nat) : Option Measure :=
  if stringLimit ≠ 0 ∧ stringLimit < s.string then some .string
  else if collectionLimit < s.array then some .array
  else if collectionLimit < s.map then some .map
  else none

end ScreenScript.Script.Operator
