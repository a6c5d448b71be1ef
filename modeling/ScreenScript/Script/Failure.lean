import ScreenScript.Script.Token
import ScreenScript.Script.Value

/-!
Why a script fails while it runs, and how the causes are worded.
-/

namespace ScreenScript.Script

inductive ArgumentFault where
  | tooFewPoints (n : Nat)
  | badPoint (v : Value)
  | badStroke (v : Value)
  | badSize (width height : Int64)

def ArgumentFault.message : ArgumentFault → String
  | tooFewPoints n => "gesture needs at least two points, got " ++ toString n
  | badPoint v => "expected [x, y] point, got " ++ v.display
  | badStroke v => "expected [delay?, duration, points...], got " ++ v.display
  | badSize w h => "setScreenMetrics: invalid size " ++ Word.text w ++ "x" ++ Word.text h

inductive Arithmetic where
  | addition
  | subtraction
  | multiplication
  | division
  | remainder
  deriving DecidableEq

namespace Arithmetic

def symbol : Arithmetic → String
  | addition => "+"
  | subtraction => "-"
  | multiplication => "*"
  | division => "/"
  | remainder => "%"

def result? : Arithmetic → Int64 → Int64 → Option Int64
  | addition => Word.add?
  | subtraction => Word.sub?
  | multiplication => Word.mul?
  | division => Word.div?
  | remainder => Word.mod?

def problem (op : Arithmetic) (divisor : Int64) : String :=
  match op with
  | addition => "Addition overflow"
  | subtraction => "Subtraction overflow"
  | multiplication => "Multiplication overflow"
  | division => if divisor = 0 then "Division by zero" else "Division overflow"
  | remainder => "Modulo division by zero or overflow"

end Arithmetic

inductive Measure where
  | string
  | array
  | map
  deriving DecidableEq

def Measure.name : Measure → String
  | string => "Length of string"
  | array => "Size of array/BLOB"
  | map => "Size of object map"

inductive Cause where
  | thrown (v : Value)
  | badArgument (f : ArgumentFault)
  | functionNotFound (name : String) (types : List String)
  | variableNotFound (name : String)
  | constantAssigned (name : String)
  /-- A method that may change its receiver was called on a constant. -/
  | constantChanged (method : String)
  | unknownProperty (name type : String)
  | unwritableProperty (name type value : String)
  | notIndexable (type index : String)
  | arrayBounds (index : Int64) (length : Nat)
  | stringBounds (index : Int64) (length : Nat)
  | wrongType (expected actual : String)
  | notIterable
  | arithmetic (op : Arithmetic) (a b : Int64)
  | negation (a : Int64)
  | tooManyOperations
  | stackOverflow
  | tooLarge (m : Measure)

namespace Cause

/-- How many there are of something that an index missed. -/
def extent (length : Nat) (unit container : String) : String :=
  match length with
  | 0 => container ++ " is empty"
  | 1 => "only 1 " ++ unit ++ " in " ++ container
  | n => "only " ++ toString n ++ " " ++ unit ++ "s in " ++ container

def message : Cause → String
  | thrown v => v.display
  | badArgument f => f.message
  | functionNotFound name types =>
    "Function not found: " ++ name ++ " (" ++ ", ".intercalate types ++ ")"
  | variableNotFound name => "Variable not found: " ++ name
  | constantAssigned name => "Cannot modify constant " ++ name
  | constantChanged method =>
    "Non-pure method '" ++ method ++ "' cannot be called on a constant"
  | unknownProperty name type =>
    "Unknown property '" ++ name ++ "' - a getter is not registered for type '" ++ type ++ "'"
  | unwritableProperty name type value =>
    "No writable property '" ++ name ++ "' - a setter is not registered for type '" ++ type ++
      "' to handle '" ++ value ++ "'"
  | notIndexable type index => "Indexer unavailable: " ++ type ++ " [" ++ index ++ "]"
  | arrayBounds i n =>
    "Array index " ++ Word.text i ++ " out of bounds: " ++
      (if n = 0 then "array is empty" else extent n "element" "array")
  | stringBounds i n =>
    "String index " ++ Word.text i ++ " out of bounds: " ++ extent n "character" "string"
  | wrongType expected actual =>
    "Data type incorrect: " ++ actual ++ " (expecting " ++ expected ++ ")"
  | notIterable => "For loop expects iterable type"
  | arithmetic op a b =>
    op.problem b ++ ": " ++ Word.text a ++ " " ++ op.symbol ++ " " ++ Word.text b
  | negation a => "Negation overflow: -" ++ Word.text a
  | tooManyOperations => "Too many operations"
  | stackOverflow => "Stack overflow"
  | tooLarge m => m.name ++ " too large"

/-- Causes that concern the evaluation as a whole, and not the function they arise in. -/
def isSystemic : Cause → Bool
  | tooManyOperations => true
  | stackOverflow => true
  | tooLarge _ => true
  | _ => false

end Cause

/-- A failure as it comes out of the functions and modules around it. A termination carries the
token that tells an exit from a cancellation. -/
inductive Failure where
  | error (c : Cause) (p : Position)
  | terminated (token : String)
  | inFunction (name : String) (inner : Failure)
  | inModule (inner : Failure)

namespace Failure

def exitToken : String := "automate:exit"

def cancelToken : String := "automate:cancelled"

inductive Core where
  | error (c : Cause) (p : Position)
  | terminated (token : String)

def core : Failure → Core
  | error c p => .error c p
  | terminated token => .terminated token
  | inFunction _ f => f.core
  | inModule f => f.core

/-- The functions around the failure, innermost first. -/
def stack : Failure → List String
  | error .. => []
  | terminated _ => []
  | inFunction name f => f.stack ++ [name]
  | inModule f => f.stack

/-- The failure as the caller of a function sees it: a systemic one moves to the place of the call,
any other is wrapped. -/
def outOf (name : String) (p : Position) : Failure → Failure
  | error c q => if c.isSystemic then error c p else inFunction name (error c q)
  | terminated token => terminated token
  | f => inFunction name f

/-- Whether a script can catch the failure. A call around it makes it one that can be caught. -/
def isCatchable : Failure → Bool
  | error c _ => !c.isSystemic
  | terminated _ => false
  | inFunction .. => true
  | inModule _ => true

/-- A failure that is thrown once more, at a place of its own unless it came out of a call. -/
def rethrown (p : Position) : Failure → Failure
  | error c _ => error c p
  | f => f

end Failure

end ScreenScript.Script
