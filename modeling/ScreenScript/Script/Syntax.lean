import ScreenScript.Script.Tree

/-!
What can be wrong with the form of a script.
-/

namespace ScreenScript.Script

inductive SyntaxCause where
  | lexical (f : LexFault)
  | incomplete
  | unknownOperator (op : String)
  | missing (token : String) (why : String)
  | badIndex (why : String)
  | duplicateProperty (name : String)
  | duplicateVariable (name : String)
  | variableExpected
  | reserved (word : String)
  | mismatch (expected actual : String)
  | expressionExpected (what : String)
  | propertyExpected
  | functionNameMissing
  | nestedFunction
  | parametersMissing (function : String)
  | duplicateParameter (function param : String)
  | bodyMissing (function : String)
  | duplicateFunction (function : String) (arity : Nat)
  | constantAssigned (name : String)
  | notAssignable
  | tooLarge (what : String) (limit : Nat)
  | strayBreak
  deriving DecidableEq

namespace SyntaxCause

def count (n : Nat) : String :=
  match n with
  | 0 => "no parameters"
  | 1 => "1 parameter"
  | n => toString n ++ " parameters"

def text : SyntaxCause → String
  | lexical f => f.message
  | incomplete => "Script is incomplete"
  | unknownOperator op => "Unknown operator: '" ++ op ++ "'"
  | missing t why => "Expecting '" ++ t ++ "' " ++ why
  | badIndex why => "Invalid index in indexing expression: " ++ why
  | duplicateProperty n => "Duplicated property for object map literal: " ++ n
  | duplicateVariable n => "Duplicated variable name: " ++ n
  | variableExpected => "Expecting name of a variable"
  | reserved w => "'" ++ w ++ "' is a reserved keyword"
  | mismatch expected actual => "Expecting " ++ expected ++ ", not " ++ actual
  | expressionExpected what => "Expecting " ++ what ++ " expression"
  | propertyExpected => "Expecting name of a property"
  | functionNameMissing => "Expecting function name in function declaration"
  | nestedFunction =>
    "Function definitions must be at global level and cannot be inside a block or another function"
  | parametersMissing f => "Expecting parameters for function " ++ f
  | duplicateParameter f p => "Duplicated parameter " ++ p ++ " for function " ++ f
  | bodyMissing f => "Expecting body statement block for function " ++ f
  | duplicateFunction f n => "Function " ++ f ++ " with " ++ count n ++ " already exists"
  | constantAssigned n =>
    if n = "" then "Cannot assign to a constant value" else "Cannot assign to constant " ++ n
  | notAssignable => "Expression cannot be assigned to"
  | tooLarge what n => what ++ " exceeds the maximum limit (" ++ toString n ++ ")"
  | strayBreak => "Break statement should only be used inside a loop"

def message (c : SyntaxCause) : String :=
  "Syntax error: " ++ c.text

end SyntaxCause

/-- Why a script was refused, where, and whether the last token looked at was a period. -/
structure SyntaxFault where
  cause : SyntaxCause
  pos : Position
  afterPeriod : Bool
  deriving DecidableEq

end ScreenScript.Script
