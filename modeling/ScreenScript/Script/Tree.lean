import ScreenScript.Script.Token
import ScreenScript.Script.Value

/-!
Scripts as trees. Operators are calls of functions named like them. An access path is a base with
links, which reach into it one after the other.
-/

namespace ScreenScript.Script

mutual

inductive Expr where
  /-- A value known before the script runs. -/
  | constant (v : Value) (p : Position)
  /-- Pieces that are shown one after the other. -/
  | interpolated (parts : List Expr) (p : Position)
  | array (items : List Expr) (p : Position)
  | map (entries : List (String × Expr)) (p : Position)
  | var (name : String) (p : Position)
  | call (name : String) (args : List Expr) (p : Position)
  | path (base : Expr) (links : List Link) (p : Position)
  | and (a b : Expr) (p : Position)
  | or (a b : Expr) (p : Position)
  | block (stmts : List Stmt) (p : Position)

/-- A link with `safe` ends the path at a unit value. -/
inductive Link where
  | property (name : String) (safe : Bool) (p : Position)
  | method (name : String) (args : List Expr) (safe : Bool) (p : Position)
  | index (e : Expr) (p : Position)

inductive Stmt where
  | noop (p : Position)
  | expr (e : Expr)
  | ifElse (cond : Expr) (yes no : List Stmt) (p : Position)
  /-- `cond` is checked before each round; there is none for a bare loop. The second place is that
  of the body. -/
  | loop (cond : Option Expr) (body : List Stmt) (p bodyPos : Position)
  | forIn (name : String) (items : Expr) (body : List Stmt) (p bodyPos : Position)
  | declare (name : String) (init : Expr) (constant : Bool) (p : Position)
  /-- `op` is the operator of a compound assignment; the place is that of the assignment sign. -/
  | assign (op : Option String) (target value : Expr) (p : Position)
  | block (stmts : List Stmt) (p : Position)
  /-- Ends a loop, or only its round. -/
  | leave (ends : Bool) (p : Position)
  /-- Ends a function, or the script. -/
  | ret (value : Option Expr) (p : Position)
  | raise (value : Option Expr) (p : Position)
  /-- Runs the handler if the body fails in a way that can be caught. -/
  | tryCatch (body handler : List Stmt) (p : Position)
  /-- Runs a text in a block of its own that catches all there is to catch. The second place is that
  of the call of `eval`. -/
  | attempt (text : Expr) (p callPos : Position)

end

instance : Inhabited Expr := ⟨.constant .unit .start⟩

instance : Inhabited Stmt := ⟨.noop .start⟩

/-- A function of a script. Functions are told apart by name and number of parameters. -/
structure Function where
  name : String
  params : List String
  body : List Stmt

def Function.is (f : Function) (name : String) (arity : Nat) : Bool :=
  f.name = name && f.params.length = arity

structure Compiled where
  body : List Stmt := []
  functions : List Function := []

namespace Expr

/-- The place messages about the expression name. -/
def pos : Expr → Position
  | constant _ p => p
  | interpolated _ p => p
  | array _ p => p
  | map _ p => p
  | var _ p => p
  | call _ _ p => p
  | path _ _ p => p
  | and _ _ p => p
  | or _ _ p => p
  | block _ p => p

/-- The place of the first token; that of an operator's first operand. -/
def startPos : Expr → Position
  | path b _ _ => b.startPos
  | and a _ _ => a.startPos
  | or a _ _ => a.startPos
  | e => e.pos

end Expr

def Link.pos : Link → Position
  | property _ _ p => p
  | method _ _ _ p => p
  | index _ p => p

namespace Stmt

def pos : Stmt → Position
  | noop p => p
  | expr e => e.pos
  | ifElse _ _ _ p => p
  | loop _ _ p _ => p
  | forIn _ _ _ p _ => p
  | declare _ _ _ p => p
  | assign _ _ _ p => p
  | block _ p => p
  | leave _ p => p
  | ret _ p => p
  | raise _ p => p
  | tryCatch _ _ p => p
  | attempt _ p _ => p

def closesItself : Stmt → Bool
  | ifElse .. => true
  | loop .. => true
  | forIn .. => true
  | block .. => true
  | tryCatch .. => true
  | attempt .. => true
  | _ => false

def isNoop : Stmt → Bool
  | noop _ => true
  | _ => false

end Stmt

end ScreenScript.Script
