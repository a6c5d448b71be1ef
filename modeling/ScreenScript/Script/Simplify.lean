import ScreenScript.Script.Operator
import ScreenScript.Script.Session

/-!
What is settled before a script runs. Names of constants are replaced by their values, operators on
constants are carried out, conditions that are constants are decided, and statements without effect
whose value nobody asks for are dropped.
-/

namespace ScreenScript.Script

namespace Expr

def constant? : Expr → Option Value
  | constant v _ => some v
  | _ => none

def isConstant (e : Expr) : Bool := e.constant?.isSome

end Expr

mutual

/-- Whether evaluating the expression has no effect. Looking up a name has none. -/
def Expr.isPure : Expr → Bool
  | .constant .. => true
  | .var .. => true
  | .interpolated parts _ => pureExprs parts
  | .array items _ => pureExprs items
  | .map entries _ => pureEntries entries
  | .and a b _ => a.isPure && b.isPure
  | .or a b _ => a.isPure && b.isPure
  | .block ss _ => pureStmts ss
  | .call .. => false
  | .path .. => false

def pureExprs : List Expr → Bool
  | [] => true
  | e :: es => e.isPure && pureExprs es

def pureEntries : List (String × Expr) → Bool
  | [] => true
  | (_, e) :: es => e.isPure && pureEntries es

def Stmt.isPure : Stmt → Bool
  | .noop _ => true
  | .expr e => e.isPure
  | .ifElse c yes no _ => c.isPure && pureStmts yes && pureStmts no
  | .forIn _ items body _ _ => items.isPure && pureStmts body
  | .block ss _ => pureStmts ss
  | .tryCatch body handler _ => pureStmts body && pureStmts handler
  | _ => false

def pureStmts : List Stmt → Bool
  | [] => true
  | s :: ss => s.isPure && pureStmts ss

end

namespace Stmt

def isInwardlyPure : Stmt → Bool
  | declare _ e _ _ => e.isPure
  | s => s.isPure

def endsFlow : Stmt → Bool
  | leave .. => true
  | ret .. => true
  | raise .. => true
  | _ => false

def needsBlock : Stmt → Bool
  | declare .. => true
  | _ => false

/-- A statement in whose favour the ones before it stay: it has an effect, or an expression is
evaluated in it. -/
def isAnchor (inner : Bool) (s : Stmt) : Bool :=
  !(if inner then s.isInwardlyPure else s.isPure) ||
    match s with
    | declare _ e _ _ => e.isConstant
    | expr e => !e.isConstant
    | _ => false

end Stmt

namespace Simplify

structure Known where
  /-- What is known of names, the innermost first; a variable hides a constant of its name. -/
  names : List (String × Option Value)
  /-- The bytes a text may have; zero for any number. -/
  limit : Nat

def known? (k : Known) (name : String) : Option Value :=
  (k.names.find? (·.1 = name)).bind (·.2)

def knownOf (limit : Nat) (s : Session) : Known :=
  { names := s.scope.map (fun v => (v.name, if v.constant then some v.value else none)) ++
      Namespace.all.map fun n => (n.name, some (.namespaceObject n))
    limit }

def constants? (es : List Expr) : Option (List Value) :=
  es.mapM Expr.constant?

/-- Carries out an operator on two numbers, texts or booleans; what fails or makes too long a text is
left for later. Two texts are not put together. -/
def foldOperator (limit : Nat) (name : String) (args : List Expr) (p : Position) : Expr :=
  let result := match constants? args with
    | some [.string _, .string _] => if name = "+" then none else run args
    | some [a, b] => if (Operator.order? a b).isSome then run args else none
    | _ => none
  match result with
  | some v =>
    if limit ≠ 0 ∧ limit < (Operator.size v).string then .call name args p else .constant v p
  | none => .call name args p
where
  run (args : List Expr) : Option Value := do
    match ← constants? args with
    | [a, b] => ((← Operator.binary? {} name) a b).toOption
    | _ => none

def opposite? : List Expr → Option Expr
  | [.constant (.bool b) q] => some (.constant (.bool !b) q)
  | _ => none

def fold (limit : Nat) (name : String) (args : List Expr) (p : Position) : Expr :=
  match if name = "!" then opposite? args else none with
  | some e => e
  | none => foldOperator limit name args p

def foldArray (items : List Expr) (p : Position) : Expr :=
  match constants? items with
  | some vs => .constant (.array vs) p
  | none => .array items p

def foldMap (entries : List (String × Expr)) (p : Position) : Expr :=
  match constants? (entries.map (·.2)) with
  | some vs => .constant (.map (Json.sortMembers ((entries.map (·.1)).zip vs))) p
  | none => .map entries p

/-- `a && b` and `a || b`, of which `unit` is the operand that decides nothing. -/
def foldLogic (unit : Bool) (a b : Expr) (otherwise : Expr) : Expr :=
  match a, b with
  | .constant (.bool x) p, b => if x = unit then b else .constant (.bool x) p
  | a, .constant (.bool y) _ => if y = unit then a else otherwise
  | _, _ => otherwise

def ofBlock (ss : List Stmt) (p : Position) : Stmt :=
  match ss with
  | [] => .noop p
  | [s] => if s.needsBlock then .block [s] p else s
  | ss => .block ss p

def foldIf (keep : Bool) (c : Expr) (yes no : List Stmt) (p : Position) : Stmt :=
  match c, yes, no with
  | .constant (.bool true) _, yes, _ => ofBlock yes p
  | .constant (.bool false) _, _, no => ofBlock no p
  | c, [], [] => if keep then .block [.expr c, .noop c.startPos] p else .expr c
  | c, yes, no => .ifElse c yes no p

def foldLoop (c : Option Expr) (body : List Stmt) (p q : Position) : Stmt :=
  match c with
  | some (.constant (.bool false) _) => .noop p
  | some (.constant (.bool true) _) => .loop none body p q
  | c => .loop c body p q

/-- A body without effect has nothing to be caught. -/
def foldTry (body handler : List Stmt) (p : Position) : Stmt :=
  if pureStmts body then ofBlock body p else .tryCatch body handler p

/-- An assignment that repeats its variable as the first operand is a compound one. -/
def foldAssign (op : Option String) (target value : Expr) (p : Position) : Stmt :=
  match op, target, value with
  | none, .var x q, .call name [.var y _, b] p' =>
    if x = y && (Operator.arithmetics.any (·.symbol = name)) then .assign (some name) (.var x q) b p'
    else .assign op target value p
  | op, target, value => .assign op target value p

def reachable : List Stmt → List Stmt
  | [] => []
  | s :: ss => if s.endsFlow then [s] else s :: reachable ss

/-- Drops statements without effect; the last stays when its value is asked for. The flag tells
whether an anchor is among the statements. -/
def effective (keep inner : Bool) : List Stmt → List Stmt × Bool
  | [] => ([], false)
  | s :: ss =>
    let (rest, anchored) := effective keep inner ss
    let idle := s.isPure || (inner && s.isInwardlyPure && !anchored)
    (if idle && !(keep && ss.isEmpty) then rest else s :: rest, anchored || s.isAnchor inner)

def flatten : List Stmt → List Stmt
  | [] => []
  | .block ss p :: rest =>
    if ss.any Stmt.needsBlock then .block ss p :: flatten rest else ss ++ flatten rest
  | s :: rest => s :: flatten rest

def tidy (keep inner : Bool) (ss : List Stmt) : List Stmt :=
  (effective keep inner (reachable (flatten ss))).1

def learn (k : Known) : Stmt → Known
  | .declare name e constant _ =>
    { k with names := (name, if constant then e.constant? else none) :: k.names }
  | _ => k

/-- A name in front of a path is looked up when the script runs. -/
def orName (e simplified : Expr) : Expr :=
  match e with
  | .var x p => .var x p
  | _ => simplified

mutual

def expr (k : Known) : Expr → Expr
  | .constant v p => .constant v p
  | .interpolated parts p => .interpolated (exprs k parts) p
  | .array items p => foldArray (exprs k items) p
  | .map es p => foldMap (entries k es) p
  | .var x p => match known? k x with
    | some v => .constant v p
    | none => .var x p
  | .call name args p => fold k.limit name (exprs k args) p
  | .path base ls p => .path (orName base (expr k base)) (links k ls) p
  | .and a b p =>
    let a := expr k a
    let b := expr k b
    foldLogic true a b (.and a b p)
  | .or a b p =>
    let a := expr k a
    let b := expr k b
    foldLogic false a b (.or a b p)
  | .block ss p => match tidy true true (stmts k true ss) with
    | [.expr e] => e
    | ss => .block ss p

def exprs (k : Known) : List Expr → List Expr
  | [] => []
  | e :: es => expr k e :: exprs k es

def entries (k : Known) : List (String × Expr) → List (String × Expr)
  | [] => []
  | (n, e) :: es => (n, expr k e) :: entries k es

def links (k : Known) : List Link → List Link
  | [] => []
  | .property n safe p :: ls => .property n safe p :: links k ls
  | .method n args safe p :: ls => .method n (exprs k args) safe p :: links k ls
  | .index e p :: ls => .index (expr k e) p :: links k ls

def option (k : Known) : Option Expr → Option Expr
  | some e => some (expr k e)
  | none => none

def stmt (k : Known) (keep : Bool) : Stmt → Stmt
  | .noop p => .noop p
  | .expr e => match expr k e with
    | .block ss p => .block ss p
    | e => .expr e
  | .ifElse c yes no p =>
    foldIf keep (expr k c) (tidy keep true (stmts k keep yes)) (tidy keep true (stmts k keep no)) p
  | .loop c body p q => foldLoop (option k c) (tidy false true (stmts k false body)) p q
  | .forIn x items body p q => .forIn x (expr k items) (tidy false true (stmts k false body)) p q
  | .declare x e constant p => .declare x (expr k e) constant p
  | .assign op target value p => foldAssign op (orName target (expr k target)) (expr k value) p
  | .block ss p => ofBlock (tidy keep true (stmts k keep ss)) p
  | .leave ends p => .leave ends p
  | .ret e p => .ret (option k e) p
  | .raise e p => .raise (option k e) p
  | .tryCatch body handler p =>
    foldTry (tidy false true (stmts k false body)) (tidy false true (stmts k false handler)) p
  | .attempt e p q => .attempt e p q

/-- Statements in order; constants are known to those after them. -/
def stmts (k : Known) (keep : Bool) : List Stmt → List Stmt
  | [] => []
  | s :: ss =>
    let s := stmt k keep s
    s :: stmts (learn k s) keep ss

end

def body (k : Known) (ss : List Stmt) : List Stmt :=
  tidy true false (stmts k true ss)

/-- A script in a session. Functions know the constants of earlier scripts, but not those of their
own. -/
def script (limit : Nat) (s : Session) (t : Compiled) : Compiled :=
  let k := knownOf limit s
  { body := body k t.body, functions := t.functions.map fun f => { f with body := body k f.body } }

end Simplify

end ScreenScript.Script
