import ScreenScript.Script.Evaluator

/-!
How a call finds its function. A fixed table of functions may tell, instead of the session: then a
call runs what the table has under its name and number of arguments, and nothing else is a function
of a script.
-/

namespace ScreenScript.Script

open Script.Action

abbrev Table := String → Nat → Option Function

namespace Evaluator

variable (g : Evaluator)

def callAt (name : String) (p : Position) (receiver : Place) (rest : List Value) :
    Action Value := do
  match (← get).function? name (rest.length + 1) with
  | some f => do callFunction g f ((← readPlace receiver) :: rest) p
  | none => callNative name receiver rest p

theorem call_nil (name : String) (p : Position) : g.call name [] p = (do
    match (← get).function? name 0 with
    | some f => callFunction g f [] p
    | none => callPlain name p) :=
  rfl

theorem call_var (name x : String) (q p : Position) (rest : List Expr) :
    g.call name (.var x q :: rest) p = (do
      let vs ← g.exprs rest
      let place ← placeOf x q
      tick q
      g.callAt name p (← detached place) vs) :=
  rfl

theorem call_cons (name : String) (p : Position) {e : Expr} (he : ∀ x q, e ≠ .var x q)
    (rest : List Expr) : g.call name (e :: rest) p = (do
      let v ← g.expr e
      g.callAt name p (.value v) (← g.exprs rest)) := by
  cases e with
  | var x q => exact absurd rfl (he x q)
  | _ => rfl

variable (table : Table)

def callPlainBy (name : String) (p : Position) : Action Value :=
  match table name 0 with
  | some f => callFunction g f [] p
  | none => callPlain name p

def callMethodBy (name : String) (receiver : Place) (args : List Value) (p : Position) :
    Action Value :=
  match table name args.length with
  | some f => callFunction g f args p
  | none => callNative name receiver args p

def callAtBy (name : String) (p : Position) (receiver : Place) (rest : List Value) :
    Action Value :=
  match table name (rest.length + 1) with
  | some f => do callFunction g f ((← readPlace receiver) :: rest) p
  | none => callNative name receiver rest p

def callBy (name : String) (args : List Expr) (p : Position) : Action Value := do
  match args with
  | [] => g.callPlainBy table name p
  | .var x q :: rest =>
    let vs ← g.exprs rest
    let place ← placeOf x q
    tick q
    g.callAtBy table name p (← detached place) vs
  | e :: rest =>
    let v ← g.expr e
    g.callAtBy table name p (.value v) (← g.exprs rest)

def operatorOrCallBy (name : String) (args : List Expr) (p : Position) : Action Value :=
  (g.operator? name args p).getD (g.callBy table name args p)

def pathBy (base : Expr) (links : List Link) : Action Value := do
  let ss ← g.steps links
  Evaluator.follow (g.callMethodBy table) ss (← g.basePlace base)

/-- Everything but calls and paths is evaluated as always. -/
def exprRuleBy (e : Expr) : Action Value :=
  match e with
  | .call name args p => do
    tick p
    g.operatorOrCallBy table name args p
  | .path base links p => do
    tick p
    g.pathBy table base links
  | e => g.exprRule e

def stmtRuleBy (s : Stmt) : Action Value :=
  match s with
  | .expr (.call name args p) => do
    tick p
    g.operatorOrCallBy table name args p
  | s => g.stmtRule s

end Evaluator

def evaluatorBy (table : Table) : Nat → Evaluator
  | 0 =>
    { expr := fun _ => stop .exhausted, stmt := fun _ => stop .exhausted
      rounds := fun _ _ _ => stop .exhausted }
  | n + 1 =>
    { expr := fun e c s => (evaluatorBy table n).exprRuleBy table e c s
      stmt := fun t c s => (evaluatorBy table n).stmtRuleBy table t c s
      rounds := fun e b p c s => (evaluatorBy table n).roundsRule e b p c s }

end ScreenScript.Script
