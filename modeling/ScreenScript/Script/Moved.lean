import ScreenScript.Script.Tree

/-!
Trees with their places moved.
-/

namespace ScreenScript.Script

variable (f : Position → Position)

mutual

def Expr.moved : Expr → Expr
  | .constant v p => .constant v (f p)
  | .interpolated parts p => .interpolated (movedExprs parts) (f p)
  | .array items p => .array (movedExprs items) (f p)
  | .map es p => .map (movedEntries es) (f p)
  | .var x p => .var x (f p)
  | .call name args p => .call name (movedExprs args) (f p)
  | .path base ls p => .path base.moved (movedLinks ls) (f p)
  | .and a b p => .and a.moved b.moved (f p)
  | .or a b p => .or a.moved b.moved (f p)
  | .block ss p => .block (movedStmts ss) (f p)

def movedExprs : List Expr → List Expr
  | [] => []
  | e :: es => e.moved :: movedExprs es

def movedEntries : List (String × Expr) → List (String × Expr)
  | [] => []
  | (k, e) :: es => (k, e.moved) :: movedEntries es

def movedLinks : List Link → List Link
  | [] => []
  | .property n safe p :: ls => .property n safe (f p) :: movedLinks ls
  | .method n args safe p :: ls => .method n (movedExprs args) safe (f p) :: movedLinks ls
  | .index e p :: ls => .index e.moved (f p) :: movedLinks ls

def movedOption : Option Expr → Option Expr
  | none => none
  | some e => some e.moved

def Stmt.moved : Stmt → Stmt
  | .noop p => .noop (f p)
  | .expr e => .expr e.moved
  | .ifElse c yes no p => .ifElse c.moved (movedStmts yes) (movedStmts no) (f p)
  | .loop c body p q => .loop (movedOption c) (movedStmts body) (f p) (f q)
  | .forIn x items body p q => .forIn x items.moved (movedStmts body) (f p) (f q)
  | .declare x e constant p => .declare x e.moved constant (f p)
  | .assign op target value p => .assign op target.moved value.moved (f p)
  | .block ss p => .block (movedStmts ss) (f p)
  | .leave ends p => .leave ends (f p)
  | .ret e p => .ret (movedOption e) (f p)
  | .raise e p => .raise (movedOption e) (f p)
  | .tryCatch body handler p => .tryCatch (movedStmts body) (movedStmts handler) (f p)
  | .attempt e p q => .attempt e.moved (f p) (f q)

def movedStmts : List Stmt → List Stmt
  | [] => []
  | s :: ss => s.moved :: movedStmts ss

end

end ScreenScript.Script
