import ScreenScript.Script.Simplify

/-!
What is settled before a script runs depends only on what is known of the names in it.
-/

namespace ScreenScript.Script

mutual

@[simp]
def Expr.names : Expr → List String
  | .constant _ _ => []
  | .interpolated parts _ => exprsNames parts
  | .array items _ => exprsNames items
  | .map entries _ => entriesNames entries
  | .var x _ => [x]
  | .call _ args _ => exprsNames args
  | .path base links _ => base.names ++ linksNames links
  | .and a b _ => a.names ++ b.names
  | .or a b _ => a.names ++ b.names
  | .block stmts _ => stmtsNames stmts

@[simp]
def exprsNames : List Expr → List String
  | [] => []
  | e :: es => e.names ++ exprsNames es

@[simp]
def entriesNames : List (String × Expr) → List String
  | [] => []
  | (_, e) :: es => e.names ++ entriesNames es

@[simp]
def linksNames : List Link → List String
  | [] => []
  | .property _ _ _ :: ls => linksNames ls
  | .method _ args _ _ :: ls => exprsNames args ++ linksNames ls
  | .index e _ :: ls => e.names ++ linksNames ls

@[simp]
def optionNames : Option Expr → List String
  | some e => e.names
  | none => []

@[simp]
def Stmt.names : Stmt → List String
  | .noop _ => []
  | .expr e => e.names
  | .ifElse cond yes no _ => cond.names ++ stmtsNames yes ++ stmtsNames no
  | .loop cond body _ _ => optionNames cond ++ stmtsNames body
  | .forIn _ items body _ _ => items.names ++ stmtsNames body
  | .declare _ init _ _ => init.names
  | .assign _ target value _ => target.names ++ value.names
  | .block stmts _ => stmtsNames stmts
  | .leave _ _ => []
  | .ret value _ => optionNames value
  | .raise value _ => optionNames value
  | .tryCatch body handler _ => stmtsNames body ++ stmtsNames handler
  | .attempt _ _ _ => []

@[simp]
def stmtsNames : List Stmt → List String
  | [] => []
  | s :: ss => s.names ++ stmtsNames ss

end

namespace Simplify

structure Agree (xs : List String) (k k' : Known) : Prop where
  limit : k'.limit = k.limit
  names : ∀ x ∈ xs, known? k' x = known? k x

theorem agree_append {xs ys : List String} {k k' : Known} :
    Agree (xs ++ ys) k k' ↔ Agree xs k k' ∧ Agree ys k k' := by
  constructor
  · intro h
    have hnames := List.forall_mem_append.mp h.names
    exact ⟨⟨h.limit, hnames.1⟩, ⟨h.limit, hnames.2⟩⟩
  · rintro ⟨hx, hy⟩
    exact ⟨hx.limit, List.forall_mem_append.mpr ⟨hx.names, hy.names⟩⟩

theorem known?_learn (k : Known) (x : String) (e : Expr) (constant : Bool) (p : Position)
    (y : String) : known? (learn k (.declare x e constant p)) y =
      if x = y then (if constant then e.constant? else none) else known? k y := by
  unfold known? learn
  dsimp only
  by_cases hxy : x = y
  · rw [if_pos hxy, List.find?_cons_of_pos (by simpa using hxy)]
    rfl
  · rw [if_neg hxy, List.find?_cons_of_neg (by simpa using hxy)]

theorem Agree.learn {xs : List String} {k k' : Known} (h : Agree xs k k') (s : Stmt) :
    Agree xs (learn k s) (learn k' s) := by
  cases s with
  | declare x e constant p =>
    refine ⟨h.limit, fun y hy => ?_⟩
    rw [known?_learn, known?_learn, h.names y hy]
  | _ => exact h

mutual

theorem expr_agree {k k' : Known} : (e : Expr) → Agree e.names k k' → expr k' e = expr k e
  | .constant v p, _ => rfl
  | .interpolated parts p, h => by rw [expr, expr, exprs_agree parts h]
  | .array items p, h => by rw [expr, expr, exprs_agree items h]
  | .map es p, h => by rw [expr, expr, entries_agree es h]
  | .var x p, h => by
    have hx := h.names x (List.mem_singleton_self x)
    rw [expr, expr, hx]
  | .call name args p, h => by rw [expr, expr, exprs_agree args h, h.limit]
  | .path base ls p, h => by
    rw [Expr.names, agree_append] at h
    rw [expr, expr, expr_agree base h.1, links_agree ls h.2]
  | .and a b p, h => by
    rw [Expr.names, agree_append] at h
    rw [expr, expr, expr_agree a h.1, expr_agree b h.2]
  | .or a b p, h => by
    rw [Expr.names, agree_append] at h
    rw [expr, expr, expr_agree a h.1, expr_agree b h.2]
  | .block ss p, h => by rw [expr, expr, stmts_agree true ss h]

theorem exprs_agree {k k' : Known} : (es : List Expr) → Agree (exprsNames es) k k' →
    exprs k' es = exprs k es
  | [], _ => rfl
  | e :: es, h => by
    rw [exprsNames, agree_append] at h
    rw [exprs, exprs, expr_agree e h.1, exprs_agree es h.2]

theorem entries_agree {k k' : Known} : (es : List (String × Expr)) →
    Agree (entriesNames es) k k' → entries k' es = entries k es
  | [], _ => rfl
  | (n, e) :: es, h => by
    rw [entriesNames, agree_append] at h
    rw [entries, entries, expr_agree e h.1, entries_agree es h.2]

theorem links_agree {k k' : Known} : (ls : List Link) → Agree (linksNames ls) k k' →
    links k' ls = links k ls
  | [], _ => rfl
  | .property n safe p :: ls, h => by rw [links, links, links_agree ls h]
  | .method n args safe p :: ls, h => by
    rw [linksNames, agree_append] at h
    rw [links, links, exprs_agree args h.1, links_agree ls h.2]
  | .index e p :: ls, h => by
    rw [linksNames, agree_append] at h
    rw [links, links, expr_agree e h.1, links_agree ls h.2]

theorem option_agree {k k' : Known} : (e : Option Expr) → Agree (optionNames e) k k' →
    option k' e = option k e
  | none, _ => rfl
  | some e, h => by rw [option, option, expr_agree e h]

theorem stmt_agree {k k' : Known} (keep : Bool) : (s : Stmt) → Agree s.names k k' →
    stmt k' keep s = stmt k keep s
  | .noop p, _ => rfl
  | .expr e, h => by rw [stmt, stmt, expr_agree e h]
  | .ifElse c yes no p, h => by
    rw [Stmt.names, agree_append, agree_append] at h
    rw [stmt, stmt, expr_agree c h.1.1, stmts_agree keep yes h.1.2, stmts_agree keep no h.2]
  | .loop c body p q, h => by
    rw [Stmt.names, agree_append] at h
    rw [stmt, stmt, option_agree c h.1, stmts_agree false body h.2]
  | .forIn x items body p q, h => by
    rw [Stmt.names, agree_append] at h
    rw [stmt, stmt, expr_agree items h.1, stmts_agree false body h.2]
  | .declare x e constant p, h => by rw [stmt, stmt, expr_agree e h]
  | .assign op target value p, h => by
    rw [Stmt.names, agree_append] at h
    rw [stmt, stmt, expr_agree target h.1, expr_agree value h.2]
  | .block ss p, h => by rw [stmt, stmt, stmts_agree keep ss h]
  | .leave ends p, _ => rfl
  | .ret e p, h => by rw [stmt, stmt, option_agree e h]
  | .raise e p, h => by rw [stmt, stmt, option_agree e h]
  | .tryCatch body handler p, h => by
    rw [Stmt.names, agree_append] at h
    rw [stmt, stmt, stmts_agree false body h.1, stmts_agree false handler h.2]
  | .attempt e p q, _ => rfl

theorem stmts_agree {k k' : Known} (keep : Bool) : (ss : List Stmt) →
    Agree (stmtsNames ss) k k' → stmts k' keep ss = stmts k keep ss
  | [], _ => rfl
  | s :: ss, h => by
    rw [stmtsNames, agree_append] at h
    rw [stmts, stmts, stmt_agree keep s h.1, stmts_agree keep ss (h.2.learn _)]

end

theorem body_agree {k k' : Known} (ss : List Stmt) (h : Agree (stmtsNames ss) k k') :
    body k' ss = body k ss := by
  rw [body, body, stmts_agree true ss h]

end Simplify

end ScreenScript.Script
