import ScreenScript.Proofs.Script.Lockstep
import ScreenScript.Proofs.Script.Resolution

/-!
A script keeps pace with itself when its places are moved, and when the functions of the session stand
in a table.
-/

namespace ScreenScript.Script

open Script.Action

def Pace.table (m : Pace) : Table := fun name arity =>
  (m.functions.find? (·.is name arity)).map (Function.moved m.move)

/-- `h` keeps pace with `g`; only declarations declare. -/
structure Evaluator.KeepsPace (m : Pace) (g h : Evaluator) : Prop where
  expr (ns : Names) (e : Expr) : InStep m false ns Eq (g.expr e) (h.expr (e.moved m.move))
  stmt (ns : Names) (s : Stmt) :
    InStep m s.needsBlock ns Eq (g.stmt s) (h.stmt (s.moved m.move))
  rounds (ns : Names) (cond : Option Expr) (body : List Stmt) (p : Position) :
    InStep m false ns Eq (g.rounds cond body p)
      (h.rounds (movedOption m.move cond) (movedStmts m.move body) (m.move p))

variable {m : Pace} {grows : Bool} {ns : Names}

theorem Session.Parallel.function {s t : Session} (h : s.Parallel m t) (name : String)
    (arity : Nat) : m.table name arity = (s.function? name arity).map (Function.moved m.move) := by
  rw [Pace.table, Session.function?, h.functions]

namespace Evaluator

variable {g h : Evaluator} (hg : g.KeepsPace m h)

include hg

theorem exprs_inStep (es : List Expr) :
    InStep m false ns Eq (g.exprs es) (h.exprs (movedExprs m.move es)) := by
  induction es with
  | nil => exact .pure []
  | cons e es ih => exact .seq (hg.expr ns e) fun v => .seq ih fun vs => .pure _

theorem stmts_inStep (ns : Names) (ss : List Stmt) :
    InStep m true ns Eq (g.stmts ss) (h.stmts (movedStmts m.move ss)) := by
  have hstmt (ns : Names) (s : Stmt) : InStep m true ns Eq (g.stmt s) (h.stmt (s.moved m.move)) := by
    have hs := hg.stmt ns s
    cases hblock : s.needsBlock with
    | true => rwa [hblock] at hs
    | false => exact (hblock ▸ hs).grow true
  induction ss generalizing ns with
  | nil => exact .pure _
  | cons s ss ih =>
    cases ss with
    | nil => exact hstmt ns s
    | cons t ss => exact .seqGrown (hstmt ns s) fun _ ns => ih ns

theorem block_inStep (ss : List Stmt) :
    InStep m false ns Eq (g.block ss) (h.block (movedStmts m.move ss)) := by
  unfold block
  rw [isEmpty_movedStmts]
  split
  · exact .pure _
  · exact .inScope (stmts_inStep hg ns ss)

theorem callFunction_inStep (f : Function) (args : List Value) (p : Position) :
    InStep m false ns Eq (callFunction g f args p)
      (callFunction h (f.moved m.move) args (m.move p)) := by
  have hempty : (f.moved m.move).body.isEmpty = f.body.isEmpty := isEmpty_movedStmts f.body
  unfold callFunction
  rw [hempty]
  split
  · exact .pure _
  · refine .seq (.tick p) fun _ => .seq .read fun c => .check (.fail _ p) fun _ => ?_
    exact .call (.isolated fun ns => stmts_inStep hg ns f.body) f.name p

theorem callMethod_inStep (name : String) (receiver : Place) (args : List Value) (p : Position) :
    InStep m false ns Eq (g.callMethod name receiver args p)
      (h.callMethodBy m.table name receiver args (m.move p)) := by
  refine .lookAlone fun s t hst _ => ?_
  unfold callMethodBy
  rw [hst.function]
  cases s.function? name args.length with
  | none => exact callNative_inStep name receiver args p
  | some f => exact callFunction_inStep hg f args p

theorem callAt_inStep (name : String) (p : Position) (receiver : Place) (rest : List Value) :
    InStep m false ns Eq (g.callAt name p receiver rest)
      (h.callAtBy m.table name (m.move p) receiver rest) := by
  refine .lookAlone fun s t hst _ => ?_
  unfold callAtBy
  rw [hst.function]
  cases s.function? name (rest.length + 1) with
  | none => exact callNative_inStep name receiver rest p
  | some f => exact .seq (readPlace_inStep receiver) fun v => callFunction_inStep hg f _ p

theorem callPlainBy_inStep (name : String) (p : Position) :
    InStep m false ns Eq (g.call name [] p) (h.callPlainBy m.table name (m.move p)) := by
  rw [call_nil]
  refine .lookAlone fun s t hst _ => ?_
  unfold callPlainBy
  rw [hst.function]
  cases s.function? name 0 with
  | none => exact callPlain_inStep name p
  | some f => exact callFunction_inStep hg f [] p

omit hg in
theorem detached_inStep (pl : Place) : InStep m false ns Eq (detached pl) (detached pl) := by
  refine .look fun s t hst _ => ?_
  rw [hst.isConstant]
  split
  · exact .seq (readPlace_inStep pl) fun v => .pure _
  · exact .pure pl

theorem call_inStep (name : String) (args : List Expr) (p : Position) :
    InStep m false ns Eq (g.call name args p)
      (h.callBy m.table name (movedExprs m.move args) (m.move p)) := by
  have other {e : Expr} (he : ∀ x q, e ≠ .var x q) (rest : List Expr) :
      InStep m false ns Eq (g.call name (e :: rest) p)
        (h.expr (e.moved m.move) >>= fun v => h.exprs (movedExprs m.move rest) >>= fun vs =>
          h.callAtBy m.table name (m.move p) (.value v) vs) := by
    rw [call_cons g name p he]
    refine .seq (hg.expr ns e) fun v => .seq (exprs_inStep hg rest) fun vs => ?_
    exact callAt_inStep hg name p _ vs
  cases args with
  | nil => exact callPlainBy_inStep hg name p
  | cons e rest =>
    cases e with
    | var x q =>
      rw [call_var]
      refine .seq (exprs_inStep hg rest) fun vs => .seq (placeOf_inStep x q) fun pl => ?_
      refine .seq (.tick q) fun _ => .seq (detached_inStep pl) fun pl => ?_
      exact callAt_inStep hg name p pl vs
    | _ => exact other (by rintro x q ⟨⟩) rest

theorem operator?_inStep (name : String) (args : List Expr) (p : Position) :
    Option.Rel (InStep m false ns Eq) (g.operator? name args p)
      (h.operator? name (movedExprs m.move args) (m.move p)) := by
  match args with
  | [] => exact .none
  | [a] =>
    simp only [operator?, movedExprs]
    cases Operator.unary? name with
    | none => exact .none
    | some f =>
      refine .some (.seq (hg.expr ns a) fun v => .check (.tick p) fun _ => ?_)
      exact failOn_inStep p _
  | [a, b] =>
    simp only [operator?, movedExprs]
    cases Operator.binary? {} name with
    | none => exact .none
    | some f =>
      refine .some (.seq (hg.expr ns a) fun v => .seq (hg.expr ns b) fun w => ?_)
      refine .check (.tick p) fun _ => .look fun s t hst _ => ?_
      rw [hst.selectors]
      split
      · exact .seq (failOn_inStep p _) fun u => checked_inStep u p
      · exact .pure _
  | _ :: _ :: _ :: _ => exact .none

theorem operatorOrCall_inStep (name : String) (args : List Expr) (p : Position) :
    InStep m false ns Eq ((g.operator? name args p).getD (g.call name args p))
      (h.operatorOrCallBy m.table name (movedExprs m.move args) (m.move p)) := by
  have hoperator : Option.Rel (InStep m false ns Eq) _ _ := operator?_inStep hg name args p
  unfold operatorOrCallBy
  generalize g.operator? name args p = o at hoperator ⊢
  generalize h.operator? name (movedExprs m.move args) (m.move p) = o' at hoperator ⊢
  cases hoperator with
  | none => exact call_inStep hg name args p
  | some ho => exact ho

theorem steps_inStep (ls : List Link) :
    InStep m false ns (fun ss ss' => ss' = ss.map (·.moved m.move)) (g.steps ls)
      (h.steps (movedLinks m.move ls)) := by
  induction ls with
  | nil => exact .related rfl
  | cons l ls ih =>
    cases l with
    | property name safe p =>
      refine .bind ih ?_
      rintro ss _ rfl
      exact .related rfl
    | method name args safe p =>
      refine .seq (exprs_inStep hg args) fun vs => .bind ih ?_
      rintro ss _ rfl
      exact .related rfl
    | index e p =>
      refine .seq (hg.expr ns e) fun v => .bind ih ?_
      rintro ss _ rfl
      refine .related ?_
      rw [startPos_moved]
      rfl

theorem basePlace_inStep (base : Expr) :
    InStep m false ns Eq (g.basePlace base) (h.basePlace (base.moved m.move)) := by
  cases base with
  | var x q => exact .seq (placeOf_inStep x q) fun pl => .seq (.tick q) fun _ => .pure pl
  | _ => exact .seq (hg.expr ns _) fun v => .pure _

theorem path_inStep (base : Expr) (ls : List Link) :
    InStep m false ns Eq (g.path base ls)
      (h.pathBy m.table (base.moved m.move) (movedLinks m.move ls)) := by
  refine .bind (steps_inStep hg ls) ?_
  rintro ss _ rfl
  refine .seq (basePlace_inStep hg base) fun pl => ?_
  exact follow_inStep (callMethod_inStep hg) ss pl

theorem interpolate_inStep (before : String) (es : List Expr) :
    InStep m false ns Eq (g.interpolate before es)
      (h.interpolate before (movedExprs m.move es)) := by
  induction es generalizing before with
  | nil => exact .pure _
  | cons e es ih =>
    refine .seq (hg.expr ns e) fun v => .look fun s t hst _ => ?_
    rw [hst.selectors, pos_moved]
    exact .seq (checkSize_inStep _ e.pos) fun _ => ih _

omit hg in
theorem checkItems_inStep (sizes : List Operator.Size) (p : Position) :
    InStep m false ns Eq (arrayItems.checkItems sizes p)
      (arrayItems.checkItems sizes (m.move p)) := by
  refine .seq .read fun c => ?_
  dsimp only
  split
  · exact .fail _ p
  · exact .pure _

theorem arrayItems_inStep (before : List Value) (es : List Expr) :
    InStep m false ns Eq (g.arrayItems before es)
      (h.arrayItems before (movedExprs m.move es)) := by
  induction es generalizing before with
  | nil => exact .pure _
  | cons e es ih =>
    refine .seq (hg.expr ns e) fun v => ?_
    rw [pos_moved]
    exact .seq (checkItems_inStep _ e.pos) fun _ => ih _

theorem mapEntries_inStep (before : List (String × Value)) (es : List (String × Expr)) :
    InStep m false ns Eq (g.mapEntries before es)
      (h.mapEntries before (movedEntries m.move es)) := by
  induction es generalizing before with
  | nil => exact .pure _
  | cons e es ih =>
    obtain ⟨k, e⟩ := e
    refine .seq (hg.expr ns e) fun v => ?_
    rw [pos_moved]
    exact .seq (checkItems_inStep _ e.pos) fun _ => ih _

theorem truth_inStep (e : Expr) {k k' : Bool → Action α} {R : α → α → Prop}
    (hk : ∀ b, InStep m grows ns R (k b) (k' b)) :
    InStep m grows ns R (g.expr e >>= fun v => expectBool v e.pos >>= k)
      (h.expr (e.moved m.move) >>= fun v => expectBool v (e.moved m.move).pos >>= k') := by
  refine .seq (hg.expr ns e) fun v => ?_
  rw [pos_moved]
  exact .seq (expectBool_inStep v e.pos) hk

theorem exprRule_inStep (e : Expr) :
    InStep m false ns Eq (g.exprRule e) (h.exprRuleBy m.table (e.moved m.move)) := by
  cases e with
  | constant v p => exact .seq (.tick p) fun _ => .pure v
  | interpolated parts p => exact .seq (.tick p) fun _ => interpolate_inStep hg "" parts
  | array items p => exact .seq (.tick p) fun _ => arrayItems_inStep hg [] items
  | map es p => exact .seq (.tick p) fun _ => mapEntries_inStep hg [] es
  | var x p =>
    exact .seq (.tick p) fun _ => .seq (placeOf_inStep x p) fun pl => readPlace_inStep pl
  | call name args p => exact .seq (.tick p) fun _ => operatorOrCall_inStep hg name args p
  | path base ls p => exact .seq (.tick p) fun _ => path_inStep hg base ls
  | and a b p =>
    refine .seq (.tick p) fun _ => truth_inStep hg a fun t => ?_
    split
    · exact truth_inStep hg b fun u => .pure _
    · exact .pure _
  | or a b p =>
    refine .seq (.tick p) fun _ => truth_inStep hg a fun t => ?_
    split
    · exact .pure _
    · exact truth_inStep hg b fun u => .pure _
  | block ss p => exact .seq (.tick p) fun _ => block_inStep hg ss

theorem roundsRule_inStep (cond : Option Expr) (body : List Stmt) (p : Position) :
    InStep m false ns Eq (g.roundsRule cond body p)
      (h.roundsRule (movedOption m.move cond) (movedStmts m.move body) (m.move p)) := by
  have again := hg.rounds ns cond body p
  have rest (goOn : Bool) : InStep m false ns Eq
      (if goOn = true then
        (if body.isEmpty = true then tick p >>= fun _ => g.rounds cond body p
        else round (g.block body) >>= fun b => if b then g.rounds cond body p else pure ())
      else pure ())
      (if goOn = true then
        (if (movedStmts m.move body).isEmpty = true then tick (m.move p) >>= fun _ =>
          h.rounds (movedOption m.move cond) (movedStmts m.move body) (m.move p)
        else round (h.block (movedStmts m.move body)) >>= fun b => if b then
          h.rounds (movedOption m.move cond) (movedStmts m.move body) (m.move p) else pure ())
      else pure ()) := by
    rw [isEmpty_movedStmts]
    split
    · split
      · exact .seq (.tick p) fun _ => again
      · refine .seq (.round (block_inStep hg body)) fun b => ?_
        split
        · exact again
        · exact .pure _
    · exact .pure _
  cases cond with
  | none => exact .seq (.pure true) rest
  | some e => exact truth_inStep hg e rest

theorem itemRound_inStep (name : String) (body : List Stmt) (p : Position) (v : Value) :
    InStep m false ns Eq (g.itemRound name body p v)
      (h.itemRound name (movedStmts m.move body) (m.move p) v) := by
  refine .seq (.tick p) fun _ => ?_
  rw [isEmpty_movedStmts]
  split
  · exact .pure _
  · refine .round (.inScope (.seqGrown (.declare name false v) fun _ ns => ?_))
    exact (block_inStep hg body).grow true

theorem forItems_inStep (name : String) (body : List Stmt) (p : Position) (vs : List Value) :
    InStep m false ns Eq (g.forItems name body p vs)
      (h.forItems name (movedStmts m.move body) (m.move p) vs) := by
  induction vs with
  | nil => exact .pure _
  | cons v vs ih =>
    refine .seq (itemRound_inStep hg name body p v) fun b => ?_
    split
    · exact ih
    · exact .pure _

theorem forRange_inStep (name : String) (body : List Stmt) (p : Position) (n : Nat) (i : Int) :
    InStep m false ns Eq (g.forRange name body p n i)
      (h.forRange name (movedStmts m.move body) (m.move p) n i) := by
  induction n generalizing i with
  | zero => exact .pure _
  | succ n ih =>
    refine .seq (itemRound_inStep hg name body p _) fun b => ?_
    split
    · exact ih _
    · exact .pure _

theorem forRule_inStep (name : String) (items : Expr) (body : List Stmt) (p : Position) :
    InStep m false ns Eq (g.forRule name items body p)
      (h.forRule name (items.moved m.move) (movedStmts m.move body) (m.move p)) := by
  refine .seq (hg.expr ns items) fun v => ?_
  rw [startPos_moved]
  split
  · exact forItems_inStep hg name body p _
  · exact forItems_inStep hg name body p _
  · exact forRange_inStep hg name body p _ _
  · exact .fail _ items.startPos

theorem assignRule_inStep (op : Option String) (target value : Expr) (p : Position) :
    InStep m false ns Eq (g.assignRule op target value p)
      (h.assignRule op (target.moved m.move) (value.moved m.move) (m.move p)) := by
  refine .seq (hg.expr ns value) fun v => ?_
  cases target with
  | var x q =>
    refine .seq (.tick q) fun _ => .seq (placeOf_inStep x q) fun pl => ?_
    split
    · rename_i y ks
      exact assignTo_inStep _ ⟨op, v, y, q, p⟩
    · exact .fail _ q
  | path base ls r =>
    cases base with
    | var x q =>
      refine .bind (steps_inStep hg ls) ?_
      rintro ss _ rfl
      refine .seq (basePlace_inStep hg (.var x q)) fun pl => ?_
      exact followAssign_inStep ⟨op, v, x, q, p⟩ ss pl
    | _ => exact .pure ()
  | _ => exact .pure ()

theorem optional_inStep (e : Option Expr) :
    InStep m false ns Eq (g.optional e) (h.optional (movedOption m.move e)) := by
  cases e with
  | none => exact .pure _
  | some e => exact hg.expr ns e

omit hg in
theorem statements?_moved (c : Config) (text : String) (f : Position → Position) (p : Position) :
    statements? c text (f p) =
      ((statements? c text p).1.map (movedStmts f), (statements? c text p).2) := by
  unfold statements?
  split
  · split
    · rw [Option.map_some, movedStmts_moved]
      rfl
    · rfl
  · rfl

omit hg in
theorem parseText_inStep (text : String) (p : Position) :
    InStep m grows ns (fun ss ss' => ss' = ss.map (movedStmts m.move)) (parseText text p)
      (parseText text (m.move p)) := by
  refine .seq .read fun c => ?_
  rw [statements?_moved]
  refine .seq ?_ fun _ => .related rfl
  exact .modifyGet (fun _ => ⟨rfl, rfl⟩)
    fun s t hst => ⟨rfl, hst.scope, hst.selectors, hst.patterns, hst.scale⟩

theorem textRule_inStep (ns : Names) (text : String) (p : Position) :
    InStep m true ns Eq (g.textRule text p) (h.textRule text (m.move p)) := by
  refine .seq (.tick p) fun _ => .bind (parseText_inStep text p) ?_
  rintro ss _ rfl
  cases ss with
  | none => exact .pure _
  | some ss => exact stmts_inStep hg ns ss

theorem attemptRule_inStep (e : Expr) (p : Position) :
    InStep m true ns Eq (g.attemptRule e p) (h.attemptRule (e.moved m.move) (m.move p)) := by
  refine .seqGrown (.tick p) fun _ ns => .seqGrown ((hg.expr ns e).grow true) fun v ns => ?_
  rw [startPos_moved]
  split
  · exact .heard (.deeper (textRule_inStep hg ns _ p) fun _ => rfl)
  · exact .fail _ e.startPos

theorem stmtRule_inStep (s : Stmt) :
    InStep m s.needsBlock ns Eq (g.stmtRule s) (h.stmtRuleBy m.table (s.moved m.move)) := by
  cases s with
  | noop p => exact .seq (.tick p) fun _ => .pure _
  | expr e =>
    cases e with
    | call name args p => exact .seq (.tick p) fun _ => operatorOrCall_inStep hg name args p
    | _ => exact .seq (.tick _) fun _ => hg.expr ns _
  | ifElse cond yes no p =>
    refine .seq (.tick p) fun _ => truth_inStep hg cond fun b => ?_
    split
    · exact block_inStep hg yes
    · exact block_inStep hg no
  | loop cond body p q =>
    exact .seq (.tick p) fun _ => .seq (hg.rounds ns cond body q) fun _ => .pure _
  | forIn name items body p q =>
    exact .seq (.tick p) fun _ => .seq (forRule_inStep hg name items body q) fun _ => .pure _
  | declare name init constant p =>
    refine .seq (.tick p) fun _ => .seq (hg.expr ns init) fun v => ?_
    exact .seqGrown (.declare name constant v) fun _ ns => .pure _
  | assign op target value p =>
    exact .seq (.tick p) fun _ => .seq (assignRule_inStep hg op target value p) fun _ => .pure _
  | block ss p => exact .seq (.tick p) fun _ => block_inStep hg ss
  | leave ends p => exact .seq (.tick p) fun _ => .stop rfl
  | ret e p => exact .seq (.tick p) fun _ => .seq (optional_inStep hg e) fun v => .stop rfl
  | raise e p => exact .seq (.tick p) fun _ => .seq (optional_inStep hg e) fun v => .fail _ p
  | tryCatch body handler p =>
    exact .seq (.tick p) fun _ => .caught (block_inStep hg body) (block_inStep hg handler)
  | attempt e p q =>
    exact .seq (.tick p) fun _ => .caught (.inScope (attemptRule_inStep hg e q)) (.pure _)

end Evaluator

theorem evaluator_keepsPace (m : Pace) (n : Nat) :
    (evaluator n).KeepsPace m (evaluatorBy m.table n) := by
  induction n with
  | zero => exact ⟨fun _ _ => .stop rfl, fun _ _ => .stop rfl, fun _ _ _ _ => .stop rfl⟩
  | succ n ih =>
    exact ⟨fun _ e => Evaluator.exprRule_inStep ih e, fun _ s => Evaluator.stmtRule_inStep ih s,
      fun _ cond body p => Evaluator.roundsRule_inStep ih cond body p⟩

end ScreenScript.Script
